import ApiScreens.Text.Case
import ApiScreens.Text.Split

/-!
# Slugs and titles

A slug keeps the ASCII letters and digits of a text, in lower case, and puts one hyphen where others
stood between them. A title begins with a capital.
-/

namespace ApiScreens.Text

/-- Whether the character is an ASCII letter or digit. -/
def isSlugChar (c : Char) : Bool := c.isAlphanum

/-- The characters of a slug: `begun` says whether one has been written, and `pending` whether
characters have been left out since. -/
def slugChars (begun pending : Bool) : List Char → List Char
  | [] => []
  | c :: rest =>
    if isSlugChar c then
      if begun && pending then '-' :: asciiLowercase c :: slugChars true false rest
      else asciiLowercase c :: slugChars true false rest
    else slugChars begun true rest

/-- The slug of a text; a text without a letter or digit has the slug `resource`. -/
def slug (s : String) : String :=
  let cs := slugChars false false s.toList
  if cs.isEmpty then "resource" else String.ofList cs

/-- The characters of a text with the first one in upper case. -/
def capitalizeChars : List Char → List Char
  | [] => []
  | c :: rest => uppercaseChar c ++ rest

/-- The text with its first character in upper case. -/
def capitalize (s : String) : String := String.ofList (capitalizeChars s.toList)

/-- Whether the character only separates words. -/
def isWordSeparator (c : Char) : Bool := c == '_' || c == '-' || c == ' '

/-- The words of a name: they end at separators and before a capital that follows a small letter
or a digit. `word` is the word begun, newest character first. -/
def wordsFrom (word : List Char) (afterSmall : Bool) : List Char → List (List Char)
  | [] => if word.isEmpty then [] else [word.reverse]
  | c :: rest =>
    if isWordSeparator c then
      if word.isEmpty then wordsFrom [] false rest else word.reverse :: wordsFrom [] false rest
    else
      let small := isLowercase c || c.isDigit
      if isUppercase c && afterSmall then word.reverse :: wordsFrom [c] small rest
      else wordsFrom (c :: word) small rest

/-- A title for the name after the last point of a path. -/
def humanize (path : String) : String :=
  let name := ((splitChars '.' path.toList).getLast?).getD []
  String.intercalate " " ((wordsFrom [] false name).map fun w => String.ofList (capitalizeChars w))

end ApiScreens.Text
