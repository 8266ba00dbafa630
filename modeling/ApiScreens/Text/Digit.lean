/-!
# Digits

The values of ASCII digits and of the numbers that they write.
-/

namespace ApiScreens.Text

/-- The value of a digit in a base of at most sixteen; letters count in either case. -/
def digit? (base : Nat) (c : Char) : Option Nat := do
  let n ←
    if '0' ≤ c ∧ c ≤ '9' then some (c.toNat - '0'.toNat)
    else if 'a' ≤ c ∧ c ≤ 'f' then some (c.toNat - 'a'.toNat + 10)
    else if 'A' ≤ c ∧ c ≤ 'F' then some (c.toNat - 'A'.toNat + 10)
    else none
  guard (n < base)
  some n

/-- The number that digits write; no digits write zero. -/
def number? (base : Nat) (s : List Char) : Option Nat :=
  s.foldlM (fun n c => (digit? base c).map (base * n + ·)) 0

end ApiScreens.Text
