import ApiScreens.Proofs.Json.ReadBack

/-!
# Reading indented texts

The indented text of a value is read as the value, as its compact text is: the reader skips the new
lines and the indentation.
-/

namespace ApiScreens.Json

variable {rest : List Char}

theorem skipSpace_newLine (level : Nat) (cs : List Char) :
    skipSpace (newLine level ++ cs) = skipSpace cs := by
  have hspace : ∀ c ∈ newLine level, isSpace c = true := by
    simp only [newLine, List.forall_mem_cons, List.mem_replicate]
    exact ⟨rfl, fun c hc => hc.2 ▸ rfl⟩
  exact List.dropWhile_append_of_pos hspace

/-- The indented text of a value begins as its compact text does. -/
theorem head?_writeIndented (level : Nat) (v : Json) (rest : List Char) :
    (v.writeIndented level rest).head? = (v.writeCompact rest).head? := by
  rcases v with _ | _ | _ | _ | ⟨_ | _⟩ | ⟨_ | _⟩ <;> rfl

theorem writeIndented_ne_cons {c : Char} {level : Nat} (v : Json) (rest tail : List Char)
    (hc : leading c ≠ v.opening) : v.writeIndented level rest ≠ c :: tail := by
  intro h
  have hopening := leading_head_writeCompact v rest
  rw [← head?_writeIndented level, h] at hopening
  exact hc (Option.some.inj hopening)

theorem skipSpace_writeIndented (level : Nat) (v : Json) (rest : List Char) :
    skipSpace (v.writeIndented level rest) = v.writeIndented level rest := by
  cases hwritten : v.writeIndented level rest with
  | nil => rfl
  | cons c tail =>
      apply skipSpace_cons
      rw [Bool.eq_false_iff]
      intro hspace
      exact writeIndented_ne_cons v rest tail (leading_space_ne_opening v hspace) hwritten

/-- The text behind an item of an indented array. -/
def behindIndentedItem (level : Nat) : List Json → List Char → List Char
  | [], rest => newLine level ++ ']' :: rest
  | items, rest => ',' :: writeIndentedItems (level + 1) items (newLine level ++ ']' :: rest)

theorem writeIndentedItems_cons (level : Nat) (v : Json) (items : List Json) (rest : List Char) :
    writeIndentedItems (level + 1) (v :: items) (newLine level ++ ']' :: rest) =
      newLine (level + 1) ++ v.writeIndented (level + 1) (behindIndentedItem level items rest) := by
  cases items <;> rfl

theorem behindIndentedItem_cons (level : Nat) (v : Json) (items : List Json) (rest : List Char) :
    behindIndentedItem level (v :: items) rest = ',' :: (newLine (level + 1) ++
      v.writeIndented (level + 1) (behindIndentedItem level items rest)) := by
  rw [behindIndentedItem, writeIndentedItems_cons]
  exact List.cons_ne_nil v items

/-- The text behind a member of an indented object. -/
def behindIndentedMember (level : Nat) : Members → List Char → List Char
  | [], rest => newLine level ++ '\x7d' :: rest
  | members, rest =>
    ',' :: writeIndentedMembers (level + 1) members (newLine level ++ '\x7d' :: rest)

theorem writeIndentedMembers_cons (level : Nat) (m : String × Json) (members : Members)
    (rest : List Char) :
    writeIndentedMembers (level + 1) (m :: members) (newLine level ++ '\x7d' :: rest) =
      newLine (level + 1) ++ stringChars m.1 ++
        ':' :: ' ' :: m.2.writeIndented (level + 1) (behindIndentedMember level members rest) := by
  cases members <;> rfl

theorem behindIndentedMember_cons (level : Nat) (m : String × Json) (members : Members)
    (rest : List Char) :
    behindIndentedMember level (m :: members) rest = ',' :: (newLine (level + 1) ++ stringChars m.1 ++
      ':' :: ' ' :: m.2.writeIndented (level + 1) (behindIndentedMember level members rest)) := by
  rw [behindIndentedMember, writeIndentedMembers_cons]
  exact List.cons_ne_nil m members

theorem ends_behindIndentedItem (level : Nat) (items : List Json) (rest : List Char) :
    Ends (behindIndentedItem level items rest) := by
  cases items <;> rintro _ ⟨rfl⟩ <;> decide

theorem ends_behindIndentedMember (level : Nat) (members : Members) (rest : List Char) :
    Ends (behindIndentedMember level members rest) := by
  cases members <;> rintro _ ⟨rfl⟩ <;> decide

theorem suffix_writeIndentedItems {items : List Json}
    (h : ∀ v ∈ items, ∀ level rest, rest <:+ v.writeIndented level rest) (level : Nat)
    (rest : List Char) : rest <:+ writeIndentedItems level items rest := by
  induction items with
  | nil => exact List.suffix_refl rest
  | cons v items ih =>
      obtain ⟨hv, hitems⟩ := List.forall_mem_cons.mp h
      cases items with
      | nil => exact (hv level rest).trans (List.suffix_append _ _)
      | cons w items =>
          exact (((ih hitems).trans (List.suffix_cons ',' _)).trans (hv level _)).trans
            (List.suffix_append _ _)

theorem suffix_writeIndentedMembers {members : Members}
    (h : ∀ m ∈ members, ∀ level rest, rest <:+ m.2.writeIndented level rest) (level : Nat)
    (rest : List Char) : rest <:+ writeIndentedMembers level members rest := by
  induction members with
  | nil => exact List.suffix_refl rest
  | cons m members ih =>
      obtain ⟨hm, hmembers⟩ := List.forall_mem_cons.mp h
      have hkey (cs) : cs <:+ newLine level ++ stringChars m.1 ++ ':' :: ' ' :: cs :=
        (List.suffix_append [':', ' '] cs).trans (List.suffix_append _ _)
      cases members with
      | nil => exact (hm level rest).trans (hkey _)
      | cons m' members =>
          exact (((ih hmembers).trans (List.suffix_cons ',' _)).trans (hm level _)).trans (hkey _)

/-- The text in front of which a value is written stays behind it. -/
theorem suffix_writeIndented (v : Json) (level : Nat) (rest : List Char) :
    rest <:+ v.writeIndented level rest := by
  induction v generalizing level rest with
  | array items ih =>
      cases items with
      | nil => exact suffix_writeCompact (array []) rest
      | cons v items =>
          have hclose : rest <:+ newLine level ++ ']' :: rest :=
            (List.suffix_cons ']' rest).trans (List.suffix_append _ _)
          exact (hclose.trans (suffix_writeIndentedItems ih (level + 1) _)).trans
            (List.suffix_cons '[' _)
  | object members ih =>
      cases members with
      | nil => exact suffix_writeCompact (object []) rest
      | cons m members =>
          have hclose : rest <:+ newLine level ++ '\x7d' :: rest :=
            (List.suffix_cons '\x7d' rest).trans (List.suffix_append _ _)
          exact (hclose.trans (suffix_writeIndentedMembers ih (level + 1) _)).trans
            (List.suffix_cons '\x7b' _)
  | null => exact suffix_writeCompact .null rest
  | bool b => exact suffix_writeCompact (.bool b) rest
  | number n => exact suffix_writeCompact (.number n) rest
  | string s => exact suffix_writeCompact (.string s) rest

theorem length_lt_behindIndentedItem (level : Nat) (items : List Json) (rest : List Char) :
    items.length + rest.length < (behindIndentedItem level items rest).length := by
  induction items with
  | nil =>
      simp only [behindIndentedItem, List.length_append, List.length_cons, List.length_nil]
      omega
  | cons v items ih =>
      have hle := (suffix_writeIndented v (level + 1) (behindIndentedItem level items rest)).length_le
      simp only [behindIndentedItem_cons, List.length_cons, List.length_append]
      omega

theorem length_lt_behindIndentedMember (level : Nat) (members : Members) (rest : List Char) :
    members.length + rest.length < (behindIndentedMember level members rest).length := by
  induction members with
  | nil =>
      simp only [behindIndentedMember, List.length_append, List.length_cons, List.length_nil]
      omega
  | cons m members ih =>
      have hle :=
        (suffix_writeIndented m.2 (level + 1) (behindIndentedMember level members rest)).length_le
      simp only [behindIndentedMember_cons, List.length_cons, List.length_append]
      omega

/-- A reader takes the indented text of the value off the front of a text. -/
def IndentedTakenBy (value : List Char → Option (Json × List Char)) (v : Json) : Prop :=
  ∀ level ⦃rest⦄, Ends rest → value (v.writeIndented level rest) = some (v, rest)

section Containers

variable {value : List Char → Option (Json × List Char)} (level : Nat) (rest : List Char)

theorem skipSpace_newLine_cons {c : Char} (hc : isSpace c = false) (cs : List Char) :
    skipSpace (newLine level ++ c :: cs) = c :: cs := by
  rw [skipSpace_newLine, skipSpace_cons hc]

theorem skipSpace_newLine_key (key : String) (cs : List Char) :
    skipSpace (newLine level ++ stringChars key ++ cs) = stringChars key ++ cs := by
  rw [List.append_assoc, skipSpace_newLine, stringChars]
  exact skipSpace_cons rfl _

/-- The items of an array are read one after the other. -/
theorem readItems_indented {v : Json} {items : List Json} {n : Nat} {cs : List Char}
    (hvalue : ∀ w ∈ v :: items, IndentedTakenBy value w) (hn : items.length < n)
    (hcs : skipSpace cs = v.writeIndented (level + 1) (behindIndentedItem level items rest)) :
    readItems value n cs = some (v :: items, rest) := by
  induction items generalizing v n cs with
  | nil =>
      obtain ⟨n, rfl⟩ := Nat.exists_eq_add_one_of_ne_zero (Nat.ne_zero_of_lt hn)
      have hv := hvalue v List.mem_cons_self (level + 1) (ends_behindIndentedItem level [] rest)
      rw [readItems, hcs, hv]
      simp [behindIndentedItem, skipSpace_newLine_cons level (c := ']') rfl]
  | cons w items ih =>
      obtain ⟨n, rfl⟩ := Nat.exists_eq_add_one_of_ne_zero (Nat.ne_zero_of_lt hn)
      have hv := hvalue v List.mem_cons_self (level + 1)
        (ends_behindIndentedItem level (w :: items) rest)
      have hrest := ih (v := w) (n := n) (fun u hu => hvalue u (List.mem_cons_of_mem _ hu))
        (Nat.lt_of_succ_lt_succ hn) ((skipSpace_newLine (level + 1) _).trans
          (skipSpace_writeIndented (level + 1) w _))
      rw [readItems, hcs, hv]
      simp [behindIndentedItem_cons, skipSpace_cons (c := ',') rfl, hrest]

/-- A member is read with its key. -/
theorem readMember_indented {m : String × Json} {tail : List Char}
    (hvalue : IndentedTakenBy value m.2) (htail : Ends tail) {cs : List Char}
    (hcs : skipSpace cs =
      stringChars m.1 ++ ':' :: ' ' :: m.2.writeIndented (level + 1) tail) :
    readMember value cs = some (m, tail) := by
  have hkey : skipSpace cs = '"' :: (m.1.toList.flatMap escapedChar ++
      '"' :: ':' :: ' ' :: m.2.writeIndented (level + 1) tail) := by
    simp [hcs, stringChars]
  have hblank (cs) : skipSpace (' ' :: cs) = skipSpace cs := rfl
  rw [readMember, hkey]
  simp [readString_literal, skipSpace_cons (c := ':') rfl, hblank, skipSpace_writeIndented,
    hvalue (level + 1) htail]

/-- The members of an object are read one after the other. -/
theorem readMembers_indented {m : String × Json} {members : Members} {n : Nat} {cs : List Char}
    (hvalue : ∀ w ∈ m :: members, IndentedTakenBy value w.2) (hn : members.length < n)
    (hcs : skipSpace cs = stringChars m.1 ++
      ':' :: ' ' :: m.2.writeIndented (level + 1) (behindIndentedMember level members rest)) :
    readMembers value n cs = some (m :: members, rest) := by
  induction members generalizing m n cs with
  | nil =>
      obtain ⟨n, rfl⟩ := Nat.exists_eq_add_one_of_ne_zero (Nat.ne_zero_of_lt hn)
      have hm := readMember_indented level (hvalue m List.mem_cons_self)
        (ends_behindIndentedMember level [] rest) hcs
      rw [readMembers, hm]
      simp [behindIndentedMember, skipSpace_newLine_cons level (c := '\x7d') rfl]
  | cons w members ih =>
      obtain ⟨n, rfl⟩ := Nat.exists_eq_add_one_of_ne_zero (Nat.ne_zero_of_lt hn)
      have hm := readMember_indented level (hvalue m List.mem_cons_self)
        (ends_behindIndentedMember level (w :: members) rest) hcs
      have hrest := ih (m := w) (n := n) (fun u hu => hvalue u (List.mem_cons_of_mem _ hu))
        (Nat.lt_of_succ_lt_succ hn) (skipSpace_newLine_key (level + 1) w.1 _)
      rw [readMembers, hm]
      simp only [behindIndentedMember_cons, Option.bind_eq_bind, Option.bind_some,
        skipSpace_cons (c := ',') rfl, hrest]

theorem readWith_indented_array {items : List Json} (hvalue : ∀ v ∈ items, IndentedTakenBy value v) :
    readWith value ((array items).writeIndented level rest) = some (array items, rest) := by
  cases items with
  | nil => exact readWith_array rest nofun
  | cons v items =>
      have hwritten : (array (v :: items)).writeIndented level rest = '[' :: (newLine (level + 1) ++
          v.writeIndented (level + 1) (behindIndentedItem level items rest)) := by
        rw [writeIndented, writeIndentedItems_cons]
      have hbracket : ∀ tail,
          v.writeIndented (level + 1) (behindIndentedItem level items rest) ≠ ']' :: tail :=
        fun tail => writeIndented_ne_cons v _ _ (opening_ne_bracket v)
      -- The length of the text bounds how many items are read.
      have hlength : items.length <
          (v.writeIndented (level + 1) (behindIndentedItem level items rest)).length + 1 := by
        have hbehind := length_lt_behindIndentedItem level items rest
        have hle :=
          (suffix_writeIndented v (level + 1) (behindIndentedItem level items rest)).length_le
        omega
      have hitems := readItems_indented level rest hvalue hlength (skipSpace_writeIndented _ v _)
      rw [hwritten, readWith, skipSpace_newLine, skipSpace_writeIndented]
      simp [hitems]

theorem readWith_indented_object {members : Members}
    (hvalue : ∀ m ∈ members, IndentedTakenBy value m.2) :
    readWith value ((object members).writeIndented level rest) = some (object members, rest) := by
  cases members with
  | nil => exact readWith_object rest nofun
  | cons m members =>
      generalize hinner : stringChars m.1 ++ ':' :: ' ' ::
        m.2.writeIndented (level + 1) (behindIndentedMember level members rest) = inner
      have hwritten : (object (m :: members)).writeIndented level rest =
          '\x7b' :: (newLine (level + 1) ++ inner) := by
        rw [writeIndented, writeIndentedMembers_cons, ← hinner, List.append_assoc]
      have hbrace : ∀ tail, inner ≠ '\x7d' :: tail :=
        fun tail => hinner ▸ stringChars_append_ne_brace _ _ tail
      have hspace : skipSpace inner = inner := by
        rw [← hinner, stringChars]
        exact skipSpace_cons rfl _
      have hlength : members.length < inner.length + 1 := by
        have hbehind := length_lt_behindIndentedMember level members rest
        have hle :=
          (suffix_writeIndented m.2 (level + 1) (behindIndentedMember level members rest)).length_le
        simp only [← hinner, List.length_append, List.length_cons]
        omega
      have hmembers := readMembers_indented level rest hvalue hlength (hspace.trans hinner.symm)
      rw [hwritten, readWith, skipSpace_newLine, hspace]
      simp [hmembers]

end Containers

/-- A value within the bounds is taken off the front of its indented text. -/
theorem ReadsBack.indentedTakenBy {depth : Nat} {v : Json} (h : ReadsBack depth v) :
    IndentedTakenBy (readValue depth) v := by
  induction h with
  | array _ ih => exact fun level rest _ => readWith_indented_array level rest ih
  | object _ ih => exact fun level rest _ => readWith_indented_object level rest ih
  | null => exact fun _ _ hrest => ReadsBack.null.takenBy hrest
  | bool b => exact fun _ _ hrest => (ReadsBack.bool b).takenBy hrest
  | number hn => exact fun _ _ hrest => (ReadsBack.number hn).takenBy hrest
  | string s => exact fun _ _ hrest => (ReadsBack.string s).takenBy hrest

/-- The indented text of a value is read as the value with its members sorted. -/
theorem read?_pretty {v : Json} (h : ReadsBack maxDepth v) : read? v.pretty = some v.sorted := by
  have htaken : readValue maxDepth (v.writeIndented 0 []) = some (v, []) :=
    h.indentedTakenBy 0 nofun
  simp [read?, readWritten?, pretty, skipSpace_writeIndented, htaken]
  rfl

/-- A text of an object, from brace to brace. -/
structure IsObjectText (text : String) (v : Json) : Prop where
  first : text.toList.head? = some '\x7b'
  last : text.toList.getLast? = some '\x7d'
  reads : read? text = some v

theorem getLast?_of_suffix {c : Char} {cs : List Char} (h : [c] <:+ cs) : cs.getLast? = some c := by
  obtain ⟨front, rfl⟩ := h
  exact List.getLast?_concat

theorem isObjectText_pretty {members : Members} (h : (object members).ReadsBack maxDepth) :
    IsObjectText (object members).pretty (object members).sorted where
  first := by
    rw [pretty, String.toList_ofList, head?_writeIndented]
    rfl
  last := by
    rw [pretty, String.toList_ofList]
    apply getLast?_of_suffix
    cases members with
    | nil => exact List.suffix_append ['\x7b'] ['\x7d']
    | cons m members =>
        have hclose : ['\x7d'] <:+ newLine 0 ++ ['\x7d'] := List.suffix_append _ _
        exact (hclose.trans (suffix_writeIndentedMembers (fun m _ => suffix_writeIndented m.2)
          1 _)).trans (List.suffix_cons '\x7b' _)
  reads := read?_pretty h

end ApiScreens.Json
