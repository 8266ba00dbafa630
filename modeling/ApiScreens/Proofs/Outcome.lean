/-!
# Outcomes of computations that may fail

What a computation in sequence answers, taken apart into what its first step answers and what the
rest makes of that.
-/

namespace ApiScreens

variable {ε α β : Type}

theorem bind_eq_ok {x : Except ε α} {f : α → Except ε β} {b : β} :
    (x >>= f) = .ok b ↔ ∃ a, x = .ok a ∧ f a = .ok b := by
  cases x with
  | error e => exact ⟨nofun, fun ⟨_, h, _⟩ => nomatch h⟩
  | ok a => exact ⟨fun h => ⟨a, rfl, h⟩, fun ⟨_, h, hf⟩ => Except.ok.inj h ▸ hf⟩

theorem bind_eq_error {x : Except ε α} {f : α → Except ε β} {e : ε} :
    (x >>= f) = .error e ↔ x = .error e ∨ ∃ a, x = .ok a ∧ f a = .error e := by
  cases x with
  | error e' =>
      constructor
      · intro h
        exact Or.inl (Except.error.inj h ▸ rfl)
      · rintro (h | ⟨_, h, _⟩)
        · exact Except.error.inj h ▸ rfl
        · contradiction
  | ok a =>
      constructor
      · intro h
        exact Or.inr ⟨a, rfl, h⟩
      · rintro (h | ⟨b, h, hf⟩)
        · contradiction
        · exact Except.ok.inj h ▸ hf

/-- A computation that only changes an answer answers if there is one to change. -/
theorem exists_bind_pure_eq_ok {x : Except ε α} {f : α → β} :
    (∃ b, (x >>= fun a => pure (f a)) = .ok b) ↔ ∃ a, x = .ok a := by
  simp only [bind_eq_ok]
  constructor
  · rintro ⟨_, a, ha, _⟩
    exact ⟨a, ha⟩
  · rintro ⟨a, ha⟩
    exact ⟨f a, a, ha, rfl⟩

theorem map_eq_ok {x : Except ε α} {f : α → β} {b : β} :
    x.map f = .ok b ↔ ∃ a, x = .ok a ∧ f a = b := by
  cases x <;> simp [Except.map]

theorem map_eq_error {x : Except ε α} {f : α → β} {e : ε} :
    x.map f = .error e ↔ x = .error e := by
  cases x <;> simp [Except.map]

theorem mapError_eq_ok {ε' : Type} {x : Except ε α} {f : ε → ε'} {a : α} :
    x.mapError f = .ok a ↔ x = .ok a := by
  cases x with
  | error e =>
      constructor
      · intro h
        contradiction
      · intro h
        contradiction
  | ok b =>
      constructor
      · exact fun h => congrArg Except.ok (Except.ok.inj h)
      · exact fun h => congrArg Except.ok (Except.ok.inj h)

theorem mapError_eq_error {ε' : Type} {x : Except ε α} {f : ε → ε'} {e' : ε'} :
    x.mapError f = .error e' ↔ ∃ e, x = .error e ∧ f e = e' := by
  cases x with
  | error e =>
      constructor
      · exact fun h => ⟨e, rfl, Except.error.inj h⟩
      · rintro ⟨_, ⟨rfl⟩, rfl⟩
        rfl
  | ok a =>
      constructor
      · intro h
        contradiction
      · rintro ⟨_, h, _⟩
        contradiction

theorem toOption_eq_some {x : Except ε α} {a : α} : x.toOption = some a ↔ x = .ok a := by
  cases x <;> simp [Except.toOption]

section Fold

variable {step : β → α → Except ε β} {items : List α} {init b : β}

/-- What every step of a run keeps holds of what the run answers. -/
theorem foldlM_invariant {P : β → Prop} (h : items.foldlM step init = .ok b) (hinit : P init)
    (hstep : ∀ b b', ∀ a ∈ items, P b → step b a = .ok b' → P b') : P b := by
  induction items generalizing init with
  | nil =>
      obtain rfl := Except.ok.inj h
      exact hinit
  | cons a rest ih =>
      rw [List.foldlM_cons] at h
      obtain ⟨next, hnext, hrest⟩ := bind_eq_ok.mp h
      apply ih hrest
      · exact hstep init next a List.mem_cons_self hinit hnext
      · intro b b' a' ha'
        exact hstep b b' a' (List.mem_cons_of_mem _ ha')

/-- What steps keep of the items taken and what has been made of them holds at the end of a run. -/
theorem foldlM_prefix_invariant {P : List α → β → Prop} (h : items.foldlM step init = .ok b)
    (hinit : P [] init)
    (hstep : ∀ before a b b', P before b → step b a = .ok b' → P (before ++ [a]) b') :
    P items b := by
  have hrun (before : List α) {items : List α} {init : β} (hP : P before init)
      (h : items.foldlM step init = .ok b) : P (before ++ items) b := by
    induction items generalizing before init with
    | nil =>
        obtain rfl := Except.ok.inj h
        rwa [List.append_nil]
    | cons a rest ih =>
        rw [List.foldlM_cons] at h
        obtain ⟨next, hnext, hrest⟩ := bind_eq_ok.mp h
        rw [List.append_cons]
        exact ih (before ++ [a]) (hstep before a init next hP hnext) hrest
  exact hrun [] hinit h

/-- A run goes through if every step does, whatever has been made before it. -/
theorem exists_foldlM_eq_ok (h : ∀ a ∈ items, ∀ b, ∃ b', step b a = .ok b') (init : β) :
    ∃ b, items.foldlM step init = .ok b := by
  induction items generalizing init with
  | nil => exact ⟨init, rfl⟩
  | cons a rest ih =>
      obtain ⟨next, hnext⟩ := h a List.mem_cons_self init
      obtain ⟨b, hb⟩ := ih (fun a' ha' => h a' (List.mem_cons_of_mem _ ha')) next
      refine ⟨b, ?_⟩
      rw [List.foldlM_cons]
      exact bind_eq_ok.mpr ⟨next, hnext, hb⟩

/-- A run that fails does so at one of its items, after those before it went well. -/
theorem foldlM_eq_error {e : ε} (h : items.foldlM step init = .error e) :
    ∃ before a after b, items = before ++ a :: after ∧ before.foldlM step init = .ok b ∧
      step b a = .error e := by
  induction items generalizing init with
  | nil => contradiction
  | cons a rest ih =>
      rw [List.foldlM_cons] at h
      rcases bind_eq_error.mp h with hfirst | ⟨next, hnext, hrest⟩
      · exact ⟨[], a, rest, init, rfl, rfl, hfirst⟩
      · obtain ⟨before, a', after, b, rfl, hbefore, hfail⟩ := ih hrest
        refine ⟨a :: before, a', after, b, rfl, ?_, hfail⟩
        rw [List.foldlM_cons]
        exact bind_eq_ok.mpr ⟨next, hnext, hbefore⟩

end Fold

end ApiScreens
