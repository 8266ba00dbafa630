import ApiScreens.CommandLine.Run

/-!
# Steps on a state

A step on a state that does not fail answers a value and leaves a state. Such a run of steps in a
row is a run of each of them.
-/

namespace ApiScreens.Host.Step

variable {σ α β : Type} {s s' : σ}

/-- Whether a step on a state answers a value and leaves another state. -/
def Yields (x : Step (StateM σ) α) (s : σ) (a : α) (s' : σ) : Prop := x.run.run s = (.ok a, s')

theorem Yields.answer {x : Step (StateM σ) α} {a : α} (h : Yields x s a s') :
    (x.run.run s).1 = .ok a := congrArg Prod.fst h

theorem exists_yields {x : Step (StateM σ) α} {a : α} (h : (x.run.run s).1 = .ok a) :
    ∃ s', Yields x s a s' := ⟨(x.run.run s).2, Prod.ext h rfl⟩

theorem yields_pure {a b : α} : Yields (pure a) s b s' ↔ a = b ∧ s = s' := by
  constructor
  · intro h
    obtain ⟨ha, hs⟩ := Prod.mk.inj h
    exact ⟨Except.ok.inj ha, hs⟩
  · rintro ⟨rfl, rfl⟩
    rfl

theorem not_yields_throw {e : CommandError} {a : α} :
    ¬ Yields (throw e : Step (StateM σ) α) s a s' := by
  intro h
  obtain ⟨ha, _⟩ := Prod.mk.inj h
  contradiction

theorem yields_lift {x : StateM σ α} {a : α} :
    Yields (liftM x : Step (StateM σ) α) s a s' ↔ x.run s = (a, s') := by
  have hrun : (liftM x : Step (StateM σ) α).run.run s = (.ok (x.run s).1, (x.run s).2) := rfl
  rw [Yields, hrun]
  constructor
  · intro h
    obtain ⟨ha, hs⟩ := Prod.mk.inj h
    exact Prod.ext (Except.ok.inj ha) hs
  · intro h
    rw [h]

/-- A step that fails ends the run, and any other hands its answer on. -/
theorem run_bind {x : Step (StateM σ) α} {f : α → Step (StateM σ) β} :
    (x >>= f).run.run s = match x.run.run s with
      | (.ok a, between) => (f a).run.run between
      | (.error e, between) => (.error e, between) := by
  change (match x.run.run s with | (r, between) => (ExceptT.bindCont f r).run between) = _
  rcases x.run.run s with ⟨_ | _, _⟩ <;> rfl

theorem yields_bind {x : Step (StateM σ) α} {f : α → Step (StateM σ) β} {b : β} :
    Yields (x >>= f) s b s' ↔ ∃ a between, Yields x s a between ∧ Yields (f a) between b s' := by
  unfold Yields
  rw [run_bind]
  constructor
  · intro h
    split at h
    · rename_i a between hx
      exact ⟨a, between, hx, h⟩
    · obtain ⟨hb, _⟩ := Prod.mk.inj h
      contradiction
  · rintro ⟨a, between, hx, hf⟩
    rw [hx]
    exact hf

theorem discard_eq_bind (x : Step (StateM σ) α) : discard x = x >>= fun _ => pure ⟨⟩ := by
  rw [discard, map_const]
  exact map_eq_pure_bind _ _

theorem yields_discard {x : Step (StateM σ) α} {u : PUnit} :
    Yields (discard x) s u s' ↔ ∃ a, Yields x s a s' := by
  rw [discard_eq_bind, yields_bind]
  constructor
  · rintro ⟨a, between, hx, hpure⟩
    obtain ⟨_, rfl⟩ := yields_pure.mp hpure
    exact ⟨a, hx⟩
  · rintro ⟨a, hx⟩
    exact ⟨a, s', hx, yields_pure.mpr ⟨rfl, rfl⟩⟩

end ApiScreens.Host.Step
