import ApiScreens.Planner.Budget

/-!
# Runs of attempt budgets

While an attempt is pending, a valid outcome ends the run and an invalid one uses up one of the
attempts that are left. So as many outcomes as the limit decide the state after any number of them,
and the attempts on offer are numbered from one on, up to the limit at most.
-/

namespace ApiScreens

/-- The state that outcomes lead to where so many attempts are allowed. Outcomes beyond the last
attempt count for nothing. -/
def AttemptState.after (limit : Nat) (outcomes : List AttemptOutcome) : AttemptState :=
  if .valid ∈ outcomes.take limit then .succeeded
  else if limit ≤ outcomes.length then .exhausted
  else if outcomes = [] then .ready 1
  else .retry (UInt32.ofNat (outcomes.length + 1))

/-- A pending attempt is the next after the outcomes so far, which are fewer than the limit. -/
theorem AttemptState.pending?_after {limit : Nat} {outcomes : List AttemptOutcome} {n : UInt32}
    (h : (AttemptState.after limit outcomes).pending? = some n) :
    outcomes.length < limit ∧ n = UInt32.ofNat (outcomes.length + 1) := by
  unfold after at h
  split at h
  · contradiction
  · split at h
    · contradiction
    · rename_i hlength
      refine ⟨Nat.lt_of_not_le hlength, ?_⟩
      split at h
      · rename_i hempty
        rw [hempty]
        exact (Option.some.inj h).symm
      · exact (Option.some.inj h).symm

namespace AttemptBudget

variable {b : AttemptBudget} {n : UInt32}

section Step

theorem next?_eq_none_iff : b.next? = none ↔ b.remaining = 0 := by
  unfold remaining
  cases b.next? <;> simp

theorem toNat_add_one {limit : UInt32} (h : n < limit) : (n + 1).toNat = n.toNat + 1 := by
  have hlt : n.toNat < limit.toNat := UInt32.lt_iff_toNat_lt.mp h
  have hsize := limit.toNat_lt
  rw [UInt32.toNat_add, UInt32.toNat_one]
  omega

/-- An invalid attempt uses up one of those that are left. -/
theorem remaining_record_invalid_eq (b : AttemptBudget) :
    (b.record .invalid).remaining = b.remaining - 1 := by
  cases hnext : b.next? with
  | none => simp only [record, remaining, hnext, Nat.zero_sub]
  | some n =>
      simp only [remaining, record, hnext]
      by_cases hn : n < b.limit
      · have hlt : n.toNat < b.limit.toNat := UInt32.lt_iff_toNat_lt.mp hn
        have hsucc := toNat_add_one hn
        simp only [hn, if_true, next?, AttemptState.pending?]
        omega
      · have hle : b.limit.toNat ≤ n.toNat := Nat.not_lt.mp (mt UInt32.lt_iff_toNat_lt.mpr hn)
        simp only [hn, if_false, next?, AttemptState.pending?]
        omega

/-- What an outcome can do while an attempt is pending. -/
theorem record_cases (h : b.next? = some n) (o : AttemptOutcome) :
    (o = .valid ∧ (b.record o).state = .succeeded) ∨
      (o = .invalid ∧ n < b.limit ∧ (b.record o).state = .retry (n + 1)) ∨
      (o = .invalid ∧ ¬ n < b.limit ∧ (b.record o).state = .exhausted) := by
  cases o with
  | valid => exact Or.inl ⟨rfl, by simp only [record, h]⟩
  | invalid =>
      right
      by_cases hn : n < b.limit
      · exact Or.inl ⟨rfl, hn, by simp only [record, h, hn, if_true]⟩
      · exact Or.inr ⟨rfl, hn, by simp only [record, h, hn, if_false]⟩

/-- After the end, an outcome changes nothing. -/
theorem record_of_finished (h : b.next? = none) (o : AttemptOutcome) : b.record o = b := by
  simp only [record, h]

end Step

section Run

theorem recordAll_of_finished (h : b.next? = none) (outcomes : List AttemptOutcome) :
    b.recordAll outcomes = b := by
  induction outcomes with
  | nil => rfl
  | cons o rest ih =>
      rw [recordAll, List.foldl_cons, record_of_finished h]
      exact ih

theorem recordAll_limit (b : AttemptBudget) (outcomes : List AttemptOutcome) :
    (b.recordAll outcomes).limit = b.limit := by
  induction outcomes generalizing b with
  | nil => rfl
  | cons o rest ih => exact (ih (b.record o)).trans (record_limit b o)

theorem remaining_of_next? (h : b.next? = some n) :
    b.remaining = b.limit.toNat - n.toNat + 1 := by
  simp only [remaining, h]

/-- The state after a run from a pending attempt. -/
theorem state_recordAll (h : b.next? = some n) (outcomes : List AttemptOutcome) :
    (b.recordAll outcomes).state =
      if .valid ∈ outcomes.take b.remaining then .succeeded
      else if b.remaining ≤ outcomes.length then .exhausted
      else if outcomes = [] then b.state
      else .retry (n + UInt32.ofNat outcomes.length) := by
  induction outcomes generalizing b n with
  | nil => simp [recordAll, remaining_of_next? h]
  | cons o rest ih =>
      have hremaining := remaining_of_next? h
      have hrun : b.recordAll (o :: rest) = (b.record o).recordAll rest := rfl
      rw [hrun, hremaining, List.take_succ_cons]
      obtain ⟨rfl, hstate⟩ | ⟨rfl, hn, hstate⟩ | ⟨rfl, hn, hstate⟩ := record_cases h o
      · have hend : (b.record .valid).next? = none := by rw [next?, hstate]; rfl
        rw [recordAll_of_finished hend, hstate, if_pos List.mem_cons_self]
      · have hnext : (b.record .invalid).next? = some (n + 1) := by rw [next?, hstate]; rfl
        have hleft : (b.record .invalid).remaining = b.limit.toNat - n.toNat := by
          rw [remaining_record_invalid_eq, hremaining, Nat.add_sub_cancel]
        rw [ih hnext, hleft, hstate]
        cases rest with
        | nil => simp
        | cons o' rest => simp [UInt32.ofNat_add, UInt32.add_assoc, UInt32.add_comm]
      · have hend : (b.record .invalid).next? = none := by rw [next?, hstate]; rfl
        have hle : b.limit.toNat ≤ n.toNat := Nat.not_lt.mp (mt UInt32.lt_iff_toNat_lt.mpr hn)
        rw [recordAll_of_finished hend, hstate, Nat.sub_eq_zero_of_le hle]
        simp

end Run

section Offers

/-- The numbers of the attempts on offer while outcomes are recorded, before the first one and
after each. -/
def offers (b : AttemptBudget) : List AttemptOutcome → List UInt32
  | [] => b.next?.toList
  | o :: rest => b.next?.toList ++ (b.record o).offers rest

theorem offers_of_finished (h : b.next? = none) (outcomes : List AttemptOutcome) :
    b.offers outcomes = [] := by
  induction outcomes with
  | nil => rw [offers, h, Option.toList_none]
  | cons o rest ih => rw [offers, h, record_of_finished h, ih, Option.toList_none, List.nil_append]

/-- From a pending attempt on, the numbers follow one another, no more of them than attempts are
left. -/
theorem offers_of_next? (h : b.next? = some n) (outcomes : List AttemptOutcome) :
    ∃ offered, offered ≤ b.remaining ∧
      (b.offers outcomes).map UInt32.toNat = List.range' n.toNat offered := by
  have hremaining := remaining_of_next? h
  have hone : 1 ≤ b.remaining := hremaining ▸ Nat.succ_pos _
  induction outcomes generalizing b n with
  | nil => exact ⟨1, hone, by simp [offers, h]⟩
  | cons o rest ih =>
      have hlast (hend : (b.record o).next? = none) : ∃ offered, offered ≤ b.remaining ∧
          (b.offers (o :: rest)).map UInt32.toNat = List.range' n.toNat offered :=
        ⟨1, hone, by simp [offers, h, offers_of_finished hend]⟩
      obtain ⟨rfl, hstate⟩ | ⟨rfl, hn, hstate⟩ | ⟨rfl, _, hstate⟩ := record_cases h o
      · exact hlast (by rw [next?, hstate]; rfl)
      · have hnext : (b.record .invalid).next? = some (n + 1) := by rw [next?, hstate]; rfl
        have hleft := remaining_record_invalid_eq b
        have hnextleft := remaining_of_next? hnext
        obtain ⟨offered, hle, hoffers⟩ := ih hnext hnextleft (hnextleft ▸ Nat.succ_pos _)
        refine ⟨offered + 1, by omega, ?_⟩
        rw [offers, h, Option.toList_some, List.map_append, hoffers, toNat_add_one hn,
          List.range'_succ]
        rfl
      · exact hlast (by rw [next?, hstate]; rfl)

end Offers

section FirstAttempt

theorem toNat_limit_ofLimit (limit : UInt32) : (ofLimit limit).limit.toNat = max 1 limit.toNat := by
  have hpos := ofLimit_limit_pos limit
  by_cases h : limit = 0
  · simp [ofLimit, h]
  · simp only [ofLimit, if_neg h] at hpos ⊢
    omega

theorem next?_ofLimit (limit : UInt32) : (ofLimit limit).next? = some 1 := rfl

theorem remaining_ofLimit (limit : UInt32) :
    (ofLimit limit).remaining = max 1 limit.toNat := by
  rw [remaining_of_next? (next?_ofLimit limit), toNat_limit_ofLimit, UInt32.toNat_one]
  omega

theorem state_recordAll_ofLimit (limit : UInt32) (outcomes : List AttemptOutcome) :
    ((ofLimit limit).recordAll outcomes).state = .after (max 1 limit.toNat) outcomes := by
  rw [state_recordAll (next?_ofLimit limit), remaining_ofLimit, AttemptState.after,
    UInt32.ofNat_add, UInt32.add_comm]
  rfl

/-- Any outcomes leave a budget succeeded if one of the first is valid, as many as the limit counts;
else the next attempt is pending, or the budget exhausted if there is none. So the attempts on offer
are numbered from one on, up to the limit at most, and counting them on stays within a word. -/
theorem recordAll_closed_form (limit : UInt32) (outcomes : List AttemptOutcome) :
    ((ofLimit limit).recordAll outcomes).limit.toNat = max 1 limit.toNat ∧
      ((ofLimit limit).recordAll outcomes).state = .after (max 1 limit.toNat) outcomes ∧
      (∀ n, ((ofLimit limit).recordAll outcomes).next? = some n →
        n.toNat = outcomes.length + 1 ∧ 1 ≤ n.toNat ∧ n.toNat ≤ max 1 limit.toNat ∧
          (n < ((ofLimit limit).recordAll outcomes).limit → n.toNat + 1 < UInt32.size)) ∧
      ∃ offered, offered ≤ max 1 limit.toNat ∧
        ((ofLimit limit).offers outcomes).map UInt32.toNat = List.range' 1 offered := by
  have hlimit : ((ofLimit limit).recordAll outcomes).limit.toNat = max 1 limit.toNat := by
    rw [recordAll_limit, toNat_limit_ofLimit]
  have hstate := state_recordAll_ofLimit limit outcomes
  refine ⟨hlimit, hstate, fun n hn => ?_, ?_⟩
  · rw [next?, hstate] at hn
    obtain ⟨hlength, hnumber⟩ := AttemptState.pending?_after hn
    have hsize : max 1 limit.toNat < UInt32.size := hlimit ▸ UInt32.toNat_lt _
    have hnat : n.toNat = outcomes.length + 1 := by
      rw [hnumber, UInt32.toNat_ofNat_of_lt' (Nat.lt_of_le_of_lt hlength hsize)]
    refine ⟨hnat, by omega, by omega, fun hless => ?_⟩
    have hlt := UInt32.lt_iff_toNat_lt.mp hless
    omega
  · obtain ⟨offered, hle, hoffers⟩ := offers_of_next? (next?_ofLimit limit) outcomes
    rw [remaining_ofLimit] at hle
    exact ⟨offered, hle, hoffers⟩

theorem recordAll_closed_form_second :
    ((ofLimit 0xFFFFFFFF).recordAll [.invalid]).next? = some 2 ∧
      (2 : UInt32) < ((ofLimit 0xFFFFFFFF).recordAll [.invalid]).limit ∧
      (2 : UInt32).toNat + 1 < UInt32.size ∧
      ((ofLimit 2).recordAll [.invalid, .invalid, .valid]).state = .exhausted := by
  have hnext : ((ofLimit 0xFFFFFFFF).recordAll [.invalid]).next? = some 2 := by decide
  have hless : (2 : UInt32) < ((ofLimit 0xFFFFFFFF).recordAll [.invalid]).limit := by decide
  have hpending := (recordAll_closed_form 0xFFFFFFFF [.invalid]).2.2.1 2 hnext
  exact ⟨hnext, hless, hpending.2.2.2 hless, (recordAll_closed_form 2 _).2.1⟩

end FirstAttempt

end AttemptBudget

end ApiScreens
