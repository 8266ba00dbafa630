import ApiScreens.CommandLine.Run
import ApiScreens.CommandLine.Workspace
import Mathlib.Data.Option.Basic

/-!
# Places of files in a workspace

Directories stay directories whatever is made or written. So once a directory has been made, each
file name stands for one place in it, and what is written there is what is read.
-/

namespace ApiScreens

open Host (joinPath)

/-- Whether a name is that of a file in a directory. -/
def IsFileName (name : String) : Prop :=
  name ≠ "" ∧ name ≠ "." ∧ name ≠ ".." ∧ '/' ∉ name.toList

/-- A path below a directory leads through the names of the directory, but for an empty one at its
end. -/
theorem split_joinPath (directory : String) : ∃ names,
    (Text.split '/' directory = names ∨ Text.split '/' directory = names ++ [""]) ∧
      ∀ name, IsFileName name → Text.split '/' (joinPath directory name) = names ++ [name] := by
  have hsingle (name : String) (h : IsFileName name) :
      Text.splitChars '/' name.toList = [name.toList] := Text.splitChars_eq_singleton h.2.2.2
  unfold joinPath Text.split
  by_cases hempty : directory = ""
  · refine ⟨[], Or.inr ?_, fun name h => ?_⟩
    · simp [hempty, Text.splitChars]
    · simp [hempty, hsingle name h]
  · by_cases hend : directory.toList.getLast? = some '/'
    · obtain ⟨front, hfront⟩ := List.getLast?_eq_some_iff.mp hend
      refine ⟨(Text.splitChars '/' front).map String.ofList, Or.inr ?_, fun name h => ?_⟩
      · simp [hfront, Text.splitChars_append, Text.splitChars]
      · simp [hfront, Text.splitChars_append, hsingle name h]
    · refine ⟨_, Or.inl rfl, fun name h => ?_⟩
      simp [hempty, hend, Text.splitChars_append, hsingle name h]

namespace Workspace

variable {w w' : Workspace} {p q : Place}

/-- Whether all directories of a workspace are directories of another one. -/
def Grows (w w' : Workspace) : Prop := ∀ p, w.isDirectory p = true → w'.isDirectory p = true

theorem Grows.refl (w : Workspace) : w.Grows w := fun _ h => h

theorem Grows.trans {w'' : Workspace} (h : w.Grows w') (h' : w'.Grows w'') : w.Grows w'' :=
  fun p hp => h' p (h p hp)

theorem isDirectory_iff : w.isDirectory p = true ↔
    p = [] ∨ (∃ q ∈ w.directories, p <+: q) ∨ ∃ f ∈ w.files, p <+: f.1 ∧ f.1 ≠ p := by
  simp [isDirectory, or_assoc]

theorem grows_of_subset (hdirectories : w.directories ⊆ w'.directories)
    (hfiles : w.files.map (·.1) ⊆ w'.files.map (·.1)) : w.Grows w' := by
  intro p hp
  rw [isDirectory_iff] at hp ⊢
  rcases hp with hp | ⟨q, hq, hbelow⟩ | ⟨f, hf, hbelow⟩
  · exact Or.inl hp
  · exact Or.inr (Or.inl ⟨q, hdirectories hq, hbelow⟩)
  · obtain ⟨f', hf', hsame⟩ := List.mem_map.mp (hfiles (List.mem_map_of_mem hf))
    exact Or.inr (Or.inr ⟨f', hf', hsame ▸ hbelow⟩)

theorem enter?_of_isDirectory (make : Bool) (h : w.isDirectory p = true) :
    w.enter? make p = some w := if_pos h

/-- Making a place a directory changes no file and no other directory. -/
theorem enter?_eq_some {make : Bool} (h : w.enter? make p = some w') :
    w'.isDirectory p = true ∧ w.Grows w' ∧ w'.files = w.files := by
  unfold enter? at h
  split at h
  · rename_i hp
    obtain rfl := Option.some.inj h
    exact ⟨hp, Grows.refl w, rfl⟩
  · split at h
    · obtain rfl := Option.some.inj h
      refine ⟨?_, grows_of_subset (List.subset_append_left _ _) (List.Subset.refl _), rfl⟩
      exact isDirectory_iff.mpr (Or.inr (Or.inl ⟨p, by simp, List.prefix_refl p⟩))
    · contradiction

theorem step_eq_some {make : Bool} {name : String} {reached : Workspace × Place} :
    step make (w, p) name = some reached ↔ ∃ w', w.enter? make p = some w' ∧
      ∃ q, follow? p name = some q ∧ reached = (w', q) := by
  constructor
  · intro h
    obtain ⟨w', henter, hrest⟩ := Option.bind_eq_some_iff.mp h
    obtain ⟨q, hfollow, hq⟩ := Option.bind_eq_some_iff.mp hrest
    exact ⟨w', henter, q, hfollow, (Option.some.inj hq).symm⟩
  · rintro ⟨w', henter, q, hfollow, rfl⟩
    simp [step, henter, hfollow]

theorem walk_append (make : Bool) (first rest : List String) :
    w.walk make p (first ++ rest) =
      (w.walk make p first).bind fun reached => reached.1.walk make reached.2 rest :=
  List.foldlM_append

/-- Where a walk that makes directories has been, any later walk comes too. -/
theorem walk_make {names : List String} (h : w.walk true p names = some (w', q)) :
    w.Grows w' ∧ w'.files = w.files ∧
      ∀ later, w'.Grows later → later.walk false p names = some (later, q) := by
  induction names generalizing w p with
  | nil =>
      obtain ⟨rfl, rfl⟩ := Prod.mk.inj (Option.some.inj h)
      exact ⟨Grows.refl w, rfl, fun _ _ => rfl⟩
  | cons name rest ih =>
      obtain ⟨reached, hstep, hrest⟩ := Option.bind_eq_some_iff.mp h
      obtain ⟨w₁, henter, q₁, hfollow, rfl⟩ := step_eq_some.mp hstep
      obtain ⟨hp, hgrows, hfiles⟩ := enter?_eq_some henter
      obtain ⟨hgrows', hfiles', hlater⟩ := ih hrest
      refine ⟨hgrows.trans hgrows', hfiles'.trans hfiles, fun later hgrown => ?_⟩
      have hentered := enter?_of_isDirectory false (hgrown p (hgrows' p hp))
      exact Option.bind_eq_some_iff.mpr
        ⟨(later, q₁), step_eq_some.mpr ⟨later, hentered, q₁, hfollow, rfl⟩, hlater later hgrown⟩

theorem isDirectory_of_walk {name : String} {rest : List String}
    (h : w.walk true p (name :: rest) = some (w', q)) : w'.isDirectory p = true := by
  obtain ⟨reached, hstep, hrest⟩ := Option.bind_eq_some_iff.mp h
  obtain ⟨w₁, henter, q₁, _, rfl⟩ := step_eq_some.mp hstep
  exact (walk_make hrest).1 p (enter?_eq_some henter).1

theorem follow?_of_isFileName {name : String} (h : IsFileName name) (p : Place) :
    follow? p name = some (p ++ [name]) := by
  obtain ⟨hempty, hdot, hdots, _⟩ := h
  simp [follow?, hempty, hdot, hdots]

/-- Whether file names in a directory stand for places in another place, now and later on. -/
def Opens (w : Workspace) (directory : String) (p : Place) : Prop :=
  ∀ later, w.Grows later → ∀ name, IsFileName name →
    later.place? (joinPath directory name) = some (p ++ [name])

theorem Opens.grows {directory : String} (h : w.Opens directory p) (hgrows : w.Grows w') :
    w'.Opens directory p := fun later hlater => h later (hgrows.trans hlater)

/-- A path below a relative directory is relative too. -/
theorem place?_joinPath {directory : String} (hempty : directory ≠ "")
    (hroot : directory.toList.head? ≠ some '/') (name : String) :
    w.place? (joinPath directory name) =
      (w.walk false [] (Text.split '/' (joinPath directory name))).map (·.2) := by
  obtain ⟨c, rest, hchars⟩ := List.exists_cons_of_ne_nil (mt String.toList_eq_nil_iff.mp hempty)
  obtain ⟨below, hbelow⟩ : ∃ below, (joinPath directory name).toList = c :: below := by
    unfold joinPath
    split <;> simp [hchars]
  have hc : c ≠ '/' := by simpa [hchars] using hroot
  have hsome : joinPath directory name ≠ "" := fun h => by simp [h] at hbelow
  rw [place?, if_neg (by simp [hsome, hbelow, hc])]

/-- A directory that has been made opens, and making it changes no file. -/
theorem opens_of_makeDirectories {directory : String}
    (h : w.makeDirectories? directory = some w') :
    w'.files = w.files ∧ ∃ p, w'.Opens directory p := by
  unfold makeDirectories? at h
  obtain ⟨_, hguard, h⟩ := Option.bind_eq_some_iff.mp h
  obtain ⟨⟨w₂, q⟩, hwalk, hw'⟩ := Option.bind_eq_some_iff.mp h
  obtain rfl : w₂ = w' := Option.some.inj hw'
  have hrelative : directory ≠ "" ∧ directory.toList.head? ≠ some '/' := by
    simpa using (Option.guard_eq_some' _).mp hguard
  obtain ⟨names, hnames, hbelow⟩ := split_joinPath directory
  -- An empty name at the end of the directory leads nowhere, so the way to a file goes round it.
  obtain ⟨last, tail, hwalk⟩ : ∃ last tail,
      w.walk true [] (names ++ last :: tail) = some (w₂, q) := by
    rcases hnames with hsplit | hsplit
    · exact ⟨".", [], hsplit ▸ hwalk⟩
    · exact ⟨"", ["."], by rw [← hwalk, hsplit, List.append_assoc]; rfl⟩
  have hfiles := (walk_make hwalk).2.1
  rw [walk_append] at hwalk
  obtain ⟨⟨w₁, p⟩, hfirst, hlast⟩ := Option.bind_eq_some_iff.mp hwalk
  refine ⟨hfiles, p, fun later hlater name hname => ?_⟩
  have hreach : later.walk false [] names = some (later, p) :=
    (walk_make hfirst).2.2 later ((walk_make hlast).1.trans hlater)
  have hp : later.isDirectory p = true := hlater p (isDirectory_of_walk hlast)
  have hstep : later.walk false p [name] = some (later, p ++ [name]) :=
    Option.bind_eq_some_iff.mpr ⟨_, step_eq_some.mpr
      ⟨later, enter?_of_isDirectory false hp, _, follow?_of_isFileName hname p, rfl⟩, rfl⟩
  rw [place?_joinPath hrelative.1 hrelative.2, hbelow name hname, walk_append, hreach]
  exact congrArg (Option.map (·.2)) hstep

section Writing

variable {path content : String}

theorem lookup_filter_of_ne {files : List (Place × String)} (h : q ≠ p) :
    (files.filter (·.1 != p)).lookup q = files.lookup q := by
  induction files with
  | nil => rfl
  | cons f rest ih =>
      by_cases hf : f.1 = p
      · have hq : (q == f.1) = false := by simpa [hf] using h
        rw [List.filter_cons_of_neg (by simp [hf]), ih, List.lookup_cons, hq]
      · rw [List.filter_cons_of_pos (by simp [hf]), List.lookup_cons, List.lookup_cons, ih]

/-- Writing a file changes no other one, and no directory. -/
theorem write?_eq_some (h : w.write? path content = some w') (hp : w.place? path = some p) :
    w.Grows w' ∧ w'.file? p = some content ∧ ∀ q, q ≠ p → w'.file? q = w.file? q := by
  unfold write? at h
  obtain ⟨place, hplace, h⟩ := Option.bind_eq_some_iff.mp h
  obtain rfl : p = place := Option.some.inj (hp.symm.trans hplace)
  obtain ⟨_, _, hw'⟩ := Option.bind_eq_some_iff.mp h
  obtain rfl := Option.some.inj hw'
  refine ⟨?_, ?_, ?_⟩
  · refine grows_of_subset (List.Subset.refl w.directories) fun q hq => ?_
    by_cases hqp : q = p
    · simp [hqp]
    · obtain ⟨f, hf, rfl⟩ := List.mem_map.mp hq
      have hkept : f ∈ w.files.filter (·.1 != p) := List.mem_filter.mpr ⟨hf, by simpa using hqp⟩
      exact List.mem_map_of_mem (List.mem_append_left _ hkept)
  · have hnone : (w.files.filter (·.1 != p)).lookup p = none := by
      rw [List.lookup_eq_none_iff]
      intro f hf
      have hne := (List.mem_filter.mp hf).2
      rwa [bne_comm] at hne
    simp [file?, List.lookup_append, hnone]
  · intro q hq
    have hother : (q == p) = false := by simpa using hq
    simp [file?, List.lookup_append, lookup_filter_of_ne hq, List.lookup_cons, hother]

end Writing

end Workspace

end ApiScreens
