import Mathlib.Data.List.Sort
import Mathlib.Data.List.TakeWhile
import PathTemplates.Proofs.Crumb.Components
import PathTemplates.Proofs.Listing.Walk

namespace PathTemplates

namespace Plan

variable {cs : List Component} {checkExists : Bool} {extent : Extent} {p : Plan}

theorem make?_eq_some (h : make? cs checkExists extent = some p) :
    p.components = cs ∧ lastIndex? Component.isOpen cs = some p.last ∧
      p.kept = keptUpTo cs (target? cs p.last extent) ∧
      (if checkExists then some p.last else target? cs p.last extent) = some p.depth := by
  unfold make? at h
  split at h
  · cases h
  · next last hlast =>
    dsimp only at h
    split at h
    · cases h
    · next depth hdepth =>
      cases h
      exact ⟨rfl, hlast, rfl, hdepth⟩

theorem isOpen_of_target? {target last : Nat} (hlast : lastIndex? Component.isOpen cs = some last)
    (h : target? cs last extent = some target) :
    ∃ k, cs[target]? = some k ∧ k.isOpen = true := by
  cases extent with
  | all =>
    cases Option.some.inj h
    exact (lastIndex?_eq_some hlast).1
  | targets names =>
    obtain ⟨k, hk, hany⟩ := (lastIndex?_eq_some h).1
    obtain ⟨n, hn, _⟩ := List.any_eq_true.1 hany
    refine ⟨k, hk, ?_⟩
    cases hopen : k.isOpen with
    | true => rfl
    | false =>
      rw [Component.isOpen_eq_false_iff.1 hopen] at hn
      cases hn

theorem valid_of_make? (h : make? cs checkExists extent = some p) : p.Valid := by
  obtain ⟨rfl, hlast, _, hdepth⟩ := make?_eq_some h
  obtain ⟨hopen, hmax⟩ := lastIndex?_eq_some hlast
  refine ⟨?_, hmax⟩
  split at hdepth
  · rwa [← Option.some.inj hdepth]
  · exact isOpen_of_target? hlast hdepth

theorem Valid.stop_eq_length (valid : p.Valid) (h : p.depth = p.last) :
    p.stop = p.components.length := by
  obtain ⟨k, hk, _⟩ := valid.open_depth
  have hlength := (List.getElem?_eq_some_iff.1 hk).1
  have hle : p.stop ≤ p.components.length := nextOpen_le_length (by omega)
  refine Nat.le_antisymm hle (Nat.le_of_not_lt fun hlt => ?_)
  obtain ⟨l, hl, hopen⟩ := Plan.open_nextOpen hlt
  have hlast := valid.le_last _ l hl hopen
  have hdepth := p.le_nextOpen (p.depth + 1)
  omega

theorem make?_all_eq_none_iff :
    make? cs checkExists .all = none ↔ ∀ k ∈ cs, k.isOpen = false := by
  unfold make?
  cases hlast : lastIndex? Component.isOpen cs with
  | none => simpa using lastIndex?_eq_none.1 hlast
  | some last =>
    have hne : ¬∀ k ∈ cs, k.isOpen = false := fun h => by
      rw [lastIndex?_eq_none.2 h] at hlast
      cases hlast
    simp [target?, hne]

theorem depth_eq_last_of_all (h : make? cs checkExists .all = some p) : p.depth = p.last := by
  obtain ⟨_, _, _, hdepth⟩ := make?_eq_some h
  simp only [target?, ite_self] at hdepth
  exact (Option.some.inj hdepth).symm

/-- A full listing keeps the values of all open arguments. -/
theorem kept_of_all (h : make? cs checkExists .all = some p) :
    p.kept = (cs.flatMap Component.names).length := by
  obtain ⟨_, hlast, hkept, _⟩ := make?_eq_some h
  have hclosed : (cs.drop (p.last + 1)).flatMap Component.names = [] := by
    refine Component.flatMap_names_eq_nil_iff.2 fun k hk => ?_
    obtain ⟨i, hi, e⟩ := List.mem_iff_getElem.1 hk
    rw [List.getElem_drop] at e
    refine Bool.eq_false_iff.2 fun hopen => ?_
    have := (lastIndex?_eq_some hlast).2 _ k (List.getElem?_eq_some_iff.2 ⟨_, e⟩) hopen
    omega
  rw [hkept, ← Component.flatMap_names_take_append_drop (p.last + 1) cs, hclosed, List.append_nil]
  rfl

theorem take_nextOpen_zero (p : Plan) :
    p.components.take (p.nextOpen 0) = p.components.takeWhile fun k => !k.isOpen := by
  simp [List.takeWhile_eq_take_findIdx_not, nextOpen]

theorem drop_nextOpen_zero (p : Plan) :
    p.components.drop (p.nextOpen 0) = p.components.dropWhile fun k => !k.isOpen := by
  simp [List.dropWhile_eq_drop_findIdx_not, nextOpen]

theorem ready_start (valid : p.Valid) : (Walk.start p).Ready p := by
  intro v hv
  cases List.mem_singleton.1 hv
  obtain ⟨k, hk, hopen⟩ := valid.open_depth
  have hle : p.nextOpen 0 ≤ p.depth := nextOpen_le (Nat.zero_le _) hk hopen
  have hlength := (List.getElem?_eq_some_iff.1 hk).1
  exact ⟨hle, Plan.open_nextOpen (by omega)⟩

end Plan

namespace Crumb

variable {fs : FileSystem} {c : Crumb} {extent : Extent} {p : Plan} {t : Assignment}

theorem split_of_open {k : Component} (hk : k ∈ c.components) (hopen : k.isOpen = true) :
    c.split.1 = Component.joined (c.components.takeWhile fun k => !k.isOpen) := by
  have hne : ¬(c.components.dropWhile fun k => !k.isOpen).isEmpty = true := by
    rw [List.isEmpty_iff, List.dropWhile_eq_nil_iff]
    exact fun h => by simpa [hopen] using h k hk
  simp only [split, if_neg hne]

theorem split_of_closed (h : ∀ k ∈ c.components, k.isOpen = false) : c.split.1 = c.path := by
  have hnil : (c.components.dropWhile fun k => !k.isOpen).isEmpty = true := by
    rw [List.isEmpty_iff, List.dropWhile_eq_nil_iff]
    exact fun k hk => by simp [h k hk]
  simp only [split, if_pos hnil]

/-- Without a plan there is no way to bind nothing but the one. -/
theorem mem_completions_of_none (h : Plan.make? c.components c.checkExists extent = none) :
    t ∈ c.completions fs extent ↔
      t = [] ∧ (c.checkExists = true → fs.pathExists c.split.1 = true) := by
  unfold completions unwalked
  rw [h]
  cases c.checkExists <;> cases fs.pathExists c.split.1 <;> simp

theorem mem_completions (h : Plan.make? c.components c.checkExists extent = some p) :
    t ∈ c.completions fs extent ↔ ∃ u stop,
      c.Descends fs (p.depth ≠ p.last) c.split.1 (p.ahead (p.nextOpen 0)) u stop ∧
        (c.checkExists = true → fs.pathExists stop = true) ∧ t = u.take p.kept := by
  have valid := Plan.valid_of_make? h
  obtain ⟨hcomponents, _⟩ := Plan.make?_eq_some h
  obtain ⟨k, hk, hopen⟩ := valid.open_depth
  have hfront : Component.joined (p.components.take (p.nextOpen 0)) = c.split.1 := by
    rw [split_of_open (hcomponents ▸ List.mem_of_getElem? hk) hopen, p.take_nextOpen_zero,
      hcomponents]
  unfold completions
  rw [h]
  dsimp only
  rw [Walk.mem_run valid (Plan.ready_start valid)]
  simp [Walk.Answers, Walk.start, Visit.Yields, hfront]

theorem ascending_completions (fs : FileSystem) (c : Crumb) (extent : Extent) :
    (c.completions fs extent).Pairwise (· < ·) := by
  unfold completions
  split
  · unfold unwalked
    split <;> simp
  · exact Walk.ascending_run .nil

/-- Of two lists in order with the members of one in the other, one is a part of the other. -/
theorem sublist_of_subset {rows rows' : List Assignment} (h : rows.Pairwise (· < ·))
    (h' : rows'.Pairwise (· < ·)) (hsubset : rows ⊆ rows') : rows.Sublist rows' :=
  List.sublist_of_subperm_of_pairwise (List.subperm_of_subset h.nodup hsubset) h h'

theorem names_of_completes {u : Assignment} (h : c.Completes fs u) : u.names = c.openNames := by
  obtain ⟨stop, hdescends, _⟩ := h
  have hclosed : (c.components.takeWhile fun k => !k.isOpen).flatMap Component.names = [] := by
    refine Component.flatMap_names_eq_nil_iff.2 fun k hk => ?_
    simpa using List.mem_takeWhile_imp hk
  have hsplit := congrArg (List.flatMap Component.names)
    (List.takeWhile_append_dropWhile (p := fun k => !k.isOpen) (l := c.components))
  rw [List.flatMap_append, hclosed, List.nil_append] at hsplit
  rw [names_of_descends hdescends, hsplit, flatMap_names_components]

theorem length_of_completes {u : Assignment} (h : c.Completes fs u) :
    u.length = (c.components.flatMap Component.names).length := by
  rw [flatMap_names_components, ← names_of_completes h]
  exact (List.length_map ..).symm

/-- A walk down to the last open component finds the beginnings of the ways to complete the
crumb. -/
theorem mem_completions_of_depth_eq_last
    (h : Plan.make? c.components c.checkExists extent = some p) (hlast : p.depth = p.last) :
    t ∈ c.completions fs extent ↔ ∃ u, c.Completes fs u ∧ t = u.take p.kept := by
  obtain ⟨hcomponents, _⟩ := Plan.make?_eq_some h
  have hahead : p.ahead (p.nextOpen 0) = c.components.dropWhile fun k => !k.isOpen := by
    rw [Plan.ahead, (Plan.valid_of_make? h).stop_eq_length hlast, List.take_length,
      p.drop_nextOpen_zero, hcomponents]
  simp only [mem_completions h, hahead, hlast, ne_eq, not_true_eq_false]
  constructor
  · intro h
    obtain ⟨u, stop, hdescends, hexists, rfl⟩ := h
    exact ⟨u, ⟨stop, hdescends, hexists⟩, rfl⟩
  · intro h
    obtain ⟨u, ⟨stop, hdescends, hexists⟩, rfl⟩ := h
    exact ⟨u, stop, hdescends, hexists, rfl⟩

theorem completes_of_closed {u : Assignment} (h : ∀ k ∈ c.components, k.isOpen = false) :
    c.Completes fs u ↔ u = [] ∧ (c.checkExists = true → fs.pathExists c.split.1 = true) := by
  have hnil : (c.components.dropWhile fun k => !k.isOpen) = [] :=
    List.dropWhile_eq_nil_iff.2 fun k hk => by simp [h k hk]
  simp only [Completes, hnil, descends_nil]
  constructor
  · intro h
    obtain ⟨_, ⟨rfl, rfl⟩, hexists⟩ := h
    exact ⟨rfl, hexists⟩
  · intro h
    obtain ⟨rfl, hexists⟩ := h
    exact ⟨_, ⟨rfl, rfl⟩, hexists⟩

theorem mem_unfoldValues {u : Assignment} : u ∈ c.unfoldValues fs ↔ c.Completes fs u := by
  unfold unfoldValues
  cases hplan : Plan.make? c.components c.checkExists .all with
  | none =>
    rw [mem_completions_of_none hplan, completes_of_closed (Plan.make?_all_eq_none_iff.1 hplan)]
  | some p =>
    have hkept {u : Assignment} (h : c.Completes fs u) : u.take p.kept = u :=
      List.take_of_length_le (by rw [length_of_completes h, Plan.kept_of_all hplan])
    rw [mem_completions_of_depth_eq_last hplan (Plan.depth_eq_last_of_all hplan)]
    constructor
    · intro h
      obtain ⟨u, h, rfl⟩ := h
      rwa [hkept h]
    · intro h
      exact ⟨u, h, (hkept h).symm⟩

/-- The listing of all open arguments, whether or not paths have to be there: it is in ascending
order, names the open arguments in the order of the template, and holds just the ways to complete
the crumb. Without open arguments that is one way, to bind nothing. -/
theorem unfoldValues_enumerates (fs : FileSystem) (c : Crumb) :
    (c.unfoldValues fs).Pairwise (· < ·) ∧ (c.unfoldValues fs).Nodup ∧
      (∀ u, u ∈ c.unfoldValues fs ↔ c.Completes fs u) ∧
      (∀ u ∈ c.unfoldValues fs, u.names = c.openNames) ∧
      (c.hasOpenNames = false → c.unfoldValues fs =
        if c.checkExists = false ∨ fs.pathExists c.path = true then [[]] else []) := by
  have hascending := ascending_completions fs c .all
  refine ⟨hascending, hascending.imp fun h e => ?_, fun u => mem_unfoldValues,
    fun u hu => names_of_completes (mem_unfoldValues.1 hu), fun hnone => ?_⟩
  · rw [e] at h
    exact List.lt_irrefl _ h
  · have hclosed := hasOpenNames_eq_false_iff.1 hnone
    rw [unfoldValues, completions, Plan.make?_all_eq_none_iff.2 hclosed]
    dsimp only
    rw [unwalked, split_of_closed hclosed]
    cases c.checkExists <;> simp

end Crumb

end PathTemplates
