import Mathlib.Data.List.Induction
import PathTemplates.Crumb.Join
import PathTemplates.Proofs.Listing.Refusals
import PathTemplates.Proofs.Text.Pieces

namespace PathTemplates

namespace Crumb

variable {fs : FileSystem} {c : Crumb} {name pattern group : Text} {groups : List (Text × Text)}
  {g : Text × Text} {found : NameMap (List Crumb)} {ds es : List Crumb}

/-- The crumbs that are listed with the pattern for the argument. -/
def Selects (fs : FileSystem) (c : Crumb) (name pattern : Text) (ds : List Crumb) : Prop :=
  c.listCrumbs fs (name ++ ':' :: pattern) = .ok ds

/-- Some pair of the group selects the crumb. -/
def SelectedFor (fs : FileSystem) (c : Crumb) (name : Text) (groups : List (Text × Text))
    (group : Text) (d : Crumb) : Prop :=
  ∃ pattern ds, (group, pattern) ∈ groups ∧ c.Selects fs name pattern ds ∧ d ∈ ds

/-- The last pair of the group that selects any crumbs selects these. The pairs are parted there. -/
structure LastSelection (fs : FileSystem) (c : Crumb) (name : Text) (groups : List (Text × Text))
    (group : Text) (ds : List Crumb) (before : List (Text × Text)) (pattern : Text)
    (after : List (Text × Text)) : Prop where
  parted : groups = before ++ (group, pattern) :: after
  selects : c.Selects fs name pattern ds
  nonempty : ds ≠ []
  later : ∀ g ∈ after, g.1 = group → c.Selects fs name g.2 []

theorem Selects.unique (h : c.Selects fs name pattern ds) (h' : c.Selects fs name pattern es) :
    ds = es :=
  Except.ok.inj (h.symm.trans h')

theorem read_target (hcolon : ':' ∉ name) (pattern : Text) :
    Target.read (name ++ ':' :: pattern) = ⟨name, some pattern⟩ := by
  rw [Target.read, Text.cut_append hcolon]

theorem exists_selects (fs : FileSystem) (hname : c.mentions name = true) (hcolon : ':' ∉ name)
    (hcompiles : ∃ q, Pattern.compile c.mode pattern = .ok q) :
    ∃ ds, c.Selects fs name pattern ds := by
  have haccepts : c.Accepts (Target.read (name ++ ':' :: pattern)) := by
    rw [read_target hcolon]
    refine ⟨hname, fun text htext => ?_⟩
    cases htext
    exact hcompiles
  cases hlist : c.listCrumbs fs (name ++ ':' :: pattern) with
  | ok ds => exact ⟨ds, hlist⟩
  | error error =>
    rw [listCrumbs_eq_map_find, map_eq_error_iff, find_eq_error_iff] at hlist
    obtain ⟨t, ht, hnot⟩ := exists_firstRefusal_iff.1 ⟨error, hlist⟩
    cases List.mem_singleton.1 ht
    exact absurd haccepts hnot

/-- What one pair does to the groups that have been found. -/
def collect (fs : FileSystem) (c : Crumb) (name : Text) (found : NameMap (List Crumb))
    (g : Text × Text) : Except (Failure CrumbError) (NameMap (List Crumb)) :=
  (c.listCrumbs fs (name ++ ':' :: g.2)).map fun ds =>
    if ds = [] then found else found.insert g.1 ds

theorem groupBy_eq_foldlM (hname : c.mentions name = true) (groups : List (Text × Text)) :
    c.groupBy fs name groups = groups.foldlM (c.collect fs name) .empty := by
  rw [groupBy, checkName, if_pos hname]
  refine congrArg (fun step : NameMap (List Crumb) → Text × Text →
    Except (Failure CrumbError) (NameMap (List Crumb)) => groups.foldlM step .empty)
      (funext₂ fun found g => ?_)
  rw [collect]
  rcases c.listCrumbs fs (name ++ ':' :: g.2) with _ | _ | _ <;> rfl

theorem groupBy_concat (hname : c.mentions name = true)
    (hfound : c.groupBy fs name groups = .ok found) (hselects : c.Selects fs name g.2 ds) :
    c.groupBy fs name (groups ++ [g]) = .ok (if ds = [] then found else found.insert g.1 ds) := by
  rw [groupBy_eq_foldlM hname] at hfound ⊢
  rw [List.foldlM_append, hfound]
  show (c.collect fs name found g >>= fun next => .ok next) = _
  rw [collect, hselects]
  rfl

/-- Every group holds what one of its patterns selects. -/
theorem selects_of_groupBy (h : c.groupBy fs name groups = .ok found) : ∀ group ∈ found.entries,
    ∃ pattern, (group.1, pattern) ∈ groups ∧ c.Selects fs name pattern group.2 := by
  have hname : c.mentions name = true := by
    obtain ⟨_, hname, _⟩ := exists_of_bind_eq_ok h
    exact checkName_eq_ok_iff.1 (Failure.returning_eq_ok_iff.1 hname)
  rw [groupBy_eq_foldlM hname] at h
  induction groups using List.reverseRecOn generalizing found with
  | nil =>
    cases h
    exact nofun
  | append_singleton groups g ih =>
    rw [List.foldlM_append] at h
    obtain ⟨next, hnext, h⟩ := exists_of_bind_eq_ok h
    obtain ⟨_, hlast, h⟩ := exists_of_bind_eq_ok h
    obtain ⟨ds, hds, rfl⟩ := exists_of_map_eq_ok hlast
    cases h
    intro group hgroup
    have hearlier (hgroup : group ∈ next.entries) : ∃ pattern, (group.1, pattern) ∈ groups ++ [g] ∧
        c.Selects fs name pattern group.2 := by
      obtain ⟨pattern, hmem, hselects⟩ := ih hnext group hgroup
      exact ⟨pattern, List.mem_append_left _ hmem, hselects⟩
    split at hgroup
    · exact hearlier hgroup
    · obtain rfl | hgroup := NameMap.mem_insertInto hgroup
      · exact ⟨g.2, List.mem_append_right _ (List.mem_singleton_self g), hds⟩
      · exact hearlier hgroup

theorem lastSelection_concat (hselects : c.Selects fs name g.2 es) :
    (∃ before pattern after,
        LastSelection fs c name (groups ++ [g]) group ds before pattern after) ↔
      (g.1 = group ∧ es ≠ [] ∧ ds = es) ∨ ((g.1 = group → es = []) ∧
        ∃ before pattern after, LastSelection fs c name groups group ds before pattern after) := by
  constructor
  · rintro ⟨before, pattern, after, hparted, hpattern, hnonempty, hlater⟩
    rcases List.eq_nil_or_concat after with rfl | ⟨after, g', rfl⟩
    · obtain ⟨_, hlast⟩ := List.append_inj' hparted rfl
      cases hlast
      cases hselects.unique hpattern
      exact .inl ⟨rfl, hnonempty, rfl⟩
    · rw [List.concat_eq_append, ← List.cons_append, ← List.append_assoc] at hparted
      obtain ⟨hgroups, hlast⟩ := List.append_inj' hparted rfl
      cases hlast
      rw [List.concat_eq_append, List.forall_mem_append, List.forall_mem_singleton] at hlater
      exact .inr ⟨fun hg => hselects.unique (hlater.2 hg),
        before, pattern, after, hgroups, hpattern, hnonempty, hlater.1⟩
  · rintro (⟨rfl, hnonempty, rfl⟩ | ⟨hempty, before, pattern, after, h⟩)
    · exact ⟨groups, g.2, [], rfl, hselects, hnonempty, nofun⟩
    · refine ⟨before, pattern, after ++ [g], ?_, h.selects, h.nonempty, ?_⟩
      · rw [h.parted, List.append_assoc, List.cons_append]
      · refine List.forall_mem_append.2 ⟨h.later, List.forall_mem_singleton.2 fun hg => ?_⟩
        rwa [← hempty hg]

/-- By induction from the last pair on: what it selects takes the place of all that has been found
for its group before. -/
theorem exists_groupBy (hname : c.mentions name = true)
    (hlists : ∀ g ∈ groups, ∃ ds, c.Selects fs name g.2 ds) :
    ∃ found, c.groupBy fs name groups = .ok found ∧ ∀ group ds, found.get? group = some ds ↔
      ∃ before pattern after, LastSelection fs c name groups group ds before pattern after := by
  induction groups using List.reverseRecOn with
  | nil =>
    refine ⟨.empty, groupBy_eq_foldlM hname [], fun group ds => ?_⟩
    rw [NameMap.get?_empty]
    refine ⟨nofun, ?_⟩
    rintro ⟨before, pattern, after, h⟩
    simpa using h.parted
  | append_singleton groups g ih =>
    rw [List.forall_mem_append, List.forall_mem_singleton] at hlists
    obtain ⟨hlists, es, hselects⟩ := hlists
    obtain ⟨found, hfound, hiff⟩ := ih hlists
    refine ⟨_, groupBy_concat hname hfound hselects, fun group ds => ?_⟩
    rw [lastSelection_concat hselects, ← hiff]
    by_cases hes : es = []
    · simp [hes]
    · rw [if_neg hes, NameMap.get?_insert]
      by_cases hg : g.1 = group
      · simp [hes, hg, eq_comm]
      · simp [hg]

theorem LastSelection.selectedFor {before after : List (Text × Text)}
    (h : LastSelection fs c name groups group ds before pattern after) :
    ∀ d ∈ ds, c.SelectedFor fs name groups group d := fun _ hd =>
  ⟨pattern, ds, h.parted ▸ List.mem_append_right _ (List.mem_cons_self ..), h.selects, hd⟩

/-- Only what is selected in front of the last selection can be missing from it. -/
theorem LastSelection.forall_selectedFor_iff {before after : List (Text × Text)}
    (h : LastSelection fs c name groups group ds before pattern after) :
    (∀ d, c.SelectedFor fs name groups group d → d ∈ ds) ↔
      ∀ d, c.SelectedFor fs name before group d → d ∈ ds := by
  constructor
  · rintro hall d ⟨pattern', es, hmem, hes, hd⟩
    exact hall d ⟨pattern', es, h.parted ▸ List.mem_append_left _ hmem, hes, hd⟩
  · rintro hall d ⟨pattern', es, hmem, hes, hd⟩
    rw [h.parted] at hmem
    rcases List.mem_append.1 hmem with hmem | hmem
    · exact hall d ⟨pattern', es, hmem, hes, hd⟩
    · rcases List.mem_cons.1 hmem with heq | hmem
      · cases heq
        rwa [h.selects.unique hes]
      · cases (h.later _ hmem rfl).unique hes
        cases hd

theorem exists_lastSelection_iff (hlists : ∀ g ∈ groups, ∃ ds, c.Selects fs name g.2 ds) :
    (∃ ds before pattern after, LastSelection fs c name groups group ds before pattern after) ↔
      ∃ pattern ds, (group, pattern) ∈ groups ∧ c.Selects fs name pattern ds ∧ ds ≠ [] := by
  refine ⟨fun ⟨ds, before, pattern, after, h⟩ => ⟨pattern, ds, ?_, h.selects, h.nonempty⟩, ?_⟩
  · exact h.parted ▸ List.mem_append_right _ (List.mem_cons_self ..)
  · induction groups using List.reverseRecOn with
    | nil => exact fun ⟨_, _, hmem, _⟩ => absurd hmem List.not_mem_nil
    | append_singleton groups g ih =>
      rintro ⟨pattern, ds, hmem, hselects, hnonempty⟩
      rw [List.forall_mem_append, List.forall_mem_singleton] at hlists
      obtain ⟨hlists, es, hes⟩ := hlists
      by_cases hlast : g.1 = group ∧ es ≠ []
      · exact ⟨es, (lastSelection_concat hes).2 (.inl ⟨hlast.1, hlast.2, rfl⟩)⟩
      · have hempty : g.1 = group → es = [] := fun hg => by_contra fun hne => hlast ⟨hg, hne⟩
        have hmem : (group, pattern) ∈ groups := by
          rcases List.mem_append.1 hmem with hmem | hmem
          · exact hmem
          · cases List.mem_singleton.1 hmem
            exact absurd ((hselects.unique hes).trans (hempty rfl)) hnonempty
        obtain ⟨ds, h⟩ := ih hlists ⟨pattern, ds, hmem, hselects, hnonempty⟩
        exact ⟨ds, (lastSelection_concat hes).2 (.inr ⟨hempty, h⟩)⟩

/-- A group has an entry exactly if one of its pairs selects any crumbs. The entry holds what the
last such pair selects, all of it and nothing else, so that it lacks just those crumbs that only
earlier pairs of the group select. Nothing is missing where no group is named twice. -/
theorem groupBy_lastSelection (fs : FileSystem) (hname : c.mentions name = true)
    (hcolon : ':' ∉ name) (hcompiles : ∀ g ∈ groups, ∃ q, Pattern.compile c.mode g.2 = .ok q) :
    ∃ found, c.groupBy fs name groups = .ok found ∧
      (∀ g ∈ groups, ∃ ds, c.Selects fs name g.2 ds) ∧
      (∀ group, (found.get? group).isSome ↔
        ∃ pattern ds, (group, pattern) ∈ groups ∧ c.Selects fs name pattern ds ∧ ds ≠ []) ∧
      (∀ group ds, found.get? group = some ds →
        (∀ d ∈ ds, c.SelectedFor fs name groups group d) ∧
        ∃ before pattern after, LastSelection fs c name groups group ds before pattern after ∧
          ((∀ d, c.SelectedFor fs name groups group d → d ∈ ds) ↔
            ∀ d, c.SelectedFor fs name before group d → d ∈ ds)) ∧
      ((groups.map Prod.fst).Nodup → ∀ group ds, found.get? group = some ds →
        ∀ d, d ∈ ds ↔ c.SelectedFor fs name groups group d) := by
  have hlists : ∀ g ∈ groups, ∃ ds, c.Selects fs name g.2 ds := fun g hg =>
    exists_selects fs hname hcolon (hcompiles g hg)
  obtain ⟨found, hfound, hiff⟩ := exists_groupBy hname hlists
  refine ⟨found, hfound, hlists, fun group => ?_, fun group ds hget => ?_,
    fun hnodup group ds hget d => ?_⟩
  · simp only [Option.isSome_iff_exists, hiff, exists_lastSelection_iff hlists]
  · obtain ⟨before, pattern, after, h⟩ := (hiff group ds).1 hget
    exact ⟨h.selectedFor, before, pattern, after, h, h.forall_selectedFor_iff⟩
  · obtain ⟨before, pattern, after, h⟩ := (hiff group ds).1 hget
    refine ⟨h.selectedFor d, h.forall_selectedFor_iff.2 (fun d hd => ?_) d⟩
    obtain ⟨pattern', _, hmem, _⟩ := hd
    rw [h.parted, List.map_append, List.map_cons] at hnodup
    exact absurd rfl ((List.nodup_append.1 hnodup).2.2 group
      (List.mem_map.2 ⟨_, hmem, rfl⟩) group (List.mem_cons_self ..))

/-- `{k}` without a value. -/
def kinds : Crumb where
  template := ⟨[.argument ⟨['k'], none, ⟨0, 3⟩⟩]⟩
  values := .empty
  patterns := .empty .glob
  ignore := .empty
  checkExists := true
  distinct := by decide

/-- The files `a` and `b`. -/
def kindFiles : FileSystem where
  nodes := [([.text ['a']], .file), ([.text ['b']], .file)]
  current := []
  distinct := by decide
  named := by decide
  grounded := by decide

/-- One group with two patterns. -/
def kindGroups : List (Text × Text) := [(['g'], ['a', '*']), (['g'], ['b', '*'])]

theorem groupBy_lastSelection_sample : kinds.mentions ['k'] = true ∧ ':' ∉ ['k'] ∧
    (∀ g ∈ kindGroups, ∃ q, Pattern.compile kinds.mode g.2 = .ok q) ∧
    ∃ found, kinds.groupBy kindFiles ['k'] kindGroups = .ok found ∧
      (found.get? ['g']).isSome = true ∧ (found.get? ['h']).isSome = false := by
  have hcompiles : ∀ g ∈ kindGroups, ∃ q, Pattern.compile kinds.mode g.2 = .ok q :=
    List.forall_mem_cons.2 ⟨⟨_, rfl⟩, List.forall_mem_singleton.2 ⟨_, rfl⟩⟩
  have hname : kinds.mentions ['k'] = true := rfl
  obtain ⟨found, hfound, hlists, hsome, -⟩ :=
    groupBy_lastSelection kindFiles hname (by decide) hcompiles
  refine ⟨hname, by decide, hcompiles, found, hfound, (hsome _).2 ?_, ?_⟩
  · exact ⟨['a', '*'], [kinds.bindAll [⟨['k'], ['a']⟩]], List.mem_cons_self ..,
      by with_unfolding_all rfl, nofun⟩
  · rw [Bool.eq_false_iff]
    intro hh
    obtain ⟨pattern, _, hmem, _⟩ := (hsome _).1 hh
    simp [kindGroups] at hmem

/-- The first pattern selects `a`, but the group holds `b` only. -/
theorem exists_lost_crumb : ∃ d e found,
    kinds.mentions ['k'] = true ∧ (∀ g ∈ kindGroups, ∃ q, Pattern.compile kinds.mode g.2 = .ok q) ∧
      kinds.listCrumbs kindFiles ['k', ':', 'a', '*'] = .ok [d] ∧
      kinds.groupBy kindFiles ['k'] kindGroups = .ok found ∧
      (['g'], ['a', '*']) ∈ kindGroups ∧ found.get? ['g'] = some [e] ∧ d ∉ [e] := by
  refine ⟨kinds.bindAll [⟨['k'], ['a']⟩], kinds.bindAll [⟨['k'], ['b']⟩], _, rfl,
    List.forall_mem_cons.2 ⟨⟨_, rfl⟩, List.forall_mem_singleton.2 ⟨_, rfl⟩⟩,
    by with_unfolding_all rfl, by with_unfolding_all rfl, List.mem_cons_self ..,
    by with_unfolding_all rfl, fun hmem => ?_⟩
  exact absurd (congrArg path (List.mem_singleton.1 hmem)) (by decide)

end Crumb

end PathTemplates
