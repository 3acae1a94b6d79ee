import Mathlib.Data.List.Perm.Basic
import PathTemplates.Proofs.Listing.Soundness
import PathTemplates.Proofs.Listing.Targets

namespace PathTemplates

namespace Crumb

variable {fs : FileSystem} {c : Crumb} {crumbs : List Crumb} {on names names' : List Text}
  {u row row' : Assignment} {rows : List Assignment}

/-- The names that are joined on: those asked for, or else all that the crumbs share, in the order
of the first one. -/
structure Resolves (crumbs : List Crumb) (on names : List Text) : Prop where
  ne_nil : names ≠ []
  mentions : ∀ c ∈ crumbs, ∀ n ∈ names, c.mentions n = true
  given : on ≠ [] → names = on
  shared : on = [] → ∃ first ∈ crumbs.head?, names.Sublist first.names ∧
    ∀ n, (∀ c ∈ crumbs, c.mentions n = true) → n ∈ names

theorem mem_names {n : Text} : n ∈ c.names ↔ c.mentions n = true := by
  simp [Crumb.mentions, Template.mentions, Crumb.names]

theorem sharedNames_of_ne_nil (h : on ≠ []) : sharedNames crumbs on = .ok names ↔
    names = on ∧ ∀ c ∈ crumbs, ∀ n ∈ on, c.mentions n = true := by
  have hcheck : (crumbs.forM fun c => on.forM c.checkName) = .ok () ↔
      ∀ c ∈ crumbs, ∀ n ∈ on, c.mentions n = true := by
    simp only [forM_eq_ok, checkName_eq_ok_iff]
  unfold sharedNames
  rw [if_neg h, ← hcheck]
  cases crumbs.forM fun c => on.forM c.checkName with
  | error e => exact ⟨nofun, fun h => nomatch h.2⟩
  | ok _ => exact ⟨fun h => ⟨(Except.ok.inj h).symm, rfl⟩, fun h => congrArg Except.ok h.1.symm⟩

theorem sharedNames_nil_cons {first : Crumb} {rest : List Crumb} :
    sharedNames (first :: rest) [] = .ok names ↔ names ≠ [] ∧
      names = first.names.filter fun n => (first :: rest).all fun c => c.mentions n := by
  rw [sharedNames, if_pos rfl]
  cases first.names.filter fun n => (first :: rest).all fun c => c.mentions n with
  | nil => exact ⟨nofun, fun h => absurd h.2 h.1⟩
  | cons n ns =>
    constructor
    · intro h
      cases h
      exact ⟨List.cons_ne_nil n ns, rfl⟩
    · rintro ⟨_, rfl⟩
      rfl

theorem resolves_of_sharedNames (h : sharedNames crumbs on = .ok names) :
    Resolves crumbs on names := by
  by_cases hon : on = []
  · subst hon
    cases crumbs with
    | nil => cases h
    | cons first rest =>
      obtain ⟨hne, rfl⟩ := sharedNames_nil_cons.1 h
      refine ⟨hne, fun c hc n hn => ?_, fun hon => absurd rfl hon,
        fun _ => ⟨first, rfl, List.filter_sublist, fun n hn => ?_⟩⟩
      · exact List.all_eq_true.1 (List.mem_filter.1 hn).2 c hc
      · exact List.mem_filter.2
          ⟨mem_names.2 (hn first (List.mem_cons_self ..)), List.all_eq_true.2 hn⟩
  · obtain ⟨rfl, hmentions⟩ := (sharedNames_of_ne_nil hon).1 h
    exact ⟨hon, hmentions, fun _ => rfl, fun h => absurd h hon⟩

/-- There are names to join on if each crumb has those asked for, or else one is shared. -/
theorem exists_sharedNames (hne : crumbs ≠ [])
    (hmentions : ∀ c ∈ crumbs, ∀ n ∈ on, c.mentions n = true)
    (hshared : on = [] → ∃ n, ∀ c ∈ crumbs, c.mentions n = true) :
    ∃ names, sharedNames crumbs on = .ok names := by
  by_cases hon : on = []
  · subst hon
    obtain ⟨first, rest, rfl⟩ := List.exists_cons_of_ne_nil hne
    obtain ⟨n, hn⟩ := hshared rfl
    refine ⟨_, sharedNames_nil_cons.2 ⟨List.ne_nil_of_mem (a := n) ?_, rfl⟩⟩
    exact List.mem_filter.2 ⟨mem_names.2 (hn first (List.mem_cons_self ..)), List.all_eq_true.2 hn⟩
  · exact ⟨on, (sharedNames_of_ne_nil hon).2 ⟨rfl, hmentions⟩⟩

theorem Resolves.sharedNames_singleton (h : Resolves crumbs on names) (hc : c ∈ crumbs) :
    sharedNames [c] names = .ok names :=
  (sharedNames_of_ne_nil h.ne_nil).2 ⟨rfl, List.forall_mem_singleton.2 (h.mentions c hc)⟩

/-- The names do not depend on the order of the crumbs, but for their own order. -/
theorem Resolves.perm {crumbs' : List Crumb} (h : Resolves crumbs on names)
    (h' : Resolves crumbs' on names') (hsame : ∀ c, c ∈ crumbs' ↔ c ∈ crumbs) :
    names'.Perm names := by
  by_cases hon : on = []
  · obtain ⟨first, _, hsublist, hall⟩ := h.shared hon
    obtain ⟨first', _, hsublist', hall'⟩ := h'.shared hon
    refine (List.perm_ext_iff_of_nodup (first'.distinct.sublist hsublist')
      (first.distinct.sublist hsublist)).2 fun n => ⟨fun hn => ?_, fun hn => ?_⟩
    · exact hall n fun c hc => h'.mentions c ((hsame c).2 hc) n hn
    · exact hall' n fun c hc => h.mentions c ((hsame c).1 hc) n hn
  · rw [h.given hon, h'.given hon]

/-- The rows over some names that each crumb has a completion for. No completion of one of the
crumbs is without a row. -/
structure Joins (fs : FileSystem) (crumbs : List Crumb) (names : List Text)
    (rows : List Assignment) : Prop where
  ascending : rows.Pairwise (· < ·)
  mem_iff : ∀ row, row ∈ rows ↔ ∀ c ∈ crumbs, ∃ u ∈ c.unfoldValues fs, c.Reads u names row
  kept : ∀ c ∈ crumbs, ∀ u ∈ c.unfoldValues fs, ∃ row, c.select u names = some row

theorem mem_valuesOver : row ∈ c.valuesOver fs names ↔
    ∃ u ∈ c.unfoldValues fs, c.Reads u names row := mem_selectAll

theorem ascending_valuesOver (fs : FileSystem) (c : Crumb) (names : List Text) :
    (c.valuesOver fs names).Pairwise (· < ·) := SortedList.ascending_ofList

theorem mem_commonTuples {lists : List (List Assignment)} (hne : lists ≠ []) :
    row ∈ commonTuples lists ↔ ∀ rows ∈ lists, row ∈ rows := by
  obtain ⟨first, rest, rfl⟩ := List.exists_cons_of_ne_nil hne
  simp [commonTuples]

theorem ascending_commonTuples {lists : List (List Assignment)}
    (h : ∀ rows ∈ lists, rows.Pairwise (· < ·)) : (commonTuples lists).Pairwise (· < ·) := by
  cases lists with
  | nil => exact .nil
  | cons first rest => exact (h first (List.mem_cons_self ..)).filter _

theorem joins_commonTuples (fs : FileSystem) (hne : crumbs ≠ [])
    (hmentions : ∀ c ∈ crumbs, ∀ n ∈ names, c.mentions n = true) :
    Joins fs crumbs names (commonTuples (crumbs.map fun c => c.valuesOver fs names)) where
  ascending := ascending_commonTuples
    (List.forall_mem_map.2 fun c _ => ascending_valuesOver fs c names)
  mem_iff row := by
    rw [mem_commonTuples (by simpa using hne), List.forall_mem_map]
    exact forall₂_congr fun c _ => mem_valuesOver
  kept c hc u hu := by
    obtain ⟨row, hrow⟩ := exists_reads fun n hn => exists_value hu (hmentions c hc n hn)
    exact ⟨row, select_eq_some_iff.2 hrow⟩

theorem intersection_eq_ok (h : sharedNames crumbs on = .ok names) : intersection fs crumbs on =
    .ok (commonTuples (crumbs.map fun c => c.valuesOver fs names)) := by
  rw [intersection, h]
  show (do return commonTuples (← crumbs.mapM fun c : Crumb => c.valuesOver? fs names)) = _
  rw [mapM_eq_ok fun c _ => valuesOver?_eq fs c names]
  rfl

theorem resolves_of_intersection (h : intersection fs crumbs on = .ok rows) :
    ∃ names, Resolves crumbs on names ∧
      rows = commonTuples (crumbs.map fun c => c.valuesOver fs names) := by
  cases hnames : sharedNames crumbs on with
  | error e =>
    rw [intersection, hnames] at h
    cases h
  | ok names =>
    rw [intersection_eq_ok hnames] at h
    exact ⟨names, resolves_of_sharedNames hnames, (Except.ok.inj h).symm⟩

theorem jointValues_eq_ok (h : sharedNames [c] on = .ok names) :
    c.jointValues fs on = .ok (c.valuesOver fs names) := by
  rw [jointValues, h]
  exact valuesOver?_eq fs c names

theorem difference_eq_ok {a b : Crumb} (h : sharedNames [a, b] on = .ok names) :
    difference fs a b on = .ok ((a.valuesOver fs names).filter fun t =>
      !(b.valuesOver fs names).contains t) := by
  rw [difference, h]
  simp only [valuesOver?_eq]
  rfl

theorem Reads.perm (h : c.Reads u names row) (hperm : row.Perm row') :
    c.Reads u row'.names row' := ⟨rfl, fun b hb => h.2 b (hperm.mem_iff.2 hb)⟩

/-- A row may be put in another order of its names. -/
theorem exists_perm_row (h : row.names.Perm names) :
    ∃ row' : Assignment, row'.names = names ∧ row'.Perm row := by
  have hcomp : Relation.Comp (fun (ns : List Text) (r : Assignment) => ns = r.map (·.name))
      List.Perm names row := by
    rw [List.eq_map_comp_perm]
    exact h.symm
  obtain ⟨row', rfl, hperm⟩ := hcomp
  exact ⟨row', rfl, hperm⟩

theorem Joins.mem_of_perm {crumbs' : List Crumb} {rows' : List Assignment}
    (h : Joins fs crumbs names rows) (h' : Joins fs crumbs' names' rows')
    (hsame : ∀ c ∈ crumbs', c ∈ crumbs) (hrow : row ∈ rows) (hperm : row.Perm row')
    (hnames : row'.names = names') : row' ∈ rows' := by
  refine (h'.mem_iff row').2 fun c hc => ?_
  obtain ⟨u, hu, hreads⟩ := (h.mem_iff row).1 hrow c (hsame c hc)
  exact ⟨u, hu, hnames ▸ hreads.perm hperm⟩

theorem Joins.names_of_mem (h : Joins fs crumbs names rows) (hne : crumbs ≠ [])
    (hrow : row ∈ rows) : row.names = names := by
  obtain ⟨c, hc⟩ := List.exists_mem_of_ne_nil crumbs hne
  obtain ⟨u, _, hnames, _⟩ := (h.mem_iff row).1 hrow c hc
  exact hnames

/-- The rows of joins of the same crumbs are the same but for the order of the columns. -/
theorem Joins.mem_iff_perm {crumbs' : List Crumb} {rows' : List Assignment}
    (h : Joins fs crumbs names rows) (h' : Joins fs crumbs' names' rows') (hne : crumbs' ≠ [])
    (hsame : ∀ c, c ∈ crumbs' ↔ c ∈ crumbs) (hnames : names'.Perm names) :
    row' ∈ rows' ↔ row'.names = names' ∧ ∃ row ∈ rows, row.Perm row' := by
  constructor
  · intro hrow'
    have hnames' := h'.names_of_mem hne hrow'
    obtain ⟨row, hrow, hperm⟩ := exists_perm_row (hnames' ▸ hnames)
    exact ⟨hnames', row, h'.mem_of_perm h (fun c => (hsame c).2) hrow' hperm.symm hrow, hperm⟩
  · rintro ⟨hnames', row, hrow, hperm⟩
    exact h.mem_of_perm h' (fun c => (hsame c).1) hrow hperm hnames'

theorem Joins.eq_of_mem_iff {crumbs' : List Crumb} {rows' : List Assignment}
    (h : Joins fs crumbs names rows) (h' : Joins fs crumbs' names rows')
    (hsame : ∀ c, c ∈ crumbs' ↔ c ∈ crumbs) : rows' = rows := by
  refine SortedList.eq_of_mem_iff h'.ascending h.ascending fun row => ?_
  rw [h'.mem_iff, h.mem_iff]
  exact forall_congr' fun c => imp_congr_left (hsame c)

theorem commonTuples_pair (left right : List Assignment) :
    commonTuples [left, right] = left.filter fun t => right.contains t := by
  simp [commonTuples]

theorem disjoint_commonTuples (left right : List Assignment) :
    (left.filter fun t => !right.contains t).Disjoint (commonTuples [left, right]) := by
  intro t honly hcommon
  rw [commonTuples_pair] at hcommon
  have hnot := (List.mem_filter.1 honly).2
  rw [(List.mem_filter.1 hcommon).2] at hnot
  cases hnot

theorem append_commonTuples_perm (left right : List Assignment) :
    ((left.filter fun t => !right.contains t) ++ commonTuples [left, right]).Perm left := by
  rw [commonTuples_pair]
  exact List.perm_append_comm.trans (List.filter_append_perm (fun t => right.contains t) left)

/-- A join holds, in ascending order, the rows over the names joined on that each crumb has a
completion for, and it drops no completion. To put the crumbs in another order or to repeat some
changes the order of the columns at most. Of two crumbs, the rows of the first one are those of the
join and those of the difference. -/
theorem intersection_joins (fs : FileSystem) (hne : crumbs ≠ [])
    (hmentions : ∀ c ∈ crumbs, ∀ n ∈ on, c.mentions n = true)
    (hshared : on = [] → ∃ n, ∀ c ∈ crumbs, c.mentions n = true) :
    ∃ names rows, Resolves crumbs on names ∧ intersection fs crumbs on = .ok rows ∧
      Joins fs crumbs names rows ∧
      (∀ crumbs' : List Crumb, (∀ c, c ∈ crumbs' ↔ c ∈ crumbs) → ∃ names' rows',
        Resolves crumbs' on names' ∧ intersection fs crumbs' on = .ok rows' ∧
        rows'.Pairwise (· < ·) ∧ (on ≠ [] → rows' = rows) ∧ names'.Perm names ∧
        ∀ row', row' ∈ rows' ↔ row'.names = names' ∧ ∃ row ∈ rows, row.Perm row') ∧
      ∀ a b, crumbs = [a, b] → ∃ left only, a.jointValues fs names = .ok left ∧
        difference fs a b on = .ok only ∧ only.Disjoint rows ∧ (only ++ rows).Perm left := by
  obtain ⟨names, hnames⟩ := exists_sharedNames hne hmentions hshared
  have hresolves := resolves_of_sharedNames hnames
  have hjoins := joins_commonTuples fs hne hresolves.mentions
  refine ⟨names, _, hresolves, intersection_eq_ok hnames, hjoins, fun crumbs' hsame => ?_, ?_⟩
  · have hne' : crumbs' ≠ [] := by
      obtain ⟨c, hc⟩ := List.exists_mem_of_ne_nil crumbs hne
      exact List.ne_nil_of_mem ((hsame c).2 hc)
    obtain ⟨names', hnames'⟩ := exists_sharedNames hne'
      (fun c hc => hmentions c ((hsame c).1 hc))
      fun hon => (hshared hon).imp fun n hn c hc => hn c ((hsame c).1 hc)
    have hresolves' := resolves_of_sharedNames hnames'
    have hjoins' := joins_commonTuples fs hne' hresolves'.mentions
    have hperm := hresolves.perm hresolves' hsame
    refine ⟨names', _, hresolves', intersection_eq_ok hnames', hjoins'.ascending, fun hon => ?_,
      hperm, fun row' => hjoins.mem_iff_perm hjoins' hne' hsame hperm⟩
    obtain rfl : names' = names := (hresolves'.given hon).trans (hresolves.given hon).symm
    exact hjoins.eq_of_mem_iff hjoins' hsame
  · rintro a b rfl
    exact ⟨_, _, jointValues_eq_ok (hresolves.sharedNames_singleton (List.mem_cons_self ..)),
      difference_eq_ok hnames, disjoint_commonTuples .., append_commonTuples_perm ..⟩

theorem intersection_joins_gap : [gap 0, gap 1] ≠ [] ∧
    (∃ n, ∀ c ∈ [gap 0, gap 1], c.mentions n = true) ∧
    ∃ rows, intersection gapFiles [gap 0, gap 1] [] = .ok rows ∧ gapValues ∈ rows := by
  have hshared : ∃ n, ∀ c ∈ [gap 0, gap 1], c.mentions n = true :=
    ⟨['x'], List.forall_mem_cons.2 ⟨rfl, List.forall_mem_singleton.2 rfl⟩⟩
  have hrow (n : Nat) : gapValues ∈ (gap n).valuesOver gapFiles [['x'], ['y']] :=
    mem_valuesOver.2 ⟨gapValues, mem_unfoldValues_gap n, rfl,
      List.forall_mem_cons.2 ⟨rfl, List.forall_mem_singleton.2 rfl⟩⟩
  have hmentions : ∀ c ∈ [gap 0, gap 1], ∀ n ∈ ([] : List Text), c.mentions n = true := nofun
  obtain ⟨names, rows, _, hrows, _⟩ :=
    intersection_joins gapFiles (List.cons_ne_nil _ _) hmentions fun _ => hshared
  have hnames : sharedNames [gap 0, gap 1] [] = .ok [['x'], ['y']] := rfl
  refine ⟨List.cons_ne_nil _ _, hshared, rows, hrows, ?_⟩
  cases hrows.symm.trans (intersection_eq_ok hnames)
  exact (mem_commonTuples (List.cons_ne_nil _ _)).2
    (List.forall_mem_cons.2 ⟨hrow 0, List.forall_mem_singleton.2 (hrow 1)⟩)

theorem withTargets_of_mentions (h : ∀ n ∈ names, c.mentions n = true) :
    c.withTargets (names.map fun n => ⟨n, none⟩) = .ok c := by
  induction names with
  | nil => rfl
  | cons n names ih =>
    obtain ⟨hn, hnames⟩ := List.forall_mem_cons.1 h
    rw [List.map_cons, withTargets, checkName, if_pos hn]
    exact ih hnames

/-- A listing of some arguments without patterns. -/
theorem listValues_of_mentions (fs : FileSystem) (hne : names ≠ [])
    (hmentions : ∀ n ∈ names, c.mentions n = true) (hcolon : ∀ n ∈ names, ':' ∉ n) :
    c.listValues fs names = .ok (c.selectAll (if names.any c.rejects then [] else
      c.completions fs (.targets (names.filter fun n => !c.values.contains n))) names) := by
  have hread : names.map Target.read = names.map fun n => ⟨n, none⟩ :=
    List.map_congr_left fun n hn => Target.read_plain (hcolon n hn)
  have hnames : (names.map fun n => (⟨n, none⟩ : Target)).map (·.name) = names := by
    rw [List.map_map]
    exact List.map_id names
  have hfind : c.find fs names = _ := find_eq hne (hread ▸ withTargets_of_mentions hmentions)
  rw [hread, hnames] at hfind
  rw [listValues, hfind]
  rfl

/-- The join of a crumb with itself is its listing, unless a value that is bound already fails its
pattern. A listing is empty then, and a join does not look at patterns of bound values. -/
theorem intersection_self (fs : FileSystem) (hexists : c.checkExists = true) (hne : names ≠ [])
    (hmentions : ∀ n ∈ names, c.mentions n = true) (hcolon : ∀ n ∈ names, ':' ∉ n) :
    ∃ rows, intersection fs [c, c] names = .ok rows ∧ c.jointValues fs names = .ok rows ∧
      ((∀ n ∈ names, ∀ v, c.values.get? n = some v → c.patterns.allows n v = true) →
        c.listValues fs names = .ok rows) ∧
      ((∃ n ∈ names, ∃ v, c.values.get? n = some v ∧ c.patterns.allows n v = false) →
        c.listValues fs names = .ok []) := by
  have hpair : sharedNames [c, c] names = .ok names :=
    (sharedNames_of_ne_nil hne).2 ⟨rfl, by simpa using hmentions⟩
  have hsingle : sharedNames [c] names = .ok names :=
    (sharedNames_of_ne_nil hne).2 ⟨rfl, List.forall_mem_singleton.2 hmentions⟩
  have hlist := listValues_of_mentions fs hne hmentions hcolon
  refine ⟨c.valuesOver fs names, ?_, jointValues_eq_ok hsingle, fun hallows => ?_, fun hfails => ?_⟩
  · rw [intersection_eq_ok hpair]
    simp [commonTuples]
  · have hnone : ¬names.any c.rejects = true := by
      intro hany
      obtain ⟨n, hn, hrejects⟩ := List.any_eq_true.1 hany
      obtain ⟨v, hv, hfails⟩ := rejects_eq_true_iff.1 hrejects
      rw [hallows n hn v hv] at hfails
      cases hfails
    rw [hlist, if_neg hnone]
    refine congrArg Except.ok (SortedList.eq_of_mem_iff SortedList.ascending_ofList
      SortedList.ascending_ofList fun row => ?_)
    exact (mem_selectAll_targets (.refl c) hexists).trans mem_valuesOver.symm
  · obtain ⟨n, hn, hfails⟩ := hfails
    have hany : names.any c.rejects = true :=
      List.any_eq_true.2 ⟨n, hn, rejects_eq_true_iff.2 hfails⟩
    rw [hlist, if_pos hany]
    rfl

/-- The folder is a row over the first argument, however many slashes follow it. -/
theorem mem_valuesOver_gap (n : Nat) :
    [⟨['x'], ['s']⟩] ∈ (gap n).valuesOver gapFiles [['x']] :=
  mem_valuesOver.2 ⟨gapValues, mem_unfoldValues_gap n, rfl, List.forall_mem_singleton.2 rfl⟩

theorem intersection_self_gap : (gap 0).checkExists = true ∧ [['x']] ≠ [] ∧
    (∀ n ∈ [['x']], (gap 0).mentions n = true) ∧ (∀ n ∈ [['x']], ':' ∉ n) ∧
    ∃ rows, intersection gapFiles [gap 0, gap 0] [['x']] = .ok rows ∧
      (gap 0).listValues gapFiles [['x']] = .ok rows ∧ [⟨['x'], ['s']⟩] ∈ rows := by
  have hmentions : ∀ n ∈ [['x']], (gap 0).mentions n = true := List.forall_mem_singleton.2 rfl
  obtain ⟨rows, hrows, hjoint, hlist, _⟩ := intersection_self gapFiles (c := gap 0) rfl
    (List.cons_ne_nil ['x'] []) hmentions (by decide)
  refine ⟨rfl, List.cons_ne_nil _ _, hmentions, by decide, rows, hrows, hlist ?_, ?_⟩
  · exact List.forall_mem_singleton.2 nofun
  · cases hjoint.symm.trans (jointValues_eq_ok rfl)
    exact mem_valuesOver_gap 0

/-- `{a:x}` with the value `y`. -/
def mismatched : Crumb where
  template := ⟨[.argument ⟨['a'], some ['x'], ⟨0, 5⟩⟩]⟩
  values := NameMap.empty.insert ['a'] ['y']
  patterns := ⟨.glob, NameMap.empty.insert ['a'] (.glob ⟨['x'], [.literal 'x']⟩)⟩
  ignore := .empty
  checkExists := true
  distinct := by decide

/-- The file `y`. -/
def mismatchedFiles : FileSystem where
  nodes := [([.text ['y']], .file)]
  current := []
  distinct := by decide
  named := by decide
  grounded := by decide

/-- The value is in the join, and the listing is empty. -/
theorem jointValues_ne_listValues_mismatched : mismatched.checkExists = true ∧
    mismatched.mentions ['a'] = true ∧ ∃ rows rows',
      mismatched.jointValues mismatchedFiles [['a']] = .ok rows ∧
      mismatched.listValues mismatchedFiles [['a']] = .ok rows' ∧ rows ≠ rows' := by
  have hmentions : ∀ n ∈ [['a']], mismatched.mentions n = true := List.forall_mem_singleton.2 rfl
  have hany : [['a']].any mismatched.rejects = true := rfl
  have hlist := listValues_of_mentions mismatchedFiles (List.cons_ne_nil ['a'] []) hmentions
    (by decide)
  rw [if_pos hany] at hlist
  have hclosed : ∀ k ∈ mismatched.components, k.isOpen = false := hasOpenNames_eq_false_iff.1 rfl
  have hmem : [] ∈ mismatched.unfoldValues mismatchedFiles :=
    mem_unfoldValues.2 ((completes_of_closed hclosed).2 ⟨rfl, fun _ => rfl⟩)
  have hrow : [⟨['a'], ['y']⟩] ∈ mismatched.valuesOver mismatchedFiles [['a']] :=
    mem_valuesOver.2 ⟨[], hmem, rfl, List.forall_mem_singleton.2 rfl⟩
  exact ⟨rfl, rfl, _, _, jointValues_eq_ok rfl, hlist, List.ne_nil_of_mem hrow⟩

end Crumb

end PathTemplates
