import Mathlib.Data.List.Basic
import PathTemplates.Proofs.Listing.Compilation
import PathTemplates.Proofs.Listing.Enumeration
import PathTemplates.Proofs.Text.Pieces

namespace PathTemplates

namespace Plan

variable {cs : List Component} {extent : Extent} {p : Plan}

theorem closed_of_make?_eq_none (h : make? cs true extent = none) :
    ∀ k ∈ cs, k.isOpen = false := by
  unfold make? at h
  split at h
  · next hnone => exact lastIndex?_eq_none.1 hnone
  · cases h

theorem depth_eq_last_of_checkExists (h : make? cs true extent = some p) : p.depth = p.last := by
  obtain ⟨_, _, _, hdepth⟩ := make?_eq_some h
  exact (Option.some.inj hdepth).symm

/-- What is kept reaches behind every target. -/
theorem mem_take_keptUpTo {ns : List Text} {n : Text} {last : Nat}
    (hopen : n ∈ cs.flatMap Component.names) (hn : n ∈ ns) :
    n ∈ (cs.flatMap Component.names).take (keptUpTo cs (target? cs last (.targets ns))) := by
  obtain ⟨k, hk, hnk⟩ := List.mem_flatMap.1 hopen
  have hany : k.names.any ns.contains = true :=
    List.any_eq_true.2 ⟨n, hnk, List.contains_iff_mem.2 hn⟩
  cases htarget : target? cs last (.targets ns) with
  | none =>
    have hnone := lastIndex?_eq_none.1 htarget k hk
    rw [hany] at hnone
    cases hnone
  | some target =>
    obtain ⟨i, hi⟩ := List.mem_iff_getElem?.1 hk
    have hle := (lastIndex?_eq_some htarget).2 i k hi hany
    have hmem : k ∈ cs.take (target + 1) := by
      refine List.mem_of_getElem? (i := i) ?_
      rwa [List.getElem?_take_of_lt (by omega)]
    rw [← Component.flatMap_names_take_append_drop (target + 1) cs, keptUpTo, List.take_left]
    exact List.mem_flatMap.2 ⟨k, hmem, hnk⟩

end Plan

namespace Crumb

variable {fs : FileSystem} {c d e : Crumb}

/-- The crumbs differ in patterns at most. -/
structure SameFrame (c d : Crumb) : Prop where
  names : d.names = c.names
  values : d.values = c.values
  ignore : d.ignore = c.ignore
  mode : d.mode = c.mode
  checkExists : d.checkExists = c.checkExists

theorem SameFrame.refl (c : Crumb) : SameFrame c c := ⟨rfl, rfl, rfl, rfl, rfl⟩

theorem SameFrame.trans (h : SameFrame c d) (h' : SameFrame d e) : SameFrame c e :=
  ⟨h'.names.trans h.names, h'.values.trans h.values, h'.ignore.trans h.ignore,
    h'.mode.trans h.mode, h'.checkExists.trans h.checkExists⟩

theorem SameFrame.mentions (h : SameFrame c d) (name : Text) :
    d.mentions name = c.mentions name := by
  have := h.names
  unfold Crumb.names at this
  rw [Crumb.mentions, Crumb.mentions, Template.mentions, Template.mentions, this]

theorem checkName_eq_ok_iff {name : Text} : c.checkName name = .ok () ↔ c.mentions name = true := by
  unfold checkName
  split
  · next h => exact ⟨fun _ => h, fun _ => rfl⟩
  · next h => exact ⟨nofun, fun h' => absurd h' h⟩

theorem mode_of_set {table table' : PatternTable} {name text : Text}
    (h : table.set name text = .ok table') : table'.mode = table.mode := by
  unfold PatternTable.set at h
  split at h
  · cases h
  · cases h
    rfl
  · cases h
    rfl

theorem exists_set {table : PatternTable} {name text : Text} {q : Pattern}
    (h : Pattern.compile table.mode text = .ok q) : ∃ table', table.set name text = .ok table' := by
  unfold PatternTable.set
  rw [h]
  cases q with
  | any => exact ⟨_, rfl⟩
  | glob g => exact ⟨_, rfl⟩
  | regex t x => exact ⟨_, rfl⟩

theorem setPattern_eq {name text : Text} {table : PatternTable} (hname : c.mentions name = true)
    (h : c.patterns.set name text = .ok table) :
    c.setPattern name text = .ok (withTemplate { c with patterns := table }
      (c.template.setPattern name (some text)) (c.template.names_setPattern ..)) := by
  rw [setPattern, checkName, if_pos hname, h]
  rfl

theorem exists_setPattern {name text : Text} {q : Pattern} (hname : c.mentions name = true)
    (h : Pattern.compile c.mode text = .ok q) :
    ∃ d, c.setPattern name text = .ok d ∧ SameFrame c d := by
  obtain ⟨table, htable⟩ := exists_set h
  exact ⟨_, setPattern_eq hname htable,
    ⟨c.template.names_setPattern .., rfl, rfl, mode_of_set htable, rfl⟩⟩

/-- The target is an argument, and its pattern can be read if it has one. -/
structure Accepts (c : Crumb) (t : Target) : Prop where
  mentions : c.mentions t.name = true
  compiles : ∀ text, t.pattern = some text → ∃ q, Pattern.compile c.mode text = .ok q

theorem accepts_of_plain {t : Target} (hmentions : c.mentions t.name = true)
    (hpattern : t.pattern = none) : c.Accepts t :=
  ⟨hmentions, by simp [hpattern]⟩

theorem SameFrame.accepts {t : Target} (h : SameFrame c d) (ht : c.Accepts t) : d.Accepts t :=
  ⟨(h.mentions t.name).trans ht.mentions, by rw [h.mode]; exact ht.compiles⟩

/-- Sets the patterns of some targets, one after another. -/
def setPatterns (c : Crumb) (ts : List Target) : Except (Failure CrumbError) Crumb :=
  ts.foldlM (fun c t => match t.pattern with
    | none => .ok c
    | some text => c.setPattern t.name text) c

/-- Targets that are accepted leave their patterns behind for those that follow. -/
theorem withTargets_append {ts : List Target} (h : ∀ t ∈ ts, c.Accepts t) :
    ∃ e, c.setPatterns ts = .ok e ∧ SameFrame c e ∧
      ∀ later, c.withTargets (ts ++ later) = e.withTargets later := by
  induction ts generalizing c with
  | nil => exact ⟨c, rfl, .refl c, fun later => rfl⟩
  | cons t ts ih =>
    obtain ⟨hmentions, hcompiles⟩ := h t (List.mem_cons_self ..)
    have hrest : ∀ t' ∈ ts, c.Accepts t' := fun t' ht' => h t' (List.mem_cons_of_mem _ ht')
    cases hpattern : t.pattern with
    | none =>
      obtain ⟨e, hset, hframe, hwith⟩ := ih hrest
      refine ⟨e, ?_, hframe, fun later => ?_⟩
      · rw [setPatterns, List.foldlM_cons, hpattern]
        exact hset
      · rw [List.cons_append, withTargets, checkName, if_pos hmentions, hpattern]
        exact hwith later
    | some text =>
      obtain ⟨q, hq⟩ := hcompiles text hpattern
      obtain ⟨d, hd, hframe⟩ := exists_setPattern hmentions hq
      obtain ⟨e, hset, hframe', hwith⟩ := ih fun t' ht' => hframe.accepts (hrest t' ht')
      refine ⟨e, ?_, hframe.trans hframe', fun later => ?_⟩
      · rw [setPatterns, List.foldlM_cons, hpattern]
        dsimp only
        rw [hd]
        exact hset
      · rw [List.cons_append, withTargets, checkName, if_pos hmentions, hpattern]
        dsimp only
        rw [hd]
        exact hwith later

theorem withTargets_eq_setPatterns {ts : List Target} (h : ∀ t ∈ ts, c.Accepts t) :
    ∃ e, c.setPatterns ts = .ok e ∧ c.withTargets ts = .ok e ∧ SameFrame c e := by
  obtain ⟨e, hset, hframe, hwith⟩ := withTargets_append h
  have hall := hwith []
  rw [List.append_nil, withTargets] at hall
  exact ⟨e, hset, hall, hframe⟩

/-- The row gives the names, in order, the values that they have in `u` or else in the crumb. -/
def Reads (c : Crumb) (u : Assignment) (names : List Text) (row : Assignment) : Prop :=
  row.names = names ∧ ∀ b ∈ row, (u.get? b.name).or (c.values.get? b.name) = some b.value

theorem get?_bound (c : Crumb) (name : Text) : c.bound.get? name = c.values.get? name := by
  unfold bound Assignment.get? NameMap.get?
  rw [List.find?_map, Option.map_map]
  rfl

theorem select_eq_some_iff {u row : Assignment} {names : List Text} :
    c.select u names = some row ↔ c.Reads u names row := by
  rw [select, Assignment.project_eq_some_iff]
  simp only [Assignment.get?_append, get?_bound, Reads]

theorem mem_selectAll {found : List Assignment} {names : List Text} {row : Assignment} :
    row ∈ c.selectAll found names ↔ ∃ u ∈ found, c.Reads u names row := by
  simp only [selectAll, SortedList.mem_ofList, List.mem_filterMap, select_eq_some_iff]

theorem exists_reads {u : Assignment} {names : List Text}
    (h : ∀ n ∈ names, ∃ v, (u.get? n).or (c.values.get? n) = some v) :
    ∃ row, c.Reads u names row := by
  induction names with
  | nil => exact ⟨[], rfl, fun b hb => nomatch hb⟩
  | cons n ns ih =>
    obtain ⟨v, hv⟩ := h n (List.mem_cons_self ..)
    obtain ⟨row, hnames, hall⟩ := ih fun n' hn' => h n' (List.mem_cons_of_mem _ hn')
    exact ⟨⟨n, v⟩ :: row, congrArg (n :: ·) hnames, List.forall_mem_cons.2 ⟨hv, hall⟩⟩

theorem Reads.congr {u u' row : Assignment} {names : List Text}
    (h : ∀ n ∈ names, (u.get? n).or (c.values.get? n) = (u'.get? n).or (c.values.get? n)) :
    c.Reads u names row ↔ c.Reads u' names row := by
  refine and_congr_right fun hnames => forall₂_congr fun b hb => ?_
  have hmem : b.name ∈ names := hnames ▸ List.mem_map_of_mem hb
  rw [h b.name hmem]

/-- A completion that is cut behind the last target still has the values of all targets. -/
theorem mem_completions_targets (fs : FileSystem) (ns : List Text)
    (hexists : c.checkExists = true) :
    ∃ kept, (∀ t, t ∈ c.completions fs (.targets ns) ↔ ∃ u ∈ c.unfoldValues fs, t = u.take kept) ∧
      ∀ n ∈ ns, n ∈ c.openNames → n ∈ c.openNames.take kept := by
  cases hplan : Plan.make? c.components c.checkExists (.targets ns) with
  | none =>
    have hclosed := Plan.closed_of_make?_eq_none (hexists ▸ hplan)
    have hnames : c.openNames = [] := by
      rw [← flatMap_names_components]
      exact Component.flatMap_names_eq_nil_iff.2 hclosed
    refine ⟨0, fun t => ?_, fun n _ hn => by rw [hnames] at hn; cases hn⟩
    simp only [mem_completions_of_none hplan, mem_unfoldValues, completes_of_closed hclosed,
      List.take_zero]
    constructor
    · intro h
      obtain ⟨rfl, hthere⟩ := h
      exact ⟨[], ⟨rfl, hthere⟩, rfl⟩
    · intro h
      obtain ⟨_, ⟨_, hthere⟩, rfl⟩ := h
      exact ⟨rfl, hthere⟩
  | some p =>
    have hlast := Plan.depth_eq_last_of_checkExists (hexists ▸ hplan)
    obtain ⟨_, _, hkept, _⟩ := Plan.make?_eq_some hplan
    refine ⟨p.kept, fun t => ?_, fun n hn hopen => ?_⟩
    · simp only [mem_completions_of_depth_eq_last hplan hlast, mem_unfoldValues]
    · rw [← flatMap_names_components] at hopen ⊢
      rw [hkept]
      exact Plan.mem_take_keptUpTo hopen hn

theorem mem_openNames {n : Text} :
    n ∈ c.openNames ↔ c.mentions n = true ∧ c.values.contains n = false := by
  simp [openNames, mentions, Template.mentions, names]

theorem get?_of_mem_openNames {n : Text} (h : n ∈ c.openNames) : c.values.get? n = none :=
  NameMap.contains_eq_false_iff.1 (mem_openNames.1 h).2

theorem names_of_mem_unfoldValues {u : Assignment} (h : u ∈ c.unfoldValues fs) :
    u.names = c.openNames :=
  names_of_completes (mem_unfoldValues.1 h)

/-- Every argument has a value in a completion or in the crumb. -/
theorem exists_value {u : Assignment} {n : Text} (hu : u ∈ c.unfoldValues fs)
    (hn : c.mentions n = true) : ∃ v, (u.get? n).or (c.values.get? n) = some v := by
  cases hbound : c.values.get? n with
  | some v =>
    cases hget : u.get? n with
    | some w => exact ⟨w, rfl⟩
    | none => exact ⟨v, rfl⟩
  | none =>
    have hopen : n ∈ u.names := by
      rw [names_of_mem_unfoldValues hu]
      exact mem_openNames.2 ⟨hn, NameMap.contains_eq_false_iff.2 hbound⟩
    cases hget : u.get? n with
    | some w => exact ⟨w, rfl⟩
    | none => exact absurd hopen (Assignment.get?_eq_none_iff.1 hget)

/-- Cutting a completion behind the targets changes none of their values. -/
theorem get?_take {u : Assignment} {n : Text} {kept : Nat} (hu : u ∈ c.unfoldValues fs)
    (hkept : n ∈ c.openNames → n ∈ c.openNames.take kept) :
    Assignment.get? (u.take kept) n = u.get? n := by
  have hnames := names_of_mem_unfoldValues hu
  have happend := Assignment.get?_append (u.take kept) (u.drop kept) n
  rw [List.take_append_drop] at happend
  rw [happend]
  cases hget : Assignment.get? (u.take kept) n with
  | some v => rfl
  | none =>
    have htake : n ∉ c.openNames.take kept := by
      rw [← hnames, Assignment.names, ← List.map_take]
      exact Assignment.get?_eq_none_iff.1 hget
    have hdrop : Assignment.get? (u.drop kept) n = none := by
      refine Assignment.get?_eq_none_iff.2 fun hmem => htake (hkept ?_)
      rw [← hnames]
      exact List.map_subset _ (List.drop_subset kept u) hmem
    rw [hdrop]
    rfl

theorem find_nil (fs : FileSystem) (c : Crumb) :
    c.find fs [] = .ok (c.openNames, c.unfoldValues fs) := by
  rw [find, if_pos rfl, completions?_eq]
  rfl

/-- Without targets the listing is that of all open arguments. -/
theorem listValues_nil (fs : FileSystem) (c : Crumb) :
    c.listValues fs [] = .ok (c.unfoldValues fs) := by
  have hselect : ∀ u ∈ c.unfoldValues fs, c.select u c.openNames = some u := by
    intro u hu
    have hnames := names_of_mem_unfoldValues hu
    have hnodup : u.names.Nodup := by
      rw [hnames]
      exact c.distinct.filter _
    refine select_eq_some_iff.2 ⟨hnames, fun b hb => ?_⟩
    rw [Assignment.get?_of_mem hnodup hb]
    rfl
  have hall : c.selectAll (c.unfoldValues fs) c.openNames = c.unfoldValues fs := by
    rw [selectAll, List.filterMap_congr hselect, List.filterMap_some]
    exact SortedList.ofList_eq_self (ascending_completions fs c .all)
  rw [listValues, find_nil]
  exact congrArg Except.ok hall

/-- Only the targets can be refused, whatever there is on disk. -/
theorem find_eq_map (fs : FileSystem) (c : Crumb) {targets : List Text} (hne : targets ≠ []) :
    c.find fs targets = (c.withTargets (targets.map Target.read)).map fun e =>
      ((targets.map Target.read).map (·.name),
        if ((targets.map Target.read).map (·.name)).any e.rejects then []
        else e.completions fs (.targets
          (((targets.map Target.read).map (·.name)).filter fun n => !e.values.contains n))) := by
  rw [find, if_neg hne]
  simp only [completions?_eq]
  cases c.withTargets (targets.map Target.read) with
  | error _ => rfl
  | ok e =>
    show (if _ then _ else _) = Except.ok (_, _)
    split <;> rfl

theorem find_eq {targets : List Text} (hne : targets ≠ [])
    (h : c.withTargets (targets.map Target.read) = .ok e) :
    c.find fs targets = .ok ((targets.map Target.read).map (·.name),
      if ((targets.map Target.read).map (·.name)).any e.rejects then []
      else e.completions fs (.targets
        (((targets.map Target.read).map (·.name)).filter fun n => !e.values.contains n))) := by
  rw [find_eq_map fs c hne, h]
  rfl

theorem Target.read_plain {a : Text} (h : ':' ∉ a) : Target.read a = ⟨a, none⟩ := by
  rw [Target.read, Text.cut_eq_none h]

/-- A target without a pattern changes nothing. -/
theorem withTargets_plain {a : Text} (ha : c.mentions a = true) (hcolon : ':' ∉ a) :
    c.withTargets [Target.read a] = .ok c := by
  rw [Target.read_plain hcolon, withTargets, checkName, if_pos ha]
  rfl

/-- A listing of one open argument without a pattern. -/
theorem find_openName {a : Text} (ha : a ∈ c.openNames) (hcolon : ':' ∉ a) :
    c.find fs [a] = .ok ([a], c.completions fs (.targets [a])) := by
  obtain ⟨hmentions, hopen⟩ := mem_openNames.1 ha
  have hrejects : c.rejects a = false := by rw [rejects, get?_of_mem_openNames ha]
  have hfind : c.find fs [a] = _ :=
    find_eq (List.cons_ne_nil a []) (withTargets_plain hmentions hcolon)
  rw [hfind]
  simp [Target.read_plain hcolon, hrejects, hopen]

theorem rejects_eq_true_iff {name : Text} :
    c.rejects name = true ↔
      ∃ v, c.values.get? name = some v ∧ c.patterns.allows name v = false := by
  unfold rejects
  cases c.values.get? name with
  | none => simp
  | some v => simp

/-- The tuples of some arguments, read off the completions of the crumb with the patterns of the
targets. -/
theorem mem_selectAll_targets {names : List Text} (hframe : SameFrame c e)
    (hexists : c.checkExists = true) {row : Assignment} :
    row ∈ c.selectAll (e.completions fs (.targets (names.filter fun n => !e.values.contains n)))
      names ↔ ∃ u ∈ e.unfoldValues fs, c.Reads u names row := by
  obtain ⟨kept, hmem, hkept⟩ := mem_completions_targets fs
    (names.filter fun n => !e.values.contains n) (hframe.checkExists.trans hexists)
  have hreads : ∀ u ∈ e.unfoldValues fs, c.Reads (u.take kept) names row ↔ c.Reads u names row := by
    intro u hu
    refine Reads.congr fun n hn => ?_
    rw [get?_take hu fun hopen => ?_]
    refine hkept n (List.mem_filter.2 ⟨hn, ?_⟩) hopen
    rw [(mem_openNames.1 hopen).2]
    rfl
  rw [mem_selectAll]
  constructor
  · intro ⟨t, ht, hrow⟩
    obtain ⟨u, hu, rfl⟩ := (hmem t).1 ht
    exact ⟨u, hu, (hreads u hu).1 hrow⟩
  · intro ⟨u, hu, hrow⟩
    exact ⟨u.take kept, (hmem _).2 ⟨u, hu, rfl⟩, (hreads u hu).2 hrow⟩

/-- The rows are read off all completions of `e`, each once and in ascending order. -/
structure Projects (fs : FileSystem) (c e : Crumb) (names : List Text) (rows : List Assignment) :
    Prop where
  ascending : rows.Pairwise (· < ·)
  mem_iff : ∀ row, row ∈ rows ↔ ∃ u ∈ e.unfoldValues fs, c.Reads u names row
  complete : ∀ u ∈ e.unfoldValues fs, ∃ row ∈ rows, c.Reads u names row

theorem projects_selectAll {names : List Text} (hframe : SameFrame c e)
    (hexists : c.checkExists = true) (hnames : ∀ n ∈ names, c.mentions n = true) :
    Projects fs c e names (c.selectAll
      (e.completions fs (.targets (names.filter fun n => !e.values.contains n))) names) where
  ascending := SortedList.ascending_ofList
  mem_iff _ := mem_selectAll_targets hframe hexists
  complete := by
    intro u hu
    obtain ⟨row, hrow⟩ : ∃ row, c.Reads u names row := by
      refine exists_reads fun n hn => ?_
      have hvalue := exists_value hu ((hframe.mentions n).trans (hnames n hn))
      rwa [hframe.values] at hvalue
    exact ⟨row, (mem_selectAll_targets hframe hexists).2 ⟨u, hu, hrow⟩, hrow⟩

/-- Without targets a listing is that of all open arguments. With targets it is read off the listing
of all open arguments of the crumb that has the patterns of the targets, unless one of these is
failed by a value that is bound already. -/
theorem listValues_projects (fs : FileSystem) (c : Crumb) :
    c.listValues fs [] = .ok (c.unfoldValues fs) ∧
      ∀ targets : List Text, targets ≠ [] → c.checkExists = true →
        (∀ t ∈ targets, c.Accepts (Target.read t)) →
        ∃ e rows, c.setPatterns (targets.map Target.read) = .ok e ∧
          c.listValues fs targets = .ok rows ∧
          ((∃ t ∈ targets.map Target.read, ∃ v,
              c.values.get? t.name = some v ∧ e.patterns.allows t.name v = false) → rows = []) ∧
          ((∀ t ∈ targets.map Target.read, ∀ v,
              c.values.get? t.name = some v → e.patterns.allows t.name v = true) →
            Projects fs c e ((targets.map Target.read).map (·.name)) rows) := by
  refine ⟨listValues_nil fs c, fun targets hne hexists haccepts => ?_⟩
  obtain ⟨e, hset, hwith, hframe⟩ :=
    withTargets_eq_setPatterns (List.forall_mem_map.2 haccepts)
  have hfind : c.find fs targets = _ := find_eq hne hwith
  refine ⟨e, _, hset, by rw [listValues, hfind]; rfl, ?_, ?_⟩
  · intro ⟨t, ht, v, hv, hfails⟩
    have hany : ((targets.map Target.read).map (·.name)).any e.rejects = true :=
      List.any_eq_true.2 ⟨t.name, List.mem_map_of_mem ht,
        rejects_eq_true_iff.2 ⟨v, by rw [hframe.values, hv], hfails⟩⟩
    rw [if_pos hany]
    rfl
  · intro hall
    have hnone : ¬((targets.map Target.read).map (·.name)).any e.rejects = true := by
      intro hany
      obtain ⟨n, hn, hrejects⟩ := List.any_eq_true.1 hany
      obtain ⟨t, ht, rfl⟩ := List.mem_map.1 hn
      obtain ⟨v, hv, hfails⟩ := rejects_eq_true_iff.1 hrejects
      rw [hall t ht v (by rw [← hframe.values, hv])] at hfails
      cases hfails
    rw [if_neg hnone]
    refine projects_selectAll hframe hexists fun n hn => ?_
    simp only [List.mem_map] at hn
    obtain ⟨t, ⟨target, htarget, rfl⟩, rfl⟩ := hn
    exact (haccepts target htarget).mentions

/-- `{a}/{b}_{k}` with a value for `k`. -/
def sample : Crumb where
  template := ⟨[.argument ⟨['a'], none, ⟨0, 3⟩⟩, .literal ['/'], .argument ⟨['b'], none, ⟨4, 7⟩⟩,
    .literal ['_'], .argument ⟨['k'], none, ⟨8, 11⟩⟩]⟩
  values := NameMap.empty.insert ['k'] ['x']
  patterns := .empty .glob
  ignore := .empty
  checkExists := true
  distinct := by decide

/-- The file `s/1_x` in its folder. -/
def sampleFiles : FileSystem where
  nodes := [([.text ['s']], .folder), ([.text ['1', '_', 'x'], .text ['s']], .file)]
  current := []
  distinct := by decide
  named := by decide
  grounded := by decide

def sampleTargets : List Text := [['b'], ['a', ':', 's', '*'], ['k'], ['b']]

theorem listValues_projects_sample :
    ∃ e rows, sample.setPatterns (sampleTargets.map Target.read) = .ok e ∧
      sample.listValues sampleFiles sampleTargets = .ok rows ∧
      Projects sampleFiles sample e [['b'], ['a'], ['k'], ['b']] rows := by
  have haccepts : ∀ t ∈ sampleTargets, sample.Accepts (Target.read t) := by
    simp only [sampleTargets, List.forall_mem_cons]
    refine ⟨accepts_of_plain rfl rfl, ⟨rfl, fun text h => ?_⟩, accepts_of_plain rfl rfl,
      accepts_of_plain rfl rfl, List.forall_mem_nil _⟩
    cases h
    exact ⟨_, rfl⟩
  obtain ⟨e, rows, hset, hrows, _, hall⟩ :=
    (listValues_projects sampleFiles sample).2 sampleTargets (List.cons_ne_nil _ _) rfl haccepts
  refine ⟨e, rows, hset, hrows, hall ?_⟩
  have he : sample.setPatterns (sampleTargets.map Target.read) = .ok _ := rfl
  cases hset.symm.trans he
  simp only [sampleTargets, List.map_cons, List.map_nil, List.forall_mem_cons]
  refine ⟨fun v hv => ?_, fun v hv => ?_, fun v hv => ?_, fun v hv => ?_, List.forall_mem_nil _⟩ <;>
    cases hv
  rfl

end Crumb

end PathTemplates
