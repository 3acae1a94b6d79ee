import PathTemplates.Proofs.Listing.Levels
import PathTemplates.Proofs.Listing.Likeness

namespace PathTemplates

namespace Plan

theorem target?_nil (cs : List Component) (last : Nat) : target? cs last (.targets []) = none :=
  lastIndex?_eq_none.2 fun _ _ => List.any_eq_false.2 fun _ _ => Bool.false_ne_true

/-- Nothing is walked for targets that are all bound, unless paths have to be there. -/
theorem make?_targets_nil (cs : List Component) : make? cs false (.targets []) = none := by
  unfold make?
  split
  · rfl
  · rw [target?_nil]
    rfl

theorem kept_of_targets_nil {cs : List Component} {checkExists : Bool} {p : Plan}
    (h : make? cs checkExists (.targets []) = some p) : p.kept = 0 := by
  obtain ⟨_, _, hkept, _⟩ := make?_eq_some h
  rw [hkept, target?_nil]
  rfl

end Plan

namespace Crumb

open FileSystem (maxPathBytes)

variable {fs : FileSystem} {c e : Crumb} {a : Text} {before after : List Component} {k : Component}
  {t u : Assignment} {strict loose : List Assignment} {on : Bool}

/-- What a listing keeps where paths have to be there, of what it lists where they need not be: all
tuples that make a crumb that exists, and none without a completion. The crumb of a tuple may fail
to exist though the tuple has completions, if their paths are too long. -/
structure Sifts (fs : FileSystem) (e : Crumb) (strict loose : List Assignment) : Prop where
  opens : ∀ t ∈ loose, e.Opens t
  subset : ∀ t ∈ strict, t ∈ loose
  mem_of_exists : ∀ t ∈ loose, (e.bindAll t).pathExists fs = true → t ∈ strict
  completed : ∀ t ∈ strict, ∃ u ∈ (e.withCheckExists true).unfoldValues fs, Agrees t.get? u

theorem opens_withCheckExists_iff : (c.withCheckExists on).Opens t ↔ c.Opens t :=
  ⟨fun h => ⟨h.nodup, h.isOpen⟩, fun h => ⟨h.nodup, h.isOpen⟩⟩

namespace Sifts

theorem nil (fs : FileSystem) (e : Crumb) : Sifts fs e [] [] :=
  ⟨nofun, nofun, nofun, nofun⟩

/-- A tuple makes a crumb that exists if it has a completion whose path can be asked for. -/
theorem pathExists_of_short (h : Sifts fs e strict loose) (ht : t ∈ strict)
    (hu : u ∈ (e.withCheckExists true).unfoldValues fs) (hagree : Agrees t.get? u)
    (hlength : (e.bindAll u).path.utf8Length ≤ maxPathBytes) :
    (e.bindAll t).pathExists fs = true := by
  have hopens : (e.withCheckExists true).Opens t :=
    opens_withCheckExists_iff.2 (h.opens t (h.subset t ht))
  exact pathExists_eq_true_iff.2
    ⟨_, remaining_mem_unfoldValues (c := e.withCheckExists true) rfl hopens hu hagree hlength⟩

theorem filter_eq (h : Sifts fs e strict loose) (hstrict : strict.Pairwise (· < ·))
    (hloose : loose.Pairwise (· < ·)) :
    (strict.filter fun t => (e.bindAll t).pathExists fs) =
      loose.filter fun t => (e.bindAll t).pathExists fs := by
  refine SortedList.eq_of_mem_iff (hstrict.filter _) (hloose.filter _) fun t => ?_
  rw [List.mem_filter, List.mem_filter]
  exact ⟨fun ⟨ht, hthere⟩ => ⟨h.subset t ht, hthere⟩,
    fun ⟨ht, hthere⟩ => ⟨h.mem_of_exists t ht hthere, hthere⟩⟩

theorem eq_filter_of_short (h : Sifts fs e strict loose)
    (hstrict : strict.Pairwise (· < ·)) (hloose : loose.Pairwise (· < ·))
    (hlength : ∀ u ∈ (e.withCheckExists true).unfoldValues fs,
      (e.bindAll u).path.utf8Length ≤ maxPathBytes) :
    strict = loose.filter fun t => (e.bindAll t).pathExists fs := by
  rw [← h.filter_eq hstrict hloose]
  refine (List.filter_eq_self.2 fun t ht => ?_).symm
  obtain ⟨u, hu, hagree⟩ := h.completed t ht
  exact h.pathExists_of_short ht hu hagree (hlength u hu)

end Sifts

theorem agrees_of_sublist (h : t.Sublist u) (hu : c.Opens u) : Agrees t.get? u := by
  intro b hb v hv
  have hmem := hu.get?_of_mem _ (h.subset (Assignment.mem_of_get? hv))
  rw [hu.get?_of_mem b hb] at hmem
  exact (Option.some.inj hmem).symm

theorem Descends.withCheckExists {more : Prop} {folder stop : Text} {ks : List Component}
    (h : Descends fs (e.withCheckExists on) more folder ks u stop) (on' : Bool) :
    Descends fs (e.withCheckExists on') more folder ks u stop := h.of_eq rfl rfl

theorem sifts_unfoldValues (fs : FileSystem) (e : Crumb) :
    Sifts fs e ((e.withCheckExists true).unfoldValues fs)
      ((e.withCheckExists false).unfoldValues fs) where
  opens t ht := opens_withCheckExists_iff.1 (opens_of_mem_unfoldValues ht)
  subset t ht := by
    obtain ⟨stop, hdescends, _⟩ := mem_unfoldValues.1 ht
    exact mem_unfoldValues.2 ⟨stop, hdescends.withCheckExists false, nofun⟩
  mem_of_exists t ht hthere := by
    obtain ⟨ts, hts, _⟩ := (mem_unfoldValues.1 ht).fills
    have hstrict : Fills (e.withCheckExists true) (e.withCheckExists true).components t ts :=
      hts.of_bindingsFor_eq fun _ _ => rfl
    have hclosed : ((e.withCheckExists true).bindAll t).hasOpenNames = false :=
      hasOpenNames_bindAll hstrict.opens (names_of_mem_unfoldValues ht ▸ List.Subset.refl _)
    have hthere : ((e.withCheckExists true).bindAll t).pathExists fs = true := hthere
    rw [pathExists_of_not_hasOpenNames hclosed, hstrict.path_eq] at hthere
    exact (mem_unfoldValues_iff_fills (c := e.withCheckExists true) rfl).2
      ⟨ts, hstrict, hstrict.pathExists_reached hthere⟩
  completed t ht := ⟨t, ht, agrees_of_sublist (List.Sublist.refl t) (opens_of_mem_unfoldValues ht)⟩

theorem Level.withCheckExists (h : e.Level a before k after) (on : Bool) :
    (e.withCheckExists on).Level a before k after := ⟨h.components_eq, h.mem⟩

/-- A listing of an open argument. -/
theorem sifts_completions_level (fs : FileSystem) (h : e.Level a before k after) :
    Sifts fs e ((e.withCheckExists true).completions fs (.targets [a]))
      ((e.withCheckExists false).completions fs (.targets [a])) where
  opens t ht := h.opens ((h.withCheckExists false).names_of_mem ht)
  subset t ht := by
    obtain ⟨mid, hdescends, _⟩ := (h.withCheckExists true).mem_completions_iff.1 ht
    exact (h.withCheckExists false).mem_completions_iff.2
      ⟨mid, hdescends.withCheckExists false, nofun⟩
  mem_of_exists t ht hthere := by
    obtain ⟨mid, hdescends, _⟩ := (h.withCheckExists false).mem_completions_iff.1 ht
    have hdescends := hdescends.withCheckExists true
    obtain ⟨w, hw⟩ := pathExists_eq_true_iff.1 hthere
    -- The walk of the crumb goes on from another way to write the path of the level.
    obtain ⟨stop, hstop, hexists⟩ :=
      (h.withCheckExists true).exists_descends_below hdescends hw
    exact (h.withCheckExists true).mem_completions_iff.2
      ⟨mid, hdescends, fun _ => ⟨w, stop, hstop, hexists rfl⟩⟩
  completed t ht := by
    have level := h.withCheckExists true
    obtain ⟨mid, hdescends, hrest⟩ := level.mem_completions_iff.1 ht
    obtain ⟨w, stop, hstop, hexists⟩ := hrest rfl
    have hu : t ++ w ∈ (e.withCheckExists true).unfoldValues fs := mem_unfoldValues.2
      (level.completes_iff.2 ⟨t, w, mid, stop, hdescends, hstop, rfl, fun _ => hexists⟩)
    exact ⟨t ++ w, hu, agrees_of_sublist (List.sublist_append_left t w)
      (opens_of_mem_unfoldValues hu)⟩

/-- Targets that are all bound are listed once, if the crumb exists or need not. -/
theorem mem_completions_nil {t : Assignment} :
    t ∈ c.completions fs (.targets []) ↔
      t = [] ∧ (c.checkExists = true → c.pathExists fs = true) := by
  cases hon : c.checkExists with
  | false =>
    rw [mem_completions_of_none (by rw [hon]; exact Plan.make?_targets_nil _), hon]
    simp
  | true =>
    rw [pathExists_eq_true_iff, withCheckExists_of_eq hon]
    cases hplan : Plan.make? c.components c.checkExists (.targets []) with
    | none =>
      have hclosed := Plan.closed_of_make?_eq_none (hon ▸ hplan)
      simp [mem_completions_of_none hplan, mem_unfoldValues, completes_of_closed hclosed, hon]
    | some p =>
      have hlast := Plan.depth_eq_last_of_checkExists (hon ▸ hplan)
      simp [mem_completions_of_depth_eq_last hplan hlast, mem_unfoldValues,
        Plan.kept_of_targets_nil hplan, and_comm]

/-- A listing of a bound argument. -/
theorem sifts_completions_nil (fs : FileSystem) (e : Crumb) :
    Sifts fs e ((e.withCheckExists true).completions fs (.targets []))
      ((e.withCheckExists false).completions fs (.targets [])) where
  opens t ht := by
    obtain ⟨rfl, _⟩ := mem_completions_nil.1 ht
    exact ⟨.nil, nofun⟩
  subset t ht := mem_completions_nil.2 ⟨(mem_completions_nil.1 ht).1, nofun⟩
  mem_of_exists t ht hthere := by
    obtain ⟨rfl, _⟩ := mem_completions_nil.1 ht
    exact mem_completions_nil.2 ⟨rfl, fun _ => hthere⟩
  completed t ht := by
    obtain ⟨rfl, hthere⟩ := mem_completions_nil.1 ht
    obtain ⟨u, hu⟩ := pathExists_eq_true_iff.1 (hthere rfl)
    exact ⟨u, hu, nofun⟩

theorem SameFrame.openNames (h : SameFrame c e) : e.openNames = c.openNames := by
  rw [Crumb.openNames, h.names, h.values, Crumb.openNames]

theorem SameFrame.opens (h : SameFrame c e) (ht : e.Opens t) : c.Opens t :=
  ⟨ht.nodup, h.openNames ▸ ht.isOpen⟩

/-- The tuples of a listing of one argument, which the pattern may rule out if it is bound. -/
def foundFor (fs : FileSystem) (e : Crumb) (a : Text) : List Assignment :=
  if e.rejects a then []
  else e.completions fs (.targets ([a].filter fun n => !e.values.contains n))

theorem foundFor_of_rejects (h : e.rejects a = true) : foundFor fs e a = [] := if_pos h

theorem foundFor_of_bound (hrejects : e.rejects a = false) (h : e.values.contains a = true) :
    foundFor fs e a = e.completions fs (.targets []) := by
  simp [foundFor, hrejects, h]

theorem foundFor_of_open (h : e.values.contains a = false) :
    foundFor fs e a = e.completions fs (.targets [a]) := by
  have hvalue : e.values.get? a = none := NameMap.contains_eq_false_iff.1 h
  simp [foundFor, rejects, hvalue, h]

theorem ascending_foundFor (fs : FileSystem) (e : Crumb) (a : Text) :
    (foundFor fs e a).Pairwise (· < ·) := by
  unfold foundFor
  split
  · exact .nil
  · exact ascending_completions ..

theorem sifts_foundFor (fs : FileSystem) (ha : e.mentions a = true) :
    Sifts fs e (foundFor fs (e.withCheckExists true) a)
      (foundFor fs (e.withCheckExists false) a) := by
  cases hbound : e.values.contains a with
  | false =>
    obtain ⟨before, k, after, level⟩ := exists_level (mem_openNames.2 ⟨ha, hbound⟩)
    rw [foundFor_of_open (e := e.withCheckExists true) hbound,
      foundFor_of_open (e := e.withCheckExists false) hbound]
    exact sifts_completions_level fs level
  | true =>
    cases hrejects : e.rejects a with
    | true =>
      rw [foundFor_of_rejects (e := e.withCheckExists true) hrejects,
        foundFor_of_rejects (e := e.withCheckExists false) hrejects]
      exact .nil fs e
    | false =>
      rw [foundFor_of_bound (e := e.withCheckExists true) hrejects hbound,
        foundFor_of_bound (e := e.withCheckExists false) hrejects hbound]
      exact sifts_completions_nil fs e

theorem opens_of_mem_foundFor (ha : e.mentions a = true)
    (ht : t ∈ foundFor fs (e.withCheckExists on) a) : e.Opens t := by
  have hsifts := sifts_foundFor fs ha
  cases on with
  | true => exact hsifts.opens t (hsifts.subset t ht)
  | false => exact hsifts.opens t ht

/-- Once the tuple is bound the argument has a value. -/
theorem contains_of_mem_foundFor (ha : e.mentions a = true) (hopens : e.Opens t)
    (ht : t ∈ foundFor fs e a) : (e.bindAll t).values.contains a = true := by
  rw [NameMap.contains, hopens.get?]
  cases hbound : e.values.get? a with
  | some v => rfl
  | none =>
    have hopen : e.values.contains a = false := NameMap.contains_eq_false_iff.2 hbound
    obtain ⟨before, k, after, level⟩ := exists_level (mem_openNames.2 ⟨ha, hopen⟩)
    rw [foundFor_of_open hopen] at ht
    have hmem : a ∈ t.names := level.names_of_mem ht ▸ level.mem_names_level
    rw [Option.none_or, Option.isSome_iff_ne_none, ne_eq, Assignment.get?_eq_none_iff, not_not]
    exact hmem

/-- A listing of one target finds the tuples of the crumb with its pattern. -/
theorem find_eq_foundFor {target : Text} (h : c.withTargets [Target.read target] = .ok e) :
    c.find fs [target] =
      .ok ([(Target.read target).name], foundFor fs e (Target.read target).name) := by
  rw [find_eq (List.cons_ne_nil target []) h]
  simp only [List.map_cons, List.map_nil, List.any_cons, List.any_nil, Bool.or_false, foundFor]

theorem listCrumbs_eq_map {target : Text} (haccepts : c.Accepts (Target.read target))
    (hset : c.setPatterns [Target.read target] = .ok e) (on : Bool) :
    (c.withCheckExists on).listCrumbs fs target =
      .ok ((foundFor fs (e.withCheckExists on) (Target.read target).name).map
        (c.withCheckExists on).bindAll) := by
  obtain ⟨_, hset', hwith, hframe⟩ :=
    withTargets_eq_setPatterns (c := c.withCheckExists on)
      (List.forall_mem_singleton.2 ⟨haccepts.mentions, haccepts.compiles⟩)
  cases (setPatterns_withCheckExists on hset).symm.trans hset'
  have ha : e.mentions (Target.read target).name = true :=
    (hframe.mentions _).trans haccepts.mentions
  rw [listCrumbs, find_eq_foundFor hwith]
  exact congrArg Failure.returning (replaceEach_eq fun t ht =>
    hframe.opens (opens_withCheckExists_iff.2 (opens_of_mem_foundFor ha ht)))

theorem alike_bindAll (c : Crumb) (on : Bool) (t : Assignment) :
    Alike (c.bindAll t) ((c.withCheckExists on).bindAll t) := alike_withCheckExists (c.bindAll t) on

section

variable {fs : FileSystem} {ts : List Assignment} {f : Assignment → Crumb}
  (h : ∀ t ∈ ts, Alike (e.bindAll t) (f t))
include h

theorem map_path_of_alike : (ts.map f).map path = ts.map fun t => (e.bindAll t).path := by
  rw [List.map_map]
  exact List.map_congr_left fun t ht => (h t ht).path

theorem map_path_filter_of_alike : ((ts.map f).filter (pathExists fs)).map path =
    (ts.filter fun t => (e.bindAll t).pathExists fs).map fun t => (e.bindAll t).path := by
  have hfilter : ts.filter (pathExists fs ∘ f) = ts.filter fun t => (e.bindAll t).pathExists fs :=
    List.filter_congr fun t ht => (h t ht).pathExists_eq
  rw [List.filter_map, hfilter]
  exact map_path_of_alike fun t ht => h t (List.mem_filter.1 ht).1

end

/-- What a listing makes of its tuples looks like what the crumb with the pattern of the target
would make of them. -/
theorem alike_of_mem_foundFor (fs : FileSystem) {target : Text}
    (haccepts : c.Accepts (Target.read target)) (hset : c.setPatterns [Target.read target] = .ok e)
    (on : Bool) : ∀ t ∈ foundFor fs (e.withCheckExists on) (Target.read target).name,
      Alike (e.bindAll t) ((c.withCheckExists on).bindAll t) := by
  intro t ht
  obtain ⟨_, hset', _, hframe⟩ :=
    withTargets_eq_setPatterns (List.forall_mem_singleton.2 haccepts)
  cases hset.symm.trans hset'
  have ha : e.mentions (Target.read target).name = true :=
    (hframe.mentions _).trans haccepts.mentions
  have hopens := opens_of_mem_foundFor ha ht
  have hcontains := contains_of_mem_foundFor (e := e.withCheckExists on) ha
    (opens_withCheckExists_iff.2 hopens) ht
  have hvalues : (c.bindAll t).values = (e.bindAll t).values :=
    congrArg (NameMap.insertAll · t) hframe.values.symm
  have halike := alike_bindAll_of_setPatterns hset
    (show (c.bindAll t).values.contains _ = true from hvalues ▸ hcontains)
  exact halike.symm.trans (alike_bindAll c on t)

/-- A completion of all open arguments makes a crumb that exists if its path can be asked for. -/
theorem pathExists_bindAll_iff (hexists : c.checkExists = true) (hu : u ∈ c.unfoldValues fs) :
    (c.bindAll u).pathExists fs = true ↔
      (c.bindAll u).path.utf8Length ≤ maxPathBytes := by
  obtain ⟨ts, hts, hthere⟩ := (mem_unfoldValues_iff_fills hexists).1 hu
  have hclosed := hasOpenNames_bindAll hts.opens (names_of_mem_unfoldValues hu ▸ List.Subset.refl _)
  rw [pathExists_of_not_hasOpenNames hclosed, hts.path_eq]
  exact hts.pathExists_join_iff hthere

/-- A listing of one argument where paths have to be there has the crumbs that exist of the listing
where they need not be. If it has others, no way to complete them has a path short enough to be
asked for. The same holds for listings of all open arguments. -/
theorem listCrumbs_withCheckExists (fs : FileSystem) (c : Crumb) :
    (∀ target : Text, c.Accepts (Target.read target) → ∃ e strict loose,
      (c.withCheckExists true).setPatterns [Target.read target] = .ok e ∧
      (c.withCheckExists true).listCrumbs fs target = .ok strict ∧
      (c.withCheckExists false).listCrumbs fs target = .ok loose ∧
      (strict.filter (pathExists fs)).map path = (loose.filter (pathExists fs)).map path ∧
      (∀ d ∈ strict, ∀ u ∈ e.unfoldValues fs, Agrees d.values.get? u →
        (e.bindAll u).path.utf8Length ≤ maxPathBytes → d.pathExists fs = true) ∧
      ((∀ u ∈ e.unfoldValues fs, (e.bindAll u).path.utf8Length ≤ maxPathBytes) →
        strict.map path = (loose.filter (pathExists fs)).map path)) ∧
    ∃ paths ds, (c.withCheckExists true).unfoldPaths fs = .ok paths ∧
      (c.withCheckExists false).unfold fs = .ok ds ∧
      (paths.filter fun p => p.utf8Length ≤ maxPathBytes) =
        (ds.filter (pathExists fs)).map path := by
  constructor
  · intro target haccepts
    obtain ⟨e, hset, _, hframe⟩ :=
      withTargets_eq_setPatterns (List.forall_mem_singleton.2 haccepts)
    have ha : e.mentions (Target.read target).name = true :=
      (hframe.mentions _).trans haccepts.mentions
    have hsifts := sifts_foundFor fs ha
    have hstrict := ascending_foundFor fs (e.withCheckExists true) (Target.read target).name
    have hloose := ascending_foundFor fs (e.withCheckExists false) (Target.read target).name
    have halike := alike_of_mem_foundFor fs haccepts hset
    refine ⟨e.withCheckExists true, _, _, setPatterns_withCheckExists true hset,
      listCrumbs_eq_map haccepts hset true, listCrumbs_eq_map haccepts hset false,
      ?_, ?_, fun hlength => ?_⟩
    · rw [map_path_filter_of_alike (halike true), map_path_filter_of_alike (halike false),
        hsifts.filter_eq hstrict hloose]
    · refine List.forall_mem_map.2 fun t ht u hu hagree hlength => ?_
      rw [(halike true t ht).pathExists_eq]
      have hopens := hsifts.opens t (hsifts.subset t ht)
      refine hsifts.pathExists_of_short ht hu (fun b hb v hv => hagree b hb v ?_) hlength
      show (c.values.insertAll t).get? b.name = some v
      rw [NameMap.get?_insertAll _ hopens.nodup, hv]
      rfl
    · rw [map_path_of_alike (halike true), map_path_filter_of_alike (halike false),
        ← hsifts.eq_filter_of_short hstrict hloose hlength]
  · have hsifts := sifts_unfoldValues fs c
    refine ⟨_, _, unfoldPaths_eq fs _, unfold_eq fs _, ?_⟩
    rw [map_path_filter_of_alike fun t _ => alike_bindAll c false t,
      ← hsifts.filter_eq (ascending_completions ..) (ascending_completions ..), List.filter_map]
    have hfilter : ((c.withCheckExists true).unfoldValues fs).filter
        ((fun p : Text => decide (p.utf8Length ≤ maxPathBytes)) ∘
          fun u => ((c.withCheckExists true).bindAll u).path) =
        ((c.withCheckExists true).unfoldValues fs).filter fun u => (c.bindAll u).pathExists fs := by
      refine List.filter_congr fun u hu => ?_
      rw [Bool.eq_iff_iff]
      exact decide_eq_true_iff.trans
        (pathExists_bindAll_iff (c := c.withCheckExists true) rfl hu).symm
    rw [hfilter]
    rfl

theorem listCrumbs_withCheckExists_gap : (gap 0).Accepts (Target.read ['x']) ∧
    ∃ strict loose, ((gap 0).withCheckExists true).listCrumbs gapFiles ['x'] = .ok strict ∧
      ((gap 0).withCheckExists false).listCrumbs gapFiles ['x'] = .ok loose ∧
      (∃ d ∈ strict, d.pathExists gapFiles = true) ∧
      (strict.filter (pathExists gapFiles)).map path =
        (loose.filter (pathExists gapFiles)).map path := by
  have haccepts : (gap 0).Accepts (Target.read ['x']) := ⟨rfl, nofun⟩
  have hmem := mem_unfoldValues_gap 0
  have hlength : ((gap 0).bindAll gapValues).path.utf8Length ≤ maxPathBytes := by
    rw [length_path_gap]
    decide
  obtain ⟨e, strict, loose, hset, hstrict, hloose, heq, hthere, _⟩ :=
    (listCrumbs_withCheckExists gapFiles (gap 0)).1 ['x'] haccepts
  cases hset.symm.trans (show _ = .ok (gap 0) from rfl)
  obtain ⟨before, k, after, level, _⟩ := exists_level_gap 0
  obtain ⟨t, ht, w, _, hvalues⟩ := level.exists_append_eq hmem hlength
  have hd : (gap 0).bindAll t ∈ strict := by
    cases hstrict.symm.trans (listCrumbs_eq gapFiles level (by decide))
    exact List.mem_map_of_mem ht
  refine ⟨haccepts, strict, loose, hstrict, hloose,
    ⟨_, hd, hthere _ hd gapValues hmem ?_ hlength⟩, heq⟩
  have hagree : Agrees t.get? gapValues :=
    agrees_of_sublist (hvalues ▸ List.sublist_append_left t w) (opens_of_mem_unfoldValues hmem)
  intro b hb v hv
  refine hagree b hb v ?_
  rwa [(level.opens (level.names_of_mem ht)).get?] at hv

/-- With 4097 slashes the folder is listed where paths have to be there, but once it is bound there
is nothing to be found. -/
theorem listCrumbs_ne_filter_gap : (gap 4096).Accepts (Target.read ['x']) ∧
    ∃ strict loose, ((gap 4096).withCheckExists true).listCrumbs gapFiles ['x'] = .ok strict ∧
      ((gap 4096).withCheckExists false).listCrumbs gapFiles ['x'] = .ok loose ∧
      strict.map path ≠ (loose.filter (pathExists gapFiles)).map path := by
  obtain ⟨before, k, after, level, _⟩ := exists_level_gap 4096
  have hsifts := sifts_completions_level gapFiles level
  refine ⟨⟨rfl, nofun⟩, _, _,
    listCrumbs_eq gapFiles (level.withCheckExists true) (by decide),
    listCrumbs_eq gapFiles (level.withCheckExists false) (by decide), fun heq => ?_⟩
  rw [map_path_filter_of_alike fun t _ => alike_bindAll (gap 4096) false t,
    ← hsifts.filter_eq (ascending_completions ..) (ascending_completions ..)] at heq
  have hnone : ((((gap 4096).withCheckExists true).completions gapFiles (.targets [['x']])).filter
      fun t => ((gap 4096).bindAll t).pathExists gapFiles) = [] := by
    refine List.filter_eq_nil_iff.2 fun t ht hthere => ?_
    obtain ⟨v, hslash, rfl⟩ := exists_of_mem_completions_gap (n := 4096) ht
    rw [pathExists_bindAll_gap hslash (by decide)] at hthere
    cases hthere
  obtain ⟨t, w, mid, stop, hdescends, hstop, _, hexists⟩ :=
    level.completes_iff.1 (mem_unfoldValues.1 (mem_unfoldValues_gap 4096))
  have ht := (level.withCheckExists true).mem_completions_iff.2
    ⟨mid, hdescends, fun _ => ⟨w, stop, hstop, hexists rfl⟩⟩
  rw [hnone, List.map_nil, List.map_eq_nil_iff, List.map_eq_nil_iff] at heq
  rw [heq] at ht
  cases ht

end Crumb

end PathTemplates
