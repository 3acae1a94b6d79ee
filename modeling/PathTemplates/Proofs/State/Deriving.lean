import PathTemplates.Proofs.State.Operations

namespace PathTemplates

namespace Crumb

variable {fs : FileSystem} {c d : Crumb} {t : Assignment} {ds : List Crumb}

/-- The second crumb has the values of a tuple over those of the first one, and all else is that of
the first one. -/
structure Overlays (c : Crumb) (t : Assignment) (d : Crumb) : Prop where
  template : d.template = c.template
  patterns : d.patterns = c.patterns
  mode : d.mode = c.mode
  ignore : d.ignore = c.ignore
  checkExists : d.checkExists = c.checkExists
  /-- Of several values for a name the last one counts. -/
  get? : ∀ name, d.values.get? name = (Assignment.get? t.reverse name).or (c.values.get? name)

theorem overlays_bindAll (c : Crumb) (t : Assignment) : c.Overlays t (c.bindAll t) :=
  ⟨rfl, rfl, rfl, rfl, rfl, NameMap.get?_insertAll_eq_or c.values t⟩

/-- Nothing is left open about a crumb that is made this way. -/
theorem Overlays.eq_bindAll (h : c.Overlays t d) : d = c.bindAll t := by
  obtain ⟨template, values, patterns, ignore, checkExists, distinct⟩ := d
  obtain ⟨rfl, rfl, -, rfl, rfl, hget⟩ := h
  have hvalues : values = c.values.insertAll t := NameMap.ext fun name => by
    rw [NameMap.get?_insertAll_eq_or]
    exact hget name
  rw [hvalues]
  rfl

/-- The crumbs are made from the tuples that a listing finds, one from each in turn. The tuples bind
open arguments. -/
def Lists (fs : FileSystem) (c : Crumb) (targets : List Text) (ds : List Crumb) : Prop :=
  ∃ names ts, c.find fs targets = .ok (names, ts) ∧
    List.Forall₂ (fun t d => c.Opens t ∧ c.Overlays t d) ts ds

/-- The patterns, the exclusions and the policy of the second crumb settle what listings of the
first one find: the walk down its components passes the entries that they let through. -/
structure ListsBy (d c : Crumb) : Prop where
  unfold : ∀ fs u, u ∈ d.unfoldValues fs ↔ ∃ stop,
    Descends fs c False d.split.1 d.back u stop ∧
      (c.checkExists = true → fs.pathExists stop = true)
  open_target : ∀ fs a, a ∈ d.openNames → ':' ∉ a → ∃ before k after ts,
    d.Level a before k after ∧ d.find fs [a] = .ok ([a], ts) ∧ ∀ u, u ∈ ts ↔ ∃ mid,
      Descends fs c (after.any Component.isOpen = true) d.split.1 (upper before k) u mid ∧
        (c.checkExists = true → ∃ w stop, Descends fs c False mid after w stop ∧
          fs.pathExists stop = true)
  bound_target : ∀ fs a v, d.mentions a = true → ':' ∉ a → d.values.get? a = some v → ∃ ts,
    d.find fs [a] = .ok ([a], ts) ∧ ∀ u, u ∈ ts ↔
      u = [] ∧ c.patterns.allows a v = true ∧ (c.checkExists = true → d.pathExists fs = true)

theorem listsBy_bindAll (c : Crumb) (t : Assignment) : (c.bindAll t).ListsBy c where
  unfold fs u := by
    rw [mem_unfoldValues, Completes]
    simp only [descends_bindAll_iff]
    rfl
  open_target fs a ha hcolon := by
    obtain ⟨before, k, after, level⟩ := exists_level ha
    refine ⟨before, k, after, _, level, find_openName ha hcolon, fun u => ?_⟩
    rw [level.mem_completions_iff]
    simp only [descends_bindAll_iff]
    rfl
  bound_target fs a v ha hcolon hv := by
    have hfind : (c.bindAll t).find fs [a] = .ok ([a], foundFor fs (c.bindAll t) a) := by
      rw [find_eq_foundFor (withTargets_plain ha hcolon), Target.read_plain hcolon]
    refine ⟨_, hfind, fun u => ?_⟩
    cases hallows : c.patterns.allows a v with
    | false =>
      rw [foundFor_of_rejects (rejects_eq_true_iff.2 ⟨v, hv, hallows⟩)]
      simp
    | true =>
      have hrejects : (c.bindAll t).rejects a = false := by
        rw [rejects, hv]
        exact congrArg not hallows
      have hbound : (c.bindAll t).values.contains a = true := by rw [NameMap.contains, hv]; rfl
      rw [foundFor_of_bound hrejects hbound, mem_completions_nil]
      simp only [true_and]
      rfl

/-- Each tuple that can be bound makes its own crumb. -/
theorem forall₂_bindAll {ts : List Assignment} (h : ∀ t ∈ ts, c.Opens t) :
    List.Forall₂ (fun t d => c.Opens t ∧ c.Overlays t d) ts (ts.map c.bindAll) := by
  rw [List.forall₂_map_right_iff, List.forall₂_same]
  exact fun t ht => ⟨h t ht, overlays_bindAll c t⟩

theorem lists_of_listCrumbs {target : Text} (h : c.listCrumbs fs target = .ok ds) :
    c.Lists fs [target] ds := by
  rw [listCrumbs_eq_map_find] at h
  obtain ⟨⟨names, ts⟩, hfind, rfl⟩ := exists_of_map_eq_ok h
  exact ⟨names, ts, hfind, forall₂_bindAll (opens_of_find hfind)⟩

/-- Listings and rows make crumbs that differ from the one they are made from in values only: in
those of the tuple that was found, which binds open arguments, or of the row. Listed again, the
crumbs go by the patterns and the exclusions of the one they are made from. -/
theorem derived_overlays (fs : FileSystem) (c : Crumb) :
    (∀ target ds, c.listCrumbs fs target = .ok ds → c.Lists fs [target] ds) ∧
    (∃ ds, c.unfold fs = .ok ds ∧ c.Lists fs [] ds) ∧
    (∀ ts, List.Forall₂ (fun t r => ∀ d, r = .ok d → c.Overlays t d) ts (c.build ts)) ∧
    (∀ name groups found, c.groupBy fs name groups = .ok found → ∀ group ds,
      found.get? group = some ds → ∃ pattern, (group, pattern) ∈ groups ∧
        c.Lists fs [name ++ ':' :: pattern] ds) ∧
    ∀ t d, c.Overlays t d → d.ListsBy c := by
  refine ⟨fun target ds h => lists_of_listCrumbs h, ?_, fun ts => ?_, ?_, fun t d h => ?_⟩
  · exact ⟨_, unfold_eq fs c, c.openNames, c.unfoldValues fs, find_nil fs c,
      forall₂_bindAll fun t ht => opens_of_mem_unfoldValues ht⟩
  · rw [build, List.forall₂_map_right_iff, List.forall₂_same]
    rintro t - d hd
    obtain ⟨-, rfl⟩ := replace_eq_ok hd
    exact overlays_bindAll c t
  · intro name groups found h group ds hget
    obtain ⟨pattern, hmem, hselects⟩ :=
      selects_of_groupBy h (group, ds) (NameMap.get?_eq_some_iff.1 hget)
    exact ⟨pattern, hmem, lists_of_listCrumbs hselects⟩
  · rw [h.eq_bindAll]
    exact listsBy_bindAll c t

end Crumb

end PathTemplates
