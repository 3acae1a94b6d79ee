import Mathlib.Data.List.Sort
import PathTemplates.Proofs.Listing.Restriction
import PathTemplates.Proofs.Listing.Spelling

namespace PathTemplates

namespace Plan

/-- The last of some places is where what comes behind has the property no more. -/
theorem lastIndex?_append_cons {α : Type} {holds : α → Bool} {xs ys : List α} {x : α}
    (hx : holds x = true) (hys : ∀ y ∈ ys, holds y = false) :
    lastIndex? holds (xs ++ x :: ys) = some xs.length := by
  induction xs with
  | nil => simp [lastIndex?, lastIndex?_eq_none.2 hys, hx]
  | cons z xs ih => simp [lastIndex?, ih]

end Plan

namespace Crumb

open FileSystem (maxPathBytes)
open PathTemplates.Path (Follows)

variable {fs : FileSystem} {c : Crumb} {a : Text} {before after : List Component} {k : Component}
  {t u w : Assignment} {mid stop : Text}

/-- An open argument, with the components in front of and behind the one that holds it. -/
structure Level (c : Crumb) (a : Text) (before : List Component) (k : Component)
    (after : List Component) : Prop where
  components_eq : c.components = before ++ k :: after
  mem : a ∈ k.names

theorem exists_level (h : a ∈ c.openNames) : ∃ before k after, c.Level a before k after := by
  rw [← flatMap_names_components] at h
  obtain ⟨k, hk, ha⟩ := List.mem_flatMap.1 h
  obtain ⟨before, after, hcomponents⟩ := List.append_of_mem hk
  exact ⟨before, k, after, hcomponents, ha⟩

/-- The components from the first open one to that of the level. -/
def upper (before : List Component) (k : Component) : List Component :=
  (before.dropWhile fun k => !k.isOpen) ++ [k]

namespace Level

theorem isOpen (h : c.Level a before k after) : k.isOpen = true := by
  have hne : k.names ≠ [] := List.ne_nil_of_mem h.mem
  simpa [Component.isOpen] using hne

theorem front_eq (h : c.Level a before k after) :
    c.front = before.takeWhile fun k => !k.isOpen := by
  rw [front, h.components_eq, List.takeWhile_append]
  split
  · next hlength =>
    have hall := (List.takeWhile_prefix _).eq_of_length hlength
    rw [List.takeWhile_cons_of_neg (by simp [h.isOpen]), List.append_nil]
    exact hall.symm
  · rfl

theorem front_append_upper (h : c.Level a before k after) :
    c.front ++ upper before k = before ++ [k] := by
  rw [h.front_eq, upper, ← List.append_assoc, List.takeWhile_append_dropWhile]

theorem back_eq (h : c.Level a before k after) : c.back = upper before k ++ after := by
  have hsplit := front_append_back c
  rw [h.components_eq, List.append_cons, ← h.front_append_upper, List.append_assoc] at hsplit
  exact List.append_cancel_left hsplit

theorem nodup_names (h : c.Level a before k after) :
    ((before ++ [k]).flatMap Component.names ++ after.flatMap Component.names).Nodup := by
  rw [← List.flatMap_append, ← List.append_cons, ← h.components_eq, flatMap_names_components]
  exact c.distinct.filter _

theorem names_upper (h : c.Level a before k after) :
    (upper before k).flatMap Component.names = (before ++ [k]).flatMap Component.names := by
  have hfront : c.front.flatMap Component.names = [] :=
    Component.flatMap_names_eq_nil_iff.2 closed_of_mem_front
  rw [← h.front_append_upper, List.flatMap_append, hfront, List.nil_append]

/-- Further components do not have the names of the level any more. -/
theorem not_mem_names (h : c.Level a before k after) :
    ∀ n ∈ (before ++ [k]).flatMap Component.names, ∀ k' ∈ after, n ∉ k'.names := by
  intro n hn k' hk' hnk
  exact (List.nodup_append.1 h.nodup_names).2.2 n hn n (List.mem_flatMap.2 ⟨k', hk', hnk⟩) rfl

theorem mem_names_level (h : c.Level a before k after) :
    a ∈ (before ++ [k]).flatMap Component.names :=
  List.mem_flatMap.2 ⟨k, List.mem_append_right _ (List.mem_singleton_self k), h.mem⟩

theorem target?_eq (h : c.Level a before k after) (last : Nat) :
    Plan.target? c.components last (.targets [a]) = some before.length := by
  rw [Plan.target?, h.components_eq]
  refine Plan.lastIndex?_append_cons (by simpa using h.mem) fun k' hk' => ?_
  have hnot := h.not_mem_names a h.mem_names_level k' hk'
  rw [List.any_eq_false]
  intro n hn hcontains
  rw [List.contains_iff_mem, List.mem_singleton] at hcontains
  exact hnot (hcontains ▸ hn)

theorem exists_plan (h : c.Level a before k after) :
    ∃ p, Plan.make? c.components c.checkExists (.targets [a]) = some p := by
  unfold Plan.make?
  cases hlast : Plan.lastIndex? Component.isOpen c.components with
  | none =>
    have hclosed := Plan.lastIndex?_eq_none.1 hlast k (by simp [h.components_eq])
    rw [h.isOpen] at hclosed
    cases hclosed
  | some last =>
    dsimp only
    rw [h.target?_eq]
    cases c.checkExists with
    | true => exact ⟨_, rfl⟩
    | false => exact ⟨_, rfl⟩

theorem kept_eq {p : Plan} (h : c.Level a before k after)
    (hplan : Plan.make? c.components c.checkExists (.targets [a]) = some p) :
    p.kept = ((upper before k).flatMap Component.names).length := by
  obtain ⟨_, _, hkept, _⟩ := Plan.make?_eq_some hplan
  rw [hkept, h.target?_eq, h.names_upper, Plan.keptUpTo, h.components_eq, List.append_cons,
    List.take_left' (by simp)]

/-- A tuple that is cut behind the level keeps the values up to there. -/
theorem take_kept {p : Plan} {more : Prop} (h : c.Level a before k after)
    (hplan : Plan.make? c.components c.checkExists (.targets [a]) = some p)
    (ht : Descends fs c more c.split.1 (upper before k) t mid) : (t ++ w).take p.kept = t := by
  refine List.take_left' ?_
  rw [h.kept_eq hplan, ← names_of_descends ht]
  exact (List.length_map ..).symm

/-- Without a look at whether paths are there, the walk ends behind the level and the literal
components that follow. -/
theorem ahead_eq {p : Plan} (h : c.Level a before k after)
    (hcomponents : p.components = c.components) (hdepth : p.depth = before.length) :
    p.ahead (p.nextOpen 0) = upper before k ++ after.takeWhile fun k => !k.isOpen := by
  have hback : p.components.drop (p.nextOpen 0) = upper before k ++ after := by
    rw [p.drop_nextOpen_zero, hcomponents]
    exact h.back_eq
  have hafter : p.components.drop (before.length + 1) = after := by
    rw [hcomponents, h.components_eq, List.append_cons, List.drop_left' (by simp)]
  have hlengths := congrArg List.length hback
  have hstop : p.stop = before.length + 1 + after.findIdx Component.isOpen := by
    rw [Plan.stop, hdepth, Plan.nextOpen, hafter]
  have htotal : p.components.length = before.length + 1 + after.length := by
    rw [hcomponents, h.components_eq, List.length_append, List.length_cons]
    omega
  have hfirst := p.nextOpen_le_length (Nat.zero_le _)
  rw [List.length_drop, List.length_append] at hlengths
  have hcount :
      p.stop - p.nextOpen 0 = (upper before k).length + after.findIdx Component.isOpen := by
    omega
  rw [Plan.ahead, List.drop_take, hback, hcount, List.take_length_add_append]
  simp [List.takeWhile_eq_take_findIdx_not]

theorem depth_ne_last_iff {p : Plan} (h : c.Level a before k after)
    (hplan : Plan.make? c.components c.checkExists (.targets [a]) = some p)
    (hdepth : p.depth = before.length) : p.depth ≠ p.last ↔ after.any Component.isOpen = true := by
  obtain ⟨_, hlast, _⟩ := Plan.make?_eq_some hplan
  cases hany : after.any Component.isOpen with
  | false =>
    have hclosed : ∀ k ∈ after, k.isOpen = false := by simpa using hany
    rw [h.components_eq, Plan.lastIndex?_append_cons h.isOpen hclosed] at hlast
    have hsame := Option.some.inj hlast
    simp only [Bool.false_eq_true, iff_false, ne_eq, not_not]
    omega
  | true =>
    obtain ⟨k', hk', hopen⟩ := List.any_eq_true.1 hany
    obtain ⟨i, hi⟩ := List.mem_iff_getElem?.1 hk'
    have hget : c.components[before.length + (i + 1)]? = some k' := by
      rw [h.components_eq, List.getElem?_append_right (by omega), Nat.add_sub_cancel_left]
      exact hi
    have hle := (Plan.lastIndex?_eq_some hlast).2 _ k' hget hopen
    simp only [iff_true]
    omega

theorem completes_iff (h : c.Level a before k after) :
    c.Completes fs u ↔ ∃ t w mid stop,
      Descends fs c (after.any Component.isOpen = true) c.split.1 (upper before k) t mid ∧
        Descends fs c False mid after w stop ∧ u = t ++ w ∧
        (c.checkExists = true → fs.pathExists stop = true) := by
  show (∃ stop, Descends fs c False c.split.1 c.back u stop ∧ _) ↔ _
  simp only [h.back_eq, descends_append_iff, false_or]
  constructor
  · intro ⟨stop, ⟨t, w, mid, ht, hw, hu⟩, hexists⟩
    exact ⟨t, w, mid, stop, ht, hw, hu, hexists⟩
  · intro ⟨t, w, mid, stop, ht, hw, hu, hexists⟩
    exact ⟨stop, ⟨t, w, mid, ht, hw, hu⟩, hexists⟩

/-- The listing of the level holds what leads down to it and, where paths have to be there, on to a
path. -/
theorem mem_completions_iff (h : c.Level a before k after) :
    t ∈ c.completions fs (.targets [a]) ↔ ∃ mid,
      Descends fs c (after.any Component.isOpen = true) c.split.1 (upper before k) t mid ∧
        (c.checkExists = true → ∃ w stop, Descends fs c False mid after w stop ∧
          fs.pathExists stop = true) := by
  obtain ⟨p, hplan⟩ := h.exists_plan
  obtain ⟨hcomponents, _, _, hdepth⟩ := Plan.make?_eq_some hplan
  -- If paths have to be there, the walk goes on to the last open component and its tuples are cut
  -- back. Otherwise it stops behind the level and the literal components that follow.
  cases hon : c.checkExists with
  | true =>
    rw [hon, if_pos rfl] at hdepth
    rw [mem_completions_of_depth_eq_last hplan (Option.some.inj hdepth).symm]
    simp only [h.completes_iff, hon, forall_const]
    constructor
    · intro ⟨_, ⟨t', w, mid, stop, ht', hw, rfl, hexists⟩, ht⟩
      rw [h.take_kept hplan ht'] at ht
      exact ⟨mid, ht ▸ ht', w, stop, hw, hexists⟩
    · intro ⟨mid, ht, w, stop, hw, hexists⟩
      exact ⟨t ++ w, ⟨t, w, mid, stop, ht, hw, rfl, hexists⟩, (h.take_kept hplan ht).symm⟩
  | false =>
    rw [hon, if_neg Bool.false_ne_true, h.target?_eq] at hdepth
    have hdepth := (Option.some.inj hdepth).symm
    rw [mem_completions hplan, h.ahead_eq hcomponents hdepth]
    have hliterals : ∀ k ∈ after.takeWhile fun k => !k.isOpen, k.isOpen = false :=
      fun k hk => by simpa using List.mem_takeWhile_imp hk
    have hany : (after.takeWhile fun k => !k.isOpen).any Component.isOpen = false := by
      simpa using hliterals
    simp only [hon, h.depth_ne_last_iff hplan hdepth, descends_append_iff, hany, Bool.false_eq_true,
      or_false, false_implies, and_true, true_and]
    constructor
    · intro ⟨_, _, ⟨t', w, mid, ht', hw, rfl⟩, ht⟩
      rw [h.take_kept hplan ht'] at ht
      exact ⟨mid, ht ▸ ht'⟩
    · intro ⟨mid, ht⟩
      obtain ⟨stop, hstop⟩ := exists_descends_of_closed fs c
        (after.any Component.isOpen = true) mid hliterals
      exact ⟨t ++ [], _, ⟨t, [], mid, ht, hstop, rfl⟩, (h.take_kept hplan ht).symm⟩

theorem isOpen_of_mem_head?_upper (h : c.Level a before k after) :
    ∀ k' ∈ (upper before k).head?, k'.isOpen = true := by
  intro k' hk'
  refine isOpen_of_mem_head?_back (c := c) k' ?_
  rw [h.back_eq, List.head?_append, hk']
  rfl

theorem back_ne_nil (h : c.Level a before k after) : c.back ≠ [] := by
  simp [h.back_eq, upper]

/-- Values for the arguments up to the level. -/
theorem names_eq {more : Prop} (h : c.Level a before k after)
    (ht : Descends fs c more c.split.1 (upper before k) t mid) :
    t.names = (before ++ [k]).flatMap Component.names :=
  (names_of_descends ht).trans h.names_upper

theorem opens (h : c.Level a before k after)
    (hnames : t.names = (before ++ [k]).flatMap Component.names) : c.Opens t where
  nodup := hnames ▸ (List.nodup_append.1 h.nodup_names).1
  isOpen b hb := by
    rw [← flatMap_names_components, h.components_eq, List.append_cons, List.flatMap_append,
      ← hnames]
    exact List.mem_append_left _ (List.mem_map_of_mem hb)

/-- Once they are bound, nothing up to the level is open. -/
theorem closed_bind (hnames : t.names = (before ++ [k]).flatMap Component.names) :
    ∀ k' ∈ (before ++ [k]).map (Component.bind t.get?), k'.isOpen = false := by
  refine List.forall_mem_map.2 fun k' hk' => ?_
  rw [Component.isOpen_eq_false_iff, Component.names_bind, List.filter_eq_nil_iff]
  intro n hn
  have hmem : n ∈ t.names := hnames ▸ List.mem_flatMap.2 ⟨k', hk', hn⟩
  simp [Assignment.get?_eq_none_iff, hmem]

theorem components_bindAll (h : c.Level a before k after)
    (hnames : t.names = (before ++ [k]).flatMap Component.names)
    (hslash : ∀ b ∈ t, '/' ∉ b.value) :
    (c.bindAll t).components = (before ++ [k]).map (Component.bind t.get?) ++ after := by
  have hafter : after.map (Component.bind t.get?) = after := by
    refine (List.map_congr_left fun k' hk' => Component.bind_eq_self fun n hn => ?_).trans
      (List.map_id after)
    rw [Assignment.get?_eq_none_iff, hnames]
    exact fun hmem => h.not_mem_names n hmem k' hk' hn
  rw [Crumb.components_bindAll (h.opens hnames) hslash, h.components_eq, List.append_cons,
    List.map_append, hafter]

theorem openNames_bindAll (h : c.Level a before k after)
    (hnames : t.names = (before ++ [k]).flatMap Component.names)
    (hslash : ∀ b ∈ t, '/' ∉ b.value) :
    (c.bindAll t).openNames = after.flatMap Component.names := by
  have hclosed : ((before ++ [k]).map (Component.bind t.get?)).flatMap Component.names = [] :=
    Component.flatMap_names_eq_nil_iff.2 (closed_bind hnames)
  rw [← flatMap_names_components, h.components_bindAll hnames hslash, List.flatMap_append, hclosed,
    List.nil_append]

/-- The path of the level leads along the texts of the components that are bound. -/
theorem follows_bind {more : Prop} (h : c.Level a before k after)
    (ht : Descends fs c more c.split.1 (upper before k) t mid) :
    (∀ b ∈ t, '/' ∉ b.value) ∧
      Follows mid (((before ++ [k]).map (Component.bind t.get?)).map Component.text) := by
  obtain ⟨ts, hts, rfl⟩ := fills_of_descends ht
  have hopens := h.opens (h.names_eq ht)
  have hall : Fills c (before ++ [k]) t (c.front.map Component.text ++ ts) := by
    rw [← h.front_append_upper]
    exact (fills_append_iff closed_of_mem_front).2 ⟨ts, rfl, hts⟩
  have hslash : ∀ t ∈ ts, '/' ∉ t := hts.no_slash fun k' hk' => by
    refine unslashed_back (c := c) k' ?_
    rw [h.back_eq]
    exact List.mem_append_left _ hk'
  have htexts : ((before ++ [k]).map (Component.bind t.get?)).map Component.text =
      c.front.map Component.text ++ ts := by
    rw [hall.eq_map_fill hopens.get?_of_mem, List.map_map]
    exact List.map_congr_left fun k' _ => Component.text_bind ..
  refine ⟨fun b hb => (hts.of_mem b hb).2.1, ?_⟩
  rw [htexts]
  exact (follows_split h.back_ne_nil).foldl_push hslash
    (.inr (hts.head?_ne h.isOpen_of_mem_head?_upper))

/-- What the crumb of a level lists leads on from the path of the level. -/
theorem exists_descends_below {more : Prop} (h : c.Level a before k after)
    (ht : Descends fs c more c.split.1 (upper before k) t mid)
    (hw : w ∈ (c.bindAll t).unfoldValues fs) : ∃ stop, Descends fs c False mid after w stop ∧
      (c.checkExists = true → fs.pathExists stop = true) := by
  obtain ⟨hslash, hfollows⟩ := h.follows_bind ht
  have hnames := h.names_eq ht
  obtain ⟨stop, hstop, hexists⟩ := exists_descends_of_completes
    (h.components_bindAll hnames hslash) (closed_bind hnames) hfollows (by simp)
    (mem_unfoldValues.1 hw)
  exact ⟨stop, descends_bindAll_iff.1 hstop, hexists⟩

/-- What the crumb of a level lists completes the values of the level. -/
theorem append_mem_unfoldValues (h : c.Level a before k after)
    (ht : t ∈ c.completions fs (.targets [a])) (hw : w ∈ (c.bindAll t).unfoldValues fs) :
    t ++ w ∈ c.unfoldValues fs := by
  obtain ⟨mid, hdescends, _⟩ := h.mem_completions_iff.1 ht
  obtain ⟨stop, hstop, hexists⟩ := h.exists_descends_below hdescends hw
  exact mem_unfoldValues.2
    (h.completes_iff.2 ⟨t, w, mid, stop, hdescends, hstop, rfl, hexists⟩)

/-- A completion whose path is not too long is found by way of the level. -/
theorem exists_append_eq (h : c.Level a before k after) (hu : u ∈ c.unfoldValues fs)
    (hlength : (c.bindAll u).path.utf8Length ≤ maxPathBytes) :
    ∃ t ∈ c.completions fs (.targets [a]), ∃ w ∈ (c.bindAll t).unfoldValues fs, u = t ++ w := by
  obtain ⟨t, w, mid, stop, hdescends, hstop, rfl, hexists⟩ :=
    h.completes_iff.1 (mem_unfoldValues.1 hu)
  obtain ⟨hslash, hfollows⟩ := h.follows_bind hdescends
  have hnames := h.names_eq hdescends
  obtain ⟨ts, hts, _⟩ := (mem_unfoldValues.1 hu).fills
  have hrendered : (c.bindAll (t ++ w)).path ≠ [] := by
    rw [hts.path_eq]
    exact hts.join_ne_nil_of_back_ne_nil h.back_ne_nil
  rw [bindAll_append] at hrendered hlength
  refine ⟨t, h.mem_completions_iff.2 ⟨mid, hdescends, fun hon => ⟨w, stop, hstop, hexists hon⟩⟩, w,
    mem_unfoldValues.2 ?_, rfl⟩
  exact completes_of_descends (h.components_bindAll hnames hslash) (closed_bind hnames)
    hfollows (by simp) (descends_bindAll_iff.2 hstop) hexists hrendered hlength

end Level

/-- All completions, level crumb by level crumb. -/
def completionsBelow (fs : FileSystem) (c : Crumb) (a : Text) : List Assignment :=
  (c.completions fs (.targets [a])).flatMap fun t => ((c.bindAll t).unfoldValues fs).map (t ++ ·)

/-- Of values for the same names, the first ones settle the order. -/
theorem append_lt_append {t t' : Assignment} (hlength : t.length = t'.length) (h : t < t')
    (w w' : Assignment) : t ++ w < t' ++ w' := by
  induction t generalizing t' with
  | nil =>
    cases t' with
    | nil => exact absurd h (List.lt_irrefl _)
    | cons b t' => cases hlength
  | cons b t ih =>
    cases t' with
    | nil => cases hlength
    | cons b' t' =>
      rcases List.cons_lt_cons_iff.1 h with hlt | ⟨rfl, hlt⟩
      · exact List.cons_lt_cons_iff.2 (.inl hlt)
      · exact List.cons_lt_cons_iff.2 (.inr ⟨rfl, ih (Nat.succ.inj hlength) hlt⟩)

theorem Level.names_of_mem (h : c.Level a before k after)
    (ht : t ∈ c.completions fs (.targets [a])) :
    t.names = (before ++ [k]).flatMap Component.names := by
  obtain ⟨mid, hdescends, _⟩ := h.mem_completions_iff.1 ht
  exact h.names_eq hdescends

theorem ascending_completionsBelow (fs : FileSystem) (h : c.Level a before k after) :
    (completionsBelow fs c a).Pairwise (· < ·) := by
  refine List.pairwise_flatMap.2 ⟨fun t _ => ?_, ?_⟩
  · refine List.pairwise_map.2 ((ascending_completions fs _ .all).imp fun hlt => ?_)
    exact List.append_left_lt hlt
  · refine (ascending_completions fs c (.targets [a])).imp_of_mem fun {t t'} ht ht' hlt => ?_
    have hlength : t.length = t'.length := by
      have hnames := congrArg List.length ((h.names_of_mem ht).trans (h.names_of_mem ht').symm)
      simpa [Assignment.names] using hnames
    intro u hu u' hu'
    obtain ⟨w, _, rfl⟩ := List.mem_map.1 hu
    obtain ⟨w', _, rfl⟩ := List.mem_map.1 hu'
    exact append_lt_append hlength hlt w w'

/-- No completion is found twice below a level, and none out of order. -/
theorem completionsBelow_sublist (fs : FileSystem) (h : c.Level a before k after) :
    (completionsBelow fs c a).Sublist (c.unfoldValues fs) := by
  have hascending := ascending_completionsBelow fs h
  have hsubset : completionsBelow fs c a ⊆ c.unfoldValues fs := by
    intro u hu
    obtain ⟨t, ht, hu⟩ := List.mem_flatMap.1 hu
    obtain ⟨w, hw, rfl⟩ := List.mem_map.1 hu
    exact h.append_mem_unfoldValues ht hw
  exact sublist_of_subset hascending (ascending_completions fs c .all) hsubset

theorem mem_completionsBelow (h : c.Level a before k after) (hu : u ∈ c.unfoldValues fs)
    (hlength : (c.bindAll u).path.utf8Length ≤ maxPathBytes) :
    u ∈ completionsBelow fs c a := by
  obtain ⟨t, ht, w, hw, rfl⟩ := h.exists_append_eq hu hlength
  exact List.mem_flatMap.2 ⟨t, ht, List.mem_map_of_mem hw⟩

theorem mem_paths_completionsBelow (h : c.Level a before k after) {p : Text}
    (hp : p ∈ (c.unfoldValues fs).map fun u => (c.bindAll u).path)
    (hlength : p.utf8Length ≤ maxPathBytes) :
    p ∈ (completionsBelow fs c a).map fun u => (c.bindAll u).path := by
  obtain ⟨u, hu, rfl⟩ := List.mem_map.1 hp
  exact List.mem_map_of_mem (mem_completionsBelow h hu hlength)

theorem listCrumbs_eq (fs : FileSystem) (h : c.Level a before k after) (hcolon : ':' ∉ a) :
    c.listCrumbs fs a = .ok ((c.completions fs (.targets [a])).map c.bindAll) := by
  have ha : a ∈ c.openNames := by
    rw [← flatMap_names_components, h.components_eq]
    exact List.mem_flatMap.2 ⟨k, by simp, h.mem⟩
  rw [listCrumbs, find_openName ha hcolon]
  exact congrArg Failure.returning (replaceEach_eq fun t ht => h.opens (h.names_of_mem ht))

/-- The paths of the level crumbs, one crumb after the other. -/
theorem flatten_unfoldPaths (fs : FileSystem) (c : Crumb) (a : Text) :
    (((c.completions fs (.targets [a])).map c.bindAll).map fun d =>
      (d.unfoldValues fs).map fun w => (d.bindAll w).path).flatten =
      (completionsBelow fs c a).map fun u => (c.bindAll u).path := by
  rw [List.map_map, ← List.flatMap_def, completionsBelow, List.map_flatMap]
  refine List.flatMap_congr fun t _ => ?_
  rw [List.map_map]
  refine List.map_congr_left fun w _ => ?_
  simp [bindAll_append]

/-- The crumbs that a listing of an open argument makes leave open what is open behind its
component. Their paths, one crumb after the other, are paths of the crumb itself, each once and in
their order, and only paths that are too long to be asked for may be missing. -/
theorem unfoldPaths_listCrumbs (fs : FileSystem) (ha : a ∈ c.openNames) (hcolon : ':' ∉ a) :
    ∃ before k after ds paths pathss, c.components = before ++ k :: after ∧ a ∈ k.names ∧
      c.listCrumbs fs a = .ok ds ∧ c.unfoldPaths fs = .ok paths ∧
      ds.mapM (unfoldPaths fs) = .ok pathss ∧
      (∀ d ∈ ds, d.openNames = after.flatMap Component.names) ∧ paths.Nodup ∧
      pathss.flatten.Sublist paths ∧
      (∀ p ∈ paths, p.utf8Length ≤ maxPathBytes → p ∈ pathss.flatten) ∧
      ((∀ p ∈ paths, p.utf8Length ≤ maxPathBytes) → pathss.flatten = paths) := by
  obtain ⟨before, k, after, level⟩ := exists_level ha
  have hpaths := nodup_unfoldPaths fs c
  have hsublist := (completionsBelow_sublist fs level).map fun u => (c.bindAll u).path
  refine ⟨before, k, after, _, _, _, level.components_eq, level.mem, listCrumbs_eq fs level hcolon,
    unfoldPaths_eq fs c, mapM_eq_ok fun d _ => unfoldPaths_eq fs d, ?_, hpaths, ?_⟩
  · refine List.forall_mem_map.2 fun t ht => ?_
    obtain ⟨mid, hdescends, _⟩ := level.mem_completions_iff.1 ht
    exact level.openNames_bindAll (level.names_eq hdescends) (level.follows_bind hdescends).1
  · rw [flatten_unfoldPaths]
    refine ⟨hsublist, fun p => mem_paths_completionsBelow level, fun hall => ?_⟩
    have hsubset : ((c.unfoldValues fs).map fun u => (c.bindAll u).path) ⊆
        (completionsBelow fs c a).map fun u => (c.bindAll u).path :=
      fun p hp => mem_paths_completionsBelow level hp (hall p hp)
    exact hsublist.eq_of_length_le (List.subperm_of_subset hpaths hsubset).length_le

theorem unfoldPaths_listCrumbs_gap : ['x'] ∈ (gap 0).openNames ∧
    ∃ ds pathss, (gap 0).listCrumbs gapFiles ['x'] = .ok ds ∧
      ds.mapM (unfoldPaths gapFiles) = .ok pathss ∧ ['s', '/', 'f'] ∈ pathss.flatten := by
  obtain ⟨_, _, _, ds, paths, pathss, _, _, hds, hpaths, hpathss, _, _, _, hfound, _⟩ :=
    unfoldPaths_listCrumbs gapFiles (c := gap 0) (a := ['x']) (by decide) (by decide)
  refine ⟨by decide, ds, pathss, hds, hpathss, hfound _ ?_ (by decide)⟩
  cases hpaths.symm.trans (unfoldPaths_eq gapFiles (gap 0))
  exact List.mem_map_of_mem (mem_unfoldValues_gap 0)

theorem exists_level_gap (n : Nat) : ∃ before k after, (gap n).Level ['x'] before k after ∧
    (before ++ [k]).flatMap Component.names = [['x']] :=
  ⟨[], [.argument ⟨['x'], none, ⟨0, 3⟩⟩], _, ⟨components_gap n, List.mem_singleton_self _⟩, rfl⟩

theorem exists_of_mem_completions_gap {n : Nat}
    (ht : t ∈ (gap n).completions gapFiles (.targets [['x']])) :
    ∃ v, '/' ∉ v ∧ t = [⟨['x'], v⟩] := by
  obtain ⟨before, k, after, level, hnames⟩ := exists_level_gap n
  obtain ⟨mid, hdescends, _⟩ := level.mem_completions_iff.1 ht
  have hslash := (level.follows_bind hdescends).1
  obtain ⟨⟨name, value⟩, rfl, hname⟩ :=
    List.map_eq_singleton_iff.1 ((level.names_eq hdescends).trans hnames)
  obtain rfl : name = ['x'] := hname
  exact ⟨value, hslash _ (List.mem_singleton_self _), rfl⟩

theorem completionsBelow_gap {n : Nat} (hlong : maxPathBytes < n) :
    completionsBelow gapFiles (gap n) ['x'] = [] := by
  refine List.flatMap_eq_nil_iff.2 fun t ht => ?_
  obtain ⟨v, hslash, rfl⟩ := exists_of_mem_completions_gap ht
  rw [unfoldValues_bindAll_gap hslash hlong, List.map_nil]

/-- With 4097 slashes the crumb leads to the file, and none of its level crumbs does. -/
theorem flatten_ne_unfoldPaths_gap : ['x'] ∈ (gap 4096).openNames ∧
    ∃ ds paths pathss, (gap 4096).listCrumbs gapFiles ['x'] = .ok ds ∧
      (gap 4096).unfoldPaths gapFiles = .ok paths ∧
      ds.mapM (unfoldPaths gapFiles) = .ok pathss ∧ pathss.flatten ≠ paths := by
  obtain ⟨before, k, after, level⟩ := exists_level (c := gap 4096) (a := ['x']) (by decide)
  refine ⟨by decide, _, _, _, listCrumbs_eq gapFiles level (by decide),
    unfoldPaths_eq gapFiles (gap 4096), mapM_eq_ok fun d _ => unfoldPaths_eq gapFiles d, ?_⟩
  rw [flatten_unfoldPaths, completionsBelow_gap (by decide), List.map_nil, ne_eq, eq_comm,
    List.map_eq_nil_iff]
  exact List.ne_nil_of_mem (mem_unfoldValues_gap 4096)

end Crumb

end PathTemplates
