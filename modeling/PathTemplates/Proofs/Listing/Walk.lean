import PathTemplates.Proofs.Listing.Descent

namespace PathTemplates

namespace Plan

variable {p : Plan}

theorem lastIndex?_eq_none {α : Type} {holds : α → Bool} {xs : List α} :
    lastIndex? holds xs = none ↔ ∀ x ∈ xs, holds x = false := by
  induction xs with
  | nil => simp [lastIndex?]
  | cons x xs ih =>
    unfold lastIndex?
    cases hrest : lastIndex? holds xs with
    | some i =>
      have hne : ¬∀ y ∈ xs, holds y = false := fun h => by
        rw [ih.2 h] at hrest
        cases hrest
      simp only [reduceCtorEq, List.forall_mem_cons, false_iff, not_and]
      exact fun _ => hne
    | none =>
      have hxs := ih.1 hrest
      cases hx : holds x with
      | true => simp [hx]
      | false => simpa [hx] using hxs

theorem lastIndex?_eq_some {α : Type} {holds : α → Bool} {xs : List α} {i : Nat}
    (h : lastIndex? holds xs = some i) :
    (∃ x, xs[i]? = some x ∧ holds x = true) ∧
      ∀ j x, xs[j]? = some x → holds x = true → j ≤ i := by
  induction xs generalizing i with
  | nil => cases h
  | cons x xs ih =>
    unfold lastIndex? at h
    split at h
    · next i' hi' =>
      cases h
      obtain ⟨hx, hlast⟩ := ih hi'
      refine ⟨by simpa using hx, ?_⟩
      intro j y hy hholds
      cases j with
      | zero => exact Nat.zero_le _
      | succ j =>
        have := hlast j y (by simpa using hy) hholds
        omega
    · next hnone =>
      obtain ⟨hx, e⟩ := Option.ite_none_right_eq_some.1 h
      cases e
      refine ⟨⟨x, rfl, hx⟩, ?_⟩
      intro j y hy hholds
      cases j with
      | zero => exact Nat.zero_le _
      | succ j =>
        have hmem : y ∈ xs := List.mem_of_getElem? (by simpa using hy)
        rw [lastIndex?_eq_none.1 hnone y hmem] at hholds
        cases hholds

/-- The components that are passed over from a place on. -/
def literals (p : Plan) (start : Nat) : List Component :=
  (p.components.take (p.nextOpen start)).drop start

/-- The end of the walk: the next open component behind the depth. -/
def stop (p : Plan) : Nat := p.nextOpen (p.depth + 1)

/-- The components that the walk has ahead of it at a place. -/
def ahead (p : Plan) (start : Nat) : List Component := (p.components.take p.stop).drop start

structure Valid (p : Plan) : Prop where
  open_depth : ∃ k, p.components[p.depth]? = some k ∧ k.isOpen = true
  le_last : ∀ (i : Nat) k, p.components[i]? = some k → k.isOpen = true → i ≤ p.last

theorem le_nextOpen (p : Plan) (start : Nat) : start ≤ p.nextOpen start := Nat.le_add_right ..

theorem nextOpen_le_length {start : Nat} (h : start ≤ p.components.length) :
    p.nextOpen start ≤ p.components.length := by
  have hle :
      (p.components.drop start).findIdx Component.isOpen ≤ (p.components.drop start).length :=
    List.findIdx_le_length
  rw [List.length_drop] at hle
  unfold nextOpen
  omega

/-- No open component is passed over. -/
theorem nextOpen_le {start i : Nat} {k : Component} (hle : start ≤ i)
    (hk : p.components[i]? = some k) (hopen : k.isOpen = true) : p.nextOpen start ≤ i := by
  refine Nat.le_of_not_lt fun hgt => ?_
  have hlt : i - start < (p.components.drop start).findIdx Component.isOpen := by
    unfold nextOpen at hgt
    omega
  have hclosed := List.not_of_lt_findIdx hlt
  obtain ⟨hi, e⟩ := List.getElem?_eq_some_iff.1 hk
  have hget : start + (i - start) = i := by omega
  simp only [List.getElem_drop, hget, e, hopen] at hclosed
  cases hclosed

theorem open_nextOpen {start : Nat} (h : p.nextOpen start < p.components.length) :
    ∃ k, p.components[p.nextOpen start]? = some k ∧ k.isOpen = true := by
  have hlt : (p.components.drop start).findIdx Component.isOpen <
      (p.components.drop start).length := by
    unfold nextOpen at h
    rw [List.length_drop]
    omega
  have hopen := List.findIdx_getElem (w := hlt)
  rw [List.getElem_drop] at hopen
  exact ⟨_, List.getElem?_eq_getElem h, hopen⟩

theorem closed_of_mem_literals {start : Nat} {k : Component} (h : k ∈ p.literals start) :
    k.isOpen = false := by
  rw [literals, List.drop_take, nextOpen, Nat.add_sub_cancel_left] at h
  obtain ⟨i, hi, e⟩ := List.mem_iff_getElem.1 h
  rw [List.length_take] at hi
  rw [← e, List.getElem_take]
  exact List.not_of_lt_findIdx (by omega)

theorem open?_eq_some {i : Nat} {k : Component} (hle : i ≤ p.depth)
    (hk : p.components[i]? = some k) (hopen : k.isOpen = true) : p.open? i = some k := by
  unfold open?
  rw [List.getElem?_take_of_lt (by omega), hk]
  exact Option.filter_some_pos hopen

/-- From an open component on: the component, the literal ones behind it, and the rest. -/
theorem ahead_eq_cons {i : Nat} {k : Component} (hk : p.components[i]? = some k)
    (hstop : p.nextOpen (i + 1) ≤ p.stop) :
    p.ahead i = k :: (p.literals (i + 1) ++ p.ahead (p.nextOpen (i + 1))) := by
  have hle := p.le_nextOpen (i + 1)
  obtain ⟨hi, e⟩ := List.getElem?_eq_some_iff.1 hk
  have hlt : i < (p.components.take p.stop).length := by
    rw [List.length_take]
    omega
  have hliterals : p.literals (i + 1) =
      ((p.components.take p.stop).drop (i + 1)).take (p.nextOpen (i + 1) - (i + 1)) := by
    rw [literals, List.drop_take, List.drop_take, List.take_take, Nat.min_eq_left (by omega)]
  have hahead : p.ahead (p.nextOpen (i + 1)) =
      ((p.components.take p.stop).drop (i + 1)).drop (p.nextOpen (i + 1) - (i + 1)) := by
    rw [ahead, List.drop_drop, Nat.add_sub_cancel' hle]
  rw [hliterals, hahead, List.take_append_drop, ahead, List.drop_eq_getElem_cons hlt,
    List.getElem_take, e]

theorem ahead_stop (p : Plan) : p.ahead p.stop = [] := List.drop_take_self

theorem Valid.nextOpen_le_depth (valid : p.Valid) {i : Nat} (h : i < p.depth) :
    p.nextOpen (i + 1) ≤ p.depth := by
  obtain ⟨k, hk, hopen⟩ := valid.open_depth
  exact nextOpen_le h hk hopen

theorem Valid.nextOpen_le_stop (valid : p.Valid) {i : Nat} (h : i ≤ p.depth) :
    p.nextOpen (i + 1) ≤ p.stop := by
  rcases Nat.lt_or_eq_of_le h with hlt | rfl
  · have hdepth := valid.nextOpen_le_depth hlt
    have hstop := p.le_nextOpen (p.depth + 1)
    unfold stop
    omega
  · exact Nat.le_refl _

theorem Valid.open_nextOpen (valid : p.Valid) {i : Nat} (h : i < p.depth) :
    ∃ k, p.components[p.nextOpen (i + 1)]? = some k ∧ k.isOpen = true := by
  obtain ⟨k, hk, _⟩ := valid.open_depth
  have hlength := (List.getElem?_eq_some_iff.1 hk).1
  have hdepth := valid.nextOpen_le_depth h
  exact Plan.open_nextOpen (by omega)

theorem Valid.any_ahead (valid : p.Valid) {i : Nat} {k : Component} (h : i ≤ p.depth)
    (hk : p.components[i]? = some k) (hopen : k.isOpen = true) :
    (p.ahead i).any Component.isOpen = true := by
  rw [ahead_eq_cons hk (valid.nextOpen_le_stop h), List.any_cons, hopen, Bool.true_or]

end Plan

variable {fs : FileSystem} {c : Crumb} {p : Plan} {t : Assignment}

namespace Visit

/-- The folder stands for an open component that is not behind the depth. -/
structure Ready (v : Visit) (p : Plan) : Prop where
  le_depth : v.index ≤ p.depth
  isOpen : ∃ k, p.components[v.index]? = some k ∧ k.isOpen = true

theorem Ready.exists_open? {v : Visit} (ready : v.Ready p) :
    ∃ k, p.components[v.index]? = some k ∧ p.open? v.index = some k := by
  obtain ⟨k, hk, hopen⟩ := ready.isOpen
  exact ⟨k, hk, Plan.open?_eq_some ready.le_depth hk hopen⟩

/-- There is a descent through all that is ahead, and the tuple is what is kept of its values. -/
def Yields (fs : FileSystem) (c : Crumb) (p : Plan) (v : Visit) (t : Assignment) : Prop :=
  ∃ u stop, c.Descends fs (p.depth ≠ p.last) v.folder (p.ahead v.index) u stop ∧
    (c.checkExists = true → fs.pathExists stop = true) ∧ t = (v.bound ++ u).take p.kept

/-- Where an entry leads, behind the literal components that follow. -/
def beyond (v : Visit) (p : Plan) (entry : Text) : Text :=
  p.below (Path.push v.folder entry) (v.index + 1) (p.nextOpen (v.index + 1))

end Visit

namespace Crumb

variable {v w : Visit} {k : Component} {e : FileSystem.Entry}

theorem enter_of_none (hk : p.open? v.index = some k) (hb : c.bindingsFor k e.name = none) :
    c.enter fs p v e = .nothing := by
  rw [enter, hk, Option.bind_some, hb]

theorem enter_of_some {bindings : Assignment} (hk : p.open? v.index = some k)
    (hb : c.bindingsFor k e.name = some bindings) :
    c.enter fs p v e =
      if v.index = p.depth then
        if (v.index ≠ p.last → e.folder = true) ∧
            (c.checkExists = true → fs.pathExists (v.beyond p e.name) = true) then
          .tuple ((v.bound ++ bindings).take p.kept)
        else .nothing
      else if e.folder then
        .visit ⟨v.beyond p e.name, p.nextOpen (v.index + 1), v.bound ++ bindings⟩
      else .nothing := by
  rw [enter, hk, Option.bind_some, hb]
  have houtside : (!e.folder && v.index ≠ p.last) = true ↔
      ¬(v.index ≠ p.last → e.folder = true) := by cases e.folder <;> simp
  have habsent : (c.checkExists && !fs.pathExists (v.beyond p e.name)) = true ↔
      ¬(c.checkExists = true → fs.pathExists (v.beyond p e.name) = true) := by simp
  by_cases hdepth : v.index = p.depth
  · refine (if_pos hdepth).trans (Eq.trans ?_ (if_pos hdepth).symm)
    by_cases hinside : v.index ≠ p.last → e.folder = true
    · refine (if_neg (mt houtside.1 (not_not_intro hinside))).trans ?_
      by_cases hthere : c.checkExists = true → fs.pathExists (v.beyond p e.name) = true
      · exact (if_neg (mt habsent.1 (not_not_intro hthere))).trans (if_pos ⟨hinside, hthere⟩).symm
      · exact (if_pos (habsent.2 hthere)).trans (if_neg fun h => hthere h.2).symm
    · exact (if_pos (houtside.2 hinside)).trans (if_neg fun h => hinside h.1).symm
  · rw [if_neg hdepth]
    exact if_neg hdepth

theorem enter_eq_visit_iff (hk : p.open? v.index = some k) :
    c.enter fs p v e = .visit w ↔ ∃ bindings, c.bindingsFor k e.name = some bindings ∧
      v.index ≠ p.depth ∧ e.folder = true ∧
      w = ⟨v.beyond p e.name, p.nextOpen (v.index + 1), v.bound ++ bindings⟩ := by
  cases hb : c.bindingsFor k e.name with
  | none => simp [enter_of_none hk hb]
  | some bindings =>
    rw [enter_of_some hk hb]
    split
    · split <;> grind
    · split <;> grind

end Crumb

/-- What an entry of a listed folder yields in the end. -/
def Finding.Yields (fs : FileSystem) (c : Crumb) (p : Plan) (t : Assignment) : Finding → Prop
  | nothing => False
  | visit v => v.Yields fs c p t
  | tuple found => t = found

/-- A descent starts with one of the entries of the folder. -/
theorem yields_iff_exists_bindings {v : Visit} {k : Component}
    (hk : p.components[v.index]? = some k) (hopen : k.isOpen = true)
    (hstop : p.nextOpen (v.index + 1) ≤ p.stop) :
    v.Yields fs c p t ↔
      ∃ e ∈ fs.list v.folder, ∃ bindings, c.bindingsFor k e.name = some bindings ∧
        (p.depth ≠ p.last ∨ (p.ahead (p.nextOpen (v.index + 1))).any Component.isOpen = true →
          e.folder = true) ∧
        Visit.Yields fs c p ⟨p.below (Path.push v.folder e.name) (v.index + 1)
          (p.nextOpen (v.index + 1)), p.nextOpen (v.index + 1), v.bound ++ bindings⟩ t := by
  have hany : (p.literals (v.index + 1) ++ p.ahead (p.nextOpen (v.index + 1))).any
      Component.isOpen = (p.ahead (p.nextOpen (v.index + 1))).any Component.isOpen := by
    have hclosed : (p.literals (v.index + 1)).any Component.isOpen = false :=
      List.any_eq_false.2 fun k hk => by simp [Plan.closed_of_mem_literals hk]
    rw [List.any_append, hclosed, Bool.false_or]
  simp only [Visit.Yields, Plan.ahead_eq_cons hk hstop, Crumb.descends_open hopen, hany,
    Crumb.descends_literals fun _ h => Plan.closed_of_mem_literals h]
  constructor
  · intro h
    obtain ⟨_, stop, ⟨e, he, bindings, u, hb, hfolder, rfl, rest⟩, hexists, rfl⟩ := h
    exact ⟨e, he, bindings, hb, hfolder, u, stop, rest, hexists, by rw [List.append_assoc]⟩
  · intro h
    obtain ⟨e, he, bindings, hb, hfolder, u, stop, rest, hexists, rfl⟩ := h
    exact ⟨bindings ++ u, stop, ⟨e, he, bindings, u, hb, hfolder, rfl, rest⟩, hexists,
      by rw [List.append_assoc]⟩

/-- Behind the last listed component the literal ones remain. -/
theorem yields_stop {v : Visit} (h : v.index = p.stop) :
    v.Yields fs c p t ↔
      (c.checkExists = true → fs.pathExists v.folder = true) ∧ t = v.bound.take p.kept := by
  simp only [Visit.Yields, h, Plan.ahead_stop, Crumb.descends_nil]
  constructor
  · intro h
    obtain ⟨_, _, ⟨rfl, rfl⟩, hexists, rfl⟩ := h
    exact ⟨hexists, by rw [List.append_nil]⟩
  · intro h
    obtain ⟨hexists, rfl⟩ := h
    exact ⟨[], v.folder, ⟨rfl, rfl⟩, hexists, by rw [List.append_nil]⟩

theorem yields_enter {v : Visit} {k : Component} {e : FileSystem.Entry} (valid : p.Valid)
    (hle : v.index ≤ p.depth) (hk : p.components[v.index]? = some k) (hopen : k.isOpen = true) :
    (c.enter fs p v e).Yields fs c p t ↔
      ∃ bindings, c.bindingsFor k e.name = some bindings ∧
        (p.depth ≠ p.last ∨ (p.ahead (p.nextOpen (v.index + 1))).any Component.isOpen = true →
          e.folder = true) ∧
        Visit.Yields fs c p ⟨p.below (Path.push v.folder e.name) (v.index + 1)
          (p.nextOpen (v.index + 1)), p.nextOpen (v.index + 1), v.bound ++ bindings⟩ t := by
  have hopen? : p.open? v.index = some k := Plan.open?_eq_some hle hk hopen
  cases hb : c.bindingsFor k e.name with
  | none => simp [Crumb.enter_of_none hopen? hb, Finding.Yields]
  | some bindings =>
    rw [Crumb.enter_of_some hopen? hb]
    simp only [Option.some.injEq, exists_eq_left']
    rcases Nat.lt_or_eq_of_le hle with hlt | hdepth
    · obtain ⟨next, hnext, hnextOpen⟩ := valid.open_nextOpen hlt
      have hany := valid.any_ahead (valid.nextOpen_le_depth hlt) hnext hnextOpen
      rw [if_neg (by omega), hany]
      cases e.folder with
      | true => simp [Finding.Yields, Visit.beyond]
      | false => simp [Finding.Yields]
    · have hstop : p.nextOpen (v.index + 1) = p.stop := by rw [hdepth]; rfl
      have hbeyond :
          v.beyond p e.name = p.below (Path.push v.folder e.name) (v.index + 1) p.stop := by
        rw [Visit.beyond, hstop]
      rw [yields_stop hstop, if_pos hdepth, hbeyond, hstop, Plan.ahead_stop, List.any_nil, ← hdepth]
      simp only [Bool.false_eq_true, or_false]
      split
      · next h => exact ⟨fun e => ⟨h.1, h.2, e⟩, fun h' => h'.2.2⟩
      · next h => exact iff_of_false id fun h' => h ⟨h'.1, h'.2.1⟩

theorem ready_of_enter {v w : Visit} {e : FileSystem.Entry} (valid : p.Valid) (ready : v.Ready p)
    (h : c.enter fs p v e = .visit w) : w.Ready p := by
  obtain ⟨k, _, hopen⟩ := ready.exists_open?
  obtain ⟨bindings, _, hdepth, _, rfl⟩ := (Crumb.enter_eq_visit_iff hopen).1 h
  have hlt : v.index < p.depth := Nat.lt_of_le_of_ne ready.le_depth hdepth
  exact ⟨valid.nextOpen_le_depth hlt, valid.open_nextOpen hlt⟩

theorem mem_filterMap_visit? {v : Visit} {findings : List Finding} :
    v ∈ findings.filterMap Finding.visit? ↔ .visit v ∈ findings := by
  rw [List.mem_filterMap]
  constructor
  · intro ⟨finding, hmem, h⟩
    cases finding with
    | visit w => cases Option.some.inj h; exact hmem
    | nothing => cases h
    | tuple t => cases h
  · intro hmem
    exact ⟨_, hmem, rfl⟩

theorem mem_filterMap_tuple? {findings : List Finding} :
    t ∈ findings.filterMap Finding.tuple? ↔ .tuple t ∈ findings := by
  rw [List.mem_filterMap]
  constructor
  · intro ⟨finding, hmem, h⟩
    cases finding with
    | tuple u => cases Option.some.inj h; exact hmem
    | nothing => cases h
    | visit v => cases h
  · intro hmem
    exact ⟨_, hmem, rfl⟩

theorem exists_yields_iff {findings : List Finding} :
    (∃ finding ∈ findings, finding.Yields fs c p t) ↔
      t ∈ findings.filterMap Finding.tuple? ∨
        ∃ v ∈ findings.filterMap Finding.visit?, v.Yields fs c p t := by
  constructor
  · intro ⟨finding, hmem, h⟩
    cases finding with
    | nothing => cases h
    | visit v => exact .inr ⟨v, mem_filterMap_visit?.2 hmem, h⟩
    | tuple u => cases h; exact .inl (mem_filterMap_tuple?.2 hmem)
  · rintro (hmem | ⟨v, hmem, h⟩)
    · exact ⟨.tuple t, mem_filterMap_tuple?.1 hmem, rfl⟩
    · exact ⟨.visit v, mem_filterMap_visit?.1 hmem, h⟩

/-- Listing a folder replaces its visit by what the entries come to. -/
theorem yields_iff_exists_finding {v : Visit} (valid : p.Valid) (ready : v.Ready p) :
    v.Yields fs c p t ↔
      ∃ finding ∈ (fs.list v.folder).map (c.enter fs p v), finding.Yields fs c p t := by
  obtain ⟨k, hk, hopen⟩ := ready.isOpen
  rw [yields_iff_exists_bindings hk hopen (valid.nextOpen_le_stop ready.le_depth)]
  constructor
  · intro ⟨e, he, h⟩
    exact ⟨_, List.mem_map_of_mem he, (yields_enter valid ready.le_depth hk hopen).2 h⟩
  · intro ⟨finding, hmem, h⟩
    obtain ⟨e, he, rfl⟩ := List.mem_map.1 hmem
    exact ⟨e, he, (yields_enter valid ready.le_depth hk hopen).1 h⟩

namespace Walk

variable {w w' : Walk}

def Ready (w : Walk) (p : Plan) : Prop := ∀ v ∈ w.waiting, v.Ready p

/-- The tuple has been found, or a visit that waits yields it. -/
def Answers (fs : FileSystem) (c : Crumb) (p : Plan) (w : Walk) (t : Assignment) : Prop :=
  t ∈ w.found ∨ ∃ v ∈ w.waiting, v.Yields fs c p t

theorem ready_next (valid : p.Valid) (ready : w.Ready p) (h : w.next? fs c p = some w') :
    w'.Ready p := by
  obtain ⟨waiting, found⟩ := w
  cases waiting with
  | nil => cases h
  | cons v waiting =>
    cases h
    intro u hu
    rcases List.mem_append.1 hu with hu | hu
    · obtain ⟨e, _, he⟩ := List.mem_map.1 (mem_filterMap_visit?.1 hu)
      exact ready_of_enter valid (ready v (List.mem_cons_self ..)) he
    · exact ready u (List.mem_cons_of_mem _ hu)

theorem answers_next (valid : p.Valid) (ready : w.Ready p) (h : w.next? fs c p = some w') :
    w'.Answers fs c p t ↔ w.Answers fs c p t := by
  obtain ⟨waiting, found⟩ := w
  cases waiting with
  | nil => cases h
  | cons v waiting =>
    cases h
    have hv : v.Yields fs c p t ↔ _ :=
      (yields_iff_exists_finding valid (ready v (List.mem_cons_self ..))).trans exists_yields_iff
    simp only [Answers, List.mem_append, SortedList.mem_foldr_insert, List.mem_cons,
      or_and_right, exists_or, exists_eq_left, hv]
    grind

theorem ascending_next (hfound : w.found.Pairwise (· < ·)) (h : w.next? fs c p = some w') :
    w'.found.Pairwise (· < ·) := by
  obtain ⟨waiting, found⟩ := w
  cases waiting with
  | nil => cases h
  | cons v waiting =>
    cases h
    exact SortedList.ascending_foldr_insert hfound

theorem waiting_eq_nil_of_next (h : w.next? fs c p = none) : w.waiting = [] := by
  obtain ⟨waiting, found⟩ := w
  cases waiting with
  | nil => rfl
  | cons v waiting => cases h

theorem run_of_none (h : w.next? fs c p = none) : w.run fs c p = w.found := by
  rw [run]
  split <;> simp_all

theorem run_of_some (h : w.next? fs c p = some w') : w.run fs c p = w'.run fs c p := by
  rw [run]
  split <;> simp_all

/-- A whole walk finds what it answered with from the start. -/
theorem mem_run (valid : p.Valid) (ready : w.Ready p) :
    t ∈ w.run fs c p ↔ w.Answers fs c p t := by
  induction w using run.induct fs c p with
  | case1 w hnone =>
    rw [run_of_none hnone, Answers, waiting_eq_nil_of_next hnone]
    simp
  | case2 w w' hsome ih =>
    rw [run_of_some hsome, ih (ready_next valid ready hsome), answers_next valid ready hsome]

theorem ascending_run (hfound : w.found.Pairwise (· < ·)) :
    (w.run fs c p).Pairwise (· < ·) := by
  induction w using run.induct fs c p with
  | case1 w hnone => rwa [run_of_none hnone]
  | case2 w w' hsome ih =>
    rw [run_of_some hsome]
    exact ih (ascending_next hfound hsome)

end Walk

end PathTemplates
