import PathTemplates.Proofs.Listing.Targets

namespace PathTemplates

variable {fs : FileSystem} {c : Crumb} {p : Plan} {extent : Extent} {t : Assignment}

/-- The arguments that a listing is about. -/
def Extent.Asks : Extent → Text → Prop
  | all, _ => True
  | targets names, n => n ∈ names

namespace Plan

/-- The plan has the components of the crumb, and its places are among them and in order. -/
structure Fits (p : Plan) (c : Crumb) (extent : Extent) : Prop where
  components_eq : p.components = c.components
  first_le_depth : p.nextOpen 0 ≤ p.depth
  target_le_depth : ∀ i, target? p.components p.last extent = some i → i ≤ p.depth
  depth_le_last : p.depth ≤ p.last
  last_lt_length : p.last < p.components.length
  /-- No tuple is cut behind its end. -/
  kept_le : p.kept ≤ ((p.components.take (p.depth + 1)).flatMap Component.names).length

theorem Valid.depth_le_last (valid : p.Valid) : p.depth ≤ p.last := by
  obtain ⟨k, hk, hopen⟩ := valid.open_depth
  exact valid.le_last _ k hk hopen

theorem target_le_depth {cs : List Component} {checkExists : Bool} {i : Nat}
    (h : make? cs checkExists extent = some p) (htarget : target? cs p.last extent = some i) :
    i ≤ p.depth := by
  obtain ⟨_, hlast, _, hdepth⟩ := make?_eq_some h
  cases checkExists with
  | true =>
    obtain ⟨k, hk, hopen⟩ := isOpen_of_target? hlast htarget
    have hle : i ≤ p.last := (lastIndex?_eq_some hlast).2 i k hk hopen
    rwa [← Option.some.inj hdepth]
  | false =>
    have heq : some i = some p.depth := htarget.symm.trans hdepth
    exact Nat.le_of_eq (Option.some.inj heq)

/-- The names of the components in front of one place, and of those from there to another. -/
theorem names_take_of_le {cs : List Component} {i j : Nat} (h : i ≤ j) :
    (cs.take j).flatMap Component.names =
      (cs.take i).flatMap Component.names ++ ((cs.take j).drop i).flatMap Component.names := by
  rw [← Component.flatMap_names_take_append_drop i (cs.take j), List.take_take, Nat.min_eq_left h]

theorem fits_of_make? (h : make? c.components c.checkExists extent = some p) :
    p.Fits c extent where
  components_eq := (make?_eq_some h).1
  first_le_depth := by
    obtain ⟨k, hk, hopen⟩ := (valid_of_make? h).open_depth
    exact nextOpen_le (Nat.zero_le _) hk hopen
  target_le_depth i hi := target_le_depth h ((make?_eq_some h).1 ▸ hi)
  depth_le_last := (valid_of_make? h).depth_le_last
  last_lt_length := by
    obtain ⟨hcomponents, hlast, _⟩ := make?_eq_some h
    obtain ⟨⟨k, hk, _⟩, _⟩ := lastIndex?_eq_some hlast
    exact hcomponents ▸ (List.getElem?_eq_some_iff.1 hk).1
  kept_le := by
    obtain ⟨hcomponents, _, hkept, _⟩ := make?_eq_some h
    rw [hkept, hcomponents]
    cases htarget : target? c.components p.last extent with
    | none => exact Nat.zero_le _
    | some i =>
      rw [names_take_of_le (Nat.succ_le_succ (target_le_depth h htarget)), List.length_append]
      exact Nat.le_add_right ..

/-- Literal components have no arguments. -/
theorem names_take_nextOpen (p : Plan) (start : Nat) :
    (p.components.take (p.nextOpen start)).flatMap Component.names =
      (p.components.take start).flatMap Component.names := by
  have hliterals : (p.literals start).flatMap Component.names = [] :=
    Component.flatMap_names_eq_nil_iff.2 fun k => closed_of_mem_literals
  rw [names_take_of_le (p.le_nextOpen start)]
  exact (congrArg _ hliterals).trans (List.append_nil _)

theorem names_take_succ {i : Nat} {k : Component} (hk : p.components[i]? = some k) :
    (p.components.take (i + 1)).flatMap Component.names =
      (p.components.take i).flatMap Component.names ++ k.names := by
  rw [List.take_add_one, hk, List.flatMap_append]
  simp

/-- What is kept of the values has those of all that the listing is about. -/
theorem mem_take_kept {n : Text} (h : make? c.components c.checkExists extent = some p)
    (hn : n ∈ c.openNames) (hasks : extent.Asks n) : n ∈ c.openNames.take p.kept := by
  rw [← Crumb.flatMap_names_components] at hn ⊢
  cases extent with
  | all => rwa [kept_of_all h, List.take_length]
  | targets ns =>
    rw [(make?_eq_some h).2.2.1]
    exact mem_take_keptUpTo hn hasks

end Plan

namespace Visit

/-- The folder stands for an open component that is not behind the depth, and the values that are
bound are those of the open arguments in front of it, in the order of the template. -/
structure Placed (v : Visit) (p : Plan) : Prop extends v.Ready p where
  names : v.bound.names = (p.components.take v.index).flatMap Component.names

/-- What is looked up for the entries of the folder is there: a matcher among those down to the
depth, the components behind, and those of them up to the next open one. -/
structure InRange (v : Visit) (p : Plan) : Prop where
  matcher_lt : v.index < (p.components.take (p.depth + 1)).length
  behind_le : v.index + 1 ≤ p.components.length
  start_le_stop : v.index + 1 ≤ p.nextOpen (v.index + 1)
  stop_le : p.nextOpen (v.index + 1) ≤ p.components.length

variable {v w : Visit} {k : Component} {e : FileSystem.Entry}

theorem Placed.inRange (placed : v.Placed p) : v.InRange p := by
  obtain ⟨k, hk, _⟩ := placed.isOpen
  have hlt : v.index < p.components.length := (List.getElem?_eq_some_iff.1 hk).1
  have hdepth : v.index ≤ p.depth := placed.le_depth
  refine ⟨?_, hlt, p.le_nextOpen _, Plan.nextOpen_le_length hlt⟩
  rw [List.length_take]
  omega

end Visit

namespace Crumb

variable {v w : Visit} {k : Component} {e : FileSystem.Entry}

/-- The reasons to pass over an entry. -/
inductive PassesOver (fs : FileSystem) (c : Crumb) (p : Plan) (v : Visit) (k : Component)
    (e : FileSystem.Entry) : Prop
  | ignored (h : c.ignore.ignores e.name = true)
  | misfit (h : k.matchEntry e.name = none)
  | refused {bindings b} (fits : k.matchEntry e.name = some bindings) (hb : b ∈ bindings)
      (h : c.patterns.allows b.name b.value = false)
  | noFolder (inside : v.index ≠ p.last) (h : e.folder = false)
  | absent (atDepth : v.index = p.depth) (checked : c.checkExists = true)
      (h : fs.pathExists (v.beyond p e.name) = false)

theorem bindingsFor_eq_none_iff {entry : Text} :
    c.bindingsFor k entry = none ↔ c.ignore.ignores entry = true ∨ k.matchEntry entry = none ∨
      ∃ bindings, k.matchEntry entry = some bindings ∧
        ∃ b ∈ bindings, c.patterns.allows b.name b.value = false := by
  unfold bindingsFor
  cases c.ignore.ignores entry with
  | true => simp
  | false =>
    cases k.matchEntry entry with
    | none => simp
    | some bindings => simp

theorem enter_eq_tuple_iff (hk : p.open? v.index = some k) :
    c.enter fs p v e = .tuple t ↔ ∃ bindings, c.bindingsFor k e.name = some bindings ∧
      v.index = p.depth ∧ (v.index ≠ p.last → e.folder = true) ∧
      (c.checkExists = true → fs.pathExists (v.beyond p e.name) = true) ∧
      t = (v.bound ++ bindings).take p.kept := by
  cases hb : c.bindingsFor k e.name with
  | none => simp [enter_of_none hk hb]
  | some bindings =>
    rw [enter_of_some hk hb]
    split
    · split <;> grind
    · split <;> grind

theorem enter_eq_nothing_iff (hk : p.open? v.index = some k) (hle : v.index ≤ p.depth)
    (hlast : p.depth ≤ p.last) : c.enter fs p v e = .nothing ↔ c.PassesOver fs p v k e := by
  cases hb : c.bindingsFor k e.name with
  | none =>
    rw [enter_of_none hk hb]
    refine iff_of_true rfl ?_
    obtain h | h | ⟨bindings, fits, b, hb, h⟩ := bindingsFor_eq_none_iff.1 hb
    · exact .ignored h
    · exact .misfit h
    · exact .refused fits hb h
  | some bindings =>
    obtain ⟨hkept, hfits, hallowed⟩ := bindingsFor_eq_some.1 hb
    rw [enter_of_some hk hb]
    constructor
    · intro h
      split at h
      · next hdepth =>
        split at h
        · cases h
        · next hnot =>
          rcases not_and_or.1 hnot with houtside | habsent
          · obtain ⟨hinside, hfile⟩ := Classical.not_imp.1 houtside
            exact .noFolder hinside (Bool.eq_false_iff.2 hfile)
          · obtain ⟨hchecked, hgone⟩ := Classical.not_imp.1 habsent
            exact .absent hdepth hchecked (Bool.eq_false_iff.2 hgone)
      · next hdepth =>
        split at h
        · cases h
        · next hfolder =>
          -- In front of the depth is in front of the last open component.
          exact .noFolder (by omega) (Bool.eq_false_iff.2 hfolder)
    · intro h
      cases h with
      | ignored h => rw [hkept] at h; cases h
      | misfit h => rw [hfits] at h; cases h
      | refused fits hmem h =>
        cases hfits.symm.trans fits
        rw [hallowed _ hmem] at h
        cases h
      | noFolder inside h => simp [inside, h]
      | absent atDepth checked h => simp [atDepth, checked, h]

end Crumb

namespace Visit

variable {v w : Visit} {e : FileSystem.Entry}

theorem names_bound_append {k : Component} {bindings : Assignment} {entry : Text}
    (placed : v.Placed p) (hk : p.components[v.index]? = some k)
    (hb : c.bindingsFor k entry = some bindings) :
    Assignment.names (v.bound ++ bindings) =
      (p.components.take (v.index + 1)).flatMap Component.names := by
  obtain ⟨_, hfits, _⟩ := Crumb.bindingsFor_eq_some.1 hb
  rw [Plan.names_take_succ hk, ← placed.names, ← Component.names_of_matchEntry hfits]
  exact List.map_append

theorem index_lt_of_enter (placed : v.Placed p) (h : c.enter fs p v e = .visit w) :
    v.index < w.index := by
  obtain ⟨k, _, hopen⟩ := placed.exists_open?
  obtain ⟨bindings, _, _, _, rfl⟩ := (Crumb.enter_eq_visit_iff hopen).1 h
  exact p.le_nextOpen (v.index + 1)

theorem placed_of_enter (valid : p.Valid) (placed : v.Placed p)
    (h : c.enter fs p v e = .visit w) : w.Placed p := by
  obtain ⟨k, hk, hopen⟩ := placed.exists_open?
  refine ⟨ready_of_enter valid placed.toReady h, ?_⟩
  obtain ⟨bindings, hb, _, _, rfl⟩ := (Crumb.enter_eq_visit_iff hopen).1 h
  rw [Plan.names_take_nextOpen]
  exact names_bound_append placed hk hb

/-- What is kept of the values of a tuple is the beginning of the open arguments. -/
theorem names_of_enter (fits : p.Fits c extent) (placed : v.Placed p)
    (h : c.enter fs p v e = .tuple t) : t.names = c.openNames.take p.kept := by
  obtain ⟨k, hk, hopen⟩ := placed.exists_open?
  obtain ⟨bindings, hb, hdepth, _, _, rfl⟩ := (Crumb.enter_eq_tuple_iff hopen).1 h
  have hnames := names_bound_append placed hk hb
  rw [hdepth] at hnames
  -- All that is kept belongs to components down to the depth, and these are filled now.
  rw [← Crumb.flatMap_names_components, ← fits.components_eq,
    ← Component.flatMap_names_take_append_drop (p.depth + 1),
    List.take_append_of_le_length fits.kept_le, ← hnames]
  exact List.map_take

/-- What holds of every folder that waits: it is where it belongs, nothing is looked up for its
entries that is not there, none of them is passed over for want of a matcher, and they lead on to
later components only. -/
structure Sound (fs : FileSystem) (c : Crumb) (p : Plan) (v : Visit) : Prop extends
    v.Placed p, v.InRange p where
  matched : ∃ k, p.components[v.index]? = some k ∧ p.open? v.index = some k ∧
    ∀ e, c.enter fs p v e = .nothing ↔ c.PassesOver fs p v k e
  onward : ∀ e w, c.enter fs p v e = .visit w → v.index < w.index

theorem Placed.sound (valid : p.Valid) (placed : v.Placed p) : v.Sound fs c p := by
  obtain ⟨k, hk, hopen⟩ := placed.exists_open?
  exact {
    toPlaced := placed
    toInRange := placed.inRange
    matched := ⟨k, hk, hopen, fun _ =>
      Crumb.enter_eq_nothing_iff hopen placed.le_depth valid.depth_le_last⟩
    onward := fun _ _ => index_lt_of_enter placed }

end Visit

namespace Walk

variable {w w' : Walk} {n : Nat}

/-- The walk of a plan after some turns of its loop. -/
inductive After (fs : FileSystem) (c : Crumb) (p : Plan) : Nat → Walk → Prop
  | start : After fs c p 0 (start p)
  | next {n : Nat} {w w' : Walk} (before : After fs c p n w) (h : w.next? fs c p = some w') :
    After fs c p (n + 1) w'

/-- The invariant of the loop. -/
structure Invariant (c : Crumb) (p : Plan) (w : Walk) : Prop where
  waiting : ∀ v ∈ w.waiting, v.Placed p
  found : ∀ t ∈ w.found, t.names = c.openNames.take p.kept

theorem invariant_start (valid : p.Valid) : (start p).Invariant c p where
  waiting v hv := by
    refine ⟨Plan.ready_start valid v hv, ?_⟩
    cases List.mem_singleton.1 hv
    rw [Plan.names_take_nextOpen, List.take_zero]
    rfl
  found t ht := nomatch ht

theorem invariant_next (fits : p.Fits c extent) (valid : p.Valid) (inv : w.Invariant c p)
    (h : w.next? fs c p = some w') : w'.Invariant c p := by
  obtain ⟨waiting, found⟩ := w
  cases waiting with
  | nil => cases h
  | cons v waiting =>
    cases h
    obtain ⟨hv, hwaiting⟩ := List.forall_mem_cons.1 inv.waiting
    constructor
    · refine List.forall_mem_append.2 ⟨fun u hu => ?_, hwaiting⟩
      obtain ⟨e, _, he⟩ := List.mem_map.1 (mem_filterMap_visit?.1 hu)
      exact Visit.placed_of_enter valid hv he
    · intro t ht
      rcases SortedList.mem_foldr_insert.1 ht with ht | ht
      · obtain ⟨e, _, he⟩ := List.mem_map.1 (mem_filterMap_tuple?.1 ht)
        exact Visit.names_of_enter fits hv he
      · exact inv.found t ht

theorem After.invariant (fits : p.Fits c extent) (valid : p.Valid) (h : After fs c p n w) :
    w.Invariant c p := by
  induction h with
  | start => exact invariant_start valid
  | next _ h ih => exact invariant_next fits valid ih h

/-- Each turn takes away from the work that was there at the start. -/
theorem After.add_work_le (h : After fs c p n w) : n + w.work fs p ≤ (Walk.start p).work fs p := by
  induction h with
  | start => omega
  | next _ h ih =>
    have hlt := work_lt_of_next h
    omega

theorem work_start_le (fs : FileSystem) (p : Plan) :
    (start p).work fs p ≤ Nat.pow (fs.nodes.length + 1) p.components.length :=
  Nat.pow_le_pow_right (Nat.succ_pos _) (Nat.sub_le ..)

/-- The loop ends, and with it the walk is what is found then. -/
theorem After.exists_end (h : After fs c p n w) :
    ∃ m last, After fs c p m last ∧ last.waiting = [] ∧ w.run fs c p = last.found := by
  induction w using run.induct fs c p generalizing n with
  | case1 w hnone => exact ⟨n, w, h, waiting_eq_nil_of_next hnone, run_of_none hnone⟩
  | case2 w w' hsome ih =>
    obtain ⟨m, last, hlast, hwaiting, hrun⟩ := ih (.next h hsome)
    exact ⟨m, last, hlast, hwaiting, (run_of_some hsome).trans hrun⟩

end Walk

namespace Crumb

theorem completions_of_plan (h : Plan.make? c.components c.checkExists extent = some p) :
    c.completions fs extent = (Walk.start p).run fs c p := by
  rw [completions, h]

/-- The places of a plan are in range and in order. Before each turn of the loop, all folders that
wait are sound, and each tuple has values for the first of the open arguments, with all among them
that the listing is about. There are at most as many turns as there are ways to choose an entry or
none for each component, and after the last one nothing waits and the listing is what has been
found. -/
theorem walk_turns (h : Plan.make? c.components c.checkExists extent = some p) :
    p.Fits c extent ∧
      (∀ n w, Walk.After fs c p n w →
        n ≤ Nat.pow (fs.nodes.length + 1) c.components.length ∧
        (∀ v ∈ w.waiting, v.Sound fs c p) ∧
        ∀ t ∈ w.found, t.names = c.openNames.take p.kept ∧
          ∀ a ∈ c.openNames, extent.Asks a → a ∈ t.names) ∧
      ∃ n w, Walk.After fs c p n w ∧ w.waiting = [] ∧ c.completions fs extent = w.found := by
  have fits := Plan.fits_of_make? h
  have valid := Plan.valid_of_make? h
  refine ⟨fits, fun n w hw => ?_, ?_⟩
  · have inv := hw.invariant fits valid
    have hturns := hw.add_work_le
    have hwork := Walk.work_start_le fs p
    rw [fits.components_eq] at hwork
    refine ⟨by omega, fun v hv => (inv.waiting v hv).sound valid, fun t ht => ?_⟩
    have hnames := inv.found t ht
    exact ⟨hnames, fun a ha hasks => hnames ▸ Plan.mem_take_kept h ha hasks⟩
  · rw [completions_of_plan h]
    exact Walk.After.exists_end .start

/-- The file `s/1_x` in its folder, and beside that folder a link that leads back up. -/
def sampleLoop : FileSystem where
  nodes := [([.text ['s']], .folder), ([.text ['1', '_', 'x'], .text ['s']], .file),
    ([.text ['l']], .link ['.'])]
  current := []
  distinct := by decide
  named := by decide
  grounded := by decide

/-- The walk for the first argument goes down to the second one, and keeps the first one only. -/
theorem walk_turns_sample :
    ∃ p, Plan.make? sample.components sample.checkExists (.targets [['a']]) = some p ∧
      (p.depth = 1 ∧ p.last = 1 ∧ p.kept = 1) ∧ p.Fits sample (.targets [['a']]) ∧
      (∀ n w, Walk.After sampleLoop sample p n w → n ≤ 16 ∧
        (∀ v ∈ w.waiting, v.Sound sampleLoop sample p) ∧ ∀ t ∈ w.found, t.names = [['a']]) ∧
      ∃ n w, Walk.After sampleLoop sample p n w ∧ w.waiting = [] ∧
        w.found = [[⟨['a'], ['s']⟩]] := by
  have hplan : Plan.make? sample.components sample.checkExists (.targets [['a']]) =
      some ⟨sample.components, 1, 1, 1⟩ := rfl
  obtain ⟨fits, hturns, n, w, hw, hwaiting, hfound⟩ := @walk_turns sampleLoop sample _ _ hplan
  refine ⟨_, hplan, ⟨rfl, rfl, rfl⟩, fits, fun n w hw => ?_, n, w, hw, hwaiting, ?_⟩
  · obtain ⟨hn, hsound, hnames⟩ := hturns n w hw
    exact ⟨hn, hsound, fun t ht => (hnames t ht).1⟩
  · rw [← hfound]
    with_unfolding_all rfl

end Crumb

end PathTemplates
