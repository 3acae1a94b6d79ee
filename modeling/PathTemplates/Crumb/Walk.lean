import PathTemplates.Crumb.Basic

namespace PathTemplates

/-- Which arguments a listing is about. -/
inductive Extent where
  | all
  | targets (names : List Text)

/-- What is settled about a walk before it starts. -/
structure Plan where
  components : List Component
  /-- The open component whose entries end a branch. -/
  depth : Nat
  /-- The last open component, the only one for which entries other than folders count. -/
  last : Nat
  /-- How many values a tuple keeps. -/
  kept : Nat

namespace Plan

/-- The place of the last member with a property. -/
def lastIndex? {α : Type} (holds : α → Bool) : List α → Option Nat
  | [] => none
  | x :: xs =>
    match lastIndex? holds xs with
    | some i => some (i + 1)
    | none => if holds x then some 0 else none

/-- The open component that a listing is about, given the last one of all. -/
def target? (components : List Component) (last : Nat) : Extent → Option Nat
  | .all => some last
  | .targets names => lastIndex? (fun k => k.names.any names.contains) components

/-- The values of the open components up to the target. -/
def keptUpTo (components : List Component) : Option Nat → Nat
  | none => 0
  | some target => ((components.take (target + 1)).flatMap Component.names).length

/-- There is nothing to walk without an open component, and nothing without an open target unless
paths have to be there. Where they have to be, the walk goes down to the last open component for
every target, and the tuples are cut afterwards. -/
def make? (components : List Component) (checkExists : Bool) (extent : Extent) : Option Plan :=
  match lastIndex? Component.isOpen components with
  | none => none
  | some last =>
    let target := target? components last extent
    match if checkExists then some last else target with
    | none => none
    | some depth => some ⟨components, depth, last, keptUpTo components target⟩

/-- The open component at a place down to the depth. -/
def open? (p : Plan) (index : Nat) : Option Component :=
  ((p.components.take (p.depth + 1))[index]?).filter Component.isOpen

/-- The first open component from a place on, or else the place behind all components. -/
def nextOpen (p : Plan) (start : Nat) : Nat :=
  start + (p.components.drop start).findIdx Component.isOpen

/-- The path that the components from one place to another lead to from a folder. -/
def below (p : Plan) (folder : Text) (start stop : Nat) : Text :=
  ((p.components.take stop).drop start).foldl (fun folder k => Path.push folder k.text) folder

end Plan

/-- A folder to be listed: its entries fill the component at `index`, and the components before
have the values that are bound. -/
structure Visit where
  folder : Text
  index : Nat
  bound : Assignment

/-- What an entry of a listed folder comes to. -/
inductive Finding where
  | nothing
  | visit (v : Visit)
  | tuple (t : Assignment)

namespace Finding

def visit? : Finding → Option Visit
  | visit v => some v
  | _ => none

def tuple? : Finding → Option Assignment
  | tuple t => some t
  | _ => none

end Finding

/-- The folders still to be listed, the next one first, and the tuples found so far, in ascending
order. -/
structure Walk where
  waiting : List Visit
  found : List Assignment

namespace Crumb

/-- The values that an entry gives to the arguments of a component, if it is not ignored and fits
the component and the patterns. -/
def bindingsFor (c : Crumb) (k : Component) (entry : Text) : Option Assignment :=
  if c.ignore.ignores entry then none
  else match k.matchEntry entry with
    | none => none
    | some bindings =>
      if bindings.all fun b => c.patterns.allows b.name b.value then some bindings else none

/-- Looks at an entry of a listed folder. -/
def enter (fs : FileSystem) (c : Crumb) (p : Plan) (v : Visit) (e : FileSystem.Entry) : Finding :=
  match (p.open? v.index).bind fun k => c.bindingsFor k e.name with
  | none => .nothing
  | some bindings =>
    let bound := v.bound ++ bindings
    let next := p.nextOpen (v.index + 1)
    let there := p.below (Path.push v.folder e.name) (v.index + 1) next
    if v.index = p.depth then
      if !e.folder && v.index ≠ p.last then .nothing
      else if c.checkExists && !fs.pathExists there then .nothing
      else .tuple (bound.take p.kept)
    else if e.folder then .visit ⟨there, next, bound⟩
    else .nothing

end Crumb

namespace Walk

/-- Starts in the folder in front of the first open component. -/
def start (p : Plan) : Walk :=
  let first := p.nextOpen 0
  ⟨[⟨Component.joined (p.components.take first), first, []⟩], []⟩

/-- Lists the next folder. -/
def next? (fs : FileSystem) (c : Crumb) (p : Plan) (w : Walk) : Option Walk :=
  match w.waiting with
  | [] => none
  | v :: waiting =>
    let findings := (fs.list v.folder).map (c.enter fs p v)
    some ⟨findings.filterMap Finding.visit? ++ waiting,
      (findings.filterMap Finding.tuple?).foldr SortedList.insert w.found⟩

-- No folder has more entries than the file system, and what an entry leads to is at least one
-- component further on, also where links lead back up.
def visitWork (fs : FileSystem) (p : Plan) (v : Visit) : Nat :=
  Nat.pow (fs.nodes.length + 1) (p.components.length - v.index)

def totalWork (fs : FileSystem) (p : Plan) : List Visit → Nat
  | [] => 0
  | v :: vs => visitWork fs p v + totalWork fs p vs

def work (fs : FileSystem) (p : Plan) (w : Walk) : Nat := totalWork fs p w.waiting

theorem totalWork_append (fs : FileSystem) (p : Plan) (vs ws : List Visit) :
    totalWork fs p (vs ++ ws) = totalWork fs p vs + totalWork fs p ws := by
  induction vs with
  | nil => exact (Nat.zero_add _).symm
  | cons v vs ih => rw [List.cons_append, totalWork, ih, totalWork, Nat.add_assoc]

theorem totalWork_le {fs : FileSystem} {p : Plan} {bound : Nat} {vs : List Visit}
    (h : ∀ v ∈ vs, visitWork fs p v ≤ bound) : totalWork fs p vs ≤ vs.length * bound := by
  induction vs with
  | nil => exact Nat.zero_le _
  | cons v vs ih =>
    have hv := h v (List.mem_cons_self ..)
    have hvs := ih fun w hw => h w (List.mem_cons_of_mem _ hw)
    rw [totalWork, List.length_cons, Nat.add_mul, Nat.one_mul]
    omega

theorem lt_length_of_open? {p : Plan} {index : Nat} {k : Component}
    (h : p.open? index = some k) : index < p.components.length := by
  obtain ⟨h, _⟩ := Option.filter_eq_some_iff.1 h
  have hlt := (List.getElem?_eq_some_iff.1 h).1
  rw [List.length_take] at hlt
  omega

theorem index_of_enter {fs : FileSystem} {c : Crumb} {p : Plan} {v w : Visit}
    {e : FileSystem.Entry} (h : c.enter fs p v e = .visit w) :
    v.index < p.components.length ∧ w.index = p.nextOpen (v.index + 1) := by
  unfold Crumb.enter at h
  split at h
  · cases h
  · next bindings hb =>
    obtain ⟨k, hk, _⟩ := Option.bind_eq_some_iff.1 hb
    refine ⟨lt_length_of_open? hk, ?_⟩
    dsimp only at h
    split at h
    · split at h
      · cases h
      · split at h <;> cases h
    · split at h
      · cases h
        rfl
      · cases h

/-- The folders that one listing adds count less together than the listed one. -/
theorem totalWork_visits_lt (fs : FileSystem) (c : Crumb) (p : Plan) (v : Visit) :
    totalWork fs p (((fs.list v.folder).map (c.enter fs p v)).filterMap Finding.visit?) <
      visitWork fs p v := by
  have hpos : 0 < visitWork fs p v := Nat.pow_pos (Nat.succ_pos _)
  let visits := ((fs.list v.folder).map (c.enter fs p v)).filterMap Finding.visit?
  have hvisit : ∀ w ∈ visits,
      v.index < p.components.length ∧ w.index = p.nextOpen (v.index + 1) := by
    intro w hw
    obtain ⟨finding, ho, hw⟩ := List.mem_filterMap.1 hw
    obtain ⟨e, _, he⟩ := List.mem_map.1 ho
    cases finding with
    | visit w' =>
      cases Option.some.inj hw
      exact index_of_enter he
    | nothing => cases hw
    | tuple t => cases hw
  by_cases hlt : v.index < p.components.length
  · let bound := Nat.pow (fs.nodes.length + 1) (p.components.length - v.index - 1)
    have hsum : totalWork fs p visits ≤ visits.length * bound := by
      refine totalWork_le fun w hw => Nat.pow_le_pow_right (Nat.succ_pos _) ?_
      have := (hvisit w hw).2
      unfold Plan.nextOpen at this
      omega
    have hlength : visits.length ≤ fs.nodes.length := by
      refine Nat.le_trans (List.length_filterMap_le ..) ?_
      rw [List.length_map]
      exact fs.length_list_le v.folder
    have hwork : visitWork fs p v = (fs.nodes.length + 1) * bound := by
      have hindex : p.components.length - v.index = p.components.length - v.index - 1 + 1 := by
        omega
      rw [visitWork, hindex]
      exact Nat.mul_comm _ _
    have hbound : 0 < bound := Nat.pow_pos (Nat.succ_pos _)
    calc totalWork fs p visits
      _ ≤ visits.length * bound := hsum
      _ ≤ fs.nodes.length * bound := Nat.mul_le_mul_right _ hlength
      _ < (fs.nodes.length + 1) * bound := by rw [Nat.add_mul]; omega
      _ = visitWork fs p v := hwork.symm
  · have hnone : visits = [] :=
      List.eq_nil_iff_forall_not_mem.2 fun w hw => hlt (hvisit w hw).1
    rw [show ((fs.list v.folder).map (c.enter fs p v)).filterMap Finding.visit? = [] from hnone]
    exact hpos

theorem work_lt_of_next {fs : FileSystem} {c : Crumb} {p : Plan} {w w' : Walk}
    (h : w.next? fs c p = some w') : w'.work fs p < w.work fs p := by
  obtain ⟨waiting, found⟩ := w
  cases waiting with
  | nil => cases h
  | cons v waiting =>
    cases h
    have hv := totalWork_visits_lt fs c p v
    rw [work, work, totalWork_append, totalWork]
    omega

/-- Lists all folders that are waiting, and those that are found on the way. -/
def run (fs : FileSystem) (c : Crumb) (p : Plan) (w : Walk) : List Assignment :=
  match _h : w.next? fs c p with
  | none => w.found
  | some w' => run fs c p w'
termination_by w.work fs p
decreasing_by exact work_lt_of_next _h

end Walk

end PathTemplates
