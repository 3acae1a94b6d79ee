import PathTemplates.NameMap
import PathTemplates.Template.Basic
import PathTemplates.Assignment

namespace PathTemplates

inductive Atom where
  | char (c : Char)
  | argument (p : Placeholder)
  deriving DecidableEq, Repr

namespace Atom

def isSlash (a : Atom) : Bool := a = char '/'

def placeholder? : Atom → Option Placeholder
  | char _ => none
  | argument p => some p

def text : Atom → Text
  | char c => [c]
  | argument p => p.text

end Atom

/-- What stands between two slashes. -/
abbrev Component := List Atom

namespace Segment

/-- Bound values are spliced in as literal text, so that one with slashes spans several
components. -/
def atoms (values : NameMap Text) : Segment → List Atom
  | literal t => t.map .char
  | argument p =>
    match values.get? p.name with
    | some v => v.map .char
    | none => [.argument p]

end Segment

namespace Component

def names (c : Component) : List Text := (c.filterMap Atom.placeholder?).map (·.name)

@[simp] theorem names_nil : names [] = [] := rfl

@[simp] theorem names_char (c : Char) (k : Component) : names (.char c :: k) = names k := rfl

@[simp] theorem names_argument (p : Placeholder) (k : Component) :
    names (.argument p :: k) = p.name :: names k := rfl

@[simp] theorem names_append (k l : Component) : names (k ++ l) = names k ++ names l := by
  simp [names]

@[simp] theorem names_map_char (t : Text) : names (t.map .char) = [] := by
  induction t with
  | nil => rfl
  | cons c t ih => rw [List.map_cons, names_char, ih]

def isOpen (c : Component) : Bool := !c.names.isEmpty

def text (c : Component) : Text := c.flatMap Atom.text

/-- The text of some components; a single empty one is the root folder. -/
def joined (cs : List Component) : Text :=
  let t := Text.join ['/'] (cs.map text)
  if t = [] && !cs.isEmpty then ['/'] else t

/-- The components of a template with some of its arguments bound. -/
def ofTemplate (t : Template) (values : NameMap Text) : List Component :=
  Text.splitBy Atom.isSlash (t.segments.flatMap (Segment.atoms values))

/-- The shortest value for an argument such that `rest` reads what is behind it, with what `rest`
makes of that. A value has a character, and no line feed. -/
def matchValue (rest : Text → Option Assignment) : Text → Option (Text × Assignment)
  | [] => none
  | c :: entry =>
    if c = '\n' then none
    else match rest entry with
      | some bindings => some ([c], bindings)
      | none => (matchValue rest entry).map fun r => (c :: r.1, r.2)

/-- The values with which the atoms read as `entry`; of several ways the one that gives the first
argument the shortest value, then the second, and so on. -/
def matchAtoms : List Atom → Text → Option Assignment
  | [], [] => some []
  | [], _ :: _ => none
  | .char _ :: _, [] => none
  | .char c :: atoms, d :: entry => if c = d then matchAtoms atoms entry else none
  | .argument p :: atoms, entry =>
    (matchValue (matchAtoms atoms) entry).map fun r => ⟨p.name, r.1⟩ :: r.2

/-- The endings of an entry, the longest first. -/
def endings : Text → List Text
  | [] => [[]]
  | c :: entry => (c :: entry) :: endings entry

/-- The table with a character in front, from the table of the atoms behind it. -/
def charTable (c : Char) : Text → List (Option Assignment) → List (Option Assignment)
  | [], _ => [none]
  | d :: entry, table =>
    (if c = d then (table.drop 1).headD none else none) :: charTable c entry (table.drop 1)

/-- The shortest value with each ending, from the table of the atoms behind the argument. -/
def valueTable : Text → List (Option Assignment) → List (Option (Text × Assignment))
  | [], _ => [none]
  | c :: entry, table =>
    let later := valueTable entry (table.drop 1)
    let here := if c = '\n' then none
      else match (table.drop 1).headD none with
        | some bindings => some ([c], bindings)
        | none => (later.headD none).map fun r => (c :: r.1, r.2)
    here :: later

/-- What the atoms make of each ending. The search for values takes up the same endings again and
again; here each of them is looked at once. -/
def matchTable : List Atom → Text → List (Option Assignment)
  | [], entry => entry.map (fun _ => none) ++ [some []]
  | .char c :: atoms, entry => charTable c entry (matchTable atoms entry)
  | .argument p :: atoms, entry =>
    (valueTable entry (matchTable atoms entry)).map fun r =>
      r.map fun r => ⟨p.name, r.1⟩ :: r.2

theorem headD_map_endings {α : Type} (f : Text → α) (entry : Text) (a : α) :
    ((endings entry).map f).headD a = f entry := by
  cases entry <;> rfl

theorem charTable_eq (c : Char) (atoms : List Atom) (entry : Text) :
    charTable c entry ((endings entry).map (matchAtoms atoms)) =
      (endings entry).map (matchAtoms (.char c :: atoms)) := by
  induction entry with
  | nil => rfl
  | cons d entry ih =>
    simp [endings, charTable, ih, headD_map_endings, matchAtoms, -List.headD_eq_head?_getD]

theorem valueTable_eq (f : Text → Option Assignment) (entry : Text) :
    valueTable entry ((endings entry).map f) = (endings entry).map (matchValue f) := by
  induction entry with
  | nil => rfl
  | cons c entry ih =>
    simp [endings, valueTable, ih, headD_map_endings, matchValue, -List.headD_eq_head?_getD]

theorem matchTable_eq (atoms : List Atom) (entry : Text) :
    matchTable atoms entry = (endings entry).map (matchAtoms atoms) := by
  induction atoms with
  | nil =>
    induction entry with
    | nil => rfl
    | cons c entry ih => simpa [matchTable, endings, matchAtoms] using ih
  | cons a atoms ih =>
    cases a with
    | char c => rw [matchTable, ih, charTable_eq]
    | argument p =>
      rw [matchTable, ih, valueTable_eq, List.map_map]
      rfl

/-- A component that is one argument takes the whole entry as its value. -/
def matchEntry (c : Component) (entry : Text) : Option Assignment :=
  match c with
  | [.argument p] => some [⟨p.name, entry⟩]
  | atoms => (matchTable atoms entry).headD none

theorem headD_matchTable (atoms : List Atom) (entry : Text) :
    (matchTable atoms entry).headD none = matchAtoms atoms entry := by
  rw [matchTable_eq, headD_map_endings]

theorem matchValue_eq_some {rest : Text → Option Assignment} {entry : Text}
    {r : Text × Assignment} (h : matchValue rest entry = some r) :
    ∃ behind, entry = r.1 ++ behind ∧ rest behind = some r.2 := by
  induction entry generalizing r with
  | nil => cases h
  | cons c entry ih =>
    unfold matchValue at h
    split at h
    · cases h
    · split at h
      · next bindings hrest =>
        cases h
        exact ⟨entry, rfl, hrest⟩
      · obtain ⟨r', hr', e⟩ := Option.map_eq_some_iff.1 h
        obtain ⟨behind, hentry, hbehind⟩ := ih hr'
        subst e
        exact ⟨behind, by rw [hentry]; rfl, hbehind⟩

theorem names_of_matchAtoms {atoms : List Atom} {entry : Text} {bindings : Assignment}
    (h : matchAtoms atoms entry = some bindings) : bindings.names = names atoms := by
  induction atoms generalizing entry bindings with
  | nil =>
    cases entry with
    | nil => cases h; rfl
    | cons c entry => cases h
  | cons a atoms ih =>
    cases a with
    | char c =>
      cases entry with
      | nil => cases h
      | cons d entry =>
        unfold matchAtoms at h
        split at h
        · exact ih h
        · cases h
    | argument p =>
      obtain ⟨r, hr, e⟩ := Option.map_eq_some_iff.1 h
      obtain ⟨behind, _, hbehind⟩ := matchValue_eq_some hr
      subst e
      exact congrArg (p.name :: ·) (ih hbehind)

theorem names_of_matchEntry {k : Component} {entry : Text} {bindings : Assignment}
    (h : k.matchEntry entry = some bindings) : bindings.names = k.names := by
  unfold matchEntry at h
  split at h
  · cases h
    rfl
  · rw [headD_matchTable] at h
    exact names_of_matchAtoms h

end Component

end PathTemplates
