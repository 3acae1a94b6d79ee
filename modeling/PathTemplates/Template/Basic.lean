import PathTemplates.Text

namespace PathTemplates

/-- Character offsets, the first one included and the last one not. -/
structure Span where
  start : Nat
  stop : Nat
  deriving DecidableEq, Repr

namespace Span

def shift (s : Span) (n : Nat) : Span := ⟨s.start + n, s.stop + n⟩

end Span

/-- A named argument. The pattern is kept as it is written, so that `{a:}`, with an empty pattern,
stays apart from `{a}`, which has none. -/
structure Placeholder where
  name : Text
  pattern : Option Text
  span : Span
  deriving DecidableEq, Repr

namespace Placeholder

/-- The pattern that constrains the argument: an empty one does not. -/
def constraint (p : Placeholder) : Option Text :=
  p.pattern.filter fun t => t ≠ []

def text (p : Placeholder) : Text :=
  match p.pattern with
  | none => '{' :: p.name ++ ['}']
  | some t => '{' :: p.name ++ ':' :: t ++ ['}']

end Placeholder

inductive Segment where
  | literal (text : Text)
  | argument (placeholder : Placeholder)
  deriving DecidableEq, Repr

namespace Segment

def placeholder? : Segment → Option Placeholder
  | literal _ => none
  | argument p => some p

@[simp] theorem filterMap_placeholder?_literal (t : Text) (rest : List Segment) :
    (literal t :: rest).filterMap placeholder? = rest.filterMap placeholder? := rfl

@[simp] theorem filterMap_placeholder?_argument (p : Placeholder) (rest : List Segment) :
    (argument p :: rest).filterMap placeholder? = p :: rest.filterMap placeholder? := rfl

/-- The segment with a value written for its argument, where there is one. -/
def render (value : Text → Option Text) : Segment → Text
  | literal t => t
  | argument p => (value p.name).getD p.text

def shift (n : Nat) : Segment → Segment
  | literal t => literal t
  | argument p => argument { p with span := p.span.shift n }

end Segment

structure Template where
  segments : List Segment
  deriving DecidableEq, Repr

namespace Template

def placeholders (t : Template) : List Placeholder := t.segments.filterMap Segment.placeholder?

/-- The names of all arguments, in the order of the text. -/
def names (t : Template) : List Text := t.placeholders.map (·.name)

def placeholder? (t : Template) (name : Text) : Option Placeholder :=
  t.placeholders.find? fun p => p.name = name

def mentions (t : Template) (name : Text) : Bool := t.names.contains name

def render (t : Template) (value : Text → Option Text) : Text :=
  t.segments.flatMap (Segment.render value)

def text (t : Template) : Text := t.render fun _ => none

/-- Gives the first argument of that name another pattern; spans stay as they are. -/
def setPatternIn (name : Text) (pattern : Option Text) : List Segment → List Segment
  | [] => []
  | .literal t :: rest => .literal t :: setPatternIn name pattern rest
  | .argument p :: rest =>
    if p.name = name then .argument { p with pattern } :: rest
    else .argument p :: setPatternIn name pattern rest

def setPattern (t : Template) (name : Text) (pattern : Option Text) : Template :=
  ⟨setPatternIn name pattern t.segments⟩

theorem names_setPattern (t : Template) (name : Text) (pattern : Option Text) :
    (t.setPattern name pattern).names = t.names := by
  obtain ⟨segments⟩ := t
  simp only [names, placeholders, setPattern]
  induction segments with
  | nil => rfl
  | cons g rest ih =>
    cases g with
    | literal t => simpa [setPatternIn] using ih
    | argument p =>
      by_cases h : p.name = name
      · simp [setPatternIn, h]
      · simpa [setPatternIn, h] using ih

/-- Puts literal text in front; it grows together with a literal that the template starts with, and
every argument moves by its length. -/
def prepend (front : Text) (t : Template) : Template :=
  match t.segments.map (Segment.shift front.length) with
  | .literal first :: rest => ⟨.literal (front ++ first) :: rest⟩
  | segments => ⟨.literal front :: segments⟩

theorem names_shift (n : Nat) (segments : List Segment) :
    (Template.mk (segments.map (Segment.shift n))).names = (Template.mk segments).names := by
  induction segments with
  | nil => rfl
  | cons g rest ih =>
    simp only [names, placeholders] at ih ⊢
    cases g with
    | literal t => simpa only [List.map_cons, Segment.shift, Segment.filterMap_placeholder?_literal]
    | argument p =>
      simpa only [List.map_cons, Segment.shift, Segment.filterMap_placeholder?_argument,
        List.cons.injEq, true_and]

theorem names_prepend (front : Text) (t : Template) : (t.prepend front).names = t.names := by
  have h := names_shift front.length t.segments
  unfold prepend
  split
  · next first rest e =>
    simpa only [names, placeholders, e, Segment.filterMap_placeholder?_literal] using h
  · simpa only [names, placeholders, Segment.filterMap_placeholder?_literal] using h

end Template

end PathTemplates
