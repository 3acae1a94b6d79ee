import PathTemplates.Template.Basic
import PathTemplates.Template.Error
import PathTemplates.Unicode.CharClass

namespace PathTemplates

def isNameChar (c : Char) : Bool := isAlphanumeric c || c = '_'

namespace Template

/-- What is being read: a literal, a name or a pattern, with the characters of it seen so far, and
for an argument the place of its opening brace. In a pattern `depth` braces are open. -/
inductive Reading where
  | literal (seen : Text)
  | name (start : Nat) (seen : Text)
  | pattern (start : Nat) (name seen : Text) (depth : Nat)

/-- A literal becomes a segment only if it has a character. -/
def literalSegment : Text → List Segment
  | [] => []
  | t => [.literal t]

/-- Reads on from a position; the argument list is what is left of the text. -/
def readSegments : Reading → Nat → Text → Except TemplateError (List Segment)
  | .literal seen, _, [] => .ok (literalSegment seen)
  | .name _ _, position, [] => .error (.malformed position)
  | .pattern _ _ _ _, position, [] => .error (.malformed position)
  | .literal seen, position, c :: rest =>
    if c = '{' then
      (readSegments (.name position []) (position + 1) rest).map (literalSegment seen ++ ·)
    else if c = '}' then .error (.malformed position)
    else readSegments (.literal (seen ++ [c])) (position + 1) rest
  | .name start seen, position, c :: rest =>
    if c = '}' then
      (readSegments (.literal []) (position + 1) rest).map
        (.argument ⟨seen, none, ⟨start, position + 1⟩⟩ :: ·)
    else if c = ':' then readSegments (.pattern start seen [] 0) (position + 1) rest
    else if isNameChar c then readSegments (.name start (seen ++ [c])) (position + 1) rest
    else .error (.malformed position)
  | .pattern start name seen depth, position, c :: rest =>
    if c = '{' then
      readSegments (.pattern start name (seen ++ [c]) (depth + 1)) (position + 1) rest
    else if c = '}' then
      match depth with
      | 0 =>
        (readSegments (.literal []) (position + 1) rest).map
          (.argument ⟨name, some seen, ⟨start, position + 1⟩⟩ :: ·)
      | depth + 1 => readSegments (.pattern start name (seen ++ [c]) depth) (position + 1) rest
    else readSegments (.pattern start name (seen ++ [c]) depth) (position + 1) rest

/-- The first argument without a name or with the name of an earlier one. -/
def firstBadName : List Text → List Placeholder → Option TemplateError
  | _, [] => none
  | earlier, p :: rest =>
    if p.name = [] then some (.emptyName p.span.start)
    else if p.name ∈ earlier then some (.repeatedName p.name p.span.start)
    else firstBadName (p.name :: earlier) rest

/-- A text of the wrong shape is refused where it goes wrong. Only then are names looked at. -/
def read (s : Text) : Except TemplateError Template :=
  match readSegments (.literal []) 0 s with
  | .error e => .error e
  | .ok segments =>
    match firstBadName [] (segments.filterMap Segment.placeholder?) with
    | some e => .error e
    | none => .ok ⟨segments⟩

theorem firstBadName_eq_none_iff {earlier : List Text} {ps : List Placeholder} :
    firstBadName earlier ps = none ↔
      (∀ p ∈ ps, p.name ≠ [] ∧ p.name ∉ earlier) ∧ (ps.map (·.name)).Nodup := by
  induction ps generalizing earlier with
  | nil => simp [firstBadName]
  | cons p rest ih =>
    by_cases hempty : p.name = []
    · simp [firstBadName, hempty]
    by_cases hrepeated : p.name ∈ earlier
    · simp [firstBadName, hempty, hrepeated]
    simp only [firstBadName, hempty, hrepeated, if_false, ih, List.mem_cons, not_or, List.map_cons,
      List.nodup_cons, List.mem_map]
    constructor
    · intro ⟨hrest, hnodup⟩
      refine ⟨?_, fun ⟨q, hq, e⟩ => (hrest q hq).2.1 e, hnodup⟩
      rintro q (rfl | hq)
      · exact ⟨hempty, hrepeated⟩
      · exact ⟨(hrest q hq).1, (hrest q hq).2.2⟩
    · intro ⟨hall, hnew, hnodup⟩
      exact ⟨fun q hq => ⟨(hall q (.inr hq)).1, fun e => hnew ⟨q, hq, e⟩, (hall q (.inr hq)).2⟩,
        hnodup⟩

theorem nodup_names_of_read {s : Text} {t : Template} (h : read s = .ok t) : t.names.Nodup := by
  unfold read at h
  split at h
  · cases h
  · split at h
    · cases h
    · next hnone =>
      cases h
      exact (firstBadName_eq_none_iff.1 hnone).2

end Template

end PathTemplates
