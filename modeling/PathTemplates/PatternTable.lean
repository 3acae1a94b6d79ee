import PathTemplates.NameMap
import PathTemplates.Pattern

namespace PathTemplates

/-- Patterns that are all read in one mode. An argument without an entry takes any value. -/
structure PatternTable where
  mode : PatternMode
  compiled : NameMap Pattern

namespace PatternTable

def empty (mode : PatternMode) : PatternTable := ⟨mode, .empty⟩

def get? (t : PatternTable) (name : Text) : Option Pattern := t.compiled.get? name

def clear (t : PatternTable) (name : Text) : PatternTable :=
  { t with compiled := t.compiled.erase name }

/-- A text that is no constraint clears the entry. -/
def set (t : PatternTable) (name text : Text) : Except (Failure PatternError) PatternTable :=
  match Pattern.compile t.mode text with
  | .error e => .error e
  | .ok .any => .ok (t.clear name)
  | .ok p => .ok { t with compiled := t.compiled.insert name p }

def allows (t : PatternTable) (name value : Text) : Bool :=
  match t.get? name with
  | none => true
  | some p => p.matchesName value

end PatternTable

end PathTemplates
