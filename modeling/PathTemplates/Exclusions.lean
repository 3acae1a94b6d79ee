import PathTemplates.Glob.Shortcut
import PathTemplates.Pattern

namespace PathTemplates

structure Exclusions where
  globs : List Glob

namespace Exclusions

def empty : Exclusions := ⟨[]⟩

/-- Fails with the first text that is no glob. -/
def readGlobs : List Text → Except PatternError (List Glob)
  | [] => .ok []
  | t :: ts =>
    match Glob.read t with
    | .error e => .error ⟨t, .glob e⟩
    | .ok g => (readGlobs ts).map (g :: ·)

/-- What is wrong with globs that become expressions nested too deeply. Those that are tested by
their extension first come first and name the expression; the others are counted among their
kind. -/
def depthError? (globs : List Glob) : Option PatternError :=
  match globs.find? fun g => g.test.isExtensionFirst && g.isTooDeep with
  | some g => some ⟨g.regexText, .expression 0⟩
  | none =>
    ((globs.filter fun g => g.test = .expression).findIdx? Glob.isTooDeep).map
      fun i => ⟨[], .expression i⟩

/-- Fails with the first text that is no glob, or else with globs that are nested too deeply. As
with single expressions, how much room they take together is not limited here. -/
def read (texts : List Text) : Except PatternError Exclusions :=
  match readGlobs texts with
  | .error e => .error e
  | .ok globs =>
    match depthError? globs with
    | some e => .error e
    | none => .ok ⟨globs⟩

def texts (l : Exclusions) : List Text := l.globs.map (·.text)

def ignores (l : Exclusions) (name : Text) : Bool := l.globs.any fun g => g.excludes name

end Exclusions

end PathTemplates
