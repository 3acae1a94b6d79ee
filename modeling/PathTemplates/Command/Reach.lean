import PathTemplates.Command.Run

namespace PathTemplates

/-- A path that is followed, and the number of levels below it that may be listed. -/
structure Reach where
  path : Text
  depth : Nat
  deriving DecidableEq, Repr

namespace Crumb

/-- From the folder in front of the first open component a crumb goes down one level with each
component, except that a component of two periods goes up. -/
def reach (c : Crumb) : Reach :=
  let rest := c.components.dropWhile fun k => !k.isOpen
  let ups := (rest.filter fun k => k.text = ['.', '.']).length
  let front := if c.split.1 = [] then ['.'] else c.split.1
  ⟨front ++ (List.replicate ups ['/', '.', '.']).flatten, rest.length + ups⟩

end Crumb

namespace Command

def reachOf (fs : FileSystem) (options : CrumbSettings) (crumb : Text) : List Reach :=
  match openCrumb fs options crumb with
  | .error _ => []
  | .ok c => [c.reach]

/-- What a command can look at; of the file system only the current folder matters here. -/
def reach (fs : FileSystem) (options : CrumbSettings) : Command → List Reach
  | list crumb _ => reachOf fs options crumb
  | intersect j | difference j => reachOf fs options j.first ++ reachOf fs options j.second
  | makeTree crumb rows =>
    match openCrumb fs options crumb with
    | .error _ => []
    | .ok c =>
      match c.bindRows 0 rows with
      | .error _ => []
      | .ok cs => (c :: cs).map fun d => ⟨d.split.1, 0⟩

end Command

end PathTemplates
