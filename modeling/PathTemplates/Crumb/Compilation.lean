import PathTemplates.Crumb.Walk

namespace PathTemplates

namespace Regex

/-- The text as an expression that matches nothing else. -/
def escape (t : Text) : Text := t.flatMap fun c => if metaChars.contains c then ['\\', c] else [c]

end Regex

namespace Atom

/-- An argument takes as little as it can, but something. -/
def expression : Atom → Text
  | char c => Regex.escape [c]
  | argument _ => ['(', '.', '+', '?', ')']

end Atom

namespace Component

/-- The expression for the names that the component stands for. -/
def expression (k : Component) : Text := '^' :: k.flatMap Atom.expression ++ ['$']

/-- Looks whether the expression is in order. A component that is one argument needs none. -/
def compile (k : Component) : Except CrumbError Unit :=
  match k with
  | [.argument _] => .ok ()
  | k =>
    if (Regex.read {} k.expression).isSome then .ok () else .error (.pattern ⟨k.text, .component⟩)

end Component

namespace Plan

/-- Looks at the expressions of the open components, down to the depth. -/
def compile (p : Plan) : Except CrumbError Unit :=
  ((p.components.take (p.depth + 1)).filter Component.isOpen).forM Component.compile

end Plan

end PathTemplates
