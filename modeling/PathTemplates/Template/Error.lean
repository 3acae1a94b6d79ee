import PathTemplates.Text

namespace PathTemplates

inductive TemplateError where
  /-- No template goes on with the character at this place, or the text ends too early. -/
  | malformed (position : Nat)
  | emptyName (position : Nat)
  | repeatedName (name : Text) (position : Nat)
  deriving DecidableEq, Repr

namespace TemplateError

def position : TemplateError → Nat
  | malformed n => n
  | emptyName n => n
  | repeatedName _ n => n

/-- For a malformed text the library also lists the characters that it expected. That list is left
out. -/
def reason : TemplateError → String
  | malformed _ => "unbalanced braces or malformed argument"
  | emptyName _ => "argument name must not be empty"
  | repeatedName name _ => "argument `" ++ String.ofList name ++ "` appears more than once"

def message (e : TemplateError) : String := "at char " ++ toString e.position ++ ": " ++ e.reason

end TemplateError

end PathTemplates
