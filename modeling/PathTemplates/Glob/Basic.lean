import PathTemplates.Glob.Reader

namespace PathTemplates

structure Glob where
  text : Text
  items : List GlobItem

namespace Glob

def read (text : Text) : Except GlobError Glob :=
  (readItems .start text).map fun items => ⟨text, items⟩

/-- Two stars alone stand for everything. -/
def expr (g : Glob) : ByteExpr :=
  match g.items with
  | [.leadingFolders] => GlobItem.anything
  | items => GlobItem.exprAll items

def matchesName (g : Glob) (name : Text) : Bool :=
  g.expr.matchesWhole (fun _ _ k => nomatch k) name.utf8

end Glob

end PathTemplates
