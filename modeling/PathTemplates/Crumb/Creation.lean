import PathTemplates.Crumb.Basic

namespace PathTemplates

namespace Crumb

/-- The first argument that a row leaves open in front of one that it binds. -/
def openBefore? (openNames given : List Text) : Option Text :=
  match openNames.dropWhile fun n => given.contains n with
  | [] => none
  | n :: later => if later.any given.contains then some n else none

/-- Binds each row, counted from `first`, and stops at the first one that is not in order. -/
def bindRows (c : Crumb) (first : Nat) : List Assignment → Except CrumbError (List Crumb)
  | [] => .ok []
  | row :: rows =>
    match openBefore? c.openNames row.names with
    | some n => .error (.openBefore first n)
    | none => do
      let d ← c.replace row
      return d :: (← bindRows c (first + 1) rows)

/-- Makes one folder after another, up to the first failure. -/
def touchAll (fs : FileSystem) : List Crumb → FileSystem × Except CrumbError (List Text)
  | [] => (fs, .ok [])
  | c :: cs =>
    match c.touch fs with
    | (fs, .error e) => (fs, .error e)
    | (fs, .ok p) =>
      let (fs, made) := touchAll fs cs
      (fs, made.map (p :: ·))

/-- Makes a folder for each row. All rows are looked at before anything is made; without rows the
folder of the crumb itself is made. -/
def makeTree (fs : FileSystem) (c : Crumb) (rows : List Assignment) :
    FileSystem × Except CrumbError (List Text) :=
  if rows = [] then touchAll fs [c]
  else match c.bindRows 0 rows with
    | .error e => (fs, .error e)
    | .ok cs => touchAll fs cs

end Crumb

end PathTemplates
