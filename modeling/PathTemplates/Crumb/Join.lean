import PathTemplates.Crumb.Listing

namespace PathTemplates

namespace Crumb

/-- The names to join on: those asked for, which every crumb has to have, or else all that the
crumbs share, in the order of the first one. -/
def sharedNames (crumbs : List Crumb) (on : List Text) : Except CrumbError (List Text) :=
  if on = [] then
    match crumbs with
    | [] => .error .noCommonArguments
    | first :: _ =>
      match first.names.filter fun n => crumbs.all fun c => c.mentions n with
      | [] => .error .noCommonArguments
      | shared => .ok shared
  else do
    crumbs.forM fun c => on.forM c.checkName
    return on

/-- The distinct tuples over some names in all ways to bind the open arguments. -/
def valuesOver (fs : FileSystem) (c : Crumb) (names : List Text) : List Assignment :=
  c.selectAll (c.unfoldValues fs) names

/-- The same, as long as the expressions of the components are in order. -/
def valuesOver? (fs : FileSystem) (c : Crumb) (names : List Text) :
    Except CrumbError (List Assignment) :=
  (c.unfoldValues? fs).map fun found => c.selectAll found names

def jointValues (fs : FileSystem) (c : Crumb) (on : List Text) :
    Except CrumbError (List Assignment) := do
  c.valuesOver? fs (← sharedNames [c] on)

/-- The members of the first list that all others have too. -/
def commonTuples : List (List Assignment) → List Assignment
  | [] => []
  | first :: rest => first.filter fun t => rest.all fun ts => ts.contains t

def intersection (fs : FileSystem) (crumbs : List Crumb) (on : List Text) :
    Except CrumbError (List Assignment) := do
  let names ← sharedNames crumbs on
  return commonTuples (← crumbs.mapM fun c => c.valuesOver? fs names)

def difference (fs : FileSystem) (a b : Crumb) (on : List Text) :
    Except CrumbError (List Assignment) := do
  let names ← sharedNames [a, b] on
  let left ← a.valuesOver? fs names
  let right ← b.valuesOver? fs names
  return left.filter fun t => !right.contains t

/-- The crumb with each of some tuples bound. -/
def build (c : Crumb) (ts : List Assignment) : List (Except CrumbError Crumb) := ts.map c.replace

def buildPaths (c : Crumb) (ts : List Assignment) : List (Except CrumbError Text) :=
  (c.build ts).map fun r => r.map path

/-- Lists an argument once for each group with the pattern of the group. Groups without a crumb are
left out, and a group that is named again takes the crumbs of the later pattern. -/
def groupBy (fs : FileSystem) (c : Crumb) (name : Text) (groups : List (Text × Text)) :
    Except (Failure CrumbError) (NameMap (List Crumb)) := do
  Failure.returning (c.checkName name)
  groups.foldlM
    (fun found g => do
      match ← c.listCrumbs fs (name ++ ':' :: g.2) with
      | [] => return found
      | crumbs => return found.insert g.1 crumbs)
    .empty

end Crumb

end PathTemplates
