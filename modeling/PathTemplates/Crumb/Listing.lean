import PathTemplates.Crumb.Compilation

namespace PathTemplates

namespace Crumb

/-- With nothing to walk there is one way to bind nothing, if the path is there or need not be. -/
def unwalked (fs : FileSystem) (c : Crumb) : List Assignment :=
  if !c.checkExists || fs.pathExists c.split.1 then [[]] else []

/-- The tuples of values for the arguments up to the last component that the listing is about, in
ascending order. -/
def completions (fs : FileSystem) (c : Crumb) (extent : Extent) : List Assignment :=
  match Plan.make? c.components c.checkExists extent with
  | none => c.unwalked fs
  | some p => (Walk.start p).run fs c p

/-- The same, as long as the expressions of the components are in order. -/
def completions? (fs : FileSystem) (c : Crumb) (extent : Extent) :
    Except CrumbError (List Assignment) :=
  match Plan.make? c.components c.checkExists extent with
  | none => .ok (c.unwalked fs)
  | some p => do
    p.compile
    return (Walk.start p).run fs c p

/-- A target of a listing: an argument, perhaps with a pattern for this listing alone. -/
structure Target where
  name : Text
  pattern : Option Text

namespace Target

def read (text : Text) : Target :=
  match Text.cut ':' text with
  | some (name, pattern) => ⟨name, some pattern⟩
  | none => ⟨text, none⟩

end Target

/-- The crumb with the patterns of the targets. -/
def withTargets (c : Crumb) : List Target → Except (Failure CrumbError) Crumb
  | [] => .ok c
  | t :: ts => do
    Failure.returning (c.checkName t.name)
    match t.pattern with
    | none => c.withTargets ts
    | some p =>
      let c ← c.setPattern t.name p
      c.withTargets ts

/-- Whether a bound value fails the pattern of its argument. -/
def rejects (c : Crumb) (name : Text) : Bool :=
  match c.values.get? name with
  | none => false
  | some v => !c.patterns.allows name v

/-- The names that a listing is about, and the tuples found on the way to them. Without targets, all
open arguments. -/
def find (fs : FileSystem) (c : Crumb) (targets : List Text) :
    Except (Failure CrumbError) (List Text × List Assignment) := do
  if targets = [] then return (c.openNames, ← Failure.returning (c.completions? fs .all))
  else
    let targets := targets.map Target.read
    let names := targets.map (·.name)
    let chosen ← c.withTargets targets
    if names.any chosen.rejects then return (names, [])
    let openTargets := names.filter fun n => !chosen.values.contains n
    return (names, ← Failure.returning (chosen.completions? fs (.targets openTargets)))

/-- The values of `names`, found ones before bound ones. -/
def select (c : Crumb) (found : Assignment) (names : List Text) : Option Assignment :=
  (found ++ c.bound).project names

def selectAll (c : Crumb) (found : List Assignment) (names : List Text) : List Assignment :=
  SortedList.ofList (found.filterMap fun t => c.select t names)

/-- The distinct tuples of values of the targets, in ascending order. -/
def listValues (fs : FileSystem) (c : Crumb) (targets : List Text) :
    Except (Failure CrumbError) (List Assignment) := do
  let (names, found) ← c.find fs targets
  return c.selectAll found names

/-- The distinct values of one argument. -/
def list (fs : FileSystem) (c : Crumb) (target : Text) :
    Except (Failure CrumbError) (List Text) := do
  let tuples ← c.listValues fs [target]
  return tuples.filterMap fun t => t.values.head?

def replaceEach (c : Crumb) (ts : List Assignment) : Except CrumbError (List Crumb) :=
  ts.mapM c.replace

/-- A crumb for each way to bind the arguments up to the target; later ones stay open. -/
def listCrumbs (fs : FileSystem) (c : Crumb) (target : Text) :
    Except (Failure CrumbError) (List Crumb) := do
  let (_, found) ← c.find fs [target]
  Failure.returning (c.replaceEach found)

def listPaths (fs : FileSystem) (c : Crumb) (target : Text) :
    Except (Failure CrumbError) (List Text) := do
  return (← c.listCrumbs fs target).map path

/-- All ways to bind all open arguments. -/
def unfoldValues (fs : FileSystem) (c : Crumb) : List Assignment := c.completions fs .all

/-- The same, as long as the expressions of the components are in order. -/
def unfoldValues? (fs : FileSystem) (c : Crumb) : Except CrumbError (List Assignment) :=
  c.completions? fs .all

def unfold (fs : FileSystem) (c : Crumb) : Except CrumbError (List Crumb) := do
  c.replaceEach (← c.unfoldValues? fs)

def unfoldPaths (fs : FileSystem) (c : Crumb) : Except CrumbError (List Text) := do
  return (← c.unfold fs).map path

/-- Whether there is anything on disk that the crumb stands for. -/
def pathExists (fs : FileSystem) (c : Crumb) : Bool :=
  if c.hasOpenNames then !((c.withCheckExists true).unfoldValues fs).isEmpty
  else fs.pathExists c.path

/-- The same, as long as the expressions of the components are in order. -/
def pathExists? (fs : FileSystem) (c : Crumb) : Except CrumbError Bool :=
  if c.hasOpenNames then ((c.withCheckExists true).unfoldValues? fs).map fun ts => !ts.isEmpty
  else .ok (fs.pathExists c.path)

end Crumb

end PathTemplates
