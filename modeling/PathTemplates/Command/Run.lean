import PathTemplates.Command.Report
import PathTemplates.Crumb.Join
import PathTemplates.Crumb.Creation

namespace PathTemplates

/-- What a run shows: the exit status, the output, and the line about an error if there is one. -/
structure Outcome where
  status : Nat
  output : String
  complaint : Option String
  deriving DecidableEq, Repr

namespace Command

/-- A crumb from the command line is seen from the root. -/
def openCrumb (fs : FileSystem) (options : CrumbSettings) (text : Text) :
    Except (Failure CrumbError) Crumb := do
  Failure.returning ((← Crumb.read text options).absolute fs)

/-- Tuples as they are, or as the paths that they make of one of the crumbs. -/
def joinReport (base : Option JoinSide) (a b : Crumb) (ts : List Assignment) :
    Except CrumbError Report :=
  match base with
  | none => .ok (.tuples ts)
  | some .first => ((a.buildPaths ts).mapM id).map .paths
  | some .second => ((b.buildPaths ts).mapM id).map .paths

def runList (fs : FileSystem) (options : CrumbSettings) (crumb : Text) (target : Option Text) :
    Except (Failure CrumbError) Report := do
  let c ← openCrumb fs options crumb
  match target with
  | some t => return .values (← c.list fs t)
  | none => return .paths (← Failure.returning (c.unfoldPaths fs))

def runIntersect (fs : FileSystem) (options : CrumbSettings) (j : JoinArguments) :
    Except (Failure CrumbError) Report := do
  let a ← openCrumb fs options j.first
  let b ← openCrumb fs options j.second
  Failure.returning (Crumb.intersection fs [a, b] j.on >>= joinReport j.base a b)

def runDifference (fs : FileSystem) (options : CrumbSettings) (j : JoinArguments) :
    Except (Failure CrumbError) Report := do
  let a ← openCrumb fs options j.first
  let b ← openCrumb fs options j.second
  Failure.returning (Crumb.difference fs a b j.on >>= joinReport j.base a b)

def runMakeTree (fs : FileSystem) (options : CrumbSettings) (crumb : Text)
    (rows : List Assignment) : FileSystem × Except (Failure CrumbError) Report :=
  match openCrumb fs options crumb with
  | .error e => (fs, .error e)
  | .ok c =>
    let (fs, made) := c.makeTree fs rows
    (fs, Failure.returning (made.map .paths))

/-- Only making trees changes the file system. -/
def run (fs : FileSystem) (options : CrumbSettings) :
    Command → FileSystem × Except (Failure CrumbError) Report
  | list crumb target => (fs, runList fs options crumb target)
  | intersect j => (fs, runIntersect fs options j)
  | difference j => (fs, runDifference fs options j)
  | makeTree crumb rows => runMakeTree fs options crumb rows

def isList : Command → Bool
  | list _ _ => true
  | _ => false

end Command

namespace Invocation

/-- An error ends in status 2, a listing without results in status 1, and a panic in status 101,
with a report that is not the command's own. -/
def outcome (i : Invocation) : Except (Failure CrumbError) Report → Outcome
  | .error (.returned e) => ⟨2, "", some ("crumb: " ++ e.message)⟩
  | .error .panicked => ⟨101, "", none⟩
  | .ok r =>
    ⟨if r.isEmpty && i.command.isList then 1 else 0, if i.quiet then "" else r.render i.format,
      none⟩

def run (fs : FileSystem) (i : Invocation) : FileSystem × Outcome :=
  let (fs, result) := i.command.run fs i.options
  (fs, i.outcome result)

/-- A command line that cannot be read ends in status 2 as well, and nothing is done. -/
def runWords (fs : FileSystem) (words : List Text) : FileSystem × Outcome :=
  match read words with
  | none => (fs, ⟨2, "", none⟩)
  | some i => i.run fs

end Invocation

end PathTemplates
