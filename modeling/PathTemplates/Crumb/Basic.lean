import PathTemplates.Crumb.Component
import PathTemplates.Crumb.Error
import PathTemplates.FileSystem.Create
import PathTemplates.Exclusions
import PathTemplates.PatternTable
import PathTemplates.Template.Reader

namespace PathTemplates

structure CrumbSettings where
  ignore : List Text := []
  mode : PatternMode := .glob
  /-- Whether listings answer only with paths that are there. -/
  checkExists : Bool := true

structure Crumb where
  template : Template
  values : NameMap Text
  patterns : PatternTable
  ignore : Exclusions
  checkExists : Bool
  distinct : template.names.Nodup

namespace Crumb

/-- Adds the patterns of some placeholders, one after another. -/
def addPatterns (table : PatternTable) :
    List Placeholder → Except (Failure PatternError) PatternTable
  | [] => .ok table
  | p :: ps =>
    match p.constraint with
    | none => addPatterns table ps
    | some text =>
      match table.set p.name text with
      | .error e => .error e
      | .ok table => addPatterns table ps

def readPatterns (mode : PatternMode) (ps : List Placeholder) :
    Except (Failure CrumbError) PatternTable :=
  (addPatterns (.empty mode) ps).mapError (.map .pattern)

def readIgnore (globs : List Text) : Except CrumbError Exclusions :=
  (Exclusions.read globs).mapError .pattern

def read (text : Text) (options : CrumbSettings) : Except (Failure CrumbError) Crumb :=
  match h : Template.read text with
  | .error e => .error (.returned (.template e))
  | .ok template => do
    let patterns ← readPatterns options.mode template.placeholders
    let ignore ← Failure.returning (readIgnore options.ignore)
    return ⟨template, .empty, patterns, ignore, options.checkExists,
      Template.nodup_names_of_read h⟩

def mode (c : Crumb) : PatternMode := c.patterns.mode

def options (c : Crumb) : CrumbSettings := ⟨c.ignore.texts, c.mode, c.checkExists⟩

def withIgnore (c : Crumb) (globs : List Text) : Except CrumbError Crumb :=
  (readIgnore globs).map fun ignore => { c with ignore }

/-- Reads all patterns of the template anew. -/
def withMode (c : Crumb) (mode : PatternMode) : Except (Failure CrumbError) Crumb :=
  (readPatterns mode c.template.placeholders).map fun patterns => { c with patterns }

def withCheckExists (c : Crumb) (checkExists : Bool) : Crumb := { c with checkExists }

/-- The crumb with another template that has the same arguments. -/
def withTemplate (c : Crumb) (template : Template) (h : template.names = c.template.names) :
    Crumb :=
  { c with template, distinct := h ▸ c.distinct }

/-- The template text with the bound values in place of their arguments. -/
def path (c : Crumb) : Text := c.template.render c.values.get?

def mentions (c : Crumb) (name : Text) : Bool := c.template.mentions name

def checkName (c : Crumb) (name : Text) : Except CrumbError Unit :=
  if c.mentions name then .ok () else .error (.unknownArgument name c.path)

def names (c : Crumb) : List Text := c.template.names

/-- The arguments without a value, in the order of the template. -/
def openNames (c : Crumb) : List Text := c.names.filter fun n => !c.values.contains n

/-- The bound values, in ascending order of their names. -/
def bound (c : Crumb) : Assignment := c.values.entries.map fun e => ⟨e.1, e.2⟩

def hasOpenNames (c : Crumb) : Bool := !c.openNames.isEmpty

def get (c : Crumb) (name : Text) : Except CrumbError (Option Text) := do
  c.checkName name
  return c.values.get? name

def bind (c : Crumb) (name value : Text) : Except CrumbError Crumb := do
  c.checkName name
  return { c with values := c.values.insert name value }

/-- Opens an argument again; answers with the value that it had. -/
def unbind (c : Crumb) (name : Text) : Except CrumbError (Option Text × Crumb) := do
  c.checkName name
  return (c.values.get? name, { c with values := c.values.erase name })

/-- Binds one argument after another. -/
def replace (c : Crumb) (t : Assignment) : Except CrumbError Crumb :=
  t.foldlM (fun c b => c.bind b.name b.value) c

def getPattern (c : Crumb) (name : Text) : Except CrumbError (Option Pattern) := do
  c.checkName name
  return c.patterns.get? name

def setPattern (c : Crumb) (name text : Text) : Except (Failure CrumbError) Crumb := do
  Failure.returning (c.checkName name)
  let patterns ← (c.patterns.set name text).mapError (.map .pattern)
  return { c with patterns }.withTemplate (c.template.setPattern name (some text))
    (c.template.names_setPattern ..)

def clearPattern (c : Crumb) (name : Text) : Except CrumbError Crumb := do
  c.checkName name
  return { c with patterns := c.patterns.clear name }.withTemplate
    (c.template.setPattern name none) (c.template.names_setPattern ..)

def components (c : Crumb) : List Component := Component.ofTemplate c.template c.values

/-- The path in front of the first open component, and what is left from there on. Without open
arguments the whole path is in front. -/
def split (c : Crumb) : Text × Text :=
  let cs := c.components
  let rest := cs.dropWhile fun k => !k.isOpen
  if rest.isEmpty then (c.path, [])
  else (Component.joined (cs.takeWhile fun k => !k.isOpen), Component.joined rest)

def resolvedPath (c : Crumb) : Except CrumbError Text :=
  if c.hasOpenNames then .error (.openArguments c.path c.openNames) else .ok c.path

def isAbsolute (c : Crumb) : Bool := Path.isAbsolute c.split.1

/-- The crumb below a folder, whose path becomes literal text of the template. -/
def rootedAt (c : Crumb) (folder : Text) : Crumb :=
  let front := if Path.endsInSlash folder then folder else folder ++ ['/']
  c.withTemplate (c.template.prepend front) (c.template.names_prepend front)

def rootedAtBytes (c : Crumb) (folder : List UInt8) : Except CrumbError Crumb :=
  match Utf8.text? folder with
  | some folder => .ok (c.rootedAt folder)
  | none => .error (.notUtf8 folder)

/-- A relative crumb as seen from the root. -/
def absolute (fs : FileSystem) (c : Crumb) : Except CrumbError Crumb :=
  if c.isAbsolute then .ok c
  else match fs.currentPath? with
    | .ok folder => c.rootedAtBytes folder
    | .error e => .error (.file ['.'] e)

/-- Makes the folder in front of the first open component, with all folders above it. -/
def touch (fs : FileSystem) (c : Crumb) : FileSystem × Except CrumbError Text :=
  let folder := c.split.1
  if folder = [] then (fs, .ok folder)
  else match fs.createFolders folder with
    | (fs, .ok ()) => (fs, .ok folder)
    | (fs, .error e) => (fs, .error (.file folder e))

/-- Crumbs are compared by what they are read from: patterns by the text of the template. -/
def same (a b : Crumb) : Bool :=
  a.template.text = b.template.text && a.values = b.values && a.ignore.texts = b.ignore.texts &&
    a.mode = b.mode && a.checkExists = b.checkExists

end Crumb

end PathTemplates
