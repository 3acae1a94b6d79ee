import PathTemplates.FileSystem.Resolve

namespace PathTemplates

namespace FileSystem

/-- The parts of a path before the slashes at its end. -/
def partsOfNew (p : Text) : List Text :=
  ((Text.split '/' p).reverse.dropWhile fun t => t = []).reverse

/-- Makes the entry `name` in the folder that the parts in front of it lead to. Where there is no
room in the folder, the name is taken; one period and two are always taken. -/
def addIn (fs : FileSystem) (n : Node) (p : Text) (parents : List Text) (name : Text) :
    Except FileError FileSystem :=
  match resolveSteps fs true maxLinks (fs.startOf p) (parents.map Path.step ++ [.here]) with
  | .error e => .error e
  | .ok loc =>
    if name.utf8Length > maxNameBytes then .error .nameTooLong
    else if room : fs.Room (.text name) loc then .ok (fs.add n room)
    else .error .alreadyExists

/-- Makes a new entry of some kind; the folder it goes into has to be there. -/
def create (fs : FileSystem) (n : Node) (p : Text) : Except FileError FileSystem :=
  match checkPath p with
  | .error e => .error e
  | .ok () =>
    match (partsOfNew p).getLast? with
    | none => .error .alreadyExists
    | some name => fs.addIn n p (partsOfNew p).dropLast name

def createFolder (fs : FileSystem) (p : Text) : Except FileError FileSystem := fs.create .folder p

/-- Makes the first of some paths, and before it the next ones where they are missing. That a path
cannot be made is no failure if it is a folder already. -/
def createFirst (fs : FileSystem) : List Text → FileSystem × Except FileError Unit
  | [] => (fs, .error .noFolderAbove)
  | p :: above =>
    if p = [] then (fs, .ok ())
    else match fs.createFolder p with
      | .ok fs => (fs, .ok ())
      | .error .notFound =>
        match createFirst fs above with
        | (fs, .error e) => (fs, .error e)
        | (fs, .ok ()) =>
          match fs.createFolder p with
          | .ok fs => (fs, .ok ())
          | .error e => (fs, if fs.isFolder p then .ok () else .error e)
      | .error e => (fs, if fs.isFolder p then .ok () else .error e)

/-- Makes a folder with all folders above it; what was made stays if the rest fails. -/
def createFolders (fs : FileSystem) (p : Text) : FileSystem × Except FileError Unit :=
  fs.createFirst (p :: Path.above p)

end FileSystem

end PathTemplates
