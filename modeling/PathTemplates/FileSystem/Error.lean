namespace PathTemplates

inductive FileError where
  | nulInName
  | notFound
  | alreadyExists
  | notAFolder
  | nameTooLong
  | tooManyLinks
  /-- Not even the root is there to make a folder in. -/
  | noFolderAbove
  deriving DecidableEq, Repr

namespace FileError

def message : FileError → String
  | nulInName => "file name contained an unexpected NUL byte"
  | notFound => "No such file or directory (os error 2)"
  | alreadyExists => "File exists (os error 17)"
  | notAFolder => "Not a directory (os error 20)"
  | nameTooLong => "File name too long (os error 36)"
  | tooManyLinks => "Too many levels of symbolic links (os error 40)"
  | noFolderAbove => "failed to create whole tree"

end FileError

end PathTemplates
