import PathTemplates.FileSystem.Error
import PathTemplates.Pattern
import PathTemplates.Template.Error
import PathTemplates.Utf8

namespace PathTemplates

inductive CrumbError where
  | template (error : TemplateError)
  | unknownArgument (name path : Text)
  | openArguments (path : Text) (names : List Text)
  | pattern (error : PatternError)
  | noCommonArguments
  /-- A row, counted from zero, leaves an argument open in front of one that it binds. -/
  | openBefore (row : Nat) (name : Text)
  | notUtf8 (path : List UInt8)
  | file (path : Text) (error : FileError)
  deriving DecidableEq, Repr

namespace CrumbError

def message : CrumbError → String
  | template e => "invalid crumb template: " ++ e.message
  | unknownArgument name path =>
    "unknown argument `" ++ String.ofList name ++ "` in `" ++ String.ofList path ++ "`"
  | openArguments path names =>
    "`" ++ String.ofList path ++ "` still has open arguments: " ++
      String.ofList (Text.join [',', ' '] names)
  | pattern e => "invalid pattern `" ++ String.ofList e.text ++ "`: " ++ e.fault.message
  | noCommonArguments => "no common arguments to join on"
  | openBefore row name =>
    "row " ++ toString row ++ " leaves `" ++ String.ofList name ++ "` open before a bound argument"
  | notUtf8 path => "path is not valid UTF-8: " ++ String.ofList (Utf8.lossy path)
  | file path e => "i/o error at " ++ String.ofList path ++ ": " ++ e.message

end CrumbError

end PathTemplates
