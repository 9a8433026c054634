/-! Reasons for which the operating system refuses an operation. -/

set_option autoImplicit false

namespace ScenarioBench

inductive OsError where
  | notFound
  | permissionDenied
  | alreadyExists
  | notADirectory
  | isADirectory
  | tooManyLinks
  | nameTooLong
  | unknownFormat
  | badDescriptor
  | invalidText
  | nulInPath
  | nulInArgument
  | emptyPath
  deriving DecidableEq, Repr

namespace OsError

/-- The text shown for a refusal; refusals of the system itself carry its error number. -/
def message : OsError → String
  | notFound => "No such file or directory (os error 2)"
  | permissionDenied => "Permission denied (os error 13)"
  | alreadyExists => "File exists (os error 17)"
  | notADirectory => "Not a directory (os error 20)"
  | isADirectory => "Is a directory (os error 21)"
  | tooManyLinks => "Too many levels of symbolic links (os error 40)"
  | nameTooLong => "File name too long (os error 36)"
  | unknownFormat => "Exec format error (os error 8)"
  | badDescriptor => "Bad file descriptor (os error 9)"
  | invalidText => "stream did not contain valid UTF-8"
  | nulInPath => "file name contained an unexpected NUL byte"
  | nulInArgument => "nul byte found in provided data"
  | emptyPath => "cannot make an empty path absolute"

end OsError

end ScenarioBench
