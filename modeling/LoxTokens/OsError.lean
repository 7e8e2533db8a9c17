import LoxTokens.Sink

/-!
# Errors of the operating system

The errors that reading a file or writing to a full device can end with, and how they are printed.
-/

namespace LoxTokens

/-- An error that the operating system reports. -/
structure OsError where
  /-- Its number. -/
  code : Nat
  /-- Its class. -/
  kind : String
  /-- Its description. -/
  message : String
  deriving DecidableEq

namespace OsError

/-- Nothing has the given name. -/
def notFound : OsError :=
  { code := 2, kind := "NotFound", message := "No such file or directory" }

/-- Access to a file is not allowed. -/
def permissionDenied : OsError :=
  { code := 13, kind := "PermissionDenied", message := "Permission denied" }

/-- A path leads through something that is not a directory. -/
def notADirectory : OsError :=
  { code := 20, kind := "NotADirectory", message := "Not a directory" }

/-- A directory was read as a file. -/
def isADirectory : OsError := { code := 21, kind := "IsADirectory", message := "Is a directory" }

/-- A device has no room left. -/
def storageFull : OsError :=
  { code := 28, kind := "StorageFull", message := "No space left on device" }

/-- A name or a path is longer than the system admits. -/
def nameTooLong : OsError :=
  { code := 36, kind := "InvalidFilename", message := "File name too long" }

/-- The errors that have a class of their own. -/
def known : List OsError :=
  [notFound, permissionDenied, notADirectory, isADirectory, storageFull, nameTooLong]

/-- The error with a given number; its description counts if the number is not a known one. -/
def ofCode (code : Nat) (description : String) : OsError :=
  match known.find? fun error => error.code == code with
  | some error => error
  | none => { code, kind := "Uncategorized", message := description }

/-- Full account of an error. -/
def account (error : OsError) : String :=
  "Os \x7b code: " ++ error.code.repr ++ ", kind: " ++ error.kind ++ ", message: \"" ++
    error.message ++ "\" \x7d"

/-- The error as an operation on a sink reports it. -/
def toIoError (error : OsError) : IoError :=
  { kind := error.kind
    message := error.message ++ " (os error " ++ error.code.repr ++ ")" }

end OsError
end LoxTokens
