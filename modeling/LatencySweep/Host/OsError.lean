/-
  Failures of the operating system.

  A failure has a reason in words and mostly a number. Both
  stand in its message; programs tell the reason alone.

  Key definitions include:
    * `OsError`
    * `OsError.reason`
    * `OsError.message`
-/

namespace LatencySweep

/- Why an operation on files or programs failed. -/
inductive OsError where
  | notPermitted
  | notFound
  | badFormat
  | badDescriptor
  | permissionDenied
  | alreadyExists
  | notDirectory
  | isDirectory
  | invalidArgument
  | noSpace
  | nameTooLong
  | notEmpty
  | nulInPath
  | nulInProgram
  | malformedText
  | noRootToCreate
  | other (text : String)
  deriving DecidableEq

namespace OsError

/- The reason of a failure in words. -/
def reason : OsError → String
  | notPermitted => "Operation not permitted"
  | notFound => "No such file or directory"
  | badFormat => "Exec format error"
  | badDescriptor => "Bad file descriptor"
  | permissionDenied => "Permission denied"
  | alreadyExists => "File exists"
  | notDirectory => "Not a directory"
  | isDirectory => "Is a directory"
  | invalidArgument => "Invalid argument"
  | noSpace => "No space left on device"
  | nameTooLong => "File name too long"
  | notEmpty => "Directory not empty"
  | nulInPath =>
      "file name contained an unexpected NUL byte"
  | nulInProgram => "nul byte found in provided data"
  | malformedText => "stream did not contain valid UTF-8"
  | noRootToCreate => "failed to create whole tree"
  | other text => text

/- The number of a failure that the system reports. -/
def number? : OsError → Option Nat
  | notPermitted => some 1
  | notFound => some 2
  | badFormat => some 8
  | badDescriptor => some 9
  | permissionDenied => some 13
  | alreadyExists => some 17
  | notDirectory => some 20
  | isDirectory => some 21
  | invalidArgument => some 22
  | noSpace => some 28
  | nameTooLong => some 36
  | notEmpty => some 39
  | _ => none

/- The text of a failure. -/
def message (e : OsError) : String :=
  match e.number? with
  | some n => s!"{e.reason} (os error {n})"
  | none => e.reason

instance : ToString OsError := ⟨message⟩

example : message notFound =
    "No such file or directory (os error 2)" := by
  decide +kernel

end OsError

end LatencySweep
