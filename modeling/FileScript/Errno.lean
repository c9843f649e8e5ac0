/-!
# Error numbers

The closed set of reasons for which a store refuses a request. Each has a number, by which a failed
statement is reported as a status, and a text.
-/

namespace FileScript

/-- Why a store refuses a request. -/
inductive Errno where
  | notPermitted
  | notFound
  | inputOutput
  | badDescriptor
  | outOfMemory
  | permissionDenied
  | busy
  | alreadyExists
  | notADirectory
  | isADirectory
  | invalidArgument
  | tooManyOpenFiles
  | fileTooLarge
  | noSpace
  | outOfRange
  | nameTooLong
  | notEmpty
  | noData
  deriving DecidableEq, Repr, Inhabited

namespace Errno

/-- The number of an error, as in the POSIX headers of Linux. -/
def number : Errno → Nat
  | notPermitted => 1
  | notFound => 2
  | inputOutput => 5
  | badDescriptor => 9
  | outOfMemory => 12
  | permissionDenied => 13
  | busy => 16
  | alreadyExists => 17
  | notADirectory => 20
  | isADirectory => 21
  | invalidArgument => 22
  | tooManyOpenFiles => 23
  | fileTooLarge => 27
  | noSpace => 28
  | outOfRange => 34
  | nameTooLong => 36
  | notEmpty => 39
  | noData => 61

/-- The text of an error. -/
def message : Errno → String
  | notPermitted => "operation not permitted"
  | notFound => "no such file or directory"
  | inputOutput => "input/output error"
  | badDescriptor => "bad file descriptor"
  | outOfMemory => "out of memory"
  | permissionDenied => "permission denied"
  | busy => "device or resource busy"
  | alreadyExists => "file exists"
  | notADirectory => "not a directory"
  | isADirectory => "is a directory"
  | invalidArgument => "invalid argument"
  | tooManyOpenFiles => "too many open files"
  | fileTooLarge => "file too large"
  | noSpace => "no space left on device"
  | outOfRange => "result out of range"
  | nameTooLong => "file name too long"
  | notEmpty => "directory not empty"
  | noData => "no data available"

/-- The status of a request refused with this error: its number, negated. -/
def status (e : Errno) : Int := -(e.number : Int)

theorem number_pos (e : Errno) : 0 < e.number := by
  cases e <;> decide

theorem status_neg (e : Errno) : e.status < 0 := by
  have := e.number_pos
  unfold status
  omega

end Errno

end FileScript
