import FileScript.Shell.Jobs
import FileScript.Shell.Programs.Columns
import FileScript.Shell.Programs.Copying
import FileScript.Shell.Programs.Count
import FileScript.Shell.Programs.Differences
import FileScript.Shell.Programs.Digests
import FileScript.Shell.Programs.Dump
import FileScript.Shell.Programs.Editor
import FileScript.Shell.Programs.Encoding
import FileScript.Shell.Programs.Expr
import FileScript.Shell.Programs.Extent
import FileScript.Shell.Programs.Fields
import FileScript.Shell.Programs.Listing
import FileScript.Shell.Programs.Merging
import FileScript.Shell.Programs.Numbering
import FileScript.Shell.Programs.Ownership
import FileScript.Shell.Programs.Paragraphs
import FileScript.Shell.Programs.Precedence
import FileScript.Shell.Programs.Report
import FileScript.Shell.Programs.Running
import FileScript.Shell.Programs.Scaling
import FileScript.Shell.Programs.Searching
import FileScript.Shell.Programs.Selection
import FileScript.Shell.Programs.Sequence
import FileScript.Shell.Programs.System
import FileScript.Shell.Programs.Translate
import FileScript.Shell.Programs.Words
import FileScript.Shell.Test

/-!
# Programs

The programs that shell commands can start, as far as they are known here. A program has nothing of
the shell but its words, descriptors, directory and exported variables.
-/

namespace FileScript.Shell

namespace Programs

open Effect

/-- Prints the working directory. -/
def pwd (_ : List String) : Effect Nat := do
  print (pathOf (← self).directory ++ "\n")
  return 0

/-- The nanoseconds in a unit of time. -/
def unitLength? (unit : List Char) : Option Nat :=
  match unit with
  | [] | ['s'] => some 1000000000
  | ['m'] => some 60000000000
  | ['h'] => some 3600000000000
  | ['d'] => some 86400000000000
  | _ => none

/-- The length of a time in nanoseconds. -/
def interval? (word : String) : Option Nat := do
  let (number, rest) ← Binary.scan? word.toList
  let unit ← unitLength? rest
  if number.undefined ∨ number.negative ∧ (number.mantissa ≠ 0 ∨ number.infinite) then none
  else if number.infinite then some (1000000000000 * unit)
  else
    let (numerator, denominator) := number.fraction
    some (numerator * unit / denominator)

/-- Waits. -/
def sleep (words : List String) : Effect Nat :=
  called [] words fun call => do
    if words = [] then return ← lacksOperand
    let bad := call.operands.filter fun word => (interval? word).isNone
    match bad.getLast? with
    | some last =>
      bad.dropLast.forM fun word => tell s!"invalid time interval {Quoting.value word}"
      misused s!"invalid time interval {Quoting.value last}"
    | none =>
      Jobs.sleepUntil ((← shared).host.clock + total (call.operands.filterMap interval?))
      return 0

/-- The programs that need nothing but their words. -/
def find? (name : String) : Option (List String → Effect Nat) :=
  match name with
  | "arch" => some arch
  | "base32" => some (convert .base32)
  | "base64" => some (convert .base64)
  | "basename" => some basename
  | "cat" => some cat
  | "chgrp" => some chgrp
  | "chmod" => some chmod
  | "chown" => some chown
  | "cksum" => some cksum
  | "cmp" => some cmp
  | "comm" => some comm
  | "cp" => some cp
  | "cut" => some cut
  | "diff" => some diff
  | "dirname" => some dirname
  | "echo" => some echo
  | "egrep" => some (grepWith "-E")
  | "expand" => some expand
  | "expr" => some expr
  | "false" => some fun _ => return 1
  | "fgrep" => some (grepWith "-F")
  | "fmt" => some fmt
  | "fold" => some fold
  | "grep" => some grep
  | "groups" => some groups
  | "head" => some head
  | "hostname" => some hostname
  | "id" => some identity
  | "join" => some join
  | "link" => some link
  | "ln" => some ln
  | "logname" => some logname
  | "ls" => some ls
  | "mkdir" => some mkdir
  | "mv" => some mv
  | "nl" => some nl
  | "nproc" => some nproc
  | "numfmt" => some numfmt
  | "od" => some od
  | "paste" => some paste
  | "printenv" => some printenv
  | "printf" => some printf
  | "pwd" => some pwd
  | "readlink" => some readlink
  | "realpath" => some realpath
  | "rev" => some rev
  | "rm" => some rm
  | "rmdir" => some rmdir
  | "sed" => some sed
  | "seq" => some seq
  | "sleep" => some sleep
  | "sort" => some sort
  | "stat" => some stat
  | "sum" => some sum
  | "sync" => some sync
  | "tac" => some tac
  | "tail" => some tail
  | "tee" => some tee
  | "test" => some fun words => return if ← Test.holds false words then 0 else 1
  | "[" => some fun words => return if ← Test.holds false words.dropLast then 0 else 1
  | "touch" => some touch
  | "tr" => some tr
  | "true" => some fun _ => return 0
  | "tsort" => some tsort
  | "truncate" => some truncate
  | "tty" => some tty
  | "uname" => some uname
  | "unexpand" => some unexpand
  | "uniq" => some uniq
  | "unlink" => some unlink
  | "wc" => some wc
  | "which" => some which
  | "whoami" => some whoami
  | "yes" => some yes
  | _ => digestProgram? name

/-- Carries out a program. It fails if its output is not taken. -/
def perform (name : String) (act : List String → Effect Nat) (words : List String) :
    Effect Nat := do
  modifySelf ({ · with outputFailure := none })
  let status ← act words
  match (← self).outputFailure with
  | none => return status
  | some reason =>
    modifySelf ({ · with outputFailure := none })
    let (problem, least) := match name with
      | "cat" => ("standard output", 1)
      | "sed" => ("couldn't close stdout", 4)
      | "ls" | "sort" | "grep" | "expr" => ("write error", 2)
      | _ => ("write error", 1)
    tell s!"{problem}: {reason}"
    return max status least

end Programs

end FileScript.Shell
