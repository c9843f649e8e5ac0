import FileScript.Shell.Accounts
import FileScript.Shell.Programs.Size

/-!
# The system and its users

Programs that tell who runs them and where: the user and the groups, the machine, and whether there
is a terminal.
-/

namespace FileScript.Shell

namespace Programs

open Effect
open Accounts (User)

/-- Carries out a program that takes no operands. -/
def withoutOperands (known : List Known) (words : List String) (act : Call → Effect Nat)
    (status : Nat := 1) : Effect Nat :=
  let checked (call : Call) : Effect Nat :=
    match call.operands with
    | extra :: _ => hasExtra extra status
    | [] => act call
  called known words checked status

/-! ## Users -/

/-- The user as whom commands run. -/
def ownUser : User := ⟨"root", 0, 0⟩

/-- A number with the name that belongs to it. -/
def withName (number : Nat) (name : Option String) : String :=
  match name with
  | some name => s!"{number}({name})"
  | none => toString number

/-- All that is known of a user. -/
def userText (user : User) : String :=
  let group := withName user.group (Accounts.groupName? user.group)
  s!"uid={withName user.number (some user.name)} gid={group} groups={group}"

/-- The user that a word denotes, by a name or a number. -/
def userOf? (word : String) : Option User :=
  match Accounts.user? word, Accounts.number? word with
  | some user, _ => some user
  | none, some number => Accounts.users.find? (·.number = number)
  | none, none => none

/-- Prints the name of the user. -/
def whoami (words : List String) : Effect Nat :=
  withoutOperands [] words fun _ => do
    print (ownUser.name ++ "\n")
    return 0

/-- The options of `id`. -/
def idOptions : List Known :=
  [flag 'a', flag 'Z' "context", flag 'g' "group", flag 'G' "groups", flag 'n' "name",
    flag 'r' "real", flag 'u' "user", flag 'z' "zero"]

/-- Prints the numbers or the names of users and their groups. -/
def identity (words : List String) : Effect Nat :=
  called idOptions words fun call => do
    let only := ["user", "group", "groups"].filter call.has
    if call.has "context" then
      return ← refuse "--context (-Z) works only on an SELinux-enabled kernel"
    if only.length > 1 then return ← refuse "cannot print \"only\" of more than one choice"
    if only = [] ∧ (call.has "name" ∨ call.has "real") then
      return ← refuse "cannot print only names or real IDs in default format"
    if only = [] ∧ call.has "zero" then
      return ← refuse "option --zero not permitted in default format"
    let ending := if call.has "zero" then "\x00" else "\n"
    let shown (user : User) : String :=
      match only with
      | [] => userText user
      | "user" :: _ => if call.has "name" then user.name else toString user.number
      | _ =>
        let name := (Accounts.groupName? user.group).filter fun _ => call.has "name"
        name.getD (toString user.group)
    let extra := if call.has "zero" ∧ only = ["groups"] ∧ call.operands.length > 1 then "\x00" else ""
    if call.operands = [] then
      print (shown ownUser ++ ending)
      return 0
    return worst (← call.operands.mapM fun word => do
      match userOf? word with
      | some user =>
        print (shown user ++ ending ++ extra)
        return 0
      | none => refuse s!"{Quoting.value word}: no such user")

/-- Prints the groups of users. -/
def groups (words : List String) : Effect Nat :=
  called [] words fun call => do
    let group (user : User) : String :=
      (Accounts.groupName? user.group).getD (toString user.group)
    if call.operands = [] then
      print (group ownUser ++ "\n")
      return 0
    return worst (← call.operands.mapM fun name => do
      match Accounts.user? name with
      | some user =>
        print s!"{name} : {group user}\n"
        return 0
      | none => refuse s!"{Quoting.value name}: no such user")

/-- Tells that nobody has logged in. -/
def logname (words : List String) : Effect Nat :=
  withoutOperands [] words fun _ => refuse "no login name"

/-! ## The machine -/

/-- Tells whether the standard input is a terminal, which it never is. -/
def tty (words : List String) : Effect Nat :=
  let act (call : Call) : Effect Nat := do
    unless call.has "silent" do print "not a tty\n"
    return 1
  withoutOperands [flag 's' "silent", also "silent" "quiet"] words act 2

/-- What is known of the machine, by the letters of options. -/
def machineParts : List (String × String) :=
  [("kernel-name", "Linux"), ("nodename", "localhost"), ("kernel-release", "6.1.0"),
    ("kernel-version", "#1 SMP"), ("machine", "x86_64"), ("processor", "unknown"),
    ("hardware-platform", "unknown"), ("operating-system", "GNU/Linux")]

/-- The options of `uname`. -/
def unameOptions : List Known :=
  [flag 'a' "all", flag 's' "kernel-name", flag 'n' "nodename", flag 'r' "kernel-release",
    flag 'v' "kernel-version", flag 'm' "machine", flag 'p' "processor",
    flag 'i' "hardware-platform", flag 'o' "operating-system", also "kernel-name" "sysname",
    also "kernel-release" "release"]

/-- Prints what is known of the machine. -/
def uname (words : List String) : Effect Nat :=
  withoutOperands unameOptions words fun call => do
    let parts :=
      if call.has "all" then machineParts.filter (·.2 ≠ "unknown")
      else machineParts.filter fun (key, _) => call.has key
    let parts := if parts = [] then machineParts.take 1 else parts
    print (" ".intercalate (parts.map (·.2)) ++ "\n")
    return 0

/-- Prints the kind of the machine. -/
def arch (words : List String) : Effect Nat :=
  withoutOperands [] words fun _ => do
    print ((machineParts.lookup "machine").getD "" ++ "\n")
    return 0

/-- Prints the name of the machine. -/
def hostname (words : List String) : Effect Nat :=
  called [flag 's' "short", flag 'f' "fqdn", flag 'd' "domain", flag 'i' "ip-address"] words
    fun call => do
      if call.has "domain" then
        print "\n"
        return 0
      print ((machineParts.lookup "nodename").getD "" ++ "\n")
      return 0

/-- How many things the machine can do at once. -/
def processorCount : Nat := 4

/-- Prints how many things the machine can do at once. -/
def nproc (words : List String) : Effect Nat :=
  withoutOperands [long "all", long "ignore" .value] words fun call => do
    let given := ((← lookup? "OMP_NUM_THREADS").bind String.toNat?).filter fun n =>
      n > 0 && !call.has "all"
    let count := given.getD processorCount
    match (call.value? "ignore").map fun word => (word, countOf "invalid number" "" word) with
    | some (_, .error text) => refuse text
    | some (_, .ok n) =>
      print s!"{max 1 (count - n)}\n"
      return 0
    | none =>
      print s!"{count}\n"
      return 0

/-- Waits until files have been written, as they always have been. -/
def sync (words : List String) : Effect Nat :=
  called [flag 'd' "data", flag 'f' "file-system"] words fun call => do
    if call.has "data" ∧ call.has "file-system" then
      return ← refuse "cannot specify both --data and --file-system"
    if call.has "data" ∧ call.operands = [] then
      return ← refuse "--data needs at least one argument"
    return worst (← call.operands.mapM fun path => do
      match ← find path with
      | .ok _ => return 0
      | .error e => refuse ("error opening " ++ Quoting.always path ++ ": " ++ e.text))

end Programs

end FileScript.Shell
