import FileScript.Host
import FileScript.Shell.Octets
import FileScript.Shell.Signal
import FileScript.Shell.Syntax

/-!
# The state of a shell

What shell commands change. Some of it belongs to a single process, which a subshell begins with a
copy of, and some of it is shared by all processes: the host, and the streams that their descriptors
lead to.
-/

namespace FileScript.Shell

/-- A variable of a shell. -/
structure Variable where
  /-- There is none while a variable has only been given a property. -/
  value : Option String := none
  exported : Bool := false
  constant : Bool := false
  deriving Repr, Inhabited

/-- Where a stream leads. -/
inductive Channel where
  /-- The standard output of the program. -/
  | output
  /-- The standard error stream of the program. -/
  | errors
  /-- The standard input of the program. -/
  | input
  | null
  /-- A device that takes nothing. -/
  | full
  | directory
  /-- A file by where it is kept, and how far it has been read or written. -/
  | file (place : Place) (position : Nat) (appends : Bool)
  /-- Holds what was written and has not been read. -/
  | pipe (bytes : ByteArray)

/-- What descriptors lead to. -/
structure Stream where
  channel : Channel
  readable : Bool
  writable : Bool

/-- How a process ended. -/
inductive Ending where
  | exited (status : Nat)
  | killed (signal : Nat)
  deriving DecidableEq, Repr, Inhabited

namespace Ending

/-- The status that an ending counts as. -/
def status : Ending → Nat
  | exited status => status
  | killed signal => 128 + signal

end Ending

/-- What a redirection leads to, when its words have been expanded. A text is expanded later. -/
inductive Target where
  | file (mode : OpenMode) (path : String)
  | descriptor (source : Nat)
  | nowhere
  | document (text : Word)
  deriving Inhabited

/-- Processes in the background that a shell knows as one job. -/
structure Job where
  slot : Nat
  /-- The number of the last of the processes. -/
  number : Nat
  /-- How many processes there are. -/
  width : Nat := 1
  /-- How the job ended, if the shell has heard of it. -/
  ending : Option Ending := none
  /-- Whether the shell has waited for it. -/
  waited : Bool := false
  deriving Repr, Inhabited

/-- What belongs to a process. -/
structure Process where
  number : Nat := 4242
  /-- The number of the process whose subshell this one is. -/
  shellNumber : Nat := 4242
  /-- The processes that wait for this one. -/
  ancestors : List Nat := []
  bindings : List (String × Variable) := []
  functions : List (String × Nat × Command) := []
  aliases : List (String × String) := []
  /-- The programs that have been found by their names. -/
  hashed : List String := []
  /-- The name of the shell, and the arguments. -/
  name : String := "sh"
  arguments : List String := []
  /-- The streams of the descriptors. -/
  descriptors : List (Nat × Nat) := []
  directory : Place := []
  /-- The names by which the directory was reached, which may lead through links. -/
  route : Place := []
  /-- The status of the last command. -/
  status : Nat := 0
  /-- The status of the last substitution in the present command. -/
  substitutionStatus : Nat := 0
  /-- The options that are switched on, by their letters. -/
  options : List Char := []
  traps : List (Nat × String) := []
  /-- Signals that have no effect, whatever is set. -/
  ignored : List Nat := []
  /-- Signals that have been caught and not been answered. -/
  caught : List Nat := []
  /-- How many loops are going on. -/
  loops : Nat := 0
  /-- How many functions are being called. -/
  calls : Nat := 0
  /-- What is restored when a function returns, or after a command with its own variables. -/
  saved : List (List (String × Option Variable)) := []
  savedOptions : List (Option (List Char)) := []
  line : Nat := 1
  /-- The built-in command that is being carried out. -/
  builtin : Option String := none
  /-- The jobs in the background, the latest first. -/
  jobs : List Job := []
  lastJob : Option Nat := none
  /-- How far options have been read by the command for this: the next word, and how much of the
  word before it if that is not finished. -/
  optionPosition : Nat := 1
  optionOffset : Option Nat := none
  /-- The status with which the process ends, while it carries out its last command. -/
  finalStatus : Option Nat := none
  mask : Nat := 18
  /-- Why a stream has not taken what a command has written to it, if so. -/
  outputFailure : Option String := none

/-- A process in the background that has not begun to run. -/
structure Launch where
  process : Process
  body : Command
  targets : List (Nat × Target)

/-- What all processes share. -/
structure Shared where
  host : Host
  streams : Array Stream := #[]
  output : ByteArray := .empty
  errors : ByteArray := .empty
  /-- The texts of redirections in the commands that have been read. -/
  documents : Array Word := #[]
  /-- The number that the next process gets. -/
  nextProcess : Nat := 4243
  /-- Signals to processes that are waiting: the processes and the signals. -/
  sent : List (Nat × Nat) := []
  /-- Processes that are about to begin to run in the background. -/
  launched : List Launch := []
  /-- The processes in the background of which no shell has heard that they ended: their numbers,
  and the streams to which they may write. -/
  alive : List (Nat × List Nat) := []
  /-- The processes in the background that have ended, and how. -/
  ended : List (Nat × Ending) := []

/-- The state of a shell. -/
structure State where
  shared : Shared
  self : Process := {}

/-- Why a command does not go on. -/
inductive Stop where
  /-- The process ends with its status. -/
  | leave
  /-- An error, of which it depends on the command whether the process ends. -/
  | fault
  | killed (signal : Nat)
  /-- Leaves so many loops. -/
  | breakLoops (count : Nat)
  /-- Leaves so many loops but for the last, which goes on. -/
  | continueLoops (count : Nat)
  /-- Ends a function or a script. -/
  | return
  /-- The limit of the depth of commands is reached. -/
  | exhausted
  deriving DecidableEq, Repr, Inhabited

/-- What a process waits for before it goes on. In any case, it goes on when it gets a signal. -/
inductive Wake where
  /-- The other processes go first. -/
  | turn
  /-- A moment. -/
  | time (moment : Nat)
  /-- The end of one of some processes in the background. -/
  | ending (numbers : List Nat)
  deriving DecidableEq, Repr, Inhabited

/-- How far commands come: to their end, to a stop, or to a point at which their process waits and
from which they go on later. -/
inductive Outcome (α : Type) where
  | ok (value : α) (state : State)
  | error (stop : Stop) (state : State)
  | pause (wake : Wake) (state : State) (next : State → Outcome α)

namespace Outcome

variable {α β : Type}

/-- Goes on after the end of commands. -/
def andThen (outcome : Outcome α) (act : α → State → Outcome β) : Outcome β :=
  match outcome with
  | ok value state => act value state
  | error stop state => error stop state
  | pause wake state next => pause wake state fun state => (next state).andThen act

/-- Goes on after a stop of commands. -/
def orElse (outcome : Outcome α) (act : Stop → State → Outcome α) : Outcome α :=
  match outcome with
  | ok value state => ok value state
  | error stop state => act stop state
  | pause wake state next => pause wake state fun state => (next state).orElse act

/-- Goes on after the end or a stop of commands. -/
def settled (outcome : Outcome α) : Outcome (Except Stop α) :=
  match outcome with
  | ok value state => ok (.ok value) state
  | error stop state => ok (.error stop) state
  | pause wake state next => pause wake state fun state => (next state).settled

end Outcome

/-- What commands do. -/
def Effect (α : Type) : Type := State → Outcome α

instance : Monad Effect where
  pure value := fun state => .ok value state
  bind act next := fun state => (act state).andThen next

instance : MonadStateOf State Effect where
  get := fun state => .ok state state
  set state := fun _ => .ok () state
  modifyGet change := fun state =>
    let (value, state) := change state
    .ok value state

instance : MonadExceptOf Stop Effect where
  throw stop := fun state => .error stop state
  tryCatch act handle := fun state => (act state).orElse handle

namespace Effect

variable {α : Type}

/-- The present process. -/
def self : Effect Process := return (← get).self

/-- What all processes share. -/
def shared : Effect Shared := return (← get).shared

/-- Changes the present process. -/
def modifySelf (change : Process → Process) : Effect Unit :=
  modify fun s => { s with self := change s.self }

/-- Changes what all processes share. -/
def modifyShared (change : Shared → Shared) : Effect Unit :=
  modify fun s => { s with shared := change s.shared }

/-- Sets the status. -/
def setStatus (status : Nat) : Effect Unit := modifySelf ({ · with status })

/-- Carries out a command to its end and tells why it stopped, if it did. -/
def attempt (act : Effect α) : Effect (Except Stop α) := fun state => (act state).settled

/-- Waits. -/
def pause (wake : Wake) : Effect Unit := fun state => .pause wake state fun state => .ok () state

/-- Lets processes in the background go first, if there are any. -/
def giveTurn : Effect Unit := do
  unless (← shared).alive.isEmpty do pause .turn

/-- Goes on as a command that was attempted did. -/
def resume (result : Except Stop α) : Effect α :=
  match result with
  | .ok a => return a
  | .error stop => throw stop

/-- Carries out a command and then another, however the first one ends. -/
def ensuring (act : Effect α) (final : Effect Unit) : Effect α := do
  let result ← attempt act
  final
  resume result

/-! ## Streams -/

/-- Makes a stream. -/
def newStream (stream : Stream) : Effect Nat := do
  let index := (← shared).streams.size
  modifyShared fun s => { s with streams := s.streams.push stream }
  return index

/-- The stream of a descriptor. -/
def streamAt? (descriptor : Nat) : Effect (Option (Nat × Stream)) := do
  match (← self).descriptors.lookup descriptor with
  | none => return none
  | some index => return (← shared).streams[index]?.map (index, ·)

/-- Changes where a stream leads. -/
def setChannel (index : Nat) (channel : Channel) : Effect Unit :=
  modifyShared fun s => { s with
    streams := s.streams.modify index ({ · with channel }) }

/-- Lets a descriptor lead to a stream, or to none. -/
def connect (descriptor : Nat) (stream : Option Nat) : Effect Unit :=
  modifySelf fun p =>
    let others := p.descriptors.filter (·.1 ≠ descriptor)
    { p with descriptors :=
        match stream with
        | some index => (descriptor, index) :: others
        | none => others }

/-- The bytes of a file after some were written at a position. -/
def overwritten (old : ByteArray) (position : Nat) (bytes : ByteArray) : ByteArray :=
  let gap := (List.replicate (position - old.size) (0 : UInt8)).toByteArray
  old.extract 0 position ++ gap ++ bytes ++ old.extract (position + bytes.size) old.size

/-- Changes the folder. -/
def modifyFolder (change : Folder → Folder) : Effect Unit :=
  modifyShared fun s => { s with host.folder := change s.host.folder }

/-- The permissions of a new item, of which the mask takes some away. -/
def newMode (item : FolderItem) (mask : Nat) : Option Nat :=
  match item with
  | .directory => if mask = 0o22 then none else some (0o777 &&& (0o777 ^^^ mask))
  | .file _ => if mask = 0o22 then none else some (0o666 &&& (0o777 ^^^ mask))
  | _ => none

/-- Notes that the item at a place has been changed. -/
def touchPlace (place : Place) : Effect Unit := do
  let now := (← shared).host.clock + 1
  modifyFolder (·.modifyDetails place ({ · with time := now }))

/-- Puts an item at a place. -/
def putItem (place : Place) (item : FolderItem) : Effect Unit := do
  let isNew := ((← shared).host.folder.item? place).isNone
  let mask := (← self).mask
  modifyFolder (·.put place item)
  if isNew then
    modifyFolder (·.modifyDetails place ({ · with mode := newMode item mask }))
    touchPlace place.dropLast
  touchPlace place

/-- Puts a new file in the place of another one, with its permissions. -/
def replaceFileAt (place : Place) (bytes : ByteArray) : Effect Unit := do
  let { mode, .. } := (← shared).host.folder.detailsOf place
  modifyFolder fun f =>
    ((f.erase place).put place (.file bytes)).modifyDetails place ({ · with mode })
  touchPlace place

/-- Keeps the file at a place for as long as it is open, and yields where it is kept. -/
def keepFile (place : Place) : Effect Place := do
  let (folder, kept) := (← shared).host.folder.keep place
  modifyFolder fun _ => folder
  return kept

/-- Takes the item at a place away, with all that is in it. -/
def removeItem (place : Place) : Effect Unit := do
  modifyFolder (·.eraseAll place)
  touchPlace place.dropLast

/-- Writes to a descriptor; tells the reason if it cannot take the text. -/
def writeTo (descriptor : Nat) (text : String) : Effect (Option String) := do
  if text = "" then return none
  match ← streamAt? descriptor with
  | some (index, { channel, writable := true, .. }) =>
    let bytes := Octets.toBytes text
    match channel with
    | .output =>
      modifyShared fun s => { s with output := s.output ++ bytes }
      return none
    | .errors =>
      modifyShared fun s => { s with errors := s.errors ++ bytes }
      return none
    | .null => return none
    | .full => return some "No space left on device"
    | .pipe held =>
      setChannel index (.pipe (held ++ bytes))
      return none
    | .file place position appends =>
      let folder := (← shared).host.folder
      match folder.item? place with
      | some (.file old) =>
        let position := if appends then old.size else position
        putItem place (.file (overwritten old position bytes))
        setChannel index (.file place (position + bytes.size) appends)
      | _ => pure ()
      return none
    | .input | .directory => return some "Bad file descriptor"
  | _ => return some "Bad file descriptor"

/-- What can be read from a channel. -/
def Channel.unread (s : Shared) : Channel → Except String ByteArray
  | .input => .ok s.host.input
  | .pipe bytes => .ok bytes
  | .file place position _ =>
    match s.host.folder.item? place with
    | some (.file bytes) => .ok (bytes.extract position bytes.size)
    | _ => .ok .empty
  | .directory => .error "Is a directory"
  | _ => .ok .empty

/-- What can be read from a descriptor; or why nothing can. -/
def unread (descriptor : Nat) : Effect (Except String ByteArray) := do
  match ← streamAt? descriptor with
  | some (_, { channel, readable := true, .. }) => return Channel.unread (← shared) channel
  | _ => return .error "Bad file descriptor"

/-- Passes some of what can be read from a descriptor. -/
def passBytes (descriptor count : Nat) : Effect Unit := do
  match ← streamAt? descriptor with
  | some (_, { channel := .input, .. }) =>
    modifyShared fun s => { s with
      host.input := s.host.input.extract count s.host.input.size }
  | some (index, { channel := .pipe bytes, .. }) =>
    setChannel index (.pipe (bytes.extract count bytes.size))
  | some (index, { channel := .file place position appends, .. }) =>
    setChannel index (.file place (position + count) appends)
  | _ => pure ()

/-- Reads all that can be read from a descriptor. -/
def readAll (descriptor : Nat) : Effect (Except String String) := do
  match ← unread descriptor with
  | .error e => return .error e
  | .ok bytes =>
    passBytes descriptor bytes.size
    return .ok (Octets.ofBytes bytes)

/-- Whether what is not read from a descriptor can be read again. -/
def seekable (descriptor : Nat) : Effect Bool := do
  match ← streamAt? descriptor with
  | some (_, { channel := .file .., .. }) => return true
  | _ => return false

/-! ## Messages -/

/-- Prints to the standard output. -/
def print (text : String) : Effect Unit := do
  if let some reason ← writeTo 1 text then
    modifySelf ({ · with outputFailure := some reason })

/-- Prints to the standard error stream. -/
def complain (text : String) : Effect Unit := discard (writeTo 2 text)

/-- Prints a message of the shell. -/
def warn (text : String) : Effect Unit := do
  let p ← self
  let context := match p.builtin with
    | some name => s!"{name}: "
    | none => ""
  complain s!"{p.name}: {p.line}: {context}{text}\n"

/-- Fails with a message of the shell. -/
def fail (text : String) (status : Nat := 2) : Effect α := do
  warn text
  setStatus status
  throw .fault

/-! ## Variables -/

/-- A variable. -/
def binding? (name : String) : Effect (Option Variable) := return (← self).bindings.lookup name

/-- The value of a variable, if it is set. -/
def lookup? (name : String) : Effect (Option String) := return (← binding? name).bind (·.value)

/-- Puts a variable, or takes it away. -/
def putVariable (name : String) (v : Option Variable) : Effect Unit :=
  modifySelf fun p =>
    let others := p.bindings.filter (·.1 ≠ name)
    let position := ((v.bind (·.value)).bind String.toNat?).getD 1
    { p with
      bindings := match v with
        | some v => (name, v) :: others
        | none => others
      optionPosition := if name = "OPTIND" then position else p.optionPosition
      optionOffset := if name = "OPTIND" then none else p.optionOffset }

/-- Whether an option of the shell is switched on. -/
def option (letter : Char) : Effect Bool := return letter ∈ (← self).options

/-- Fails if a variable is constant. -/
def checkWritable (name : String) : Effect Unit := do
  if ((← binding? name).map (·.constant)).getD false then fail s!"{name}: is read only"

/-- Sets a variable. -/
def assign (name value : String) (exported : Bool := false) : Effect Unit := do
  checkWritable name
  let old := (← binding? name).getD {}
  let exported := exported || old.exported || (← option 'a')
  putVariable name (some { old with value, exported })

/-- Takes a variable away. -/
def unset (name : String) : Effect Unit := do
  checkWritable name
  putVariable name none

/-- Lets the value of a variable be restored when the present function or command is over. -/
def remember (name : String) : Effect Unit := do
  let old ← binding? name
  modifySelf fun p =>
    match p.saved with
    | top :: rest => { p with saved := ((name, old) :: top) :: rest }
    | [] => p

/-- Carries out a command whose own variables last no longer than it does. -/
def withOwnVariables (act : Effect α) : Effect α := do
  modifySelf fun p => { p with saved := [] :: p.saved, savedOptions := none :: p.savedOptions }
  ensuring act do
    let p ← self
    (p.saved.headD []).forM fun (name, old) => putVariable name old
    modifySelf fun p => { p with
      saved := p.saved.tail
      options := (p.savedOptions.headD none).getD p.options
      savedOptions := p.savedOptions.tail }

/-- A text in single quotes, such that the shell reads it as one word. -/
def quoted (text : String) : String :=
  if text = "" then "''"
  else "".intercalate (pieces text.toList)
where
  /-- The quoted parts of a text, where single quotes are put in double ones. -/
  pieces (text : List Char) : List String :=
    let groups := text.splitBy fun a b => (a = '\'') = (b = '\'')
    groups.map fun group =>
      let inner := String.ofList group
      if group.head? = some '\'' then s!"\"{inner}\"" else s!"'{inner}'"

/-! ## Folders -/

/-- The item to which a path leads. -/
def find (path : String) : Effect (Except FolderError (Place × FolderItem)) := do
  return (← shared).host.folder.find (← self).directory (Octets.toString path)

/-- The item to which a path leads, which may be a link itself. -/
def findEntry (path : String) : Effect (Except FolderError (Place × FolderItem)) := do
  return (← shared).host.folder.find (← self).directory (Octets.toString path) false

/-- The place at which a path would make a new item. -/
def findNew (path : String) : Effect (Except FolderError Place) := do
  return (← shared).host.folder.findNew (← self).directory (Octets.toString path)

/-- The path of a place, from the root. -/
def pathOf (place : Place) : String := Octets.ofString ("/" ++ "/".intercalate place)

end Effect

end FileScript.Shell
