import FileScript.Shell.Programs.Running
import FileScript.Shell.Programs.Whole
import FileScript.Shell.Records.Pattern
import FileScript.Shell.Records.Table

/-!
# What programs for records work with

A program has a current record with its fields, variables and tables, and files and commands that it
reads from or prints to. What it prints is held back until the output is needed or the program ends.
-/

namespace FileScript.Shell

namespace Records

/-- What a variable holds. -/
inductive Slot where
  | unset
  | scalar (v : Value)
  | table (index : Nat)
  /-- What another variable holds, which has not been used before. -/
  | same (frame : Nat) (v : Variable)
  deriving Repr, Inhabited

/-- What divides a text into parts. -/
inductive Divider where
  | blanks
  | char (c : Char)
  /-- Every character is a part. -/
  | each
  | pattern (e : LinePattern.Expression)
  deriving Repr, Inhabited

/-- Where a record ends. -/
inductive RecordEnd where
  | char (c : Char)
  /-- At empty lines. -/
  | paragraph
  | pattern (e : LinePattern.Expression)
  deriving Repr, Inhabited

/-- What records are read from: a file, or what a command has printed. -/
structure Source where
  name : String
  rest : List Char
  /-- How the command has ended. -/
  ending : Option Ending := none
  deriving Inhabited

/-- What a program prints to: a file, or a command that gets it at the end. -/
structure Sink where
  name : String
  isCommand : Bool
  held : String := ""
  deriving Inhabited

/-- A program on its way through its input. -/
structure Machine where
  /-- The record; it is made anew from the fields when that is asked for. -/
  record : Value := .outer ""
  isStale : Bool := false
  fields : Array Value := #[]
  shared : Std.TreeMap String Slot
  /-- The variables of the functions that are being called. -/
  frames : Array (Array Slot) := #[]
  tables : Array Table := #[]
  divider : Divider := .blanks
  recordEnd : RecordEnd := .char '\n'
  /-- The file that records are read from. -/
  main : Option Source := none
  /-- The number of the next argument that may name a file. -/
  position : Nat := 1
  /-- Whether any file has been opened. -/
  hasOpened : Bool := false
  sources : List Source := []
  /-- Files and commands that are printed to, the one used last first. -/
  sinks : List Sink := []
  /-- What has been printed and is held back. -/
  held : String := ""
  /-- The rules whose ranges have begun. -/
  ranges : List Nat := []
  seed : Value := .number 0
  random : UInt64 := 1
  status : Nat := 0
  /-- Why the output was not taken, if so. -/
  failure : Option String := none

/-- Why a statement does not go on. -/
inductive Leave where
  | loop
  | round
  | record
  | file
  | program
  | function (v : Value)
  /-- An error, which has been told. -/
  | fault
  deriving Repr, Inhabited

/-- Steps of a program. -/
abbrev Run := ExceptT Leave (StateT Machine Effect)

/-- Does something with the world. -/
def perform {α : Type} (act : Effect α) : Run α := ExceptT.lift (StateT.lift act)

namespace Machine

/-! ## Variables -/

/-- How far the variables of functions stand for those of others. -/
def aliasDepth : Nat := 4096

/-- What a variable holds in a frame. -/
def slotOf (frame : Nat) (v : Variable) : Run Slot := do
  let m ← get
  match v with
  | .shared name => return m.shared.getD name .unset
  | .own i => return (m.frames[frame]?.bind (·[i]?)).getD .unset

/-- Lets a variable hold something. -/
def setSlot (frame : Nat) (v : Variable) (slot : Slot) : Run Unit :=
  modify fun m =>
    match v with
    | .shared name => { m with shared := m.shared.insert name slot }
    | .own i => { m with frames := m.frames.modify frame (·.setIfInBounds i slot) }

/-- The number of the present frame. -/
def frame : Run Nat := return (← get).frames.size - 1

/-- The table that a variable holds. A variable that has not been used becomes one. -/
def tableAt : Nat → (frame : Nat) → Variable → Run Nat
  | 0, _, _ => return 0
  | depth + 1, frame, v => do
    let index ← match ← slotOf frame v with
      | .table index => return index
      | .same other w => tableAt depth other w
      | _ => do
        let index := (← get).tables.size
        modify fun m => { m with tables := m.tables.push {} }
        pure index
    setSlot frame v (.table index)
    return index

/-- The table that a variable holds. -/
def tableOf (v : Variable) : Run Nat := do tableAt aliasDepth (← frame) v

/-- A table. -/
def table (index : Nat) : Run Table := return (← get).tables.getD index {}

/-- Changes a table. -/
def setTable (index : Nat) (t : Table) : Run Unit :=
  modify fun m => { m with tables := m.tables.setIfInBounds index t }

/-- The value of a variable of the whole program. -/
def valueOf (name : String) : Run Value := do
  match (← get).shared.getD name .unset with
  | .scalar v => return v
  | _ => return .nothing

/-- The format by which numbers become texts. -/
def conversion : Run String := return (← valueOf "CONVFMT").toText "%.6g"

/-- The text of a value. -/
def textOf (v : Value) : Run String := do
  match v with
  | .number _ => return v.toText (← conversion)
  | _ => return v.toText ""

/-- The text of a variable of the whole program. -/
def variableText (name : String) : Run String := do textOf (← valueOf name)

/-- Gives a variable of the whole program a value, without any other effect. -/
def setPlain (name : String) (v : Value) : Run Unit :=
  modify fun m => { m with shared := m.shared.insert name (.scalar v) }

/-! ## Errors -/

/-- Ends the program with a message. -/
def refuse {α : Type} (text : String) : Run α := do
  perform (Programs.tell text)
  throw .fault

/-- Ends the program because of an error, and tells how far it has come. -/
def fail {α : Type} (text : String) : Run α := do
  let file ← variableText "FILENAME"
  let inFile ← variableText "FNR"
  let number ← variableText "NR"
  refuse (s!"run time error: {text}\n\tFILENAME=\"" ++ file ++ s!"\" FNR={inFile} NR={number}")

/-- The pattern that a text denotes. -/
def patternFrom (source : String) : Run LinePattern.Expression := do
  match patternOf source with
  | .ok e => return e
  | .error mistake =>
    fail s!"regular expression compile failed ({mistake.text})\n{source}"

/-! ## Fields -/

/-- What a text says about how another text is divided. -/
def dividerOf (text : String) : Run Divider := do
  match text.toList with
  | [] => return .each
  | [' '] => return .blanks
  | [c] => return .char c
  | _ => return .pattern (← patternFrom text)

/-- Whether a character lies between fields, if nothing else is said. -/
def isBlankBetween (c : Char) : Bool := c = ' ' || c = '\t' || c = '\n'

/-- The parts of a text. -/
def parts (d : Divider) (text : String) : List String :=
  if text = "" then []
  else match d with
    | .blanks =>
      ((text.toList.splitBy fun a b => isBlankBetween a = isBlankBetween b).filter fun run =>
        !run.all isBlankBetween).map String.ofList
    | .char c => text.splitOn c.toString
    | .each => text.toList.map Char.toString
    | .pattern e => partsBetween e text

/-- Sets the record and divides it into fields. -/
def setRecord (text : String) : Run Unit := do
  let m ← get
  let fields := ((parts m.divider text).map Value.outer).toArray
  set { m with record := .outer text, isStale := false, fields }
  setPlain "NF" (.ofNat fields.size)

/-- The record. -/
def getRecord : Run Value := do
  let m ← get
  if m.isStale then
    let between ← variableText "OFS"
    let texts ← m.fields.toList.mapM textOf
    let record : Value := .outer (between.intercalate texts)
    modify ({ · with record, isStale := false })
    return record
  else return m.record

/-- Makes the number of fields as great as it is said. -/
def resize (count : Nat) : Run Unit := do
  let m ← get
  let fields := m.fields.extract 0 count
  let fields := fields ++ Array.replicate (count - fields.size) (.text "")
  set { m with fields, isStale := true }

/-- The field with a number. -/
def getField (n : Int) : Run Value := do
  if n < 0 then fail s!"negative field index ${n}"
  else if n = 0 then getRecord
  else return (← get).fields.getD (n.toNat - 1) (.text "")

/-- Gives a field a value. -/
def setField (n : Int) (v : Value) : Run Unit := do
  if n < 0 then fail s!"negative field index ${n}"
  else if n = 0 then setRecord (← textOf v)
  else
    let i := n.toNat - 1
    if (← get).fields.size ≤ i then
      resize (i + 1)
      setPlain "NF" (.ofNat (i + 1))
    modify fun m => { m with fields := m.fields.setIfInBounds i v, isStale := true }

/-- Gives a variable of the whole program a value. Some of them say how records are read. -/
def setShared (name : String) (v : Value) : Run Unit := do
  match name with
  | "NF" =>
    let n := (integerOf? v.toNumber).getD 0
    if n < 0 then fail "negative value assigned to NF"
    resize n.toNat
  | "FS" =>
    let divider ← dividerOf (← textOf v)
    modify ({ · with divider })
  | "RS" =>
    let recordEnd ← match (← textOf v).toList with
      | [] => pure RecordEnd.paragraph
      | [c] => pure (RecordEnd.char c)
      | chars => RecordEnd.pattern <$> patternFrom (String.ofList chars)
    modify ({ · with recordEnd })
  | _ => pure ()
  setPlain name v

/-- The value of a variable. -/
def getVariable (v : Variable) : Run Value := do
  match ← slotOf (← frame) v with
  | .scalar value => return value
  | _ => return .nothing

/-- Gives a variable a value. -/
def setVariable (v : Variable) (value : Value) : Run Unit := do
  match v with
  | .shared name => setShared name value
  | .own _ => setSlot (← frame) v (.scalar value)

/-! ## Output -/

/-- Prints what has been held back for the standard output. -/
def flushOutput : Run Unit := do
  let held := (← get).held
  modify ({ · with held := "" })
  if let some reason ← perform (Effect.writeTo 1 held) then
    modify ({ · with failure := some reason })

/-- What is said about a file that does not take what is printed. -/
def closeFailure (name reason : String) : String :=
  "close failed on file \"" ++ name ++ "\" (" ++ reason ++ ")"

/-- Writes what has been held back for files. -/
def flushFiles : Run Unit := do
  let sinks := (← get).sinks
  for sink in sinks do
    if !sink.isCommand ∧ sink.held ≠ "" then
      if let some reason ← perform (Programs.writeFile sink.name sink.held true) then
        perform (Programs.tell (closeFailure sink.name reason))
        modify ({ · with status := 2 })
  modify fun m => { m with
    sinks := m.sinks.map fun s => if s.isCommand then s else { s with held := "" } }

/-- Prints all that has been held back, except for what commands get. -/
def flush : Run Unit := do
  flushFiles
  flushOutput

/-- How a program starts another one. -/
abbrev Start := Programs.Start

/-- The status of a command that has ended. -/
def statusOf : Ending → Nat
  | .exited status => status
  | .killed signal => 256 + signal

/-- Runs a command by a shell. `connection` is what its descriptors lead to. -/
def runCommand (start : Start) (name command : String) (connection : Effect Unit) :
    Effect Ending :=
  Jobs.inProcess (do
    connection
    start "/bin/sh" name ["-c", command]) (return)

/-- Runs a command that reads a text. -/
def feed (start : Start) (command text : String) : Effect Ending := do
  let channel : Channel := .pipe (Octets.toBytes text)
  let pipe ← Effect.newStream { channel, readable := true, writable := false }
  runCommand start "/bin/sh" command (Effect.connect 0 (some pipe))

/-- Runs a command and takes what it prints. -/
def captured (start : Start) (command : String) : Effect (String × Ending) := do
  let stream : Stream := { channel := .pipe .empty, readable := true, writable := true }
  let pipe ← Effect.newStream stream
  let ending ← runCommand start "/bin/sh" command (Effect.connect 1 (some pipe))
  Jobs.drain pipe
  let s ← Effect.shared
  let found := (s.streams[pipe]?.map (·.channel)).getD .null
  Effect.setChannel pipe .null
  match Effect.Channel.unread s found with
  | .ok bytes => return (Octets.ofBytes bytes, ending)
  | .error _ => return ("", ending)

/-- Prints a text to a place. -/
def printTo (direction : Direction) (name text : String) : Run Unit := do
  let isCommand := direction = .pipe
  let isOwn (s : Sink) : Bool := s.name = name && s.isCommand == isCommand
  if !isCommand ∧ name = "/dev/stdout" then
    modify fun m => { m with held := m.held ++ text }
  else if !isCommand ∧ name = "/dev/stderr" then perform (Effect.complain text)
  else
    let sinks := (← get).sinks
    let sink ← match sinks.find? isOwn with
      | some sink => pure sink
      | none =>
        if isCommand then flush
        else if let some reason ← perform (Programs.writeFile name "" (direction = .append)) then
          refuse ("cannot open \"" ++ name ++ s!"\" for output ({reason})")
        pure { name, isCommand }
    let others := (← get).sinks.filter fun s => !isOwn s
    modify ({ · with sinks := { sink with held := sink.held ++ text } :: others })

/-- Closes what is printed to, and tells the status. -/
def closeSink (start : Start) (sink : Sink) : Run Int := do
  if sink.isCommand then
    let ending ← perform (feed start sink.name sink.held)
    return statusOf ending
  else
    if sink.held ≠ "" then
      if let some reason ← perform (Programs.writeFile sink.name sink.held true) then
        refuse (closeFailure sink.name reason)
    return 0

/-- Closes all files and commands with a name, and tells the status of the last one. -/
def close (start : Start) (name : String) : Run Int := do
  let m ← get
  let sinks := m.sinks.filter (·.name = name)
  let sources := m.sources.filter (·.name = name)
  set { m with
    sinks := m.sinks.filter (·.name ≠ name), sources := m.sources.filter (·.name ≠ name) }
  let fromSources := sources.map fun s => ((s.ending.map statusOf).getD 0 : Int)
  let fromSinks ← sinks.mapM (closeSink start)
  return (fromSources ++ fromSinks).getLastD (-1)

/-- Ends all output. -/
def finish (start : Start) : Run Unit := do
  flushFiles
  let sinks := (← get).sinks
  modify ({ · with sinks := [] })
  for sink in sinks do
    discard (closeSink start sink)
  flushOutput
  if let some reason := (← get).failure then refuse (closeFailure "/dev/stdout" reason)

/-! ## Input -/

/-- The bytes of a text in front of the first place where two line ends meet, and what follows all
of these. -/
def paragraphOf : List Char → List Char × List Char
  | '\n' :: '\n' :: rest => ([], rest.dropWhile (· = '\n'))
  | ['\n'] => ([], [])
  | c :: rest =>
    let (found, after) := paragraphOf rest
    (c :: found, after)
  | [] => ([], [])

/-- The next record of a text, and what follows it. -/
def recordOf (recordEnd : RecordEnd) (text : List Char) : Option (String × List Char) :=
  match recordEnd with
  | .char c =>
    if text.isEmpty then none
    else
      let found := text.takeWhile (· ≠ c)
      some (String.ofList found, text.drop (found.length + 1))
  | .paragraph =>
    let text := text.dropWhile (· = '\n')
    if text.isEmpty then none
    else
      let (found, rest) := paragraphOf text
      some (String.ofList found, rest)
  | .pattern e =>
    if text.isEmpty then none
    else match (matchesIn e (String.ofList text)).find? fun (a, b) => a < b with
      | some (a, b) => some (String.ofList (text.take a), text.drop b)
      | none => some (String.ofList text, [])

/-- What can be read from a file; nothing if it cannot be opened. -/
def contentOf (path : String) : Run (Except String (List Char)) := do
  match ← perform (Programs.readFile path) with
  | .ok text => return .ok text.toList
  | .error (.opening reason) => return .error reason
  | .error (.reading reason) => refuse s!"read error ({reason})"

/-- The setting of a variable that an argument asks for. -/
def setting? (word : String) : Option (String × String) :=
  let chars := word.toList
  let name := chars.takeWhile (· ≠ '=')
  let text := String.ofList name
  if name.length < chars.length ∧ Octets.isName text then
    some (text, String.ofList (chars.drop (name.length + 1)))
  else none

/-- Gives a variable a value from outside. -/
def assignOuter (name text : String) : Run Unit := do
  let isTable := match (← get).shared.getD name .unset with
    | .table _ => true
    | _ => false
  if isTable then fail s!"cannot command line assign to {name}\n\ttype clash or keyword"
  setShared name (.outer (unescape text))

/-- Opens the next file among the arguments. Without any, the standard input is read. -/
def openNext : Nat → Run Bool
  | 0 => return false
  | fuel + 1 => do
    let m ← get
    let opened (name : String) (chars : List Char) : Run Bool := do
      modify ({ · with main := some { name, rest := chars }, hasOpened := true })
      setPlain "FILENAME" (.text name)
      setPlain "FNR" (.number 0)
      return true
    let count := (integerOf? (← valueOf "ARGC").toNumber).getD 0
    if (m.position : Int) < count then
      let arguments ← table (← tableAt aliasDepth 0 (.shared "ARGV"))
      set { m with position := m.position + 1 }
      let word ← textOf (arguments.get (toString m.position))
      if word = "" then openNext fuel
      else match setting? word with
        | some (name, text) =>
          assignOuter name text
          openNext fuel
        | none =>
          match ← contentOf word with
          | .ok chars => opened word chars
          | .error reason => refuse ("cannot open \"" ++ word ++ s!"\" ({reason})")
    else if m.hasOpened then return false
    else
      match ← contentOf "-" with
      | .ok chars => opened "-" chars
      | .error reason => refuse s!"cannot open - ({reason})"

/-- How many files can be opened. -/
def fileLimit : Nat := 100000

/-- The next record of the input. -/
def nextRecord? : Nat → Run (Option String)
  | 0 => return none
  | fuel + 1 => do
    let m ← get
    let onward : Run (Option String) := do
      if ← openNext fileLimit then nextRecord? fuel else return none
    match m.main with
    | none => onward
    | some source =>
      match recordOf m.recordEnd source.rest with
      | some (text, rest) =>
        set { m with main := some { source with rest } }
        return some text
      | none =>
        set { m with main := none }
        onward

/-- Adds one to a variable that counts records. -/
def countUp (name : String) : Run Unit := do
  setPlain name (.number ((← valueOf name).toNumber + 1))

/-- Reads the next record of the input. -/
def readMain : Run (Option String) := do
  match ← nextRecord? fileLimit with
  | none => return none
  | some text =>
    countUp "NR"
    countUp "FNR"
    return some text

/-- Reads the next record of something that has been opened. -/
def readSource (name : String) : Run (Option String) := do
  let m ← get
  match m.sources.find? (·.name = name) with
  | none => return none
  | some source =>
    match recordOf m.recordEnd source.rest with
    | none => return none
    | some (text, rest) =>
      let others := m.sources.filter (·.name ≠ name)
      set { m with sources := { source with rest } :: others }
      return some text

/-- Opens a file for reading, if that has not been done. -/
def openSource (path : String) : Run Bool := do
  let m ← get
  if m.sources.any (·.name = path) then return true
  match ← contentOf path with
  | .error _ => return false
  | .ok rest =>
    modify fun m => { m with sources := { name := path, rest } :: m.sources }
    return true

/-- Runs a command whose output is read, if that has not been done. -/
def openCommand (start : Start) (command : String) : Run Unit := do
  let m ← get
  if m.sources.any (·.name = command) then return
  flush
  let (text, ending) ← perform (captured start command)
  modify fun m => { m with
    sources := { name := command, rest := text.toList, ending := some ending } :: m.sources }

end Machine

end Records

end FileScript.Shell
