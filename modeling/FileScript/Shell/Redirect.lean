import FileScript.Shell.Expansion

/-!
# Redirections

A redirection lets a descriptor of a command lead to a file, to the same place as another descriptor
or to a text. It lasts as long as the command.
-/

namespace FileScript.Shell

namespace Redirect

/-- The descriptor that a device leads to. -/
def deviceDescriptor? (path : String) : Option Nat :=
  match path with
  | "/dev/stdin" => some 0
  | "/dev/stdout" => some 1
  | "/dev/stderr" => some 2
  | _ =>
    if path.startsWith "/dev/fd/" then
      (String.ofList (path.toList.drop 8)).toNat?
    else none

/-- Expands the words of a redirection. -/
def target (substitute : Command → Effect String) : Redirection → Effect (Nat × Target)
  | .file descriptor mode name => do
    return (descriptor, .file mode (← Expansion.textOfWord substitute name))
  | .duplicate descriptor name => do
    match (← Expansion.textOfWord substitute name).toList with
    | ['-'] => return (descriptor, .nowhere)
    | [c] =>
      if c.isDigit then return (descriptor, .descriptor (c.toNat - '0'.toNat))
      else Effect.fail "Syntax error: Bad fd number"
    | _ => Effect.fail "Syntax error: Bad fd number"
  | .document descriptor index => do
    return (descriptor, .document ((← Effect.shared).documents[index]?.getD []))

/-- What is said of a file that cannot be opened. -/
def openReason (e : FolderError) (absent : String) : String :=
  match e with
  | .notFound | .notADirectory => absent
  | _ => e.text

/-- Fails because a file cannot be made. -/
def cannotCreate {α : Type} (path : String) (e : FolderError) : Effect α :=
  Effect.fail (s!"cannot create {path}: " ++ openReason e "Directory nonexistent")

/-- The stream of a file that is read. -/
def forReading (place : Place) (item : FolderItem) : Stream :=
  let channel : Channel := match item with
    | .file _ => .file place 0 false
    | .directory => .directory
    | .input => .input
    | .endless => .pipe (FolderItem.endlessBytes FolderItem.endlessSize)
    | .null | .executable | .link _ => .null
  { channel, readable := true, writable := false }

/-- The stream of a file that is written. -/
def forWriting (place : Place) (item : FolderItem) (appends readable : Bool) : Stream :=
  let channel : Channel := match item with
    | .file _ => .file place 0 appends
    | _ => .null
  { channel, readable, writable := true }

/-- Opens a file for writing. -/
def openToWrite (mode : OpenMode) (path : String) : Effect Stream := do
  if path = "/dev/full" then return { channel := .full, readable := false, writable := true }
  let appends := mode = .append
  let readable := mode = .readWrite
  match ← Effect.find path with
  | .ok (_, .directory) => cannotCreate path .isADirectory
  | .ok (place, item) =>
    if mode = .write ∧ (← Effect.option 'C') then
      if let .file _ := item then cannotCreate path .alreadyThere
    if mode = .write ∨ mode = .overwrite then
      if let .file _ := item then Effect.putItem place (.file .empty)
    return forWriting (← Effect.keepFile place) item appends readable
  | .error .notFound =>
    match ← Effect.findNew path with
    | .ok place =>
      if path.endsWith "/" then cannotCreate path .isADirectory
      Effect.putItem place (.file .empty)
      return forWriting (← Effect.keepFile place) (.file .empty) appends readable
    | .error e => cannotCreate path e
  | .error e => cannotCreate path e

/-- Lets a descriptor lead to the same stream as another one. -/
def duplicate (descriptor source : Nat) (absent : String) : Effect Unit := do
  if descriptor = source then return
  match (← Effect.self).descriptors.lookup source with
  | some index => Effect.connect descriptor (some index)
  | none => Effect.fail absent

/-- Carries out a redirection. If the descriptor is to be restored later, it leads nowhere while it
is changed, so that no message can go there. -/
def apply (substitute : Command → Effect String) (restored : Bool) (descriptor : Nat) (t : Target) :
    Effect Unit := do
  let toStream (stream : Stream) : Effect Unit := do
    Effect.connect descriptor (some (← Effect.newStream stream))
  match t with
  | .nowhere => Effect.connect descriptor none
  | .descriptor source =>
    if restored ∧ descriptor ≠ source then
      if ((← Effect.self).descriptors.lookup source).isNone then Effect.connect descriptor none
    duplicate descriptor source s!"{source}: Bad file descriptor"
  | .document w =>
    let text ← Expansion.documentText substitute w
    toStream { channel := .pipe (Octets.toBytes text), readable := true, writable := false }
  | .file mode path =>
    match deviceDescriptor? path with
    | some source => duplicate descriptor source s!"cannot open {path}: No such file"
    | none =>
      if mode = .read then
        match ← Effect.find path with
        | .ok (place, item) => toStream (forReading (← Effect.keepFile place) item)
        | .error e => Effect.fail (s!"cannot open {path}: " ++ openReason e "No such file")
      else toStream (← openToWrite mode path)

/-- Where some descriptors lead. -/
def Connections := List (Nat × Option Nat)

/-- Where the descriptors of some redirections lead. -/
def connections (targets : List (Nat × Target)) : Effect Connections := do
  let p ← Effect.self
  return targets.map fun (descriptor, _) => (descriptor, p.descriptors.lookup descriptor)

/-- Lets descriptors lead again to where they led. -/
def restore (saved : Connections) : Effect Unit :=
  saved.forM fun (descriptor, stream) => Effect.connect descriptor stream

/-- Carries out redirections; tells whether they succeeded. If they do not, none of them lasts. -/
def applyAll (substitute : Command → Effect String) (restored : Bool)
    (targets : List (Nat × Target)) (saved : Connections) : Effect Bool := do
  let result ← Effect.attempt (targets.zipIdx.forM fun ((descriptor, t), i) =>
    let changed := (targets.take i).any (·.1 = descriptor)
    apply substitute (restored && !changed) descriptor t)
  match result with
  | .ok () => return true
  | .error .fault =>
    restore saved
    return false
  | .error stop => throw stop

end Redirect

end FileScript.Shell
