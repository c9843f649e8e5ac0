import FileScript.Proofs.Statements

/-!
# The forms of requests

Apart from shell commands, the built-in commands go about what they ask for in a few forms only, in
which the requests to the store and what is printed of the replies are left open. What holds of
every form holds of every request (`Request.perform_cases`).
-/

namespace FileScript.Request

open FileScript.Action

/-- How a request goes about what it asks for. -/
inductive Form : Action Output → Prop
  /-- The reply to a single request to the store is printed. -/
  | asking {α : Type} (source : LogSource) (label : String) (op : Timespec → Store.Update α)
      (out : α → Output) : Form do
        let a ← traced source label (request op)
        return out a
  /-- A single request is made through an open file, wherever the handle stands. -/
  | askingFile (fd : Nat) (label : String) (op : FileHandle → Timespec → Store.Update Unit)
      (hop : ∀ handle offset, op { handle with offset } = op handle) :
      Form do
        let handle ← fileAt fd
        silently .files label (op handle)
  | fetching (label : String) (op : ByteArray → Store.Update (Nat × ByteArray))
      (out : ByteArray → Output) : Form do
        let bytes ← fetch label op
        return out bytes
  | openingFile (label : String) (op : Timespec → Store.Update FileHandle) : Form do
        let handle ← traced .files label (request op)
        return .descriptor (← installFile handle)
  | openingDir (label : String) (op : Timespec → Store.Update DirHandle) : Form do
        let handle ← traced .directories label (request op)
        return .descriptor (← installDir handle)
  | closingFile (label : String) (fd : Nat) : Form do
        traced .files label (closeFile fd)
        return .none
  | closingDir (label : String) (fd : Nat) : Form do
        traced .directories label (Action.closeDir fd)
        return .none
  /-- An open file is moved to an offset, and then once more by what is done there. -/
  | moving {α : Type} (label : String) (fd offset : Nat)
      (op : FileHandle → Timespec → Store.Update α) (moved : α → FileHandle) (out : α → Output) :
      Form do
        let handle ← fileAt fd
        traced .files label do
          let handle ← request fun _ => Store.seek handle offset
          putFile fd handle
          let a ← request (op handle)
          putFile fd (moved a)
          return out a
  | listing {α : Type} (label : String) (fd : Nat) (op : DirHandle → Timespec → Store.Update α)
      (moved : α → DirHandle) (out : α → Output) : Form do
        let handle ← dirAt fd
        traced .directories label do
          let a ← request (op handle)
          putDir fd (moved a)
          return out a

theorem form_silently (source : LogSource) (label : String) (op : Timespec → Store.Update Unit) :
    Form (silently source label op) := .asking source label op fun _ => .none

theorem form_perform {r : Request} (h : ∀ command, r ≠ shell command) : Form r.perform := by
  cases r with
  | create => exact .openingFile _ _
  | openFile => exact .openingFile _ _
  | close => exact .closingFile _ _
  | read fd offset count =>
    exact .moving _ fd offset (fun handle _ => Store.read handle count) (·.2) (.data ·.1)
  | write fd offset count text =>
    exact .moving _ fd offset (fun handle now => Store.write now handle _) id fun _ => .count count
  | sync fd => exact .askingFile fd _ (fun handle _ => Store.sync handle) fun _ _ => rfl
  | truncateOpen fd size =>
    exact .askingFile fd _ (fun handle now => Store.truncateOpen now handle size) fun _ _ => rfl
  | openDir => exact .openingDir _ _
  | readDir fd count =>
    exact .listing _ fd (fun handle _ => Store.readDir handle count) (·.2)
      fun a => .listing a.1.length (a.1.map DirEntry.line)
  | closeDir => exact .closingDir _ _
  | stat => exact .asking _ _ _ fun attributes : Attributes => .text attributes.line
  | getXattr path name => exact .fetching _ _ .value
  | listXattr => exact .fetching _ _ fun names => .listing names.size (splitNames names)
  | shell command => exact absurd rfl (h command)
  | mkdir | rmdir | access | chmod | chown | truncate | unlink | rename | utime | setXattr
  | removeXattr => exact form_silently _ _ _

/-- **Every request has one of the forms**, unless it runs a shell command. -/
theorem perform_cases (r : Request) : (∃ command, r = shell command) ∨ Form r.perform := by
  by_cases h : ∃ command, r = shell command
  · exact .inl h
  · exact .inr (form_perform (not_exists.mp h))

end FileScript.Request
