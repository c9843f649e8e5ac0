import FileScript.Folder

/-!
# The host

What the program finds around it: the folder in which it runs, the standard input and the variables
of its environment. Shell commands share all of this with the program and may change it.
-/

namespace FileScript

/-- The surroundings that the program shares with the shell commands that it runs. -/
structure Host where
  folder : Folder := .ofItems ["work"] []
  /-- What of the standard input has not been read yet. -/
  input : ByteArray := .empty
  environment : List (String × String) := []
  /-- How long shell commands have waited, in nanoseconds. -/
  clock : Nat := 0
  /-- What shell commands in the background print when the program goes on already. -/
  lateOutput : ByteArray := .empty
  lateErrors : ByteArray := .empty

/-- Where a text is read from, piece by piece. -/
inductive Source where
  | input
  /-- A file by where it is kept, and how far it has been read. -/
  | file (kept : Place) (position : Nat)
  | directory
  | nothing
  deriving DecidableEq, Repr, Inhabited

namespace Host

/-- The value of a variable of the environment. -/
def lookup? (h : Host) (name : String) : Option String := h.environment.lookup name

/-- The item to which a path leads from where the program runs. -/
def find (h : Host) (path : String) : Except FolderError FolderItem :=
  (h.folder.find h.folder.base path).map (·.2)

/-- Reads an item to its end. What is read from the standard input is gone from it. -/
def readAll (h : Host) : FolderItem → Except FolderError (ByteArray × Host)
  | .file bytes => .ok (bytes, h)
  | .directory => .error .isADirectory
  | .null | .endless | .executable | .link _ => .ok (.empty, h)
  | .input => .ok (h.input, { h with input := .empty })

/-- How many bytes are read at once, if there are as many. -/
def pieceSize : Nat := 8192

/-- Opens what a path leads to. A file is kept, even if it gets another name meanwhile or none. -/
def openSource (h : Host) (path : String) : Except FolderError (Source × Host) := do
  match ← h.folder.find h.folder.base path with
  | (place, .file _) =>
    let (folder, kept) := h.folder.keep place
    return (.file kept 0, { h with folder })
  | (_, .directory) => return (.directory, h)
  | (_, .input) => return (.input, h)
  | _ => return (.nothing, h)

/-- Reads the next piece of a source. It is empty at the end, for the time being. -/
def readPiece (h : Host) : Source → Except FolderError (ByteArray × Source × Host)
  | .input =>
    .ok (h.input.extract 0 pieceSize, .input,
      { h with input := h.input.extract pieceSize h.input.size })
  | .file kept position =>
    match h.folder.item? kept with
    | some (.file bytes) =>
      let piece := bytes.extract position (position + pieceSize)
      .ok (piece, .file kept (position + piece.size), h)
    | _ => .ok (.empty, .file kept position, h)
  | .directory => .error .isADirectory
  | .nothing => .ok (.empty, .nothing, h)

end Host

end FileScript
