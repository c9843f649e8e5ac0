import FileScript.Store.Basic

/-!
# Requests on files

Opening and closing files, and reading, writing and resizing them through a handle or by path. A
request that moves a handle returns the moved handle.
-/

namespace FileScript.Store

/-- Makes a new file or directory at a normal path and returns its inode number. -/
def insertNode (now : Timespec) (key : String) (node : Node) (mode : UInt32) : Update Nat := do
  if (← get).names.contains key then throw .alreadyExists
  ask (·.checkParent key)
  modifyGet fun s => (s.nextInode, s.link now key node mode)

/-- Resizes the inode of a number. -/
def resizeInode (now : Timespec) (ino : Nat) (size : Nat) : Update Unit := do
  let inode ← ask (·.inode ino)
  match inode.resize now size with
  | .ok resized => modify (·.setInode ino resized)
  | .error e => throw e

/-- The inode number that a normal path names, to be opened with these flags. If it names nothing,
the flags may ask for a new file. -/
def locate (now : Timespec) (key : String) (flags : OpenFlags) : Update Nat := do
  match (← get).names[key]? with
  | some ino => if flags.contains .createNew then throw .alreadyExists else return ino
  | none =>
    if flags.contains .create then insertNode now key (.file .empty) 0o644
    else throw ((← get).missing key)

/-- Opens the file at `path`. -/
def openFile (now : Timespec) (path : String) (flags : OpenFlags) : Update FileHandle := do
  unless flags.hasValidAccess do throw .invalidArgument
  let ino ← locate now (Path.normalize path) flags
  let inode ← ask (·.inode ino)
  if inode.kind = .directory then throw .isADirectory
  unless (← get).permits inode flags.needed do throw .permissionDenied
  if flags.contains .truncate && flags.writable then resizeInode now ino 0
  modifyGet (·.registerFile ino flags)

/-- Makes a new file at `path` and opens it for reading and writing. -/
def create (now : Timespec) (path : String) (mode : UInt32) : Update FileHandle := do
  let ino ← insertNode now (Path.normalize path) (.file .empty) mode
  modifyGet (·.registerFile ino .readWrite)

/-- Closes a file handle. -/
def close (handle : FileHandle) : Update Unit := do
  let ino ← ask (·.fileInode handle)
  modify fun s => { s with openFiles := s.openFiles.erase handle.id }.releaseIfOrphaned ino

/-- Puts the offset of a handle at `offset`. -/
def seek (handle : FileHandle) (offset : Nat) : Update FileHandle := do
  let _ ← ask (·.fileInode handle)
  return { handle with offset }

/-- Reads at most `count` bytes from the offset of a handle on, and moves it past them. -/
def read (handle : FileHandle) (count : Nat) : Update (ByteArray × FileHandle) := do
  let ino ← ask (·.fileInode handle)
  unless handle.flags.readable do throw .badDescriptor
  match (← ask (·.inode ino)).node with
  | .directory => throw .isADirectory
  | .file content =>
    let bytes := Content.slice content handle.offset count
    return (bytes, { handle with offset := handle.offset + bytes.size })

/-- Where a write through a handle begins in a content: at its end if the handle appends, else at
the offset. -/
def writeStart (handle : FileHandle) (content : ByteArray) : Nat :=
  if handle.flags.contains .append then content.size else handle.offset

/-- Writes bytes through a handle and moves it to the end of what was written. Writing nothing
changes nothing. -/
def write (now : Timespec) (handle : FileHandle) (data : ByteArray) : Update FileHandle := do
  let ino ← ask (·.fileInode handle)
  unless handle.flags.writable do throw .badDescriptor
  let inode ← ask (·.inode ino)
  match inode.node with
  | .directory => throw .isADirectory
  | .file content =>
    if data.size = 0 then return handle
    let start := writeStart handle content
    if start + data.size > Inode.maxFileSize then throw .fileTooLarge
    modify (·.setInode ino (inode.setContent now (Content.overwrite content start data)))
    return { handle with offset := start + data.size }

/-- Resizes the file at `path`. -/
def truncate (now : Timespec) (path : String) (size : Nat) : Update Unit := do
  let (_, ino) ← ask (·.resolve path)
  let inode ← ask (·.inode ino)
  if inode.kind = .directory then throw .isADirectory
  unless (← get).permits inode 0o2 do throw .permissionDenied
  resizeInode now ino size

/-- Resizes an open file. -/
def truncateOpen (now : Timespec) (handle : FileHandle) (size : Nat) : Update Unit := do
  let ino ← ask (·.fileInode handle)
  unless handle.flags.writable do throw .invalidArgument
  resizeInode now ino size

/-- Does what there is to do before an open file counts as saved: nothing, but only on an open
handle. -/
def sync (handle : FileHandle) : Update Unit := do
  let _ ← ask (·.fileInode handle)

end FileScript.Store
