import FileScript.Store.Files

/-!
# Requests on directories

Making, removing and listing directories. A listing goes through a handle, batch by batch, and
stays with the directory on which the handle was opened: it follows the directory when that is
renamed, and is empty once the directory is gone.
-/

namespace FileScript.Store

/-- Makes a directory at `path`. -/
def mkdir (now : Timespec) (path : String) (mode : UInt32) : Update Unit := do
  let _ ← insertNode now (Path.normalize path) .directory mode

/-- Removes the empty directory at `path`. -/
def rmdir (now : Timespec) (path : String) : Update Unit := do
  let (key, ino) ← ask (·.resolve path)
  if key = Path.root then throw .busy
  if (← ask (·.inode ino)).kind ≠ .directory then throw .notADirectory
  unless ((← get).children key).isEmpty do throw .notEmpty
  unlinkName now key

/-- Opens the directory at `path` for listing. -/
def openDir (path : String) : Update DirHandle := do
  let (key, ino) ← ask (·.resolve path)
  let inode ← ask (·.inode ino)
  if inode.kind ≠ .directory then throw .notADirectory
  unless (← get).permits inode 0o4 do throw .permissionDenied
  modifyGet (·.registerDir ino key)

/-- Closes a directory handle. -/
def closeDir (handle : DirHandle) : Update Unit := do
  match (← get).openDirs[handle.id]? with
  | none => throw .badDescriptor
  | some dir =>
    modify fun s => { s with openDirs := s.openDirs.erase handle.id }.releaseIfOrphaned dir.inode

/-- The entry of a listing for a name with its inode number. -/
def entry (s : Store) : String × Nat → Except Errno DirEntry
  | (name, ino) => return { kind := (← s.inode ino).kind, inode := ino, name }

/-- Lists the next entries through a handle, at most `count` of them, and moves it past them. -/
def readDir (handle : DirHandle) (count : Nat) : Update (List DirEntry × DirHandle) := do
  let s ← get
  match s.openDirs[handle.id]? with
  | none => throw .badDescriptor
  | some dir =>
    if s.names[dir.path]? ≠ some dir.inode then return ([], handle)
    let entries ← ask fun s =>
      (((s.children dir.path).drop handle.cursor).take count).mapM s.entry
    return (entries, { handle with cursor := handle.cursor + entries.length })

end FileScript.Store
