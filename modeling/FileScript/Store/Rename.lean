import FileScript.Store.Directories

/-!
# Removing and renaming

Removing a file, and moving a file or directory with everything below it to another place.
-/

namespace FileScript.Store

/-- Removes the file at `path`. -/
def unlink (now : Timespec) (path : String) : Update Unit := do
  let (key, ino) ← ask (·.resolve path)
  if (← ask (·.inode ino)).kind = .directory then throw .isADirectory
  unlinkName now key

/-- Succeeds if the inode `source` may take the place `key` of the inode `target`: a directory takes
only that of an empty directory, and a file only that of a file. -/
def checkReplace (s : Store) (source target : Nat) (key : String) : Except Errno Unit := do
  match (← s.inode source).kind, (← s.inode target).kind with
  | .directory, .file => .error .notADirectory
  | .file, .directory => .error .isADirectory
  | .directory, .directory => if (s.children key).isEmpty then .ok () else .error .notEmpty
  | .file, .file => .ok ()

/-- Gives everything at and below the normal path `source` its name below `target`. Open directories
there are listed under their new paths from now on. -/
def moveTree (s : Store) (source target : String) : Store :=
  { s with
    names := s.names.move source target
    openDirs := s.openDirs.map fun _ dir =>
      if Path.isWithin source dir.path then
        { dir with path := Path.rebase source target dir.path }
      else dir }

/-- Makes the normal path `key` free for the inode `source`. -/
def vacate (now : Timespec) (source : Nat) (key : String) : Update Unit := do
  match (← get).names[key]? with
  | none => return
  | some target =>
    ask (·.checkReplace source target key)
    unlinkName now key

/-- Moves what is at `source` to `target`, in place of what is there. -/
def rename (now : Timespec) (source target : String) : Update Unit := do
  let (oldKey, ino) ← ask (·.resolve source)
  let newKey := Path.normalize target
  if oldKey = Path.root ∨ newKey = Path.root then throw .busy
  if oldKey = newKey then return
  if newKey.startsWith (oldKey ++ "/") then throw .invalidArgument
  ask (·.checkParent newKey)
  vacate now ino newKey
  modify fun s => ((s.moveTree oldKey newKey).touchParent now oldKey).touchParent now newKey
  let inode ← ask (·.inode ino)
  modify (·.setInode ino { inode with changed := now })

end FileScript.Store
