import FileScript.Handle
import FileScript.Inode
import FileScript.Names

/-!
# Stores

A store is a tree of files and directories in memory: a table of names, a table of inodes, and the
handles that are open. Handles refer to inodes and not to names, so a file that was removed while
open can be read until its last handle is closed.

This module has the state, the questions that may be put to it, and the small changes of which the
requests are composed. A question that cannot be answered is refused with an `Errno`; a change is a
plain function on stores.
-/

namespace FileScript

/-- An open directory: its inode, and the path under which it is listed. -/
structure OpenDir where
  inode : Nat
  path : String
  deriving DecidableEq, Repr, Inhabited

/-- A tree of files and directories with its open handles. -/
structure Store where
  names : Names
  inodes : Std.TreeMap Nat Inode
  /-- The inode behind each open file handle. -/
  openFiles : Std.TreeMap Nat Nat := ∅
  /-- The directory behind each open directory handle. -/
  openDirs : Std.TreeMap Nat OpenDir := ∅
  /-- The number of the next inode. -/
  nextInode : Nat
  /-- The number of the next handle, of either sort. -/
  nextHandle : Nat := 1
  /-- The user on whose behalf requests are made, and who owns what they create. -/
  uid : Nat
  /-- The group on whose behalf requests are made. -/
  gid : Nat

namespace Store

/-- The inode number of the root directory. -/
def rootInode : Nat := 1

/-- The longest name of a file, directory or attribute, in bytes. -/
def maxNameSize : Nat := 255

/-- A store that holds an empty root directory. -/
def new (now : Timespec) (uid gid : Nat := 0) : Store where
  names := Std.TreeMap.empty.insert Path.root rootInode
  inodes := Std.TreeMap.empty.insert rootInode (Inode.new now .directory 0o755 uid gid)
  nextInode := rootInode + 1
  uid := uid
  gid := gid

/-- How many handles are open. -/
def openHandleCount (s : Store) : Nat := s.openFiles.size + s.openDirs.size

/-! ## Questions -/

/-- The inode of a number. -/
def inode (s : Store) (ino : Nat) : Except Errno Inode :=
  match s.inodes[ino]? with
  | some inode => .ok inode
  | none => .error .inputOutput

/-- Why a normal path that names nothing cannot be resolved: something above it is a file, or it is
simply not there. The nearest named ancestor decides. -/
def missing (s : Store) (key : String) : Errno :=
  match s.names.nearestAbove key with
  | some above =>
    if (s.inodes[above]?.map Inode.kind) = some .file then .notADirectory else .notFound
  | none => .notFound

/-- The normal form of a path and the inode number that it names. -/
def resolve (s : Store) (path : String) : Except Errno (String × Nat) :=
  let key := Path.normalize path
  match s.names[key]? with
  | some ino => .ok (key, ino)
  | none => .error (s.missing key)

/-- Succeeds if a new entry can be made at a normal path: its name is not too long and the place
above it is a directory. -/
def checkParent (s : Store) (key : String) : Except Errno Unit :=
  if (Path.baseName key).utf8ByteSize > maxNameSize then .error .nameTooLong
  else match s.names[Path.parent key]?.bind (s.inodes[·]?) with
    | some above => if above.kind = .directory then .ok () else .error .notADirectory
    | none => .error (s.missing key)

/-- The entries of a directory, given by its normal path, in the order of their names. -/
def children (s : Store) (key : String) : List (String × Nat) := s.names.children key

/-- Whether the store's user and group hold all of the `wanted` permissions on an inode. -/
def permits (s : Store) (inode : Inode) (wanted : UInt32) : Bool := inode.permits s.uid s.gid wanted

/-- The inode number behind an open file handle. -/
def fileInode (s : Store) (handle : FileHandle) : Except Errno Nat :=
  match s.openFiles[handle.id]? with
  | some ino => .ok ino
  | none => .error .badDescriptor

/-- Whether an open handle refers to an inode. -/
def isOpen (s : Store) (ino : Nat) : Bool :=
  s.openFiles.toList.any (·.2 == ino) || s.openDirs.toList.any (·.2.inode == ino)

/-! ## Changes -/

/-- Puts another inode under a number. -/
def setInode (s : Store) (ino : Nat) (inode : Inode) : Store :=
  { s with inodes := s.inodes.insert ino inode }

/-- Changes the inode of a number, if there is one. -/
def modifyInode (s : Store) (ino : Nat) (f : Inode → Inode) : Store :=
  { s with inodes := s.inodes.modify ino f }

/-- Notes a change of the entries of the directory above a normal path. -/
def touchParent (s : Store) (now : Timespec) (key : String) : Store :=
  match s.names[Path.parent key]? with
  | some above => s.modifyInode above (·.touch now)
  | none => s

/-- Drops an inode to which neither a name nor an open handle refers. -/
def releaseIfOrphaned (s : Store) (ino : Nat) : Store :=
  if (s.inodes[ino]?.any (·.linked)) || s.isOpen ino then s
  else { s with inodes := s.inodes.erase ino }

/-- Gives a new inode the name `key`. -/
def link (s : Store) (now : Timespec) (key : String) (node : Node) (mode : UInt32) : Store :=
  { s with
    names := s.names.insert key s.nextInode
    inodes := s.inodes.insert s.nextInode (Inode.new now node mode s.uid s.gid)
    nextInode := s.nextInode + 1 }.touchParent now key

/-- Notes that an inode has lost its name `key`, and drops the inode if nothing else holds it. -/
def dropLink (s : Store) (now : Timespec) (key : String) (ino : Nat) (inode : Inode) : Store :=
  ((s.setInode ino { inode with linked := false }).touchParent now key).releaseIfOrphaned ino

/-- Opens a file handle on the inode `ino`. -/
def registerFile (s : Store) (ino : Nat) (flags : OpenFlags) : FileHandle × Store :=
  ({ id := s.nextHandle, flags },
    { s with openFiles := s.openFiles.insert s.nextHandle ino, nextHandle := s.nextHandle + 1 })

/-- Opens a directory handle on the inode `ino`, which is listed under the path `key`. -/
def registerDir (s : Store) (ino : Nat) (key : String) : DirHandle × Store :=
  ({ id := s.nextHandle },
    { s with
      openDirs := s.openDirs.insert s.nextHandle { inode := ino, path := key }
      nextHandle := s.nextHandle + 1 })

/-! ## Requests -/

/-- A request that may change the store. When it is refused, the state in which it was refused is
kept. -/
abbrev Update := EStateM Errno Store

/-- Puts a question to the store. -/
def ask {α : Type} (question : Store → Except Errno α) : Update α := fun s =>
  match question s with
  | .ok a => .ok a s
  | .error e => .error e s

@[simp] theorem ask_bind {α β : Type} (question : Store → Except Errno α) (next : α → Update β)
    (s : Store) : (ask question >>= next) s = match question s with
      | .ok a => next a s
      | .error e => .error e s := by
  show EStateM.bind _ _ _ = _
  unfold EStateM.bind ask
  cases question s <;> rfl

/-- Takes the name `key` away. -/
def unlinkName (now : Timespec) (key : String) : Update Unit := do
  match (← get).names[key]? with
  | none => throw .notFound
  | some ino =>
    modify fun s => { s with names := s.names.erase key }
    let inode ← ask (·.inode ino)
    modify (·.dropLink now key ino inode)

end Store

end FileScript
