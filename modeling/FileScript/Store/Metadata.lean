import FileScript.Store.Basic

/-!
# Requests on metadata

Attributes, permissions, owners and times, all by path.
-/

namespace FileScript.Store

/-- How many entries of a directory are directories. -/
def subdirectoryCount (s : Store) (key : String) : Nat :=
  (s.children key).countP fun (_, ino) => (s.inodes[ino]?.map Inode.kind) = some .directory

/-- The attributes of the inode `ino`, which has the normal path `key`. A directory is linked from
above, from itself and from each directory in it; a file is linked once, if at all. -/
def attributes (s : Store) (key : String) (ino : Nat) : Except Errno Attributes := do
  let inode ← s.inode ino
  let (size, links) := match inode.node with
    | .file content => (content.size, if inode.linked then 1 else 0)
    | .directory => (Inode.blockSize, 2 + s.subdirectoryCount key)
  return {
    inode := ino
    mode := inode.kind.typeBits ||| inode.mode
    links, uid := inode.uid, gid := inode.gid
    size, blockSize := Inode.blockSize, blocks := (size + 511) / 512
    accessed := inode.accessed, modified := inode.modified, changed := inode.changed }

/-- The attributes of what is at `path`. -/
def stat (path : String) : Update Attributes := do
  let (key, ino) ← ask (·.resolve path)
  ask (·.attributes key ino)

/-- Succeeds if the `wanted` permissions are granted at `path`. -/
def access (path : String) (wanted : UInt32) : Update Unit := do
  let (_, ino) ← ask (·.resolve path)
  let inode ← ask (·.inode ino)
  unless (← get).permits inode wanted do throw .permissionDenied

/-- Changes the inode at `path` and notes the time of the change. -/
def changeInode (now : Timespec) (path : String) (f : Inode → Inode) : Update Unit := do
  let (_, ino) ← ask (·.resolve path)
  let inode ← ask (·.inode ino)
  modify (·.setInode ino { f inode with changed := now })

/-- Sets the permissions at `path`. -/
def chmod (now : Timespec) (path : String) (mode : UInt32) : Update Unit :=
  changeInode now path ({ · with mode := mode &&& permissionMask })

/-- Sets the owner at `path`. -/
def chown (now : Timespec) (path : String) (uid : Nat) : Update Unit :=
  changeInode now path ({ · with uid })

/-- Sets the times of the last access and the last modification at `path`. -/
def utime (now : Timespec) (path : String) (accessed modified : Timespec) : Update Unit :=
  changeInode now path ({ · with accessed, modified })

end FileScript.Store
