import FileScript.Attributes
import FileScript.Content
import FileScript.Errno
import Std.Data.TreeMap

/-!
# Inodes

What a name leads to: a file with its content, or a directory, together with permissions, owner,
times and extended attributes. An inode does not know its names; it only knows whether it has one.
-/

namespace FileScript

/-- The file or directory itself. The entries of a directory are kept in the name table. -/
inductive Node where
  | file (content : ByteArray)
  | directory

namespace Node

/-- The kind of a node. -/
def kind : Node → EntryKind
  | file _ => .file
  | directory => .directory

end Node

/-- A file or directory with its metadata. -/
structure Inode where
  node : Node
  /-- Permission bits alone. -/
  mode : UInt32
  uid : Nat
  gid : Nat
  accessed : Timespec
  modified : Timespec
  changed : Timespec
  /-- The extended attributes by name. -/
  xattrs : Std.TreeMap String ByteArray := ∅
  /-- Whether a name leads here. -/
  linked : Bool := true

namespace Inode

/-- The size beyond which no file grows. -/
def maxFileSize : Nat := 64 * 1024 * 1024

/-- The size that is reported for a directory, and for a block. -/
def blockSize : Nat := 4096

/-- A new inode, which has a name and no attributes. -/
def new (now : Timespec) (node : Node) (mode : UInt32) (uid gid : Nat) : Inode :=
  { node, mode := mode &&& permissionMask, uid, gid
    accessed := now, modified := now, changed := now }

/-- The kind of an inode. -/
def kind (i : Inode) : EntryKind := i.node.kind

/-- The inode after a change of what it holds. -/
def touch (i : Inode) (now : Timespec) : Inode := { i with modified := now, changed := now }

/-- The inode of a file after its content was set. -/
def setContent (i : Inode) (now : Timespec) (content : ByteArray) : Inode :=
  { i with node := .file content }.touch now

/-- The inode of a file cut, or filled up with zeros, to `size` bytes. -/
def resize (i : Inode) (now : Timespec) (size : Nat) : Except Errno Inode :=
  if size > maxFileSize then .error .fileTooLarge
  else match i.node with
    | .file content => .ok (i.setContent now (Content.resize content size))
    | .directory => .error .isADirectory

/-- Whether a user and group hold all of the `wanted` read, write and execute bits. The owner's bits
decide for the owner, the group's bits for other members of the group, and the last three for
everybody else. -/
def permits (i : Inode) (uid gid : Nat) (wanted : UInt32) : Bool :=
  let shift : UInt32 := if i.uid = uid then 6 else if i.gid = gid then 3 else 0
  (i.mode >>> shift) &&& wanted == wanted

end Inode

end FileScript
