import FileScript.Numeral

/-!
# Attributes

What is printed about an inode: its attributes on one line, and its entry in the listing of a
directory. Both lines determine what they were printed from.
-/

namespace FileScript

/-- A point in time, counted from the epoch. -/
structure Timespec where
  seconds : Nat := 0
  nanoseconds : Nat := 0
  deriving DecidableEq, Repr, Inhabited

namespace Timespec

/-- A time as it is printed. The second number is a plain count, not a decimal fraction. -/
def line (t : Timespec) : String := s!"{t.seconds}.{t.nanoseconds}"

end Timespec

/-- What an inode can be. -/
inductive EntryKind where
  | file
  | directory
  deriving DecidableEq, Repr, Inhabited

namespace EntryKind

/-- The number by which a listing shows a kind. -/
def code : EntryKind → Nat
  | file => 1
  | directory => 2

/-- The type bits of a kind in a mode word. -/
def typeBits : EntryKind → UInt32
  | file => 0o100000
  | directory => 0o040000

end EntryKind

/-- The bits of a mode word that hold the permissions. -/
def permissionMask : UInt32 := 0o7777

/-- The bits of a mode word that hold the type. -/
def typeMask : UInt32 := 0o170000

/-- The attributes of an inode. -/
structure Attributes where
  device : Nat := 0
  inode : Nat := 0
  /-- Type bits and permission bits. -/
  mode : UInt32 := 0
  links : Nat := 0
  uid : Nat := 0
  gid : Nat := 0
  deviceType : Nat := 0
  size : Nat := 0
  blockSize : Nat := 0
  blocks : Nat := 0
  accessed : Timespec := {}
  modified : Timespec := {}
  changed : Timespec := {}
  deriving DecidableEq, Repr, Inhabited

namespace Attributes

/-- The kind that the type bits tell. -/
def kind (a : Attributes) : EntryKind :=
  if a.mode &&& typeMask = EntryKind.directory.typeBits then .directory else .file

/-- The permission bits alone. -/
def permissions (a : Attributes) : UInt32 := a.mode &&& permissionMask

/-- Attributes as they are printed: the inode number in base sixteen, the mode in base eight, all
other numbers in base ten. -/
def line (a : Attributes) : String :=
  s!"st_dev={a.device}, st_ino={Numeral.hexUpper a.inode}, " ++
  s!"st_mode={Numeral.octal a.mode.toNat}, " ++
  s!"st_nlink={a.links}, st_uid={a.uid}, st_gid={a.gid}, st_rdev={a.deviceType}, " ++
  s!"st_size={a.size}, st_blksize={a.blockSize}, st_blocks={a.blocks}, " ++
  s!"st_atime={a.accessed.line}, st_mtime={a.modified.line}, st_ctime={a.changed.line}"

end Attributes

/-- An entry in the listing of a directory. -/
structure DirEntry where
  kind : EntryKind
  inode : Nat
  name : String
  deriving DecidableEq, Repr, Inhabited

namespace DirEntry

/-- An entry as it is printed. The name stands last and between quotes, so it may hold anything. -/
def line (e : DirEntry) : String :=
  s!"{e.kind.code} {Numeral.hexUpper e.inode} '{e.name}'"

end DirEntry

end FileScript
