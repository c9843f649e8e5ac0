import FileScript.Store.Basic

/-!
# Requests on extended attributes

Values are read in two steps: an empty buffer asks for the size, and a buffer of that size takes the
bytes.
-/

namespace FileScript.Store

/-- Copies a source to the front of a buffer, and tells the size of the source. An empty buffer is
left alone; any other must have room for all of the source. -/
def copyOut (source buffer : ByteArray) : Except Errno (Nat × ByteArray) :=
  if buffer.size = 0 then .ok (source.size, buffer)
  else if buffer.size < source.size then .error .outOfRange
  else .ok (source.size, source ++ buffer.extract source.size buffer.size)

/-- The names of attributes one after the other, each closed by a zero byte. -/
def nameList (names : List String) : ByteArray :=
  names.foldl (fun bytes name => (bytes ++ name.toUTF8).push 0) .empty

/-- Reads the attribute `name` of what is at `path` into a buffer. -/
def getXattr (path name : String) (buffer : ByteArray) : Update (Nat × ByteArray) := do
  let (_, ino) ← ask (·.resolve path)
  match (← ask (·.inode ino)).xattrs[name]? with
  | none => throw .noData
  | some value => ask fun _ => copyOut value buffer

/-- Reads the names of the attributes of what is at `path` into a buffer, in ascending order. -/
def listXattr (path : String) (buffer : ByteArray) : Update (Nat × ByteArray) := do
  let (_, ino) ← ask (·.resolve path)
  let inode ← ask (·.inode ino)
  ask fun _ => copyOut (nameList inode.xattrs.keys) buffer

/-- Sets the attribute `name` of what is at `path`. -/
def setXattr (now : Timespec) (path name : String) (value : ByteArray) (flags : XattrFlags) :
    Update Unit := do
  if name = "" then throw .invalidArgument
  if name.utf8ByteSize > maxNameSize then throw .outOfRange
  unless flags.isValid do throw .invalidArgument
  let (_, ino) ← ask (·.resolve path)
  let inode ← ask (·.inode ino)
  let isSet := inode.xattrs.contains name
  if flags.contains .create && isSet then throw .alreadyExists
  if flags.contains .replace && !isSet then throw .noData
  modify (·.setInode ino { inode with xattrs := inode.xattrs.insert name value, changed := now })

/-- Removes the attribute `name` of what is at `path`. -/
def removeXattr (now : Timespec) (path name : String) : Update Unit := do
  let (_, ino) ← ask (·.resolve path)
  let inode ← ask (·.inode ino)
  unless inode.xattrs.contains name do throw .noData
  modify (·.setInode ino { inode with xattrs := inode.xattrs.erase name, changed := now })

end FileScript.Store
