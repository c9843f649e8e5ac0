import FileScript.Store.Metadata
import FileScript.Store.Rename
import FileScript.Store.Xattrs

/-!
# Requests as data

The requests that a store answers, as values, so that a history of a store is a list of them. A
store is reachable if some history leads to it, whatever the handles, paths and flags in that
history were and however many of its requests were refused.
-/

namespace FileScript

/-- A request to a store. -/
inductive Operation where
  | openFile (path : String) (flags : OpenFlags)
  | create (path : String) (mode : UInt32)
  | close (handle : FileHandle)
  | seek (handle : FileHandle) (offset : Nat)
  | read (handle : FileHandle) (count : Nat)
  | write (handle : FileHandle) (data : ByteArray)
  | truncateOpen (handle : FileHandle) (size : Nat)
  | sync (handle : FileHandle)
  | openDir (path : String)
  | closeDir (handle : DirHandle)
  | readDir (handle : DirHandle) (count : Nat)
  | mkdir (path : String) (mode : UInt32)
  | rmdir (path : String)
  | stat (path : String)
  | access (path : String) (wanted : UInt32)
  | chmod (path : String) (mode : UInt32)
  | chown (path : String) (uid : Nat)
  | utime (path : String) (accessed modified : Timespec)
  | truncate (path : String) (size : Nat)
  | unlink (path : String)
  | rename (source target : String)
  | getXattr (path name : String) (buffer : ByteArray)
  | setXattr (path name : String) (value : ByteArray) (flags : XattrFlags)
  | removeXattr (path name : String)
  | listXattr (path : String) (buffer : ByteArray)

/-- What a store answers to a request that it does not refuse. -/
inductive Answer where
  | done
  /-- The handle that was opened or moved. -/
  | file (handle : FileHandle)
  /-- The bytes that were read, and the moved handle. -/
  | bytes (data : ByteArray) (handle : FileHandle)
  /-- The directory handle that was opened. -/
  | dir (handle : DirHandle)
  /-- The entries that were listed, and the moved handle. -/
  | entries (entries : List DirEntry) (handle : DirHandle)
  | attributes (attributes : Attributes)
  /-- The size of what was asked for, and the buffer. -/
  | filled (size : Nat) (buffer : ByteArray)

namespace Operation

/-- What a request does to a store at the time `now`. -/
def perform (now : Timespec) : Operation → Store.Update Answer
  | openFile path flags => .file <$> Store.openFile now path flags
  | create path mode => .file <$> Store.create now path mode
  | close handle => do Store.close handle; return .done
  | seek handle offset => .file <$> Store.seek handle offset
  | read handle count => do
    let (data, moved) ← Store.read handle count
    return .bytes data moved
  | write handle data => .file <$> Store.write now handle data
  | truncateOpen handle size => do Store.truncateOpen now handle size; return .done
  | sync handle => do Store.sync handle; return .done
  | openDir path => .dir <$> Store.openDir path
  | closeDir handle => do Store.closeDir handle; return .done
  | readDir handle count => do
    let (listed, moved) ← Store.readDir handle count
    return .entries listed moved
  | mkdir path mode => do Store.mkdir now path mode; return .done
  | rmdir path => do Store.rmdir now path; return .done
  | stat path => .attributes <$> Store.stat path
  | access path wanted => do Store.access path wanted; return .done
  | chmod path mode => do Store.chmod now path mode; return .done
  | chown path uid => do Store.chown now path uid; return .done
  | utime path accessed modified => do Store.utime now path accessed modified; return .done
  | truncate path size => do Store.truncate now path size; return .done
  | unlink path => do Store.unlink now path; return .done
  | rename source target => do Store.rename now source target; return .done
  | getXattr path name buffer => do
    let (size, filled) ← Store.getXattr path name buffer
    return .filled size filled
  | setXattr path name value flags => do
    Store.setXattr now path name value flags
    return .done
  | removeXattr path name => do Store.removeXattr now path name; return .done
  | listXattr path buffer => do
    let (size, filled) ← Store.listXattr path buffer
    return .filled size filled

end Operation

namespace Store

/-- The answer to a request made at the time `now`, and the store after it. -/
def request (s : Store) (now : Timespec) (op : Operation) : Except Errno Answer × Store :=
  match op.perform now s with
  | .ok answer s => (.ok answer, s)
  | .error e s => (.error e, s)

/-- The store after a history of requests, each made at a time of its own. -/
def after (s : Store) (history : List (Timespec × Operation)) : Store :=
  history.foldl (fun s (now, op) => (s.request now op).2) s

/-- A store to which some history leads from an empty one. -/
def Reachable (s : Store) : Prop :=
  ∃ now uid gid history, s = (Store.new now uid gid).after history

end Store

end FileScript
