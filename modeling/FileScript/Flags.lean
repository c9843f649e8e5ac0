/-!
# Flag words

The words of flags that requests carry. Bits without a meaning are kept and ignored, except where a
request says otherwise.
-/

namespace FileScript

/-- How a file is to be opened. The access mode is in the two lowest bits. -/
structure OpenFlags where
  bits : UInt64 := 0
  deriving DecidableEq, Repr, Inhabited

namespace OpenFlags

/-- Write, and do not read. -/
def writeOnly : OpenFlags := ⟨0o1⟩

/-- Read and write. -/
def readWrite : OpenFlags := ⟨0o2⟩

/-- Create the file if nothing has its name. -/
def create : OpenFlags := ⟨0o100⟩

/-- With `create`, refuse to open what exists. -/
def createNew : OpenFlags := ⟨0o300⟩

/-- Empty the file if it is opened for writing. -/
def truncate : OpenFlags := ⟨0o1000⟩

/-- Write at the end of the file, wherever the offset stands. -/
def append : OpenFlags := ⟨0o2000⟩

/-- Whether every bit of `g` is set in `f`. -/
def contains (f g : OpenFlags) : Bool := f.bits &&& g.bits == g.bits

/-- Whether the access mode allows reading. -/
def readable (f : OpenFlags) : Bool := !f.contains writeOnly

/-- Whether the access mode allows writing. -/
def writable (f : OpenFlags) : Bool := f.contains writeOnly || f.contains readWrite

/-- Write-only and read-write exclude each other. -/
def hasValidAccess (f : OpenFlags) : Bool := !(f.contains writeOnly && f.contains readWrite)

/-- The permission bits that opening with these flags needs. -/
def needed (f : OpenFlags) : UInt32 :=
  (if f.readable then 0o4 else 0) ||| (if f.writable then 0o2 else 0)

end OpenFlags

/-- How an extended attribute is to be set. -/
structure XattrFlags where
  bits : UInt64 := 0
  deriving DecidableEq, Repr, Inhabited

namespace XattrFlags

/-- Refuse to replace an attribute. -/
def create : XattrFlags := ⟨0x1⟩

/-- Refuse to add an attribute. -/
def replace : XattrFlags := ⟨0x2⟩

/-- Whether every bit of `g` is set in `f`. -/
def contains (f g : XattrFlags) : Bool := f.bits &&& g.bits == g.bits

/-- No bit without a meaning is set, and the two that have one are not set together. -/
def isValid (f : XattrFlags) : Bool :=
  f.bits == 0 || f.bits == create.bits || f.bits == replace.bits

end XattrFlags

end FileScript
