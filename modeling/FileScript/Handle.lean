import FileScript.Flags

/-!
# Handles

What a store gives out for an open file or directory. The number is the store's; the flags and the
position travel with the handle.
-/

namespace FileScript

/-- An open file. -/
structure FileHandle where
  id : Nat
  flags : OpenFlags := {}
  offset : Nat := 0
  deriving DecidableEq, Repr, Inhabited

/-- An open directory. -/
structure DirHandle where
  id : Nat
  /-- How many entries have been listed. -/
  cursor : Nat := 0
  deriving DecidableEq, Repr, Inhabited

end FileScript
