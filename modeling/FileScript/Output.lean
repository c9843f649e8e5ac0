import FileScript.Attributes

/-!
# Output of statements

What a statement that succeeds prints.
-/

namespace FileScript

/-- The result of a statement. -/
inductive Output where
  /-- Nothing is printed. -/
  | none
  /-- The descriptor of a handle that was opened. -/
  | descriptor (index : Nat)
  /-- A number of bytes. -/
  | count (n : Nat)
  /-- Bytes, after a line with their number. -/
  | data (bytes : ByteArray)
  /-- Bytes between a line with their number and a line end. -/
  | value (bytes : ByteArray)
  /-- A line with a number, then one line for each item. -/
  | listing (total : Nat) (lines : List String)
  /-- A line of text. -/
  | text (line : String)

namespace Output

/-- What is printed for an output. -/
def render : Output → ByteArray
  | none => .empty
  | descriptor n | count n => s!"{n}\n".toUTF8
  | data bytes => s!"{bytes.size}\n".toUTF8 ++ bytes
  | value bytes => (s!"{bytes.size}\n".toUTF8 ++ bytes).push '\n'.toUInt8
  | listing total lines => (s!"{total}\n" ++ String.join (lines.map (· ++ "\n"))).toUTF8
  | text line => (line ++ "\n").toUTF8

end Output

end FileScript
