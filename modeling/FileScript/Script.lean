import FileScript.Statement

/-!
# Scripts

A script is a sequence of bytes, read line by line. A line ends with its line feed; what follows
the last line feed is a line too, unless it is empty. Reading may break off, and then the line in
which it does so is lost.
-/

namespace FileScript

/-- The bytes of a script that have not been read yet. -/
structure Script where
  bytes : List UInt8
  /-- If reading breaks off after the bytes, the text of the fault. -/
  fault : Option String := none
  deriving DecidableEq, Repr, Inhabited

/-- What there is on a line, or instead of one. -/
inductive Reading where
  | statement (statement : Statement)
  | blank
  | endOfInput
  deriving DecidableEq, Repr, Inhabited

namespace Script

/-- The byte that ends a line. -/
def lineFeed : UInt8 := 10

/-- The first line, with its line feed, and the script after it. There is none at the end, and none
if reading breaks off first. -/
def next? (s : Script) : Option (List UInt8 × Script) :=
  match s.bytes.dropWhile (· != lineFeed) with
  | _ :: rest => some (s.bytes.takeWhile (· != lineFeed) ++ [lineFeed], { s with bytes := rest })
  | [] =>
    if s.bytes = [] ∨ s.fault.isSome then none else some (s.bytes, { s with bytes := [] })

theorem length_lt_of_next? {s rest : Script} {line : List UInt8} (h : s.next? = some (line, rest)) :
    rest.bytes.length < s.bytes.length := by
  unfold next? at h
  split at h
  · next c after hafter =>
    have hle : (s.bytes.dropWhile (· != lineFeed)).length ≤ s.bytes.length :=
      (List.dropWhile_sublist _).length_le
    rw [hafter, List.length_cons] at hle
    obtain ⟨-, rfl⟩ := Prod.mk.inj (Option.some.inj h)
    exact hle
  · split at h
    · cases h
    · next hrest =>
      obtain ⟨-, rfl⟩ := Prod.mk.inj (Option.some.inj h)
      exact List.length_pos_iff.mpr fun hnil => hrest (Or.inl hnil)

/-- The lines of a script, in order. -/
def lines (s : Script) : List (List UInt8) :=
  match _h : s.next? with
  | none => []
  | some (line, rest) => line :: rest.lines
termination_by s.bytes.length
decreasing_by exact length_lt_of_next? _h

/-- What there is on a line. -/
def readLine (grammar : Grammar) (maxArgs : Nat) (line : List UInt8) : Except Fault Reading :=
  match String.fromUTF8? line.toByteArray with
  | none => .error (.invalidStatement "line is not valid UTF-8")
  | some text => do
    match ← Statement.parse grammar maxArgs text with
    | none => return .blank
    | some statement => return .statement statement

/-- What there is on the next line, and the script after it. At the end of a script that breaks off,
this is a fault. -/
def read (grammar : Grammar) (maxArgs : Nat) (s : Script) : Except Fault Reading × Script :=
  match s.next?, s.fault with
  | some (line, rest), _ => (readLine grammar maxArgs line, rest)
  | none, some text => (.error (.transfer text), { s with bytes := [] })
  | none, none => (.ok .endOfInput, s)

end Script

end FileScript
