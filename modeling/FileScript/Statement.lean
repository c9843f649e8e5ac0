import FileScript.Fault

/-!
# Statements

A line of a script is one statement: a command and its arguments, separated by runs of spaces and
tabs. There is no quoting. The last argument of some commands is the rest of the line as it stands,
blanks included; a grammar tells for which commands, and how many plain arguments stand before it.

A line is searched byte by byte. Where a word begins and ends is noted first, as stretches of the
bytes of the line, and the words are taken out of the line only then.
-/

namespace FileScript

/-- For a command whose last argument is the rest of the line, how many plain arguments precede
it. -/
abbrev Grammar := String → Option Nat

namespace Grammar

/-- The grammar in which every argument is plain. -/
def plain : Grammar := fun _ => none

end Grammar

/-- A stretch of the bytes of a text. -/
structure Stretch where
  start : Nat
  stop : Nat
  deriving DecidableEq, Repr, Inhabited

/-- What stands on a stretch of a text. -/
def Stretch.of (r : Stretch) (text : String) : String :=
  String.Pos.Raw.extract text ⟨r.start⟩ ⟨r.stop⟩

/-- A command with its arguments. -/
structure Statement where
  /-- The line as it was read, without its line end. -/
  line : String
  command : String
  args : List String
  deriving DecidableEq, Repr, Inhabited

/-- Where a command and its arguments stand on a line. -/
structure Layout where
  command : Stretch
  args : List Stretch
  deriving DecidableEq, Repr, Inhabited

/-- The statement that is laid out on a line. -/
def Layout.statement (l : Layout) (line : String) : Statement where
  line := line
  command := l.command.of line
  args := l.args.map (·.of line)

namespace Statement

/-- The characters that separate words. -/
def isSeparator (c : Char) : Bool := c == ' ' || c == '\t'

/-- The bytes that separate words. -/
def isSeparatorByte (b : UInt8) : Bool := b == ' '.toUInt8 || b == '\t'.toUInt8

/-- A line without its line end, which is `\n` or `\r\n`. -/
def trimLineEnd (line : String) : String :=
  match line.toList.reverse with
  | '\n' :: '\r' :: rest => String.ofList rest.reverse
  | '\n' :: rest => String.ofList rest.reverse
  | _ => line

/-! ## The search for words -/

/-- Where the first byte from `pos` on stands that does not separate words. -/
def skipSeparators (bytes : ByteArray) (pos : Nat) : Option Nat :=
  bytes.findIdx? (!isSeparatorByte ·) pos

/-- The first word from `pos` on. -/
def nextWord (bytes : ByteArray) (pos : Nat) : Option Stretch :=
  (skipSeparators bytes pos).map fun start =>
    { start, stop := (bytes.findIdx? isSeparatorByte start).getD bytes.size }

theorem of_findIdx?_eq_some {bytes : ByteArray} {p : UInt8 → Bool} {pos i : Nat}
    (h : bytes.findIdx? p pos = some i) : pos ≤ i ∧ ∃ hi : i < bytes.size, p bytes[i] = true := by
  unfold ByteArray.findIdx? at h
  fun_induction ByteArray.findIdx?.loop bytes p pos with
  | case1 pos hpos hp =>
    cases h
    exact ⟨Nat.le_refl _, hpos, hp⟩
  | case2 pos hpos hp ih => exact ⟨Nat.le_of_succ_le (ih h).1, (ih h).2⟩
  | case3 => cases h

/-- A word is not empty, and ends with the bytes if not before. -/
theorem lt_of_nextWord {bytes : ByteArray} {pos : Nat} {word : Stretch}
    (h : nextWord bytes pos = some word) : pos < word.stop ∧ word.stop ≤ bytes.size := by
  obtain ⟨start, hstart, rfl⟩ := Option.map_eq_some_iff.mp h
  obtain ⟨hle, hlt, hword⟩ := of_findIdx?_eq_some hstart
  dsimp only
  cases hstop : bytes.findIdx? isSeparatorByte start with
  | none => exact ⟨Nat.lt_of_le_of_lt hle hlt, Nat.le_refl _⟩
  | some stop =>
    obtain ⟨hle', hlt', hseparator⟩ := of_findIdx?_eq_some hstop
    have hne : start ≠ stop := by
      rintro rfl
      simp [hseparator] at hword
    exact ⟨Nat.lt_of_le_of_lt hle (Nat.lt_of_le_of_ne hle' hne), Nat.le_of_lt hlt'⟩

/-- The arguments from `pos` on, before which `taken` arguments were found already. -/
def arguments (bytes : ByteArray) (tailAt : Option Nat) (maxArgs pos taken : Nat) :
    Except Fault (List Stretch) :=
  if tailAt = some taken then
    .ok ((skipSeparators bytes pos).map fun start => { start, stop := bytes.size }).toList
  else match _h : nextWord bytes pos with
    | none => .ok []
    | some word =>
      if taken = maxArgs then .error (.invalidStatement s!"more than {maxArgs} arguments")
      else do
        let more ← arguments bytes tailAt maxArgs word.stop (taken + 1)
        return word :: more
termination_by bytes.size - pos
decreasing_by
  have hword := lt_of_nextWord _h
  omega

/-- Where the statement on a line stands; nowhere if the line is blank. -/
def layout (grammar : Grammar) (maxArgs : Nat) (line : String) : Except Fault (Option Layout) :=
  match nextWord line.toUTF8 0 with
  | none => return none
  | some command => do
    let args ← arguments line.toUTF8 (grammar (command.of line)) maxArgs command.stop 0
    return some { command, args }

/-- The statement on a line; none if the line is blank. -/
def parse (grammar : Grammar) (maxArgs : Nat) (line : String) :
    Except Fault (Option Statement) := do
  let line := trimLineEnd line
  return (← layout grammar maxArgs line).map (·.statement line)

end Statement

end FileScript
