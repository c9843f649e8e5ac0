import FileScript.Shell.Expansion
import FileScript.Shell.Settings

/-!
# Commands that read words

The built-in commands that read a line of the standard input into variables, and options from
arguments.
-/

namespace FileScript.Shell

namespace Reading

open Effect

/-- A line that is being read, last glyph first. -/
structure Line where
  glyphs : List Glyph := []
  /-- How many bytes have been read. -/
  size : Nat := 0
  /-- Whether a line end has been found. -/
  ended : Bool := false

/-- Reads up to a line end. Backslashes make what follows them literal, and join lines. -/
def line (raw : Bool) (l : Line) : List Char → Line
  | [] => l
  | '\n' :: _ => { l with size := l.size + 1, ended := true }
  | '\x00' :: rest => line raw { l with size := l.size + 1 } rest
  | ['\\'] => if raw then { l with glyphs := .char '\\' false :: l.glyphs, size := l.size + 1 }
      else { l with size := l.size + 1 }
  | '\\' :: c :: rest =>
    if raw then
      line raw { l with glyphs := .char '\\' false :: l.glyphs, size := l.size + 1 } (c :: rest)
    else if c = '\n' then line raw { l with size := l.size + 2 } rest
    else line raw { l with glyphs := .char c true :: l.glyphs, size := l.size + 2 } rest
  | c :: rest => line raw { l with glyphs := .char c false :: l.glyphs, size := l.size + 1 } rest

/-- Reads a line into variables. The last one takes what is left over. -/
def read (words : List String) : Effect Nat := do
  let (found, names) ← options ['r'] words ['p']
  if names = [] then fail "arg count"
  let bytes := match ← unread 0 with
    | .ok bytes => bytes
    | .error _ => .empty
  let l := line (found.any (·.1 = 'r')) {} (Octets.ofBytes bytes).toList
  passBytes 0 l.size
  let fields := Splitting.lineFields (← Expansion.separators) names.length l.glyphs.reverse
  names.zipIdx.forM fun (name, i) => do
    assign (← checkedName name) (fields[i]?.getD "")
  return if l.ended then 0 else 1

/-! ## Options from arguments -/

/-- What an option is declared to be. -/
inductive Declared where
  | unknown
  | flag
  | valued
  deriving DecidableEq, Repr, Inhabited

/-- What a list of letters declares an option to be: those with a colon after them take a value. -/
def declared (letter : Char) : List Char → Declared
  | c :: ':' :: rest => if c = letter then .valued else declared letter rest
  | c :: rest => if c = letter then .flag else declared letter rest
  | [] => .unknown

/-- Reads the next option. The value of one that takes it is the rest of its word, or the next
word. -/
def nextOption (letters name : String) (words : List String) (position : Nat)
    (offset : Option Nat) : Effect Nat := do
  let quiet := letters.startsWith ":"
  let finish (found : Char) (position : Nat) (offset : Option Nat) (isDone : Bool) :
      Effect Nat := do
    assign "OPTIND" (toString position)
    assign (← checkedName name) found.toString
    modifySelf ({ · with optionOffset := offset })
    return if isDone then 1 else 0
  let current := (words[position - 2]?.getD "").toList
  let within : Option (List Char) := match offset with
    | some n => if position > 1 ∧ n < current.length then some (current.drop n) else none
    | none => none
  let word := (words[position - 1]?.getD "").toList
  let start : Option (List Char × Nat) := match within, word with
    | some rest, _ => some (rest, position)
    | none, '-' :: c :: rest => some (c :: rest, position + 1)
    | none, _ => none
  match start with
  | none => finish '?' position none true
  | some (['-'], next) =>
    if within.isNone then finish '?' next none true
    else option quiet finish '-' [] next
  | some (c :: rest, next) => option quiet finish c rest next
  | some ([], next) => finish '?' next none true
where
  /-- Takes the option with a letter. `rest` is the rest of its word, and the next word is the one
  at `next`. -/
  option (quiet : Bool) (finish : Char → Nat → Option Nat → Bool → Effect Nat) (c : Char)
      (rest : List Char) (next : Nat) : Effect Nat := do
    let length := (words[next - 2]?.getD "").length
    let offset := if rest = [] then none else some (length - rest.length)
    match declared c letters.toList with
    | .unknown =>
      if quiet then assign "OPTARG" c.toString
      else
        complain s!"Illegal option -{c}\n"
        Effect.unset "OPTARG"
      finish '?' next offset false
    | .flag =>
      assign "OPTARG" ""
      finish c next offset false
    | .valued =>
      match rest, words[next - 1]? with
      | [], none =>
        if quiet then
          assign "OPTARG" c.toString
          finish ':' next none false
        else
          complain s!"No arg for -{c} option\n"
          Effect.unset "OPTARG"
          finish '?' next none false
      | [], some value =>
        assign "OPTARG" value
        finish c (next + 1) none false
      | _, _ =>
        assign "OPTARG" (String.ofList rest)
        finish c next none false

/-- Reads the next option from words, or from the arguments of the shell. -/
def getopts (words : List String) : Effect Nat := do
  match words with
  | letters :: name :: rest =>
    let p ← self
    let words := if rest = [] then p.arguments else rest
    let (position, offset) :=
      if p.optionPosition > words.length + 1 then (1, none)
      else (max 1 p.optionPosition, p.optionOffset)
    nextOption letters name words position offset
  | _ => fail "Usage: getopts optstring var [arg...]"

end Reading

end FileScript.Shell
