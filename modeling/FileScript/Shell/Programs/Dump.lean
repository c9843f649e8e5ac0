import FileScript.Shell.Programs.Size

/-!
# Bytes as numbers

A program that shows the bytes of texts: as numbers of several sizes and bases, or as characters. A
line that shows the same bytes as the one before is left out.
-/

namespace FileScript.Shell

namespace Programs

open Effect

namespace Dump

/-- How a group of bytes is shown. -/
inductive Kind where
  /-- The name of each character. -/
  | names
  /-- Each character, or an escape sequence for it. -/
  | characters
  /-- A number, which may have a sign. -/
  | decimal (signed : Bool)
  | octal
  | hexadecimal
  deriving DecidableEq, Repr, Inhabited

/-- How lines of bytes are shown. -/
structure View where
  kind : Kind
  /-- The number of bytes in a group. -/
  size : Nat
  /-- Whether the printable characters stand behind the line. -/
  trailed : Bool := false
  deriving DecidableEq, Repr, Inhabited

/-- The names of characters that are not shown themselves. -/
def controlNames : List String :=
  ["nul", "soh", "stx", "etx", "eot", "enq", "ack", "bel", "bs", "ht", "nl", "vt", "ff", "cr",
    "so", "si", "dle", "dc1", "dc2", "dc3", "dc4", "nak", "syn", "etb", "can", "em", "sub", "esc",
    "fs", "gs", "rs", "us", "sp"]

/-- The name of a byte, whose highest bit does not count. -/
def nameOf (b : Nat) : String :=
  let code := b % 128
  if code = 127 then "del" else (controlNames[code]?).getD (Char.ofNat code).toString

/-- A byte as a character or an escape sequence. -/
def characterOf (b : Nat) : String :=
  match Char.ofNat b with
  | '\x00' => "\\0"
  | '\x07' => "\\a"
  | '\x08' => "\\b"
  | '\x0c' => "\\f"
  | '\n' => "\\n"
  | '\r' => "\\r"
  | '\t' => "\\t"
  | '\x0b' => "\\v"
  | c => if ' ' ≤ c ∧ c ≤ '~' then c.toString else Octets.padded 3 b 8

/-- The number that bytes make up. -/
def valueOf (bigFirst : Bool) (bytes : List Nat) : Nat :=
  (if bigFirst then bytes else bytes.reverse).foldl (fun n b => 256 * n + b) 0

namespace View

/-- The greatest number that a group can make up. -/
def most (v : View) : Nat := Nat.pow 256 v.size - 1

/-- How long a shown group can be. -/
def width (v : View) : Nat :=
  match v.kind with
  | .names | .characters => 3
  | .decimal true => (toString (Nat.pow 256 v.size / 2)).length + 1
  | .decimal false => (toString v.most).length
  | .octal => (Nat.toDigits 8 v.most).length
  | .hexadecimal => 2 * v.size

/-- A group as it is shown. -/
def shown (v : View) (bigFirst : Bool) (bytes : List Nat) : String :=
  let value := valueOf bigFirst bytes
  match v.kind with
  | .names => nameOf value
  | .characters => characterOf value
  | .decimal true => toString (Int.bmod value (v.most + 1))
  | .decimal false => toString value
  | .octal => Octets.padded v.width value 8
  | .hexadecimal => Octets.padded v.width value 16

/-- The numbers of spaces before the groups of a line, which are spread over the line. -/
def gaps (pad count : Nat) : List Nat :=
  (List.range count).map fun i =>
    let left := count - i
    pad * left / count - pad * (left - 1) / count

/-- The printable characters of a line, behind blanks for what is missing in it. -/
def trailer (v : View) (pad lineSize : Nat) (bytes : List Nat) : String :=
  let count := lineSize / v.size
  let missing := (lineSize - bytes.length) / v.size
  let blank := missing * (v.width + pad / count)
  let character (b : Nat) : Char := if 32 ≤ b ∧ b < 127 then Char.ofNat b else '.'
  "".pushn ' ' blank ++ "  >" ++ String.ofList (bytes.map character) ++ "<"

/-- A line as it is shown, without an address. `room` is how long a full line is. -/
def line (v : View) (bigFirst : Bool) (lineSize room : Nat) (bytes : List Nat) : String :=
  let count := lineSize / v.size
  let pad := room - v.width * count
  let used := (bytes.length + v.size - 1) / v.size
  let filled := bytes ++ List.replicate (used * v.size - bytes.length) 0
  let groups := (List.range used).map fun i => (filled.drop (i * v.size)).take v.size
  let fields := (groups.zip (gaps pad count)).map fun (group, gap) =>
    let text := v.shown bigFirst group
    "".pushn ' ' (gap + v.width - text.length) ++ text
  String.join fields ++ if v.trailed then v.trailer pad lineSize bytes else ""

end View

/-! ## Words -/

/-- How the bytes are shown. -/
structure Plan where
  views : List View
  /-- The base of addresses, and how long they are; none are shown without it. -/
  radix : Option (Nat × Nat) := some (8, 7)
  lineSize : Nat := 16
  /-- Whether lines are shown that are the same as the one before. -/
  repeats : Bool := false
  bigFirst : Bool := false
  skipped : Nat := 0
  limit : Option Nat := none
  deriving Inhabited

/-- The size of a group that letters or digits denote, and what follows. -/
def sizeOfGroup (word : String) (usual : Nat) (text : List Char) :
    Except String (Nat × List Char) :=
  match text with
  | 'C' :: rest => .ok (1, rest)
  | 'S' :: rest => .ok (2, rest)
  | 'I' :: rest => .ok (4, rest)
  | 'L' :: rest => .ok (8, rest)
  | _ =>
    let digits := text.takeWhile Char.isDigit
    let n := (Integer.digits 10 digits).1
    if digits = [] then .ok (usual, text)
    else if n ∈ [1, 2, 4, 8] then .ok (n, text.drop digits.length)
    else .error (s!"invalid type string {Quoting.value word};\n" ++
      s!"this system doesn't provide a {n}-byte integral type")

/-- The views that a word denotes. -/
def viewsOf (word : String) : Nat → List Char → Except String (List View)
  | 0, _ | _, [] => .ok []
  | fuel + 1, c :: rest => do
    let number (kind : Kind) : Except String (View × List Char) := do
      let (size, rest) ← sizeOfGroup word 4 rest
      return ({ kind, size }, rest)
    let (view, rest) ← match c with
      | 'a' => pure ({ kind := .names, size := 1 }, rest)
      | 'c' => pure ({ kind := .characters, size := 1 }, rest)
      | 'd' => number (.decimal true)
      | 'u' => number (.decimal false)
      | 'o' => number .octal
      | 'x' => number .hexadecimal
      | _ => throw (s!"invalid character '" ++ c.toString ++
          s!"' in type string {Quoting.value word}")
    let trailed := rest.head? = some 'z'
    let others ← viewsOf word fuel (if trailed then rest.tail else rest)
    return { view with trailed } :: others

/-- The options that stand for views. -/
def shorthands : List (String × View) :=
  [("a", ⟨.names, 1, false⟩), ("b", ⟨.octal, 1, false⟩), ("c", ⟨.characters, 1, false⟩),
    ("d", ⟨.decimal false, 2, false⟩), ("o", ⟨.octal, 2, false⟩), ("s", ⟨.decimal true, 2, false⟩),
    ("i", ⟨.decimal true, 4, false⟩), ("l", ⟨.decimal true, 8, false⟩),
    ("x", ⟨.hexadecimal, 2, false⟩), ("h", ⟨.hexadecimal, 2, false⟩)]

/-- The options. -/
def known : List Known :=
  [valued 'j' "skip-bytes", valued 'A' "address-radix", valued 'N' "read-bytes",
    valued 't' "format", flag 'v' "output-duplicates", flag 'w' "width" .ownValue,
    long "traditional", long "endian" .value] ++ flags "abcdoshilx"

/-- A number of bytes, which may be written in another base. -/
def bytesOf (what word : String) : Except String Nat :=
  let text := word.toList
  let (base, digits) := match text with
    | '0' :: 'x' :: rest | '0' :: 'X' :: rest => (16, rest)
    | '0' :: rest => (8, rest)
    | _ => (10, text)
  let isDigit (c : Char) : Bool := (Integer.digits base [c]).2.isEmpty
  let number := digits.takeWhile isDigit
  let n := (Integer.digits base number).1
  if word = "" ∨ number = [] ∧ base ≠ 8 then .error s!"invalid {what} argument '{word}'"
  else match unitOf? usualUnits (digits.drop number.length) with
    | some unit => .ok (n * unit)
    | none =>
      let problem := if digits.length = number.length then "invalid" else "invalid suffix in"
      if number = [] then .error s!"invalid {what} argument '{word}'"
      else .error s!"{problem} {what} argument '{word}'"

/-- The plan that options ask for. -/
def planOf (call : Call) : Except String Plan := do
  let views ← call.options.mapM fun (key, value) =>
    if key = "format" then viewsOf value (value.length + 1) value.toList
    else .ok ((shorthands.lookup key).toList)
  let radix ← match call.value? "address-radix" with
    | none => pure (some (8, 7))
    | some word =>
      match word.toList.headD ' ' with
      | 'd' => pure (some (10, 7))
      | 'o' => pure (some (8, 7))
      | 'x' => pure (some (16, 6))
      | 'n' => pure none
      | c => throw ("invalid output address radix '" ++ c.toString ++
          "'; it must be one character from [doxn]")
  let number (what key : String) : Except String (Option Nat) :=
    match call.value? key with
    | none => .ok none
    | some word => return some (← bytesOf what word)
  let skipped ← number "-j" "skip-bytes"
  let limit ← number "-N" "read-bytes"
  let lineSize ← match call.value? "width" with
    | none => pure 16
    | some "" => pure 32
    | some word => bytesOf "-w" word
  let endian ← match call.value? "endian" with
    | none => pure "little"
    | some word => chosen ["little", "big"] "--endian" word
  return {
    views := if views.flatten = [] then [⟨.octal, 2, false⟩] else views.flatten
    radix, lineSize, repeats := call.has "output-duplicates", bigFirst := endian = "big"
    skipped := skipped.getD 0, limit }

/-- The place at which a dump begins, as an operand says it. -/
def offsetOf? (word : String) : Option Nat :=
  let text := if word.startsWith "+" then word.toList.tail else word.toList
  let (text, unit) := match text.getLast? with
    | some 'b' => (text.dropLast, 512)
    | some 'B' => (text.dropLast, 1024)
    | _ => (text, 1)
  let (base, digits) := match text with
    | '0' :: 'x' :: rest | '0' :: 'X' :: rest => (16, rest)
    | _ => if text.getLast? = some '.' then (10, text.dropLast) else (8, text)
  let (n, rest) := Integer.digits base digits
  if digits = [] ∨ rest ≠ [] then none else some (n * unit)

/-! ## Output -/

/-- An address. -/
def addressOf (plan : Plan) (n : Nat) : String :=
  match plan.radix with
  | some (base, width) => Octets.padded width n base
  | none => ""

/-- The blocks of a text that make up lines. -/
def blocks (size : Nat) : Nat → List Nat → List (List Nat)
  | 0, _ | _, [] => []
  | fuel + 1, bytes => bytes.take size :: blocks size fuel (bytes.drop size)

/-- The lines of a dump. `before` is the last block; `isLeftOut` says whether a block has been left
out since. -/
def linesOf (plan : Plan) (room : Nat) : (address : Nat) → (before : Option (List Nat)) →
    (isLeftOut : Bool) → List (List Nat) → String
  | address, _, _, [] => if plan.radix.isSome then addressOf plan address ++ "\n" else ""
  | address, before, isLeftOut, block :: rest =>
    let next := address + block.length
    if !plan.repeats && before = some block && block.length = plan.lineSize then
      (if isLeftOut then "" else "*\n") ++ linesOf plan room next before true rest
    else
      let blank := "".pushn ' ' (addressOf plan address).length
      let shown := plan.views.zipIdx.map fun (view, i) =>
        (if i = 0 then addressOf plan address else blank) ++
          view.line plan.bigFirst plan.lineSize room block ++ "\n"
      String.join shown ++ linesOf plan room next (some block) false rest

/-- The dump of bytes that begin at an address. -/
def textOf (plan : Plan) (address : Nat) (bytes : List Nat) : String :=
  let rooms := plan.views.map fun view => (view.width + 1) * (plan.lineSize / view.size)
  linesOf plan (rooms.foldl max 0) address none false
    (blocks plan.lineSize (bytes.length + 1) bytes)

/-- Reads bytes from several texts, as many as are asked for. Yields them, whether all texts could
be read, and whether one could be opened. -/
def gather : (limit : Option Nat) → List String → Effect (String × Bool × Bool)
  | _, [] => return ("", true, false)
  | limit, path :: rest => do
    if limit = some 0 then return ("", true, true)
    match ← readFile path fun text _ => limit.getD text.length with
    | .ok text =>
      let taken := match limit with
        | some n => String.ofList (text.toList.take n)
        | none => text
      let (others, isWell, _) ← gather (limit.map (· - taken.length)) rest
      return (taken ++ others, isWell, true)
    | .error trouble =>
      tell s!"{Quoting.ifNeeded path}: {trouble.reason}"
      let (others, _, isOpen) ← gather limit rest
      return (others, false, isOpen || !trouble.isOpening)

/-- Shows the bytes of files as a plan says. -/
def act (plan : Plan) (inputs : List String) : Effect Nat := do
  let sizes := plan.views.map (·.size)
  let step := sizes.foldl max 1
  let plan ← if plan.lineSize ≠ 0 ∧ plan.lineSize % step = 0 then pure plan else do
    tell s!"warning: invalid width {plan.lineSize}; using {step} instead"
    pure { plan with lineSize := step }
  let (text, isWell, isOpen) ← gather (plan.limit.map (· + plan.skipped)) inputs
  if !isOpen then return 1
  if text.length < plan.skipped then
    return ← refuse "cannot skip past end of combined input"
  let bytes := (text.toList.drop plan.skipped).map Char.toNat
  print (textOf plan plan.skipped bytes)
  return if isWell then 0 else 1

end Dump

/-- Shows the bytes of texts. -/
def od (words : List String) : Effect Nat :=
  called Dump.known words fun call => do
    match Dump.planOf call with
    | .error text => refuse text
    | .ok plan =>
      let isModern := ["address-radix", "skip-bytes", "read-bytes", "format", "width",
        "output-duplicates"].any call.has
      let isOffset (word : String) (isSecond : Bool) : Bool :=
        call.has "traditional" || word.startsWith "+" ||
          (isSecond && word.toList.head?.any Char.isDigit)
      let offset : Option (Nat × List String) :=
        if isModern && !call.has "traditional" then none
        else match call.operands with
          | [word] => if isOffset word false then (Dump.offsetOf? word).map (·, []) else none
          | [path, word] =>
            if isOffset word true then (Dump.offsetOf? word).map (·, [path]) else none
          | _ => none
      match offset with
      | some (skipped, paths) =>
        Dump.act { plan with skipped } (if paths = [] then ["-"] else paths)
      | none => Dump.act plan call.inputs

end Programs

end FileScript.Shell
