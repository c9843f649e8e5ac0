import FileScript.Shell.Pattern
import FileScript.Shell.Programs.Basic

/-!
# Changing characters

Characters of a text are replaced, deleted, or reduced to one where they are repeated. The
characters that are meant are listed by sets, which name single characters, ranges and classes of
them.
-/

namespace FileScript.Shell

namespace Programs

open Effect

/-- A character of a set as it is written. Behind a backslash it has no special meaning. -/
structure SetChar where
  char : Char
  escaped : Bool := false
  deriving DecidableEq, Repr, Inhabited

namespace SetChar

/-- Whether a character is written as a sign. -/
def is (s : SetChar) (c : Char) : Bool := !s.escaped && s.char = c

/-- The letters that stand for other characters behind a backslash. -/
def letters : List (Char × Char) :=
  [('a', '\x07'), ('b', '\x08'), ('f', '\x0c'), ('n', '\n'), ('r', '\r'), ('t', '\t'),
    ('v', '\x0b')]

/-- The number that octal digits denote. -/
def octal (digits : List Char) : Nat := digits.foldl (fun n d => 8 * n + (d.toNat - 48)) 0

/-- What is said of digits that denote no byte. -/
def ambiguous (digits : List Char) : String :=
  let text := String.ofList digits
  "warning: the ambiguous octal escape \\" ++ text ++ " is being\n\tinterpreted as the 2-byte " ++
    "sequence \\0" ++ (text.take 2).toString ++ ", " ++ (text.drop 2).toString

/-- The characters of a set, and what is said about the way in which it is written. -/
def ofText : Nat → List Char → List SetChar × List String
  | 0, _ | _, [] => ([], [])
  | _, ['\\'] =>
    ([⟨'\\', false⟩], ["warning: an unescaped backslash at end of string is not portable"])
  | fuel + 1, '\\' :: c :: rest =>
    let digits := ((c :: rest).takeWhile fun d => '0' ≤ d && d ≤ '7').take 3
    if digits = [] then
      let (found, warnings) := ofText fuel rest
      (⟨(letters.lookup c).getD c, true⟩ :: found, warnings)
    else
      let tooLarge := octal digits > 255
      let used := if tooLarge then digits.take 2 else digits
      let (found, warnings) := ofText fuel ((c :: rest).drop used.length)
      (⟨Char.ofNat (octal used), true⟩ :: found,
        (if tooLarge then [ambiguous digits] else []) ++ warnings)
  | fuel + 1, c :: rest =>
    let (found, warnings) := ofText fuel rest
    (⟨c, false⟩ :: found, warnings)

end SetChar

/-- What a set names. -/
inductive SetElement where
  | char (c : Char)
  | range (low high : Char)
  | kind (name : String)
  | equivalents (c : Char)
  /-- A character so many times, or as often as it takes to fill the set. -/
  | repeated (c : Char) (count : Option Nat)
  deriving DecidableEq, Repr, Inhabited

namespace SetElement

/-- The characters that an element names, where `missing` are needed to fill the set. -/
def chars (missing : Nat) : SetElement → List Char
  | char c | equivalents c => [c]
  | range low high =>
    (List.range (high.toNat + 1 - low.toNat)).map fun i => Char.ofNat (low.toNat + i)
  | kind name => ((List.range 256).map Char.ofNat).filter (Pattern.inClass name)
  | repeated c count => List.replicate (count.getD missing) c

/-- Whether an element fills the set. -/
def fills : SetElement → Bool
  | repeated _ none => true
  | _ => false

/-- Whether an element is a class of characters. -/
def isKind : SetElement → Bool
  | kind _ => true
  | _ => false

/-- Whether an element is the class of the capital letters, or that of the small ones. -/
def upper? : SetElement → Option Bool
  | kind "upper" => some true
  | kind "lower" => some false
  | _ => none

end SetElement

/-- A character in a message about a set. -/
def shownChar (c : Char) : String :=
  match c with
  | '\\' => "\\\\"
  | '\x07' => "\\a"
  | '\x08' => "\\b"
  | '\x0c' => "\\f"
  | '\n' => "\\n"
  | '\r' => "\\r"
  | '\t' => "\\t"
  | '\x0b' => "\\v"
  | _ => if ' ' ≤ c ∧ c ≤ '~' then c.toString else "\\" ++ Octets.padded 3 c.toNat 8

/-- Characters in a message about a set. -/
def shownChars (chars : List SetChar) : String := String.join (chars.map fun s => shownChar s.char)

/-- What stands before a mark and a bracket, and what follows them. -/
def untilMark (mark : Char) : List SetChar → Option (List SetChar × List SetChar)
  | a :: b :: rest =>
    if a.is mark && b.is ']' then some ([], rest)
    else (untilMark mark (b :: rest)).map fun (inner, after) => (a :: inner, after)
  | _ => none

/-- Whether digits and a bracket follow a star. -/
def isRepetition (chars : List SetChar) : Bool :=
  match chars with
  | star :: rest =>
    star.is '*' &&
      ((rest.dropWhile fun s => !s.escaped && s.char.isDigit).head?.any fun s => s.is ']')
  | [] => false

/-- A class or an equivalence between brackets; the rest follows it. There is none if the brackets
mean something else. -/
def namedElement? (chars : List SetChar) :
    Except String (Option (SetElement × List SetChar)) := do
  let mark := if (chars.head?.any fun s => s.is ':') then ':' else '='
  match untilMark mark chars.tail with
  | none => return none
  | some (name, after) =>
    if name = [] then
      throw (if mark = ':' then "missing character class name '[::]'"
        else "missing equivalence class character '[==]'")
    let text := String.ofList (name.map (·.char))
    let mayRepeat := isRepetition chars.tail
    if mark = ':' then
      if text ∈ Pattern.classNames then return some (.kind text, after)
      if mayRepeat then return none
      throw s!"invalid character class {Quoting.value (shownChars name)}"
    else match name with
      | [s] => return some (.equivalents s.char, after)
      | _ =>
        if mayRepeat then return none
        throw s!"{shownChars name}: equivalence class operand must be a single character"

/-- A repeated character between brackets. -/
def repeatedElement? (chars : List SetChar) :
    Except String (Option (SetElement × List SetChar)) := do
  match chars with
  | s :: star :: rest =>
    let inner := rest.takeWhile fun s => !s.escaped && s.char ≠ ']'
    match rest.drop inner.length with
    | close :: after =>
      if !star.is '*' || !close.is ']' then return none
      let digits := inner.map (·.char)
      let base := if digits.head? = some '0' then 8 else 10
      let (n, others) := Integer.digits base digits
      if others ≠ [] then
        throw s!"invalid repeat count {Quoting.value (shownChars inner)} in [c*n] construct"
      return some (.repeated s.char (if n = 0 then none else some n), after)
    | [] => return none
  | _ => return none

/-- The elements of a set. -/
def elementsOf : Nat → List SetChar → Except String (List SetElement)
  | 0, _ | _, [] => .ok []
  | fuel + 1, [a] => do return .char a.char :: (← elementsOf fuel [])
  | fuel + 1, [a, b] => do return .char a.char :: (← elementsOf fuel [b])
  | fuel + 1, a :: b :: c :: rest => do
    let named ←
      if a.is '[' && (b.is ':' || b.is '=') then namedElement? (b :: c :: rest) else .ok none
    let found ← match named with
      | some found => pure (some found)
      | none => if a.is '[' then repeatedElement? (b :: c :: rest) else .ok none
    match found with
    | some (element, after) => return element :: (← elementsOf fuel after)
    | none =>
      if b.is '-' then
        if c.char < a.char then
          let ends := shownChar a.char ++ "-" ++ shownChar c.char
          throw s!"range-endpoints of '{ends}' are in reverse collating sequence order"
        return .range a.char c.char :: (← elementsOf fuel rest)
      else return .char a.char :: (← elementsOf fuel (b :: c :: rest))

/-- The elements of a set as it is written, and what is said about the way in which it is. -/
def setOf (text : String) : Except String (List SetElement) × List String :=
  let (chars, warnings) := SetChar.ofText (text.length + 1) text.toList
  (elementsOf (chars.length + 1) chars, warnings)

/-! ## Replacements -/

/-- The characters of an element that have not been used, and whether it is a class of capital or
small letters. -/
abbrev Supply := Option Bool × List Char

/-- Takes the next character from some supplies; tells the class and whether it is the first one. -/
def nextOf : List (Bool × Supply) → Option (Char × Option Bool × Bool × List (Bool × Supply))
  | [] => none
  | (_, _, []) :: rest => nextOf rest
  | (isNew, upper, c :: more) :: rest => some (c, upper, isNew, (false, upper, more) :: rest)

/-- What is left of supplies behind the present element. -/
def skipElement : List (Bool × Supply) → List (Bool × Supply)
  | (false, _) :: rest => rest
  | supplies => supplies

/-- The letters of one case with those of the other one. -/
def casePairs (toUpper : Bool) : List (Char × Char) :=
  let letters := (List.range 26).map fun i => (Char.ofNat (97 + i), Char.ofNat (65 + i))
  if toUpper then letters else letters.map Prod.swap

/-- The pairs of characters and their replacements, as far as both sets go, and the characters of
the first set for which the second one has none. Classes of letters have to stand side by side. -/
def paired : Nat → List (Bool × Supply) → List (Bool × Supply) →
    Except String (List (Char × Char) × List Char)
  | 0, _, _ => .ok ([], [])
  | fuel + 1, first, second => do
    match nextOf first, nextOf second with
    | some (a, upperA, newA, first), some (b, upperB, newB, second) =>
      if newB && upperB.isSome && !(newA && upperA.isSome) then
        throw "misaligned [:upper:] and/or [:lower:] construct"
      let own := match upperA, upperB with
        | some false, some true => casePairs true
        | some true, some false => casePairs false
        | _, _ => [(a, b)]
      let (first, second) :=
        if upperB.isSome then (skipElement first, skipElement second) else (first, second)
      let (others, left) ← paired fuel first second
      return (own ++ others, left)
    | some _, none => return ([], first.flatMap (·.2.2))
    | none, _ => return ([], [])

/-- How `tr` is called. -/
structure Translation where
  complements : Bool := false
  deletes : Bool := false
  squeezes : Bool := false
  truncates : Bool := false
  deriving DecidableEq, Repr, Inhabited

/-- All bytes. -/
def allBytes : List Char := (List.range 256).map Char.ofNat

/-- The characters of a first set, or all others. -/
def firstChars (t : Translation) (set : List SetElement) : List Char :=
  let chars := set.flatMap (SetElement.chars 0)
  if t.complements then allBytes.filter fun c => !chars.contains c else chars

/-- The characters of elements, and which of them are classes of letters. -/
def supplies (missing : Nat) (set : List SetElement) : List (Bool × Supply) :=
  set.map fun e => (true, e.upper?, e.chars missing)

/-- How often a character is needed to fill a second set. -/
def missingIn (t : Translation) (first second : List SetElement) : Nat :=
  (firstChars t first).length - (second.flatMap (SetElement.chars 0)).length

/-- The replacements of characters by two sets. -/
def replacements (t : Translation) (first second : List SetElement) :
    Except String (List (Char × Char)) := do
  if second.any fun | .equivalents _ => true | _ => false then
    throw "[=c=] expressions may not appear in string2 when translating"
  if second.any fun e => e.isKind && e.upper?.isNone then
    throw ("when translating, the only character classes that may appear in\n" ++
      "string2 are 'upper' and 'lower'")
  let missing := missingIn t first second
  let plain (set : List SetElement) : List (Bool × Supply) :=
    (supplies missing set).map fun (isNew, _, chars) => (isNew, none, chars)
  let start := if t.complements then [(true, none, firstChars t first)] else supplies 0 first
  let other := if t.complements then plain second else supplies missing second
  let (pairs, left) ← paired 70000 start other
  let chars := second.flatMap (SetElement.chars missing)
  let left := if t.truncates then [] else left
  if left ≠ [] then
    if chars = [] then throw "when not truncating set1, string2 must be non-empty"
    if second.getLast?.any (·.isKind) then
      throw ("when translating with string1 longer than string2,\n" ++
        "the latter string must not end with a character class")
  if t.complements && first.any (·.isKind) && (chars.any fun c => c ≠ chars.headD c) then
    throw ("when translating with complemented character classes,\n" ++
      "string2 must map all characters in the domain to one")
  return pairs ++ left.map fun c => (c, chars.getLastD c)

/-- What is wrong with two sets as far as characters are repeated in them. -/
def repetitionFault? (translates : Bool) (first second : List SetElement) : Option String :=
  if first.any (·.fills) then some "the [c*] repeat construct may not appear in string1"
  else if (second.filter (·.fills)).length > 1 then
    some "only one [c*] repeat construct may appear in string2"
  else if !translates && second.any (·.fills) then
    some "the [c*] construct may appear in string2 only when translating"
  else none

/-! ## Texts -/

/-- A text in which repetitions of some characters are reduced to one. -/
def squeezed (p : Char → Bool) (text : List Char) : List Char :=
  (text.splitBy (· = ·)).flatMap fun run => if run.any p then run.take 1 else run

/-- A text in which characters are replaced. Of two replacements for a character, the later one
counts. -/
def replaced (pairs : List (Char × Char)) (text : List Char) : List Char :=
  let table := pairs.foldl (fun table (a, b) => table.setIfInBounds a.toNat b) allBytes.toArray
  text.map fun c => table[c.toNat]?.getD c

/-- What becomes of a text. -/
def Translation.result (t : Translation) (sets : List (List SetElement)) (text : List Char) :
    Except String (List Char) := do
  let first := sets.headD []
  let second := sets.tail.headD []
  let translates := sets.length = 2 && !t.deletes
  if let some fault := repetitionFault? translates first second then throw fault
  let chars := firstChars t first
  let others := second.flatMap (SetElement.chars (missingIn t first second))
  if t.deletes then
    let kept := text.filter fun c => !chars.contains c
    return if t.squeezes then squeezed others.contains kept else kept
  if !translates then return squeezed chars.contains text
  let changed := replaced (← replacements t first second) text
  return if t.squeezes then squeezed others.contains changed else changed

/-- What is wrong with the number of sets that `tr` is called with. -/
def setMistake? (t : Translation) (sets : List String) : Option (List String) :=
  let most := if t.deletes && !t.squeezes then 1 else 2
  let least := if t.deletes = t.squeezes then 2 else 1
  match sets.getLast?, sets[most]? with
  | none, _ => some ["missing operand"]
  | some last, none =>
    if sets.length < least then
      let doing := if t.deletes then "both deleting and squeezing repeats" else "translating"
      some [s!"missing operand after {Quoting.value last}",
        s!"Two strings must be given when {doing}."]
    else none
  | some _, some extra =>
    some (s!"extra operand {Quoting.value extra}" ::
      if most = 1 ∧ sets.length = 2 then
        ["Only one string may be given when deleting without squeezing repeats."]
      else [])

/-- Reads sets; what is said about them is told. -/
def readSets : List String → Effect (Option (List (List SetElement)))
  | [] => return some []
  | text :: rest => do
    let (found, warnings) := setOf text
    warnings.forM tell
    match found with
    | .error fault =>
      tell fault
      return none
    | .ok set => return (← readSets rest).map (set :: ·)

/-- The options of `tr`. -/
def trOptions : List Known :=
  [flag 'c' "complement", { flag 'C' with key := "complement" }, flag 'd' "delete",
    flag 's' "squeeze-repeats", flag 't' "truncate-set1"]

/-- Replaces, deletes or squeezes characters of the standard input. -/
def tr (words : List String) : Effect Nat :=
  let act (call : Call) : Effect Nat := do
    let t : Translation :=
      { complements := call.has "complement", deletes := call.has "delete"
        squeezes := call.has "squeeze-repeats", truncates := call.has "truncate-set1" }
    if let some texts := setMistake? t call.operands then
      return ← misused ("\n".intercalate texts)
    let some sets ← readSets call.operands | return 1
    if let .error fault := t.result sets [] then return ← refuse fault
    match ← readAll 0 with
    | .error reason => refuse s!"read error: {reason}"
    | .ok text =>
      match t.result sets text.toList with
      | .error fault => refuse fault
      | .ok chars =>
        print (String.ofList chars)
        return 0
  called trOptions words act 1 true

end Programs

end FileScript.Shell
