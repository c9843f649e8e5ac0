import FileScript.Shell.Decimal
import FileScript.Shell.Programs.Size
import FileScript.Shell.Programs.Whole

/-!
# Lines in order

Lines are compared by keys, which are parts of them, and each key is compared in a way of its own:
as text, as a number, as the name of a month or as the number of a version. Equal lines that follow
each other can be counted or be left out.
-/

namespace FileScript.Shell

namespace Programs

open Effect

/-! ## Ways to compare -/

/-- How the texts of a key are compared. -/
inductive Manner where
  | text
  | numeric
  | general
  | human
  | month
  | version
  | random
  deriving DecidableEq, Repr, Inhabited

namespace Manner

/-- The manner that a letter asks for. -/
def ofLetter? : Char → Option Manner
  | 'n' => some numeric
  | 'g' => some general
  | 'h' => some human
  | 'M' => some month
  | 'V' => some version
  | 'R' => some random
  | _ => none

end Manner

/-- The decimal number at the beginning of a text, as a multiple of a power of ten, and what follows
it. It has no plus sign. -/
def decimalOf (text : List Char) : (Int × Nat) × List Char :=
  let text := text.dropWhile fun c => c = ' ' || c = '\t' || c = '\n'
  let (negative, digits) := match text with
    | '-' :: rest => (true, rest)
    | _ => (false, text)
  match Binary.digits? 10 digits with
  | some (n, places, rest) => ((if negative then -(n : Int) else n, places), rest)
  | none => ((0, 0), text)

/-- Compares two decimal numbers. -/
def compareDecimals (a b : Int × Nat) : Ordering :=
  compare (a.1 * (Nat.pow 10 b.2 : Nat)) (b.1 * (Nat.pow 10 a.2 : Nat))

/-- The value of a number that can be compared with others. -/
def orderKey (b : Binary) : Int × Nat :=
  if b.infinite then (if b.negative then -1 else 1, 0)
  else
    let (n, d) := b.fraction
    (if b.negative then -(n : Int) else n, d)

/-- Compares texts as numbers with exponents. Texts that denote none come first. -/
def compareGeneral (a b : List Char) : Ordering :=
  match Binary.scan? a, Binary.scan? b with
  | none, none => .eq
  | none, some _ => .lt
  | some _, none => .gt
  | some (a, _), some (b, _) =>
    if a.undefined ∨ b.undefined then compare b.undefined a.undefined
    else
      let (n, d) := orderKey a
      let (m, e) := orderKey b
      if d = 0 ∨ e = 0 then
        compare (if d = 0 then n else 0) (if e = 0 then m else 0)
      else compare (n * e) (m * d)

/-- The power that the letter behind a number stands for. -/
def humanUnit (text : List Char) : Nat :=
  match text with
  | c :: _ => if c = 'k' then 1 else (("KMGTPEZYRQ".toList.idxOf? c).map (· + 1)).getD 0
  | [] => 0

/-- Compares texts as numbers with units. A greater unit makes a greater number. -/
def compareHuman (a b : List Char) : Ordering :=
  let (m, afterM) := decimalOf a
  let (n, afterN) := decimalOf b
  let scale (x : Int × Nat) (rest : List Char) : Int :=
    if x.1 = 0 then 0 else if x.1 < 0 then -1 - (humanUnit rest : Int) else 1 + humanUnit rest
  (compare (scale m afterM) (scale n afterN)).then (compareDecimals m n)

/-- The number of the month that a text begins with; zero if there is none. -/
def monthOf (text : List Char) : Nat :=
  let name := ((text.dropWhile isBlank).take 3).map Char.toUpper
  let names := ["JAN", "FEB", "MAR", "APR", "MAY", "JUN", "JUL", "AUG", "SEP", "OCT", "NOV", "DEC"]
  ((names.idxOf? (String.ofList name)).map (· + 1)).getD 0

/-- The rank of a character in the name of a version: a tilde comes before the end, and letters come
before other signs. -/
def versionRank (c : Option Char) : Int :=
  match c with
  | none => -1
  | some c =>
    if c = '~' then -2 else if c.isDigit then 0 else if c.isAlpha then c.toNat else c.toNat + 256

/-- Compares names of versions, in which runs of digits are numbers. -/
def compareVersionParts : Nat → List Char → List Char → Ordering
  | 0, _, _ | _, [], [] => .eq
  | fuel + 1, a, b =>
    let startsNumber (s : List Char) : Bool := s.head?.any Char.isDigit
    if (a ≠ [] ∧ !startsNumber a) ∨ (b ≠ [] ∧ !startsNumber b) then
      let rank (s : List Char) : Int :=
        if startsNumber s then 0 else versionRank s.head?
      match compare (rank a) (rank b) with
      | .eq => compareVersionParts fuel a.tail b.tail
      | found => found
    else
      let (m, afterA) := Integer.digits 10 (a.takeWhile Char.isDigit)
      let (n, _) := Integer.digits 10 (b.takeWhile Char.isDigit)
      let restA := afterA ++ a.dropWhile Char.isDigit
      match compare m n with
      | .eq => compareVersionParts fuel restA (b.dropWhile Char.isDigit)
      | found => found

/-- The end of a name that counts last in comparisons: letters and digits behind points. -/
def versionSuffix (text : List Char) : List Char :=
  let parts := (String.ofList text).splitOn "."
  let isPart (part : String) : Bool :=
    (part.toList.head?.any fun c => c.isAlpha || c = '~') &&
      part.toList.all fun c => c.isAlphanum || c = '~'
  let suffix := (parts.tail.reverse.takeWhile isPart).reverse
  (String.join (suffix.map ("." ++ ·))).toList

/-- Compares names of versions. Endings such as those of file names count last. -/
def compareVersions (a b : List Char) : Ordering :=
  if a = b then .eq
  else
    let special (s : List Char) : Nat :=
      if s = [] then 0 else if s = ['.'] then 1 else if s = ['.', '.'] then 2
      else if s.head? = some '.' then 3 else 4
    if special a ≠ special b ∨ special a < 3 then compare (special a) (special b)
    else
      let fuel := a.length + b.length + 1
      let body (s : List Char) : List Char := s.take (s.length - (versionSuffix s).length)
      let first := compareVersionParts fuel (body a) (body b)
      if body a = body b ∨ first = .eq then compareVersionParts fuel a b else first

/-! ## Keys -/

/-- What is compared in a key. -/
structure KeyOptions where
  manner : Manner := .text
  folds : Bool := false
  dictionary : Bool := false
  printable : Bool := false
  reversed : Bool := false
  /-- Whether blanks are skipped where the key begins. -/
  skipsStart : Bool := false
  /-- Whether blanks are skipped where the key ends. -/
  skipsEnd : Bool := false
  /-- The letters of options by which texts are compared. -/
  letters : List Char := []
  deriving DecidableEq, Repr, Inhabited

namespace KeyOptions

/-- Adds the option of a letter. -/
def add? (o : KeyOptions) (start : Option Bool) (c : Char) : Option KeyOptions :=
  match c with
  | 'b' =>
    some { o with
      skipsStart := o.skipsStart || start ≠ some false
      skipsEnd := o.skipsEnd || start ≠ some true }
  | 'd' => some { o with dictionary := true, letters := o.letters ++ [c] }
  | 'f' => some { o with folds := true }
  | 'i' => some { o with printable := true, letters := o.letters ++ [c] }
  | 'r' => some { o with reversed := true }
  | _ => (Manner.ofLetter? c).map fun manner => { o with manner, letters := o.letters ++ [c] }

/-- Whether there is no option but for the order. -/
def isPlain (o : KeyOptions) : Bool :=
  o.manner = .text && !o.folds && !o.dictionary && !o.printable && !o.skipsStart && !o.skipsEnd

/-- The letters of options that exclude one another, if there are any. -/
def conflict? (o : KeyOptions) : Option String :=
  let kinds := (o.letters.filter (· ∉ ['d', 'i'])).eraseDups
  let ignoring := if o.dictionary || o.printable then 1 else 0
  let own := (kinds.filter (· ∉ ['V', 'R'])).length
  let others := if kinds.any (· ∈ ['V', 'R']) || ignoring = 1 then 1 else 0
  if own + others > 1 then
    let order := ['d', 'f', 'g', 'h', 'i', 'M', 'n', 'R', 'V']
    some (String.ofList (order.filter fun c =>
      kinds.contains c || (c = 'd' && o.dictionary) || (c = 'i' && o.printable && !o.dictionary)))
  else none

/-- The characters that are compared. -/
def seen (o : KeyOptions) (text : List Char) : List Char :=
  let counts (c : Char) : Bool := c.isAlphanum || c = ' ' || c = '\t'
  let text := if o.dictionary then text.filter counts else text
  let text := if o.printable then text.filter fun c => ' ' ≤ c && c ≤ '~' else text
  if o.folds then text.map Char.toUpper else text

/-- Compares two texts. -/
def compare (o : KeyOptions) (a b : List Char) : Ordering :=
  match o.manner with
  | .text | .random => Ord.compare (o.seen a) (o.seen b)
  | .numeric => compareDecimals (decimalOf a).1 (decimalOf b).1
  | .general => compareGeneral a b
  | .human => compareHuman a b
  | .month => Ord.compare (monthOf a) (monthOf b)
  | .version => compareVersions (o.seen a) (o.seen b)

end KeyOptions

/-- A part of lines by which they are compared: from a character in a field to the end of a field or
to a character in it. -/
structure SortKey where
  /-- How many fields and characters are skipped; none if the key is the whole line. -/
  first : Option (Nat × Nat) := none
  /-- How many fields are skipped before the last one, and how many characters of that belong to the
  key, where zero means all of them. -/
  last : Option (Nat × Nat) := none
  options : KeyOptions := {}
  deriving DecidableEq, Repr, Inhabited

namespace SortKey

/-- Whether a character separates fields if no other one is given. -/
def isGap (c : Char) : Bool := c = ' ' || c = '\t' || c = '\n'

/-- What follows so many fields. -/
def skipFields (tab : Option Char) : Nat → List Char → List Char
  | 0, text => text
  | n + 1, text =>
    if text = [] then [] else match tab with
    | some tab => skipFields (some tab) n ((text.dropWhile (· ≠ tab)).drop 1)
    | none => skipFields none n ((text.dropWhile isGap).dropWhile (!isGap ·))

/-- What follows so many fields, but for the separator behind the last of them. -/
def skipToEnd (tab : Option Char) (count : Nat) (text : List Char) : List Char :=
  match tab, count with
  | some tab, n + 1 => (skipFields (some tab) n text).dropWhile (· ≠ tab)
  | _, _ => skipFields tab count text

/-- The part of a line that belongs to a key. -/
def part (key : SortKey) (tab : Option Char) (line : List Char) : List Char :=
  let start := match key.first with
    | none => line
    | some (fields, _) => skipFields tab fields line
  let start := if key.options.skipsStart then start.dropWhile isGap else start
  let start := start.drop ((key.first.map (·.2)).getD 0)
  let rest := match key.last with
    | none => []
    | some (fields, 0) => skipToEnd tab (fields + 1) line
    | some (fields, chars) =>
      let rest := skipFields tab fields line
      (if key.options.skipsEnd then rest.dropWhile isGap else rest).drop chars
  start.take (start.length - rest.length)

/-- The options among letters. -/
def readOptions (start : Bool) (o : KeyOptions) : List Char → KeyOptions × List Char
  | [] => (o, [])
  | c :: rest =>
    match o.add? (some start) c with
    | some o => readOptions start o rest
    | none => (o, c :: rest)

/-- A count of fields or characters, and what follows it. -/
def readCount (problem : String) (text : List Char) : Except String (Nat × List Char) :=
  let digits := (text.dropWhile isBlank)
  let digits := if digits.head? = some '+' then digits.tail else digits
  if digits.head?.any Char.isDigit then .ok (Integer.digits 10 digits)
  else .error s!"{problem}: invalid count at start of {Quoting.value (String.ofList text)}"

/-- The key that a word describes, or what is wrong with it. -/
def ofWord (word : String) : Except String SortKey := do
  let fault (text : String) : Except String Unit :=
    .error s!"{text}: invalid field specification {Quoting.value word}"
  let (field, rest) ← readCount "invalid number at field start" word.toList
  if field = 0 then fault "field number is zero"
  let (char, rest) ← match rest with
    | '.' :: more => readCount "invalid number after '.'" more
    | _ => pure (1, rest)
  if char = 0 then fault "character offset is zero"
  let (options, rest) := readOptions true {} rest
  let first := if field = 1 ∧ char = 1 then none else some (field - 1, char - 1)
  match rest with
  | ',' :: more =>
    let (field, rest) ← readCount "invalid number after ','" more
    if field = 0 then fault "field number is zero"
    let (chars, rest) ← match rest with
      | '.' :: more => readCount "invalid number after '.'" more
      | _ => pure (0, rest)
    let (options, rest) := readOptions false options rest
    if rest ≠ [] then fault "stray character in field spec"
    return { first, last := some (field - 1, chars), options }
  | _ =>
    if rest ≠ [] then fault "stray character in field spec"
    return { first, options }

end SortKey

/-! ## Sorting -/

/-- How lines are sorted. -/
structure Sorting where
  keys : List SortKey := []
  tab : Option Char := none
  reversed : Bool := false
  /-- Whether lines that are equal in their keys keep their order. -/
  stable : Bool := false
  unique : Bool := false
  deriving Repr, Inhabited

namespace Sorting

/-- Compares two lines by the keys. -/
def compareKeys (s : Sorting) (a b : List Char) : Ordering :=
  s.keys.foldl (fun found key =>
    found.then
      (let found := key.options.compare (key.part s.tab a) (key.part s.tab b)
      if key.options.reversed then found.swap else found)) .eq

/-- Compares two lines: those that are equal in their keys are compared as a whole at last. -/
def compare (s : Sorting) (a b : List Char) : Ordering :=
  let found := if s.keys = [] then .eq else s.compareKeys a b
  if s.keys ≠ [] ∧ (s.unique ∨ s.stable) then found
  else
    let whole := Ord.compare a b
    found.then (if s.reversed then whole.swap else whole)

/-- Lines without those that are equal to the one before. -/
def withoutRepeats (s : Sorting) : List (List Char) → List (List Char)
  | [] => []
  | line :: rest =>
    let step : List (List Char) → List Char → List (List Char) := fun kept next =>
      match kept with
      | last :: _ => if s.compare last next = .eq then kept else next :: kept
      | [] => [next]
    (rest.foldl step [line]).reverse

/-- Lines in order. -/
def sorted (s : Sorting) (lines : List (List Char)) : List (List Char) :=
  let found := lines.mergeSort fun a b => s.compare a b ≠ .gt
  if s.unique then s.withoutRepeats found else found

/-- Texts whose lines are in order already as one. The least of the first lines comes first. -/
def merged (s : Sorting) : Nat → List (List (List Char)) → List (List Char)
  | 0, _ => []
  | fuel + 1, texts =>
    let heads := texts.zipIdx.filterMap fun (lines, i) => lines.head?.map (·, i)
    let least := heads.foldl (fun best next =>
      match best with
      | none => some next
      | some (b : List Char × Nat) => some (if s.compare next.1 b.1 = .lt then next else b)) none
    match least with
    | none => []
    | some (line, i) => line :: s.merged fuel (texts.modify i List.tail)

/-- The first line that is not in its place, with its number. -/
def disorder? (s : Sorting) : Nat → List (List Char) → Option (Nat × List Char)
  | n, a :: b :: rest =>
    let found := s.compare a b
    if found = .gt ∨ (s.unique ∧ found = .eq) then some (n + 1, b)
    else s.disorder? (n + 1) (b :: rest)
  | _, _ => none

/-- What is wrong with words for the character between fields; or the character. -/
def tabOf (words : List String) : Except String (Option Char) := do
  let tabs ← words.mapM fun word =>
    match word.toList with
    | [] => .error "empty tab"
    | [c] => .ok c
    | ['\\', '0'] => .ok '\x00'
    | _ => .error s!"multi-character tab {Quoting.value word}"
  if tabs.any fun c => c ≠ tabs.headD c then throw "incompatible tabs"
  return tabs.head?

/-- The names of manners. -/
def mannerNames : List (String × Char) :=
  [("general-numeric", 'g'), ("human-numeric", 'h'), ("month", 'M'), ("numeric", 'n'),
    ("random", 'R'), ("version", 'V')]

/-- The sorting that a call asks for, or what is wrong with it. -/
def ofCall (call : Call) : Except String Sorting := do
  let keys ← (call.values "key").mapM SortKey.ofWord
  let tab ← tabOf (call.values "field-separator")
  let common := call.options.foldl (fun (o : KeyOptions) (key, value) =>
    let letter := if key = "sort" then mannerNames.lookup value else
      match key.toList with
      | [c] => some c
      | _ => none
    (letter.bind (o.add? none)).getD o) {}
  let keys := keys.map fun key =>
    if key.options.isPlain && !key.options.reversed then { key with options := common } else key
  let keys := if keys = [] ∧ !common.isPlain then [{ options := common }] else keys
  if let some letters := keys.findSome? (·.options.conflict?) then
    throw s!"options '-{letters}' are incompatible"
  let ordersRandomly := keys.any fun key => key.options.manner = .random
  return { keys, tab, reversed := common.reversed, stable := call.has "s" && !ordersRandomly
           unique := call.has "unique" }

end Sorting

/-- The options of `sort`. -/
def sortOptions : List Known :=
  let plain (letter : Char) (name : String) : Known :=
    { key := letter.toString, letter := some letter, name }
  [plain 'b' "ignore-leading-blanks", plain 'd' "dictionary-order", plain 'f' "ignore-case",
    plain 'g' "general-numeric-sort", plain 'h' "human-numeric-sort",
    plain 'i' "ignore-nonprinting",
    plain 'M' "month-sort", plain 'n' "numeric-sort", plain 'R' "random-sort", plain 'r' "reverse",
    plain 'V' "version-sort", plain 's' "stable", plain 'm' "merge", flag 'u' "unique",
    flag 'z' "zero-terminated", plain 'c' "check" , { key := "C", letter := some 'C' },
    valued 'k' "key", valued 't' "field-separator", valued 'o' "output", valued 'S' "buffer-size",
    valued 'T' "temporary-directory", long "sort" .value, long "parallel" .value,
    long "batch-size" .value, long "compress-program" .value, long "random-source" .value,
    long "files0-from" .value, long "debug"]

/-- Says whether a text is in order; tells the first line that is not. -/
def checkOrder (s : Sorting) (quiet : Bool) (path : String) (lines : List (List Char)) :
    Effect Nat := do
  match s.disorder? 1 lines with
  | none => return 0
  | some (n, line) =>
    if quiet then return 1 else refuse s!"{path}:{n}: disorder: {String.ofList line}"

/-- Puts out a text, to a file if one is given. -/
def putOut (path : Option String) (text : String) : Effect Nat := do
  match path with
  | none =>
    print text
    return 0
  | some path =>
    match ← writeFile path text false with
    | none => return 0
    | some reason => refuse s!"open failed: {Quoting.ifNeeded path}: {reason}" 2

/-- Prints the lines of texts in order. -/
def sort (words : List String) : Effect Nat :=
  let act (call : Call) : Effect Nat := do
    if let some word := call.value? "sort" then
      if let .error text := chosen (Sorting.mannerNames.map (·.1)) "--sort" word then
        return ← misused text
    if (call.values "output").length > 1 then return ← refuse "multiple output files specified" 2
    match Sorting.ofCall call with
    | .error text => refuse text 2
    | .ok s =>
      let checks := call.has "c" || call.has "C"
      if call.has "c" && call.has "C" then return ← refuse "options '-cC' are incompatible" 2
      if let (true, _ :: extra :: _) := (checks, call.operands) then
        let letter := if call.has "c" then "c" else "C"
        return ← refuse s!"extra operand {Quoting.always extra} not allowed with -{letter}" 2
      let (found, failed) ← readFiles call.inputs
      match failed with
      | some (path, trouble) =>
        let problem := match trouble with
          | .opening _ => if checks then "open failed" else "cannot read"
          | .reading _ => if path = "-" then "stat failed" else "read failed"
        refuse s!"{problem}: {Quoting.ifNeeded path}: {trouble.reason}" 2
      | none =>
        let ending := if call.has "zero-terminated" then '\x00' else '\n'
        let texts := found.map fun (_, text) =>
          (partsOf ending (text.toOption.getD "")).map String.toList
        if checks then checkOrder s (call.has "C") (call.inputs.headD "-") texts.flatten
        else
          let lines := if call.has "m" then
              let lines := s.merged (texts.flatten.length + 1) texts
              if s.unique then s.withoutRepeats lines else lines
            else s.sorted texts.flatten
          putOut (call.value? "output") (endedBy ending (lines.map String.ofList))
  called sortOptions words act 2

/-! ## Equal lines side by side -/

/-- Which lines are shown of those that are equal and follow one another. -/
structure Repeats where
  /-- How many fields, and then how many characters, are not compared. -/
  skippedFields : Nat := 0
  skippedChars : Nat := 0
  comparedChars : Option Nat := none
  folds : Bool := false
  deriving DecidableEq, Repr, Inhabited

/-- The part of a line that is compared. -/
def Repeats.key (r : Repeats) (line : String) : List Char :=
  let text := SortKey.skipFields none r.skippedFields line.toList
  let text := text.drop r.skippedChars
  let text := (r.comparedChars.map text.take).getD text
  if r.folds then text.map Char.toUpper else text

/-- How many fields, or characters, an option of `uniq` asks for. -/
def repeatCount (what word : String) : Except String Nat :=
  match sizeOf "" word with
  | .ok n => if n < 0 then .error s!"{word}: invalid number of {what}" else .ok n.toNat
  | .error .tooLarge => .ok greatestCount
  | .error .malformed => .error s!"{word}: invalid number of {what}"

/-- The comparison that a call asks for. -/
def Repeats.ofCall (call : Call) : Except String Repeats := do
  let skippedFields ← repeatCount "fields to skip" ((call.value? "skip-fields").getD "0")
  let skippedChars ← repeatCount "bytes to skip" ((call.value? "skip-chars").getD "0")
  let compared ← (call.value? "check-chars").mapM (repeatCount "bytes to compare")
  return { skippedFields, skippedChars, comparedChars := compared, folds := call.has "ignore-case" }

/-- Words in which a number by itself says how many fields or characters are skipped. -/
def withFieldNumbers : List String → List String
  | [] => []
  | word :: rest =>
    let number (rest : List Char) : Bool := rest ≠ [] && rest.all Char.isDigit
    match word.toList with
    | '-' :: digits =>
      if number digits then "-f" :: String.ofList digits :: withFieldNumbers rest
      else if word ∈ ["-f", "-s", "-w"] then word :: (rest.take 1 ++ withFieldNumbers rest.tail)
      else word :: withFieldNumbers rest
    | '+' :: digits =>
      if number digits then "-s" :: String.ofList digits :: withFieldNumbers rest
      else word :: withFieldNumbers rest
    | _ => word :: withFieldNumbers rest
termination_by words => words.length

/-- Runs of lines with empty lines before, between or behind them. -/
def spaced (method : String) (runs : List (List String)) : List String :=
  let before := if method = "prepend" ∨ method = "both" then [""] else []
  let behind := if runs ≠ [] ∧ (method = "append" ∨ method = "both") then [""] else []
  let between := if method = "append" ∨ method = "separate" ∨ method = "both" then [""] else []
  match runs with
  | [] => []
  | first :: rest =>
    let rest := rest.flatMap fun run => (if method = "prepend" then before else between) ++ run
    before ++ first ++ rest ++ behind

/-- The lines that `uniq` shows of runs of equal ones. -/
def shownLines (call : Call) (runs : List (List String)) : List String :=
  let onlyRepeated := call.has "repeated" || call.has "all-repeated"
  let chosen := runs.filter fun run =>
    (!onlyRepeated || run.length > 1) && (!call.has "unique" || run.length = 1)
  if call.has "group" then
    let method := (call.value? "group").getD ""
    spaced (if method = "" then "separate" else method) runs
  else if call.has "all-repeated" then spaced ((call.value? "all-repeated").getD "") chosen
  else chosen.map fun run =>
    (if call.has "count" then aligned 7 run.length ++ " " else "") ++ run.headD ""

/-- The options of `uniq`. -/
def uniqOptions : List Known :=
  [flag 'c' "count", flag 'd' "repeated", { key := "all-repeated", letter := some 'D' },
    long "all-repeated" .ownValue, valued 'f' "skip-fields", flag 'i' "ignore-case",
    valued 's' "skip-chars", flag 'u' "unique", valued 'w' "check-chars",
    flag 'z' "zero-terminated", long "group" .ownValue]

/-- Whether the options of `uniq` contradict each other; says how. -/
def uniqConflict? (call : Call) : Option String :=
  let own := ["count", "repeated", "all-repeated", "unique"]
  if call.has "group" ∧ own.any call.has then
    some "--group is mutually exclusive with -c/-d/-D/-u"
  else if call.has "count" ∧ call.has "all-repeated" then
    some "printing all duplicated lines and repeat counts is meaningless"
  else none

/-- Prints the lines of a text, equal ones that follow each other only once. -/
def uniq (words : List String) : Effect Nat :=
  called uniqOptions (withFieldNumbers words) fun call => do
    let method (key : String) (values : List String) : Except String String :=
      match call.value? key with
      | none | some "" => .ok ""
      | some word => chosen values ("--" ++ key) word
    if let .error text := method "all-repeated" ["none", "prepend", "separate"] then
      return ← misused text
    if let .error text := method "group" ["prepend", "append", "separate", "both"] then
      return ← misused text
    match Repeats.ofCall call with
    | .error text => refuse text
    | .ok r =>
      if let some word := call.operands[2]? then return ← hasExtra word
      if let some text := uniqConflict? call then return ← misused text
      let path := call.operands.headD "-"
      match ← readFile path with
      | .error (.opening reason) => refuse s!"{Quoting.ifNeeded path}: {reason}"
      | .error (.reading reason) => refuse s!"error reading {Quoting.always path}: {reason}"
      | .ok text =>
        let ending := if call.has "zero-terminated" then '\x00' else '\n'
        let runs := (partsOf ending text).splitBy fun a b => r.key a = r.key b
        let shown := endedBy ending (shownLines call runs)
        match call.operands[1]?.filter (· ≠ "-") with
        | none =>
          print shown
          return 0
        | some path =>
          match ← writeFile path shown false with
          | none => return 0
          | some reason => refuse s!"{Quoting.ifNeeded path}: {reason}"

end Programs

end FileScript.Shell
