import FileScript.Shell.Digest
import FileScript.Shell.Format
import FileScript.Shell.Programs.Basic

/-!
# Digests of texts

Programs that print a digest of each text, and check whether texts still have the digests that they
had before.
-/

namespace FileScript.Shell

namespace Programs

open Effect

/-- A digest as programs show it. -/
structure DigestKind where
  title : String
  /-- How many bytes it has. -/
  size : Nat
  digest : List UInt8 → List UInt8

namespace DigestKind

/-- A digest under its title. -/
def ofScheme {width : Nat} (title : String) (s : Digest.Scheme width) : DigestKind :=
  { title, size := s.size, digest := s.digest }

/-- The digests by the names that programs have for them. -/
def all : List (String × DigestKind) :=
  [("md5", ofScheme "MD5" Digest.md5), ("sha1", ofScheme "SHA1" Digest.sha1),
    ("sha224", ofScheme "SHA224" Digest.sha224), ("sha256", ofScheme "SHA256" Digest.sha256),
    ("sha384", ofScheme "SHA384" Digest.sha384), ("sha512", ofScheme "SHA512" Digest.sha512)]

/-- The digest of a text. -/
def ofText (k : DigestKind) (text : String) : String :=
  Digest.shown (k.digest (text.toList.map fun c => UInt8.ofNat c.toNat))

end DigestKind

namespace Checking

/-! ## Names -/

/-- Whether a name cannot be shown as it stands. -/
def isSpecial (name : String) : Bool := name.contains '\n' || name.contains '\\'

/-- A name on one line. -/
def escapedName (name : String) : String :=
  String.join (name.toList.map fun c =>
    if c = '\n' then "\\n" else if c = '\\' then "\\\\" else c.toString)

/-- The name that stands for itself on one line. -/
def unescaped? : List Char → Option (List Char)
  | [] => some []
  | '\\' :: 'n' :: rest => (unescaped? rest).map ('\n' :: ·)
  | '\\' :: '\\' :: rest => (unescaped? rest).map ('\\' :: ·)
  | '\\' :: _ => none
  | c :: rest => if c = '\x00' then none else (unescaped? rest).map (c :: ·)

/-! ## Lines with digests -/

/-- Whether a character separates the parts of a line. -/
def isWhite (c : Char) : Bool := c = ' ' || c = '\t'

/-- The digits of a digest, if they are such. -/
def digest? (k : DigestKind) (digits : List Char) : Option String :=
  if digits.length = 2 * k.size ∧ digits.all (fun c => (Integer.digit? c).any (· < 16)) then
    some (String.ofList digits).toLower
  else none

/-- The name at the end of a line. -/
def nameOf? (escaped : Bool) (name : List Char) : Option String :=
  (if escaped then unescaped? name else some name).map String.ofList

/-- The digest and the name in a line that begins with the title of the digest. -/
def titled? (k : DigestKind) (escaped : Bool) (text : List Char) : Option (String × String) := do
  let text := if text.head? = some ' ' then text.tail else text
  if text.head? ≠ some '(' then none
  let back := text.tail.reverse
  let after := (back.takeWhile (· ≠ ')')).reverse
  let name := ((back.drop after.length).drop 1).reverse
  if after.length = back.length then none
  let after := after.dropWhile isWhite
  if after.head? ≠ some '=' then none
  return (← digest? k (after.tail.dropWhile isWhite), ← nameOf? escaped name)

/-- The digest and the name in a line. `bare` says whether names follow digests immediately, as far as
that is known from the lines before; it is told what this line shows about it. -/
def entry? (k : DigestKind) (bare : Option Bool) (line : List Char) :
    Option (String × String × Option Bool) := do
  let text := line.dropWhile isWhite
  let escaped := text.head? = some '\\'
  let text := if escaped then text.tail else text
  let title := k.title.toList
  if title.isPrefixOf text then
    let (digest, name) ← titled? k escaped (text.drop title.length)
    return (digest, name, bare)
  if text.length < 2 * k.size + 2 then none
  let rest := text.drop (2 * k.size)
  if !rest.head?.any isWhite then none
  let digest ← digest? k (text.take (2 * k.size))
  let rest := rest.tail
  if rest.length = 1 ∨ !rest.head?.any fun c => c = ' ' || c = '*' then
    if bare = some false then none
    return (digest, ← nameOf? escaped rest, some true)
  else if bare = some true then return (digest, ← nameOf? escaped rest, bare)
  else return (digest, ← nameOf? escaped rest.tail, some false)

/-! ## Checks -/

/-- What checks have shown. -/
structure Findings where
  bare : Option Bool := none
  line : Nat := 0
  formatted : Nat := 0
  malformed : Nat := 0
  unreadable : Nat := 0
  different : Nat := 0
  matched : Bool := false

/-- How much is said about checks. -/
structure Manner where
  kind : DigestKind
  /-- What the list of digests is called. -/
  title : String
  /-- Whether the list is the standard input. -/
  isInput : Bool
  quiet : Bool
  silent : Bool
  warns : Bool
  ignoresMissing : Bool

/-- The name of a text with a comment about it. -/
def commented (name comment : String) : String :=
  let shown := if isSpecial name then "\\" ++ escapedName name else name
  s!"{shown}: {comment}\n"

/-- Checks the text that a line names. -/
def checkText (m : Manner) (f : Findings) (digest name : String) : Effect Findings := do
  let f := { f with formatted := f.formatted + 1 }
  match ← readFile name with
  | .error trouble =>
    if m.ignoresMissing ∧ trouble = .opening FolderError.notFound.text then return f
    tell s!"{Quoting.ifNeeded name}: {trouble.reason}"
    unless m.silent do print (commented name "FAILED open or read")
    return { f with unreadable := f.unreadable + 1 }
  | .ok text =>
    if m.kind.ofText text = digest then
      unless m.silent || m.quiet do print (commented name "OK")
      return { f with matched := true }
    else
      unless m.silent do print (commented name "FAILED")
      return { f with different := f.different + 1 }

/-- Checks what a line says. -/
def checkLine (m : Manner) (f : Findings) (line : String) : Effect Findings := do
  let f := { f with line := f.line + 1 }
  let text := line.toList
  let text := if text.getLast? = some '\r' then text.dropLast else text
  if text = [] ∨ text.head? = some '#' then return f
  match entry? m.kind f.bare text with
  | some (digest, name, bare) =>
    if m.isInput ∧ name = "-" then return { f with malformed := f.malformed + 1 }
    checkText m { f with bare } digest name
  | none =>
    if m.warns then
      tell s!"{m.title}: {f.line}: improperly formatted {m.kind.title} checksum line"
    return { f with malformed := f.malformed + 1 }

/-- Warns of some lines, files or digests, if there are any. -/
def warnOf (count : Nat) (one many : String) : Effect Unit := do
  if count > 0 then tell s!"WARNING: {count} {if count = 1 then one else many}"

/-- Checks what a list says. -/
def checkList (m : Manner) (strict : Bool) (text : String) : Effect Nat := do
  let f ← (linesOf text).foldlM (checkLine m) {}
  if f.formatted = 0 then
    return ← refuse s!"{m.title}: no properly formatted checksum lines found"
  unless m.silent do
    warnOf f.malformed "line is improperly formatted" "lines are improperly formatted"
    warnOf f.unreadable "listed file could not be read" "listed files could not be read"
    warnOf f.different "computed checksum did NOT match" "computed checksums did NOT match"
    if m.ignoresMissing ∧ !f.matched then tell s!"{m.title}: no file was verified"
  let isFine := f.matched && f.different = 0 && f.unreadable = 0 && (!strict || f.malformed = 0)
  return if isFine then 0 else 1

end Checking

/-! ## Programs -/

/-- The options of programs that print digests. -/
def digestOptions : List Known :=
  [flag 'b' "binary", flag 'c' "check", long "ignore-missing", long "quiet", long "status",
    long "strict", long "tag", flag 't' "text", flag 'w' "warn", flag 'z' "zero"]

/-- What is wrong with the options of a call together. -/
def digestMisuse? (call : Call) : Option String :=
  let checks := call.has "check"
  let level := call.last? ["status", "warn", "quiet"]
  let only (key : String) (isSet : Bool) : Option String :=
    if isSet ∧ !checks then
      some s!"the --{key} option is meaningful only when verifying checksums"
    else none
  if call.has "tag" ∧ call.last? ["binary", "text", "tag"] = some "text" then
    some "--tag does not support --text mode"
  else if call.has "zero" ∧ checks then
    some "the --zero option is not supported when verifying checksums"
  else if call.has "tag" ∧ checks then
    some "the --tag option is meaningless when verifying checksums"
  else if (call.has "binary" ∨ call.has "text") ∧ checks then
    some "the --binary and --text options are meaningless when verifying checksums"
  else
    (only "ignore-missing" (call.has "ignore-missing")).or <|
      (only "status" (level = some "status")).or <|
      (only "warn" (level = some "warn")).or <|
      (only "quiet" (level = some "quiet")).or (only "strict" (call.has "strict"))

/-- Prints digests of texts. -/
def showDigests (k : DigestKind) (call : Call) (tagged : Bool) : Effect Nat := do
  let zero := call.has "zero"
  let status ← forTexts call.inputs fun path text => do
    let digest := k.ofText text
    let isEscaped := Checking.isSpecial path && !zero
    let shown := if isEscaped then Checking.escapedName path else path
    let start := if isEscaped then "\\" else ""
    let ending := if zero then '\x00' else '\n'
    let line := if tagged then s!"{k.title} ({shown}) = {digest}"
      else
        let mark := if call.last? ["binary", "text"] = some "binary" then "*" else " "
        s!"{digest} {mark}{shown}"
    print ((start ++ line).push ending)
  checkInput "standard input: Bad file descriptor" call.inputs
  return status

/-- Checks whether texts still have the digests that lists give for them. -/
def checkDigests (kind : DigestKind) (call : Call) : Effect Nat := do
  let level := call.last? ["status", "warn", "quiet"]
  let statuses ← call.inputs.mapM fun path => do
    let title := Quoting.ifNeeded (if path = "-" then "standard input" else path)
    match ← readFile path with
    | .error (.opening reason) => refuse s!"{title}: {reason}"
    | .error (.reading _) => refuse s!"{title}: read error"
    | .ok text =>
      let m : Checking.Manner := {
        kind, title, isInput := path = "-", quiet := level = some "quiet"
        silent := level = some "status", warns := level = some "warn"
        ignoresMissing := call.has "ignore-missing" }
      Checking.checkList m (call.has "strict") text
  checkInput "standard input: Bad file descriptor" call.inputs
  return worst statuses

/-- Prints digests of a kind, or checks them. -/
def digests (k : DigestKind) (words : List String) : Effect Nat :=
  called digestOptions words fun call => do
    if let some text := digestMisuse? call then return ← misused text
    if call.has "check" then checkDigests k call else showDigests k call (call.has "tag")

/-- The program that prints digests of a kind, by its name. -/
def digestProgram? (name : String) : Option (List String → Effect Nat) :=
  (DigestKind.all.find? fun (key, _) => key ++ "sum" = name).map fun (_, kind) => digests kind

/-- Prints a number and the size for each text. The name follows if names are given. -/
def showSums (call : Call) (line : String → String) : Effect Nat := do
  let status ← forTexts call.inputs fun path text =>
    print (line text ++ (if call.operands = [] then "" else " " ++ path) ++ "\n")
  checkInput "standard input: Bad file descriptor" call.inputs
  return status

/-- The bytes of a text. -/
def bytesOf (text : String) : List UInt8 := text.toList.map fun c => UInt8.ofNat c.toNat

/-- The remainder and the size of a text. -/
def remainderLine (text : String) : String := s!"{Digest.remainder (bytesOf text)} {text.length}"

/-- The rotating sum of a text, and how many blocks of 1024 bytes it takes. -/
def rotatingLine (text : String) : String :=
  Octets.padded 5 (Digest.rotatingSum (bytesOf text)) ++ " " ++ aligned 5 ((text.length + 1023) / 1024)

/-- The sum of a text, and how many blocks of 512 bytes it takes. -/
def foldedLine (text : String) : String :=
  s!"{Digest.foldedSum (bytesOf text)} {(text.length + 511) / 512}"

/-- Prints small digests of texts. -/
def sum (words : List String) : Effect Nat :=
  called [flag 'r', flag 's' "sysv"] words fun call =>
    showSums call (if call.last? ["r", "sysv"] = some "sysv" then foldedLine else rotatingLine)

/-- The names that the program for all digests has for them. -/
def cksumNames : List String := ["bsd", "sysv", "crc"] ++ DigestKind.all.map (·.1) ++ ["blake2b", "sm3"]

/-- Prints digests of texts, or checks them. The kind of the digest is chosen by its name. -/
def cksum (words : List String) : Effect Nat :=
  let known := [valued 'a' "algorithm", valued 'l' "length", long "untagged", long "debug"]
  called (digestOptions ++ known) words fun call => do
    match chosen cksumNames "--algorithm" ((call.value? "algorithm").getD "crc") with
    | .error text => misused text
    | .ok name =>
      match DigestKind.all.lookup name with
      | some kind =>
        if call.has "check" then checkDigests kind call
        else showDigests kind call (!call.has "untagged")
      | none =>
        match name with
        | "bsd" => showSums call rotatingLine
        | "sysv" => showSums call foldedLine
        | _ => showSums call remainderLine

end Programs

end FileScript.Shell
