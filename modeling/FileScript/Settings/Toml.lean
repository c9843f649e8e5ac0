import FileScript.Settings

/-!
# Settings in TOML

The configuration format is the part of TOML that a flat table of whole numbers and truth values
needs: one `key = value` on a line, comments, bare and quoted keys. A key has to name a setting, no
key may be given twice, and what is not given keeps its default.
-/

namespace FileScript.Settings.Toml

/-- A value of a setting. -/
inductive Value where
  | integer (n : Int)
  | boolean (b : Bool)
  deriving DecidableEq, Repr, Inhabited

/-- Whether a character separates tokens within a line. -/
def isBlank (c : Char) : Bool := c == ' ' || c == '\t'

/-- A text without the blanks at its beginning. -/
def skipBlanks (text : List Char) : List Char := text.dropWhile isBlank

/-- Whether a character may stand in a comment or between quotes. -/
def isPrintable (c : Char) : Bool := c == '\t' || (' ' ≤ c && c != '\x7f')

/-- Whether a character may stand in a key without quotes. -/
def isBareKey (c : Char) : Bool := c.isAlphanum || c == '_' || c == '-'

/-! ## Keys -/

/-- The number that exactly `count` hexadecimal digits at the beginning of a text denote, and the
text after them. -/
def hexDigits? (count : Nat) (text : List Char) : Option (Nat × List Char) :=
  let digits := text.take count
  if digits.length = count ∧ digits.all isHexDigit then
    some (digits.foldl (fun n c => 16 * n + hexValue c) 0, text.drop count)
  else none
where
  /-- Whether a character is a hexadecimal digit. -/
  isHexDigit (c : Char) : Bool := c.isDigit || ('a' ≤ c && c ≤ 'f') || ('A' ≤ c && c ≤ 'F')
  /-- The value of a hexadecimal digit. -/
  hexValue (c : Char) : Nat :=
    if c.isDigit then c.toNat - '0'.toNat
    else if 'a' ≤ c then c.toNat - 'a'.toNat + 10 else c.toNat - 'A'.toNat + 10

/-- The character of a code point that `count` hexadecimal digits denote. -/
def codePoint? (count : Nat) (text : List Char) : Option (Char × List Char) := do
  let (n, rest) ← hexDigits? count text
  if n.isValidChar then some (Char.ofNat n, rest) else none

/-- The character that an escape sequence stands for, and the text after it. -/
def escape? : List Char → Option (Char × List Char)
  | 'b' :: rest => some ('\x08', rest)
  | 't' :: rest => some ('\t', rest)
  | 'n' :: rest => some ('\n', rest)
  | 'f' :: rest => some ('\x0c', rest)
  | 'r' :: rest => some ('\r', rest)
  | '"' :: rest => some ('"', rest)
  | '\\' :: rest => some ('\\', rest)
  | 'u' :: rest => codePoint? 4 rest
  | 'U' :: rest => codePoint? 8 rest
  | _ => none

/-- The rest of a key between double quotes, and the text after it. No key needs more characters
than the text has, so `fuel` is never used up. -/
def quotedKey? (fuel : Nat) (text : List Char) : Option (List Char × List Char) :=
  match fuel, text with
  | 0, _ | _, [] => none
  | _, '"' :: rest => some ([], rest)
  | fuel + 1, '\\' :: rest => do
    let (c, rest) ← escape? rest
    let (key, rest) ← quotedKey? fuel rest
    return (c :: key, rest)
  | fuel + 1, c :: rest => do
    guard (isPrintable c)
    let (key, rest) ← quotedKey? fuel rest
    return (c :: key, rest)

/-- The key at the beginning of a text, and the text after it. -/
def key? : List Char → Option (List Char × List Char)
  | '"' :: rest => quotedKey? rest.length rest
  | '\'' :: rest =>
    let key := rest.takeWhile (· != '\'')
    match rest.dropWhile (· != '\'') with
    | [] => none
    | _ :: after => if key.all isPrintable then some (key, after) else none
  | text =>
    let key := text.takeWhile isBareKey
    if key = [] then none else some (key, text.dropWhile isBareKey)

/-! ## Values -/

/-- The digits of a numeral, without the underscores between them. An underscore stands between two
digits. -/
def digits? (isDigit : Char → Bool) : List Char → Option (List Char)
  | [] => none
  | [c] => if isDigit c then some [c] else none
  | c :: '_' :: rest => if isDigit c then (c :: ·) <$> digits? isDigit rest else none
  | c :: rest => if isDigit c then (c :: ·) <$> digits? isDigit rest else none

/-- The number that digits denote, with underscores between them. -/
def numeral? (base : Nat) (text : List Char) : Option Nat := do
  let digits ← digits? (fun c => (hexDigits?.isHexDigit c) && hexDigits?.hexValue c < base) text
  return digits.foldl (fun n c => base * n + hexDigits?.hexValue c) 0

/-- The number that decimal digits denote. Only a lone zero begins with a zero. -/
def decimal? (text : List Char) : Option Nat :=
  match text with
  | '0' :: _ :: _ => none
  | _ => numeral? 10 text

/-- The value that a token denotes, if 64 bits hold it. -/
def value? (token : List Char) : Option Value :=
  match token with
  | ['t', 'r', 'u', 'e'] => some (.boolean true)
  | ['f', 'a', 'l', 's', 'e'] => some (.boolean false)
  | '0' :: 'x' :: digits => integer (numeral? 16 digits)
  | '0' :: 'o' :: digits => integer (numeral? 8 digits)
  | '0' :: 'b' :: digits => integer (numeral? 2 digits)
  | '+' :: digits => integer (decimal? digits)
  | '-' :: digits =>
    ((decimal? digits).filter (· ≤ UInt64.size / 2)).map fun n => .integer (-n)
  | digits => integer (decimal? digits)
where
  /-- The value of a number without a sign. -/
  integer (n : Option Nat) : Option Value :=
    (n.filter (· < UInt64.size / 2)).map fun n => .integer n

/-! ## Lines -/

/-- Whether a text after a value, or instead of a setting, is blank or a comment. -/
def isIgnored (text : List Char) : Bool :=
  match skipBlanks text with
  | [] => true
  | '#' :: comment => comment.all isPrintable
  | _ => false

/-- Whether a character may stand in a number or truth value. -/
def isValueChar (c : Char) : Bool := c.isAlphanum || c == '_' || c == '+' || c == '-'

/-- The key and value on a line. -/
def entry? (line : List Char) : Option (String × Value) := do
  let (key, rest) ← key? (skipBlanks line)
  match skipBlanks rest with
  | '=' :: rest =>
    let rest := skipBlanks rest
    let value ← value? (rest.takeWhile isValueChar)
    guard (isIgnored (rest.dropWhile isValueChar))
    return (String.ofList key, value)
  | _ => none

/-- The entries of a document, one on each line that is not blank. -/
def entries? : List (List Char) → Option (List (String × Value))
  | [] => some []
  | line :: rest =>
    if isIgnored line then entries? rest
    else do
      let entry ← entry? line
      return entry :: (← entries? rest)

/-- The lines of a text. A line end is `\n` or `\r\n`. -/
def lines : List Char → List (List Char)
  | [] => [[]]
  | '\n' :: rest => [] :: lines rest
  | '\r' :: '\n' :: rest => [] :: lines rest
  | c :: rest =>
    match lines rest with
    | [] => [[c]]
    | line :: more => (c :: line) :: more

/-! ## Documents -/

/-- The settings after one entry was taken in; none if its key names no setting or its value does
not fit. -/
def assign? (s : Settings) : String × Value → Option Settings
  | ("max_args", .integer n) => (nat? n).map ({ s with maxArgs := · })
  | ("file_capacity", .integer n) => (nat? n).map ({ s with fileCapacity := · })
  | ("dir_capacity", .integer n) => (nat? n).map ({ s with dirCapacity := · })
  | ("allow_shell", .boolean b) => some { s with allowShell := b }
  | _ => none
where
  /-- A number that is not negative. -/
  nat? : Int → Option Nat
    | .ofNat n => some n
    | .negSucc _ => none

/-- The settings that a document describes. -/
def document? (text : String) : Option Settings := do
  let body := match text.toList with
    | '\ufeff' :: rest => rest
    | cs => cs
  let entries ← entries? (lines body)
  guard (entries.map (·.1)).Nodup
  entries.foldlM assign? {}

end FileScript.Settings.Toml

namespace FileScript.Settings

/-- The settings that a TOML document describes, if a session can run with them. -/
def ofToml (text : String) : Except Fault Settings :=
  match Toml.document? text with
  | some settings => settings.validate
  | none => .error .badSyntax

end FileScript.Settings
