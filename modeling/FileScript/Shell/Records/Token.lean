import FileScript.Shell.Records.Pattern
import FileScript.Shell.Records.Syntax

/-!
# The words and signs of programs for records

Line ends matter in such programs, but not behind signs that ask for more. A bar or an angle bracket
begins the target of printed output if no parenthesis is open, and a slash begins a pattern where no
division can stand. Behind a step, such a pattern lacks its first character.
-/

namespace FileScript.Shell

namespace Records

/-- The reserved words. -/
inductive Keyword where
  | beginning
  | ending
  | function
  | ifWord
  | elseWord
  | whileWord
  | forWord
  | doWord
  | breakWord
  | continueWord
  | next
  | nextFile
  | exit
  | returnWord
  | delete
  | member
  | getline
  | print
  | printFormatted
  deriving DecidableEq, Repr, Inhabited

namespace Keyword

/-- How the words are written. -/
def words : List (String × Keyword) :=
  [("BEGIN", beginning), ("END", ending), ("function", function),
    ("if", ifWord), ("else", elseWord), ("while", whileWord), ("for", forWord), ("do", doWord),
    ("break", breakWord), ("continue", continueWord), ("next", next), ("nextfile", nextFile),
    ("exit", exit), ("return", returnWord), ("delete", delete), ("in", member),
    ("getline", getline), ("print", print), ("printf", printFormatted)]

/-- The reserved word with a spelling. -/
def ofText? (text : String) : Option Keyword := words.lookup text

/-- How a word is written. -/
def text (k : Keyword) : String := ((words.find? (·.2 = k)).map (·.1)).getD ""

end Keyword

/-- A word or a sign. -/
inductive Token where
  | stop
  | newline
  | semicolon
  /-- The end of a statement that only the brace behind it shows. -/
  | closing
  | openBrace
  | closeBrace
  | openParen
  | closeParen
  | openBracket
  | closeBracket
  | comma
  | number (x : Float) (source : String)
  | text (s : String)
  | pattern (source : String)
  /-- A name, and whether a parenthesis follows it directly. -/
  | name (s : String) (attached : Bool)
  /-- The name of a function. -/
  | function (s : String)
  | builtin (b : Builtin)
  | keyword (k : Keyword)
  | assign (o : Option Operation)
  | operation (o : Operation)
  | comparison (c : Comparison)
  | fitting (negated : Bool)
  | not
  | and
  | or
  | question
  | colon
  | step (up : Bool)
  | dollar
  | pipe
  | output (d : Direction)
  | unexpected (c : Char)
  /-- A closing sign that nothing has opened. -/
  | extra (c : Char)
  deriving Repr, Inhabited

/-- How an operation is written. -/
def Operation.text : Operation → String
  | add => "+"
  | subtract => "-"
  | multiply => "*"
  | divide => "/"
  | remainder => "%"
  | power => "^"

/-- How a comparison is written. -/
def Comparison.text : Comparison → String
  | less => "<"
  | atMost => "<="
  | equal => "=="
  | unequal => "!="
  | more => ">"
  | atLeast => ">="

namespace Token

/-- How a token is named in a message. -/
def shown : Token → String
  | stop => "end of file"
  | newline => "end of line"
  | semicolon => ";"
  | closing | closeBrace => "\x7d"
  | openBrace => "\x7b"
  | openParen => "("
  | closeParen => ")"
  | openBracket => "["
  | closeBracket => "]"
  | comma => ","
  | number _ source => source
  | text s => s
  | pattern source => s!"/{source}/"
  | name s _ | function s => s
  | builtin b => b.name
  | keyword k => k.text
  | assign o => (o.map Operation.text).getD "" ++ "="
  | operation o => o.text
  | comparison c => c.text
  | fitting negated => if negated then "!~" else "~"
  | not => "!"
  | and => "&&"
  | or => "||"
  | question => "?"
  | colon => ":"
  | step up => if up then "++" else "--"
  | dollar => "$"
  | pipe => "|"
  | output .replace => ">"
  | output .append => ">>"
  | output .pipe => "|"
  | unexpected c | extra c => c.toString

/-- Whether a slash behind a token is a sign for division. -/
def allowsDivision : Token → Bool
  | number .. | text _ | pattern _ | name .. | closeParen | closeBracket => true
  | keyword .getline => true
  | _ => false

/-- Whether a token ends a statement. -/
def endsStatement : Token → Bool
  | newline | semicolon | closing => true
  | _ => false

end Token

/-- A text on its way to be divided into tokens. -/
structure Lexer where
  rest : List Char
  line : Nat := 1
  /-- The line in which the last token begins. -/
  start : Nat := 1
  /-- The token before. -/
  last : Token := .newline
  parens : Nat := 0
  braces : Nat := 0
  /-- Whether the values of printed output are being read. -/
  printing : Bool := false
  deriving Inhabited

/-- A constant that has no end. -/
inductive Runaway where
  | text (s : List Char)
  | pattern (s : List Char)
  deriving Repr, Inhabited

/-- What is said about a constant that has no end. -/
def Runaway.message : Runaway → String
  | text s => "runaway string constant \"" ++ String.ofList (s.take 10) ++ " ..."
  | pattern s => "runaway regular expression /" ++ String.ofList (s.take 10) ++ " ..."

namespace Lexer

/-- Passes spaces and comments, and line ends if these do not matter. -/
def skip (lines : Bool) : Nat → Lexer → Lexer
  | 0, l => l
  | fuel + 1, l =>
    match l.rest with
    | c :: rest =>
      if c = '\n' then
        if lines then skip lines fuel { l with rest, line := l.line + 1 } else l
      else if isBlank c then skip lines fuel { l with rest }
      else if c = '#' then skip lines fuel { l with rest := rest.dropWhile (· ≠ '\n') }
      else if c = '\\' then
        match rest with
        | '\n' :: rest => skip lines fuel { l with rest, line := l.line + 1 }
        | '\r' :: '\n' :: rest => skip lines fuel { l with rest, line := l.line + 1 }
        | _ => l
      else l
    | [] => l

/-- Passes spaces and comments. -/
def skipBlanks (l : Lexer) : Lexer := l.skip false (l.rest.length + 1)

/-- Passes spaces, comments and line ends. -/
def skipLines (l : Lexer) : Lexer := l.skip true (l.rest.length + 1)

/-- The characters of a text constant, up to the mark that ends it, and what follows. -/
def textEnd : List Char → (found : List Char) → Except Runaway (List Char × List Char)
  | [], found => .error (.text found.reverse)
  | '"' :: rest, found => .ok (found.reverse, rest)
  | '\n' :: _, found => .error (.text found.reverse)
  | ['\\'], found => .error (.text found.reverse)
  | '\\' :: '\n' :: rest, found => textEnd rest found
  | '\\' :: c :: rest, found => textEnd rest (c :: '\\' :: found)
  | c :: rest, found => textEnd rest (c :: found)

/-- The characters of a pattern, up to the slash that ends it, and what follows. In brackets, a
slash ends nothing; `opened` says how many characters of brackets have been read, if any are open.
-/
def patternEnd : (opened : Option Nat) → List Char → (found : List Char) →
    Except Runaway (List Char × List Char)
  | _, [], found => .error (.pattern found.reverse)
  | _, '\n' :: _, found => .error (.pattern found.reverse)
  | opened, '\\' :: '/' :: rest, found => patternEnd (opened.map (· + 1)) rest ('/' :: found)
  | opened, '\\' :: c :: rest, found =>
    if c = '\n' then .error (.pattern found.reverse)
    else patternEnd (opened.map (· + 1)) rest (c :: '\\' :: found)
  | none, c :: rest, found =>
    if c = '/' then .ok (found.reverse, rest)
    else patternEnd (if c = '[' then some 0 else none) rest (c :: found)
  | some n, c :: rest, found =>
    let opened :=
      if c = ']' ∧ 0 < n then none else if c = '^' ∧ n = 0 then some 0 else some (n + 1)
    patternEnd opened rest (c :: found)

/-- The number at the beginning of a text, how it is written and what follows it. -/
def numberOf (text : List Char) : Float × String × List Char :=
  let whole := text.takeWhile Char.isDigit
  let afterWhole := text.drop whole.length
  let fraction := match afterWhole with
    | '.' :: more => '.' :: more.takeWhile Char.isDigit
    | _ => []
  let afterFraction := afterWhole.drop fraction.length
  let exponent := match afterFraction with
    | e :: more =>
      let sign := match more with
        | c :: _ => if c = '+' ∨ c = '-' then [c] else []
        | [] => []
      let digits := (more.drop sign.length).takeWhile Char.isDigit
      if (e = 'e' ∨ e = 'E') ∧ digits ≠ [] then e :: sign ++ digits else []
    | [] => []
  let source := whole ++ fraction ++ exponent
  let digits := (Integer.digits 10 (whole ++ fraction.tail)).1
  let power := (Integer.scan? 10 exponent.tail).map (·.1)
  let power := max (-20000) (min 20000 (power.getD 0)) - (fraction.length - 1 : Nat)
  let x :=
    if power < 0 then Float.ofScientific digits true power.natAbs
    else Float.ofScientific digits false power.toNat
  (x, String.ofList source, text.drop source.length)

/-- The token of a word. -/
def wordToken (word : String) (rest : List Char) : Token :=
  match Keyword.ofText? word, Builtin.ofName? word with
  | some k, _ => .keyword k
  | none, some b => .builtin b
  | none, none => .name word (rest.head? = some '(')

/-- The sign at the beginning of a text that is neither a bracket nor a separator, and how many
characters it has. -/
def sign (printing : Bool) (text : List Char) : Token × Nat :=
  match text with
  | '+' :: '+' :: _ => (.step true, 2)
  | '-' :: '-' :: _ => (.step false, 2)
  | '+' :: '=' :: _ => (.assign (some .add), 2)
  | '-' :: '=' :: _ => (.assign (some .subtract), 2)
  | '*' :: '=' :: _ => (.assign (some .multiply), 2)
  | '/' :: '=' :: _ => (.assign (some .divide), 2)
  | '%' :: '=' :: _ => (.assign (some .remainder), 2)
  | '^' :: '=' :: _ => (.assign (some .power), 2)
  | '=' :: '=' :: _ => (.comparison .equal, 2)
  | '!' :: '=' :: _ => (.comparison .unequal, 2)
  | '<' :: '=' :: _ => (.comparison .atMost, 2)
  | '!' :: '~' :: _ => (.fitting true, 2)
  | '&' :: '&' :: _ => (.and, 2)
  | '|' :: '|' :: _ => (.or, 2)
  | '>' :: rest =>
    if printing then
      if rest.head? = some '>' then (.output .append, 2) else (.output .replace, 1)
    else if rest.head? = some '=' then (.comparison .atLeast, 2)
    else (.comparison .more, 1)
  | '|' :: _ => (if printing then .output .pipe else .pipe, 1)
  | '+' :: _ => (.operation .add, 1)
  | '-' :: _ => (.operation .subtract, 1)
  | '*' :: _ => (.operation .multiply, 1)
  | '/' :: _ => (.operation .divide, 1)
  | '%' :: _ => (.operation .remainder, 1)
  | '^' :: _ => (.operation .power, 1)
  | '<' :: _ => (.comparison .less, 1)
  | '=' :: _ => (.assign none, 1)
  | '!' :: _ => (.not, 1)
  | '~' :: _ => (.fitting false, 1)
  | '?' :: _ => (.question, 1)
  | ':' :: _ => (.colon, 1)
  | '$' :: _ => (.dollar, 1)
  | '[' :: _ => (.openBracket, 1)
  | ']' :: _ => (.closeBracket, 1)
  | c :: _ => (.unexpected c, 1)
  | [] => (.stop, 0)

/-- What a closing brace stands for. -/
def closeBrace (l : Lexer) (rest : List Char) : Token × Lexer :=
  let isShown := match l.last with
    | .newline | .semicolon | .closing | .closeBrace => true
    | _ => false
  if l.braces = 0 then
    let after := ({ l with rest }).skipBlanks
    (.extra '\x7d',
      match after.rest with
      | ';' :: rest => { after with rest }
      | _ => after)
  else if isShown then
    let l := { l with rest, braces := l.braces - 1 }
    let after := l.skipBlanks
    let l := match after.rest with
      | ';' :: rest => if l.braces = 0 then { after with rest } else l
      | _ => l
    (.closeBrace, l.skipLines)
  else (.closing, l)

/-- The next token. -/
def next (l : Lexer) : Except Runaway (Token × Lexer) := do
  let l := l.skipBlanks
  let l := { l with start := l.line }
  let known (token : Token) (l : Lexer) : Except Runaway (Token × Lexer) :=
    let continues := match token with
      | .openBrace | .and | .or | .comma | .semicolon | .keyword .doWord
      | .keyword .elseWord => true
      | _ => false
    let printing := match token with
      | .keyword .print | .keyword .printFormatted => true
      | .output _ | .newline | .semicolon | .closing => false
      | _ => l.printing
    let l := { l with last := token, printing }
    .ok (token, if continues then l.skipLines else l)
  match l.rest with
  | [] => known .stop l
  | c :: rest =>
    let taken (token : Token) : Except Runaway (Token × Lexer) := known token { l with rest }
    match c with
    | '\n' => known .newline ({ l with rest, line := l.line + 1 }).skipLines
    | ';' => taken .semicolon
    | ',' => taken .comma
    | '\x7b' => known .openBrace { l with rest, braces := l.braces + 1 }
    | '\x7d' =>
      match closeBrace l rest with
      | (.extra c, l) => .ok (.extra c, l)
      | (token, l) => known token l
    | '(' => known .openParen { l with rest, parens := l.parens + 1 }
    | ')' =>
      if l.parens = 0 then .ok (.extra ')', { l with rest })
      else known .closeParen { l with rest, parens := l.parens - 1 }
    | '"' =>
      let (chars, rest) ← textEnd rest []
      let lines := ((l.rest.take (l.rest.length - rest.length)).filter (· = '\n')).length
      known (.text (unescape (String.ofList chars))) { l with rest, line := l.line + lines }
    | '.' =>
      if rest.head?.any Char.isDigit then
        let (x, source, rest) := numberOf l.rest
        known (.number x source) { l with rest }
      else known (.unexpected '.') { l with rest := rest.drop 1 }
    | _ =>
      if c.isDigit then
        let (x, source, rest) := numberOf l.rest
        known (.number x source) { l with rest }
      else if Octets.isNameStart c then
        let (word, rest) := Octets.splitName l.rest
        known (wordToken (String.ofList word) rest) { l with rest }
      else if c = '/' ∧ !l.last.allowsDivision then
        let isLost := l.last matches .step _ && rest.head? ≠ some '='
        let (source, rest) ← patternEnd none (if isLost then rest.drop 1 else rest) []
        known (.pattern (String.ofList source)) { l with rest }
      else
        let (token, size) := sign (l.printing && l.parens = 0) l.rest
        known token { l with rest := l.rest.drop size }

end Lexer

end Records

end FileScript.Shell
