import FileScript.Shell.Octets
import FileScript.Shell.Syntax

/-!
# Reading the tokens of shell commands

A command text is read as operators, redirections and words. Words need most of the work: what a
character means depends on the quotations, substitutions and calculations in which it stands. The
reading of commands inside substitutions is a parameter here.
-/

namespace FileScript.Shell

/-- The words that have a meaning of their own where a command can begin. -/
inductive Keyword where
  | not
  | case
  | do
  | done
  | elif
  | else
  | esac
  | fi
  | for
  | if
  | in
  | then
  | until
  | while
  | openBrace
  | closeBrace
  deriving DecidableEq, Repr, Inhabited

namespace Keyword

/-- How a keyword is written. -/
def text : Keyword → String
  | not => "!"
  | case => "case"
  | .do => "do"
  | done => "done"
  | elif => "elif"
  | .else => "else"
  | esac => "esac"
  | fi => "fi"
  | .for => "for"
  | .if => "if"
  | .in => "in"
  | .then => "then"
  | .until => "until"
  | .while => "while"
  | openBrace => "\x7b"
  | closeBrace => "\x7d"

/-- All keywords. -/
def all : List Keyword :=
  [not, case, .do, done, elif, .else, esac, fi, .for, .if, .in, .then, .until, .while, openBrace,
    closeBrace]

/-- The keyword that is written as a text. -/
def ofText? (text : String) : Option Keyword := all.find? (·.text = text)

end Keyword

/-- A token of a command text. -/
inductive Token where
  | endOfText
  | lineEnd
  | semicolon
  | doubleSemicolon
  | ampersand
  | doubleAmpersand
  | bar
  | doubleBar
  | openParen
  | closeParen
  | word (w : Word) (quoted : Bool)
  | keyword (k : Keyword)
  /-- The operator of a redirection, of a descriptor. -/
  | redirect (descriptor : Nat) (operator : String)

instance : Inhabited Token := ⟨.endOfText⟩

namespace Token

/-- How a token is named in an error. -/
def name : Token → String
  | endOfText => "end of file"
  | lineEnd => "newline"
  | semicolon => "\";\""
  | doubleSemicolon => "\";;\""
  | ampersand => "\"&\""
  | doubleAmpersand => "\"&&\""
  | bar => "\"|\""
  | doubleBar => "\"||\""
  | openParen => "\"(\""
  | closeParen => "\")\""
  | word .. => "word"
  | keyword k => s!"\"{k.text}\""
  | redirect .. => "redirection"

/-- Whether a list of commands can end before a token. -/
def endsList : Token → Bool
  | endOfText | doubleSemicolon | closeParen => true
  | keyword k => k ∈ [.do, .done, .elif, .else, .esac, .fi, .then, .closeBrace]
  | _ => false

/-- Whether a token is a keyword. -/
def isKeyword (t : Token) (k : Keyword) : Bool :=
  match t with
  | keyword j => j = k
  | _ => false

end Token

/-- A text that is still to be read for a redirection: it ends before a line that consists of
`ending`. -/
structure PendingDocument where
  index : Nat
  ending : String
  /-- Whether tabs at the beginnings of lines are left out. -/
  stripsTabs : Bool
  /-- Whether expansions in the text are carried out. -/
  expands : Bool

/-- The state of reading. -/
structure ReaderState where
  rest : List Char
  line : Nat := 1
  /-- The last token, which can be taken back. -/
  last : Token := .endOfText
  takenBack : Bool := false
  /-- The last word, which stays in force while other tokens are read. -/
  lastWord : Word := []
  pending : List PendingDocument := []
  /-- The texts of redirections that have been read. -/
  documents : Array Word := #[]
  aliases : List (String × String) := []
  /-- The aliases whose texts are being read, the innermost first. -/
  activeAliases : List String := []
  /-- Whether the next word can be an alias because the text of one has just ended with a space. -/
  aliasFollows : Bool := false

/-- Computations that read commands; they fail with the reason why a text has no meaning. -/
abbrev Reader := EStateM String ReaderState

namespace Reader

/-- Stands in the text where the text of an alias ends. It is no byte. -/
def aliasEnd : Char := '\uE000'

/-- Stands there if the text of the alias ends with a space. -/
def openAliasEnd : Char := '\uE001'

/-- The next character, which stays to be read. -/
def peek? : Reader (Option Char) := fun s =>
  let (rest, active, follows) := settle s.rest s.activeAliases s.aliasFollows
  .ok rest.head? { s with rest, activeAliases := active, aliasFollows := follows }
where
  /-- Leaves the texts of aliases that have been read. -/
  settle (rest : List Char) (active : List String) (follows : Bool) :
      List Char × List String × Bool :=
    match rest with
    | c :: more =>
      if c = aliasEnd then settle more active.tail follows
      else if c = openAliasEnd then settle more active.tail true
      else (rest, active, follows)
    | [] => ([], active, follows)

/-- Passes the next character. -/
def skip : Reader Unit := modify fun s =>
  match s.rest with
  | '\n' :: rest => { s with rest, line := s.line + 1 }
  | rest => { s with rest := rest.tail }

/-- Passes the next character, which does not count as the end of a line. -/
def skipInLine : Reader Unit := modify fun s => { s with rest := s.rest.tail }

/-- Passes backslashes that stand before line ends, with the line ends, and yields what comes then.
A text that has been left is not looked at again. -/
def peekJoined? : Reader (Option Char) := do
  let found ← peek?
  if found = some '\\' then
    modify fun s =>
      let (rest, joined) := join s.rest 0
      { s with rest, line := s.line + joined }
    peek?
  else return found
where
  /-- A text without the joined line ends at its beginning, and their number. -/
  join (rest : List Char) (count : Nat) : List Char × Nat :=
    match rest with
    | '\\' :: '\n' :: more => join more (count + 1)
    | _ => (rest, count)

/-- Passes a character if it comes next, after joined lines. -/
def accept (c : Char) : Reader Bool := do
  if (← peekJoined?) = some c then
    skip
    return true
  else return false

/-! ## Words -/

/-- What characters mean in a part of a word. -/
inductive Manner where
  | bare
  | double
  | single
  | calculation
  deriving DecidableEq, Repr, Inhabited

/-- How a part of a word is read. -/
structure Level where
  manner : Manner
  /-- Whether it stands in double quotes. -/
  doubled : Bool := false
  /-- Whether a quotation inside an expansion that stands in double quotes is going on. -/
  innerDoubled : Bool := false
  /-- How many expansions in braces are not closed. -/
  expansions : Nat := 0
  /-- How many of them are in double quotes. -/
  doubledExpansions : Nat := 0
  /-- How many parentheses of a calculation are not closed. -/
  parens : Nat := 0
  /-- Whether the level was begun for an expansion. -/
  temporary : Bool := false

/-- A construct inside a word that is not closed, with what comes before it, last first. -/
inductive Opening where
  | parameter (name : String) (form : ParameterForm) (before : List Fragment)
  | arithmetic (before : List Fragment)

/-- A word that is being read. -/
structure Draft where
  level : Level
  outer : List Level := []
  openings : List Opening := []
  /-- What has been read in the innermost construct, last first. -/
  fragments : List Fragment := []
  quoted : Bool := false

namespace Draft

/-- A draft with one more fragment. -/
def push (d : Draft) (f : Fragment) : Draft := { d with fragments := f :: d.fragments }

/-- A draft with one more character, which is as much quoted as its surroundings. -/
def pushChar (d : Draft) (c : Char) : Draft :=
  d.push (.char c (d.level.manner = .double || d.level.manner = .single))

/-- Begins a level. -/
def enter (d : Draft) (level : Level) : Draft := { d with level, outer := d.level :: d.outer }

/-- Ends a level. -/
def leave (d : Draft) : Draft :=
  match d.outer with
  | level :: outer => { d with level, outer }
  | [] => d

/-- Closes the innermost construct. -/
def close (d : Draft) : Draft :=
  match d.openings with
  | .parameter name form before :: openings =>
    { d with openings, fragments := .parameter name form d.fragments.reverse :: before }
  | .arithmetic before :: openings =>
    { d with openings, fragments := .arithmetic d.fragments.reverse :: before }
  | [] => d

/-- Begins an expansion in braces whose argument is read in some manner. -/
def beginExpansion (d : Draft) (name : String) (form : ParameterForm) (manner : Manner) : Draft :=
  let manner := if manner = .calculation then .double else manner
  let d := { d with openings := .parameter name form d.fragments :: d.openings, fragments := [] }
  let d := if manner ≠ d.level.manner ∨ d.level.innerDoubled then
      d.enter { manner, doubled := manner ≠ .bare, temporary := true }
    else d
  let level : Level := { d.level with expansions := d.level.expansions + 1 }
  { d with level :=
      if level.doubled then { level with doubledExpansions := level.doubledExpansions + 1 }
      else level }

/-- Ends an expansion in braces. -/
def endExpansion (d : Draft) : Draft :=
  let d := d.close
  let level : Level := { d.level with expansions := d.level.expansions - 1 }
  if level.expansions = 0 ∧ level.temporary then d.leave
  else { d with level := { level with doubledExpansions := level.doubledExpansions - 1 } }

/-- Begins a calculation. -/
def beginCalculation (d : Draft) : Draft :=
  { d with openings := .arithmetic d.fragments :: d.openings, fragments := [] }.enter
    { manner := .calculation, doubled := true }

/-- Notes a quotation mark; a double one can begin or end a quotation inside an expansion. -/
def toggle (d : Draft) (isDouble inDocument : Bool) : Draft :=
  let d := if isDouble ∧ d.level.expansions > 0 then
      { d with level := { d.level with innerDoubled := !d.level.innerDoubled } }
    else d
  if inDocument then d else d.push .mark

/-- Begins a quotation. -/
def openQuote (d : Draft) (isDouble inDocument : Bool) : Draft :=
  let level := if isDouble then { d.level with manner := .double, doubled := true }
    else { d.level with manner := .single }
  { d with level }.toggle isDouble inDocument

/-- Ends a quotation. -/
def closeQuote (d : Draft) (isDouble inDocument : Bool) : Draft :=
  let level := if d.level.doubledExpansions = 0 then
      { d.level with manner := .bare, doubled := false }
    else d.level
  { d with level, quoted := true }.toggle isDouble inDocument

end Draft

/-- What a character does in a word. -/
inductive Role where
  | plain
  | lineEnd
  | backslash
  | singleQuote
  | doubleQuote
  /-- Ends the quotation in which it stands. -/
  | endQuote
  | dollar
  | closeBrace
  | backquote
  | openParen
  | closeParen
  /-- Ends a word. -/
  | boundary
  deriving DecidableEq, Repr, Inhabited

/-- What a character does in a word that is read in some manner. -/
def Manner.role (manner : Manner) (c : Char) : Role :=
  if c = '\n' then .lineEnd
  else match manner with
    | .single => if c = '\'' then .endQuote else .plain
    | .bare =>
      if c = '\\' then .backslash
      else if c = '\'' then .singleQuote
      else if c = '"' then .doubleQuote
      else if c = '\x60' then .backquote
      else if c = '$' then .dollar
      else if c = '\x7d' then .closeBrace
      else if c ∈ ['<', '>', '(', ')', ';', '&', '|', ' ', '\t'] then .boundary
      else .plain
    | .double =>
      if c = '\\' then .backslash
      else if c = '"' then .endQuote
      else if c = '\x60' then .backquote
      else if c = '$' then .dollar
      else if c = '\x7d' then .closeBrace
      else .plain
    | .calculation =>
      if c = '\\' then .backslash
      else if c = '\x60' then .backquote
      else if c = '$' then .dollar
      else if c = '\x7d' then .closeBrace
      else if c = '(' then .openParen
      else if c = ')' then .closeParen
      else .plain

/-- Whether a character is the name of a variable that the shell itself sets. -/
def isSpecialName (c : Char) : Bool := c ∈ ['!', '#', '$', '*', '-', '?', '@'] || c.isDigit

/-- Reads characters as long as they pass a test and yields them after others, which are given last
first. -/
def charsWhile (p : Char → Bool) : Nat → List Char → Reader String
  | 0, chars => return String.ofList chars.reverse
  | fuel + 1, chars => do
    match ← peekJoined? with
    | some c =>
      if p c then
        skip
        charsWhile p fuel (c :: chars)
      else return String.ofList chars.reverse
    | none => return String.ofList chars.reverse

/-- What an expansion in braces begins with: the name and the form, and whether the expansion is
closed already. -/
abbrev ExpansionHead := String × ParameterForm × Bool

/-- Reads what follows the name in an expansion. -/
def expansionForm (name : String) : Reader ExpansionHead := do
  let found ← peekJoined?
  skipInLine
  let orElse (c : Option Char) (emptyIsUnset : Bool) : ExpansionHead :=
    match c with
    | some '-' => (name, .orElse .substitute emptyIsUnset, false)
    | some '+' => (name, .orElse .alternative emptyIsUnset, false)
    | some '?' => (name, .orElse .demand emptyIsUnset, false)
    | some '=' => (name, .orElse .assign emptyIsUnset, false)
    | some '\x7d' => (name, if emptyIsUnset then .bad else .value, !emptyIsUnset)
    | _ => (name, .bad, false)
  match found with
  | some ':' =>
    let after ← peekJoined?
    skipInLine
    return orElse after true
  | some '%' => return (name, .trim true (← accept '%'), false)
  | some '#' => return (name, .trim false (← accept '#'), false)
  | _ => return orElse found false

/-- Reads what follows the name in an expansion that asks for a size. -/
def sizeForm (name : String) : Reader ExpansionHead := do
  return (name, if (← peekJoined?) = some '\x7d' then .size else .bad, false)

/-- Reads an expansion up to its form, after the opening brace. -/
def expansionHead (fuel : Nat) : Reader ExpansionHead := do
  match ← peekJoined? with
  | none => return ("", .bad, false)
  | some c =>
    if Octets.isNameStart c then expansionForm (← charsWhile Octets.isNameChar fuel [])
    else if c.isDigit then expansionForm (← charsWhile Char.isDigit fuel [])
    else if c = '\x7d' then return ("", .bad, false)
    else
      skipInLine
      if c ≠ '#' then
        if isSpecialName c then expansionForm c.toString else return ("", .bad, false)
      else match ← peekJoined? with
        | none => expansionForm "#"
        | some d =>
          if Octets.isNameStart d then sizeForm (← charsWhile Octets.isNameChar fuel [])
          else if d.isDigit then sizeForm (← charsWhile Char.isDigit fuel [])
          else if d = '\x7d' then expansionForm "#"
          else
            let before ← get
            skip
            if (← peekJoined?) = some '\x7d' then
              return if isSpecialName d then (d.toString, .size, false) else ("", .bad, false)
            set before
            expansionForm "#"

/-- Reads the text of a substitution in backquotes, up to its end. -/
def backquoted (doubled : Bool) : Nat → List Char → Reader (List Char)
  | 0, _ => throw "EOF in backquote substitution"
  | fuel + 1, chars => do
    match ← peekJoined? with
    | none => throw "EOF in backquote substitution"
    | some '\x60' =>
      skip
      return chars.reverse
    | some '\\' =>
      skip
      match ← peek? with
      | none => backquoted doubled fuel ('\\' :: chars)
      | some c =>
        skip
        if c = '\\' ∨ c = '\x60' ∨ c = '$' ∨ c = '"' ∧ doubled then
          backquoted doubled fuel (c :: chars)
        else backquoted doubled fuel (c :: '\\' :: chars)
    | some c =>
      skip
      backquoted doubled fuel (c :: chars)

/-- How substitutions are read: those in parentheses, after the opening one, and those whose text
has been found already. -/
structure Substitutions where
  parenthesized : Reader Command
  ofText : List Char → Reader Command

/-- How a word is read that is not simply a word of a command. -/
inductive Purpose where
  | plain
  /-- The word after which the text of a redirection ends. -/
  | ending
  /-- The text of a redirection. -/
  | document (d : PendingDocument)

/-- Whether the text of a redirection is read. -/
def Purpose.isDocument : Purpose → Bool
  | document _ => true
  | _ => false

/-- Reads what a dollar sign begins. -/
def dollar (subs : Substitutions) (purpose : Purpose) (fuel : Nat) (d : Draft) : Reader Draft := do
  let found ← peekJoined?
  match found, purpose with
  | none, _ | _, .ending => return d.pushChar '$'
  | some c, _ =>
    if c = '(' then
      skip
      if ← accept '(' then return d.beginCalculation
      return d.push (.command (← subs.parenthesized))
    else if c = '\x7b' then
      skip
      let (name, form, closed) ← expansionHead fuel
      if closed then return d.push (.parameter name form [])
      let manner := match form with
        | .trim .. => .bare
        | _ => d.level.manner
      return d.beginExpansion name form manner
    else if Octets.isNameStart c then
      return d.push (.parameter (← charsWhile Octets.isNameChar fuel []) .value [])
    else if isSpecialName c then
      skip
      return d.push (.parameter c.toString .value [])
    else return d.pushChar '$'

/-- Reads what a backslash begins. -/
def backslash (purpose : Purpose) (d : Draft) : Reader Draft := do
  match ← peek? with
  | none => return d.push (.char '\\' true)
  | some c =>
    skip
    let nested := d.level.expansions > 0
    let keeps := d.level.doubled && !(c ∈ ['\\', '\x60', '$'])
      && !(c = '"' && (!purpose.isDocument || nested)) && !(c = '\x7d' && nested)
    let d := if keeps then d.push (.char '\\' true) else d
    return { d.push (.char c true) with quoted := true }

/-- The text after the line that ends the text of a redirection, if the next line is that one, and
whether a line end is passed. -/
def afterEnding? (d : PendingDocument) (rest : List Char) : Option (List Char × Bool) :=
  let mark := d.ending.toList
  if rest.take mark.length = mark then
    match rest.drop mark.length with
    | [] => some ([], false)
    | '\n' :: more => some (more, true)
    | _ => none
  else none

/-- Looks at the beginning of a line: whether the text of a redirection ends here. -/
def atEnding (purpose : Purpose) : Reader Bool := do
  match purpose with
  | .document d =>
    if d.stripsTabs then modify fun s => { s with rest := s.rest.dropWhile (· = '\t') }
    match afterEnding? d (← get).rest with
    | some (rest, passed) =>
      modify fun s => { s with rest, line := if passed then s.line + 1 else s.line }
      return true
    | none => return false
  | _ => return false

/-- Reads the fragments of a word. `fresh` says whether a line begins. -/
def fragments (subs : Substitutions) (purpose : Purpose) : Nat → Bool → Draft → Reader Draft
  | 0, _, d => return d
  | fuel + 1, fresh, d => do
    if fresh then
      if ← atEnding purpose then return d
    let found ← if d.level.manner = .single then peek? else peekJoined?
    match found with
    | none => return d
    | some c =>
      let isDouble := c = '"'
      match d.level.manner.role c with
      | .plain =>
        skip
        fragments subs purpose fuel false (d.pushChar c)
      | .lineEnd =>
        if d.level.manner = .bare ∧ d.level.expansions = 0 then return d
        skip
        fragments subs purpose fuel true (d.pushChar c)
      | .boundary =>
        if d.level.expansions = 0 then return d
        skip
        fragments subs purpose fuel false (d.pushChar c)
      | .backslash =>
        skip
        fragments subs purpose fuel false (← backslash purpose d)
      | .singleQuote | .doubleQuote =>
        skip
        fragments subs purpose fuel false (d.openQuote isDouble purpose.isDocument)
      | .endQuote =>
        skip
        if purpose.isDocument ∧ d.level.expansions = 0 then
          fragments subs purpose fuel false (d.pushChar c)
        else fragments subs purpose fuel false (d.closeQuote isDouble purpose.isDocument)
      | .dollar =>
        skip
        fragments subs purpose fuel false (← dollar subs purpose fuel d)
      | .closeBrace =>
        skip
        if d.level.expansions > 0 ∧ ¬d.level.innerDoubled then
          fragments subs purpose fuel false d.endExpansion
        else fragments subs purpose fuel false (d.pushChar c)
      | .openParen =>
        skip
        let level : Level := { d.level with parens := d.level.parens + 1 }
        fragments subs purpose fuel false ({ d with level }.pushChar c)
      | .closeParen =>
        skip
        if d.level.parens > 0 then
          let level : Level := { d.level with parens := d.level.parens - 1 }
          fragments subs purpose fuel false ({ d with level }.pushChar c)
        else if ← accept ')' then fragments subs purpose fuel false d.close.leave
        else fragments subs purpose fuel false (d.pushChar c)
      | .backquote =>
        skip
        match purpose with
        | .ending => fragments subs purpose fuel false { d.pushChar c with quoted := true }
        | _ =>
          let text ← backquoted d.level.doubled fuel []
          fragments subs purpose fuel false (d.push (.command (← subs.ofText text)))

/-- Reads a word to its end and checks that everything in it has been closed. -/
def wholeWord (subs : Substitutions) (purpose : Purpose) (fuel : Nat) (level : Level) :
    Reader Draft := do
  let d ← fragments subs purpose fuel purpose.isDocument { level }
  if d.level.manner = .calculation then throw "Missing '))'"
  if d.level.manner ≠ .bare ∧ ¬purpose.isDocument then throw "Unterminated quoted string"
  if d.level.expansions > 0 then throw "Missing '\x7d'"
  return d

/-- Reads the text of a redirection. -/
def document (subs : Substitutions) (fuel : Nat) (pending : PendingDocument) : Reader Unit := do
  let level : Level := if pending.expands then { manner := .double, doubled := true }
    else { manner := .single }
  if pending.expands then discard peekJoined?
  let d ← wholeWord subs (.document pending) fuel level
  modify fun s =>
    { s with documents := s.documents.setIfInBounds pending.index d.fragments.reverse }

/-- Reads the texts of the redirections that come before the present line. -/
def documents (subs : Substitutions) (fuel : Nat) : Reader Unit := do
  let pending := (← get).pending
  modify ({ · with pending := [] })
  pending.forM (document subs fuel)

/-! ## Tokens -/

/-- Passes a comment. -/
def skipComment : Reader Unit := modify fun s => { s with rest := s.rest.dropWhile (· ≠ '\n') }

/-- Reads the operator of a redirection. -/
def redirectOperator (first : Char) : Reader String := do
  skip
  let second ← peekJoined?
  let follows : List Char := if first = '>' then ['>', '|', '&'] else ['<', '&', '>']
  match second with
  | some c =>
    if c ∈ follows then
      skip
      if first = '<' ∧ c = '<' then return if ← accept '-' then "<<-" else "<<"
      return String.ofList [first, c]
    else return first.toString
  | none => return first.toString

/-- Reads a word, or the redirection that it begins. -/
def wordOrRedirect (subs : Substitutions) (purpose : Purpose) (fuel : Nat) : Reader Token := do
  let d ← wholeWord subs purpose fuel { manner := .bare }
  let word (d : Draft) : Reader Token := do
    let w := d.fragments.reverse
    modify ({ · with lastWord := w })
    return .word w d.quoted
  let descriptor? : Option (Option Nat) := match d.fragments with
    | [] => some none
    | [.char c false] => if c.isDigit then some (some (c.toNat - '0'.toNat)) else none
    | _ => none
  match ← peek?, descriptor? with
  | some c, some descriptor =>
    if (c = '<' ∨ c = '>') ∧ ¬d.quoted then
      let standard := if c = '>' then 1 else 0
      return .redirect (descriptor.getD standard) (← redirectOperator c)
    else word d
  | _, _ => word d

/-- Reads the next token as it stands in the text. -/
def rawToken (subs : Substitutions) (purpose : Purpose) : Nat → Reader Token
  | 0 => return .endOfText
  | fuel + 1 => do
    match ← peekJoined? with
    | none => return .endOfText
    | some c =>
      let one (t : Token) : Reader Token := do
        skip
        return t
      let oneOrTwo (single double : Token) : Reader Token := do
        skip
        return if ← accept c then double else single
      if c = ' ' ∨ c = '\t' then
        skip
        rawToken subs purpose fuel
      else if c = '#' then
        skipComment
        rawToken subs purpose fuel
      else if c = '\n' then one .lineEnd
      else if c = '&' then oneOrTwo .ampersand .doubleAmpersand
      else if c = '|' then oneOrTwo .bar .doubleBar
      else if c = ';' then oneOrTwo .semicolon .doubleSemicolon
      else if c = '(' then one .openParen
      else if c = ')' then one .closeParen
      else wordOrRedirect subs purpose fuel

/-- What is looked for when a token is read. -/
structure Expectation where
  /-- Line ends are passed. -/
  passesLineEnds : Bool := false
  keywords : Bool := false
  aliases : Bool := false
  purpose : Purpose := .plain

/-- The next token, or the last one if it was taken back. -/
def nextRaw (subs : Substitutions) (purpose : Purpose) (fuel : Nat) : Reader Token := do
  let s ← get
  if s.takenBack then
    set { s with takenBack := false }
    return s.last
  else
    let t ← rawToken subs purpose fuel
    modify ({ · with last := t })
    return t

/-- The next token after line ends. -/
def afterLineEnds (subs : Substitutions) (purpose : Purpose) : Nat → Token → Reader Token
  | 0, t => return t
  | fuel + 1, .lineEnd => do
    documents subs fuel
    afterLineEnds subs purpose fuel (← nextRaw subs purpose fuel)
  | _ + 1, t => return t

/-- Puts the text of an alias before what is left. -/
def expandAlias (name value : String) : Reader Unit := modify fun s =>
  let ending := if value.endsWith " " ∨ value.endsWith "\t" then openAliasEnd else aliasEnd
  { s with rest := value.toList ++ ending :: s.rest, activeAliases := name :: s.activeAliases }

/-- Reads the next token. -/
def token (subs : Substitutions) (e : Expectation) : Nat → Reader Token
  | 0 => return .endOfText
  | fuel + 1 => do
    let t ← nextRaw subs e.purpose fuel
    let t ← if e.passesLineEnds then afterLineEnds subs e.purpose fuel t else pure t
    let s ← get
    let e := { e with aliases := e.aliases || s.aliasFollows }
    set { s with aliasFollows := false }
    match t with
    | .word w false =>
      match w.plainText? with
      | none => return t
      | some text =>
        match if e.keywords then Keyword.ofText? text else none with
        | some k =>
          modify ({ · with last := .keyword k })
          return .keyword k
        | none =>
          match if e.aliases ∧ text ∉ s.activeAliases then s.aliases.lookup text else none with
          | some value =>
            unless value = "" do expandAlias text value
            token subs e fuel
          | none => return t
    | _ => return t

/-- Takes the last token back. -/
def takeBack : Reader Unit := modify ({ · with takenBack := true })

/-- Fails because of the last token. -/
def unexpected {α : Type} : Reader α := do
  throw s!"{(← get).last.name} unexpected"

/-- Fails because the last token is not a certain one. -/
def unexpectedFor {α : Type} (due : String) : Reader α := do
  throw s!"{(← get).last.name} unexpected (expecting {due})"

end Reader

end FileScript.Shell
