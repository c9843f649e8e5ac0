import FileScript.Shell.Token

/-!
# Reading shell commands

A command text is read one line at a time, because what a line does can change how the next one is
read. A line holds a list of commands; the lists inside compound commands may go over several lines.
-/

namespace FileScript.Shell

namespace Reader

/-- The built-in commands that no function can have the name of. -/
def reservedNames : List String :=
  [".", ":", "break", "continue", "eval", "exec", "exit", "export", "local", "readonly", "return",
    "set", "shift", "times", "trap", "unset"]

/-- The expectation where a command can begin. -/
def commandStart : Expectation := { keywords := true, aliases := true }

/-- The expectation where a command is due and can stand on another line. -/
def laterCommand : Expectation := { passesLineEnds := true, keywords := true, aliases := true }

/-- Whether a word gives a variable a value. -/
def isAssignment (w : Word) : Bool :=
  match w with
  | .char c false :: rest => Octets.isNameStart c && afterName rest
  | _ => false
where
  /-- Whether the rest of a name is followed by an equals sign. -/
  afterName : Word → Bool
    | .char c false :: rest => c = '=' || Octets.isNameChar c && afterName rest
    | _ => false

/-- A command that is not waited for. -/
def inBackground : Command → Command
  | .redirected line body redirections => .background line body redirections
  | .pipeline commands => .background 0 (.pipeline commands) []
  | body => .background 0 body []

/-- A command after others. -/
def after (earlier : Option Command) (later : Command) : Command :=
  match earlier with
  | some c => .sequence c later
  | none => later

/-- Reads what a redirection leads to. -/
def redirection (subs : Substitutions) (fuel descriptor : Nat) (operator : String) :
    Reader Redirection := do
  let isDocument := operator = "<<" ∨ operator = "<<-"
  match ← token subs { purpose := if isDocument then .ending else .plain } fuel with
  | .word w quoted =>
    if isDocument then
      let index := (← get).documents.size
      let pending : PendingDocument := {
        index, ending := w.text?.getD "", stripsTabs := operator = "<<-", expands := !quoted }
      modify fun s =>
        { s with documents := s.documents.push [], pending := s.pending ++ [pending] }
      return .document descriptor index
    else match operator with
      | ">&" | "<&" => return .duplicate descriptor w
      | "<" => return .file descriptor .read w
      | "<>" => return .file descriptor .readWrite w
      | ">>" => return .file descriptor .append w
      | ">|" => return .file descriptor .overwrite w
      | _ => return .file descriptor .write w
  | _ => unexpected

/-- Reads redirections as long as there are any. -/
def redirections (subs : Substitutions) : Nat → Expectation → List Redirection →
    Reader (List Redirection)
  | 0, _, found => return found
  | fuel + 1, e, found => do
    match ← token subs e fuel with
    | .redirect descriptor operator =>
      redirections subs fuel {} (found ++ [← redirection subs fuel descriptor operator])
    | _ =>
      takeBack
      return found

/-- Reads words as long as there are any. The token after them has been read then. -/
def words (subs : Substitutions) : Nat → List Word → Reader (List Word)
  | 0, found => return found.reverse
  | fuel + 1, found => do
    match ← token subs {} fuel with
    | .word w _ => words subs fuel (w :: found)
    | _ => return found.reverse

/-- Reads the patterns of a clause, up to the parenthesis that closes them. The first has just been
read. -/
def patterns (subs : Substitutions) : Nat → List Word → Reader (List Word)
  | 0, found => return found
  | fuel + 1, found => do
    let found := found ++ [(← get).lastWord]
    match ← token subs {} fuel with
    | .bar =>
      discard (token subs {} fuel)
      patterns subs fuel found
    | .closeParen => return found
    | _ => unexpectedFor "\")\""

/-- Reads a keyword that has to come next. -/
def expect (subs : Substitutions) (fuel : Nat) (e : Expectation) (k : Keyword) : Reader Unit := do
  unless (← token subs e fuel).isKeyword k do unexpectedFor (Token.keyword k).name

/-- The parts of a simple command that have been read, each last first. -/
structure SimpleDraft where
  assignments : List Word := []
  words : List Word := []
  redirections : List Redirection := []

mutual

/-- Reads commands up to the end of a list. At the top, a list ends with its line, and there is none
at the end of the text. Elsewhere, `mayEnd` says whether the list can end at once. -/
def list : Nat → (top mayEnd : Bool) → Option Command → Reader (Option Command)
  | 0, _, _, earlier => return earlier
  | fuel + 1, top, mayEnd, earlier => do
    let subs := substitutions fuel
    let atEnd : Reader Unit := do
      documents subs fuel
      modify ({ · with last := .endOfText, takenBack := true })
    match ← token subs { commandStart with passesLineEnds := !top } fuel with
    | .lineEnd =>
      documents subs fuel
      return earlier <|> some .nothing
    | .endOfText =>
      atEnd
      return earlier <|> if top then none else some .nothing
    | t =>
      takeBack
      if !top ∧ mayEnd ∧ t.endsList then return earlier <|> some .nothing
      let c ← andOr fuel (← pipeline fuel)
      match ← token subs {} fuel with
      | .ampersand => list fuel top true (after earlier (inBackground c))
      | .semicolon => list fuel top true (after earlier c)
      | .lineEnd =>
        takeBack
        list fuel top true (after earlier c)
      | .endOfText =>
        atEnd
        return some (after earlier c)
      | _ =>
        if top then unexpected
        takeBack
        return some (after earlier c)

/-- Reads the pipelines that are joined to one that has been read. -/
def andOr : Nat → Command → Reader Command
  | 0, c => return c
  | fuel + 1, c => do
    let subs := substitutions fuel
    match ← token subs {} fuel with
    | .doubleAmpersand =>
      andOr fuel (.onSuccess c (← laterPipeline fuel))
    | .doubleBar =>
      andOr fuel (.onFailure c (← laterPipeline fuel))
    | _ =>
      takeBack
      return c

/-- Reads a pipeline that can stand on another line. -/
def laterPipeline : Nat → Reader Command
  | 0 => return .nothing
  | fuel + 1 => do
    discard (token (substitutions fuel) laterCommand fuel)
    takeBack
    pipeline fuel

/-- Reads a pipeline. -/
def pipeline : Nat → Reader Command
  | 0 => return .nothing
  | fuel + 1 => do
    let subs := substitutions fuel
    let negated := (← token subs {} fuel).isKeyword .not
    if negated then
      discard (token subs commandStart fuel)
    takeBack
    let first ← command fuel
    let rest ← pipedCommands fuel
    let whole := if rest = [] then first else .pipeline (first :: rest)
    return if negated then .negated whole else whole

/-- Reads the further commands of a pipeline. -/
def pipedCommands : Nat → Reader (List Command)
  | 0 => return []
  | fuel + 1 => do
    let subs := substitutions fuel
    match ← token subs {} fuel with
    | .bar =>
      discard (token subs laterCommand fuel)
      takeBack
      let c ← command fuel
      return c :: (← pipedCommands fuel)
    | _ =>
      takeBack
      return []

/-- Reads a command. -/
def command : Nat → Reader Command
  | 0 => return .nothing
  | fuel + 1 => do
    let subs := substitutions fuel
    let line := (← get).line
    let inner : Reader Command := return (← list fuel false false none).getD .nothing
    let closed (k : Keyword) (body : Command) : Reader Command := do
      expect subs fuel {} k
      withRedirections fuel line body
    match ← token subs {} fuel with
    | .keyword .if => do
      let test ← inner
      expect subs fuel {} .then
      let success ← inner
      closed .fi (.conditional test success (← elsePart fuel))
    | .keyword .while => do
      let test ← inner
      expect subs fuel {} .do
      closed .done (.loop false test (← inner))
    | .keyword .until => do
      let test ← inner
      expect subs fuel {} .do
      closed .done (.loop true test (← inner))
    | .keyword .for => do
      let name ← forName subs fuel
      let items ← forWords subs fuel
      expect subs fuel laterCommand .do
      closed .done (.forEach line name items (← inner))
    | .keyword .case => do
      match ← token subs {} fuel with
      | .word w _ => do
        expect subs fuel laterCommand .in
        withRedirections fuel line (.choice line w (← clauses fuel))
      | _ => unexpectedFor "word"
    | .openParen => do
      let body ← inner
      match ← token subs {} fuel with
      | .closeParen => withRedirections fuel line (.subshell line body [])
      | _ => unexpectedFor "\")\""
    | .keyword .openBrace => do
      closed .closeBrace (← inner)
    | .word .. | .redirect .. => do
      takeBack
      simple fuel (← get).line true {}
    | _ => unexpected
where
  /-- Reads the variable of a loop. -/
  forName (subs : Substitutions) (fuel : Nat) : Reader String := do
    match ← token subs {} fuel with
    | .word w false =>
      match w.plainText? with
      | some name =>
        if Octets.isName name then return name else throw "Bad for loop variable"
      | none => throw "Bad for loop variable"
    | _ => throw "Bad for loop variable"
  /-- Reads the words of a loop; without any, it goes over the arguments of the shell. -/
  forWords (subs : Substitutions) (fuel : Nat) : Reader (List Word) := do
    match ← token subs laterCommand fuel with
    | .keyword .in =>
      let items ← words subs fuel []
      match (← get).last with
      | .lineEnd | .semicolon => return items
      | _ => unexpected
    | .semicolon => return [[.mark, .parameter "@" .value [], .mark]]
    | _ =>
      takeBack
      return [[.mark, .parameter "@" .value [], .mark]]

/-- Reads what is done if the test of a condition fails. -/
def elsePart : Nat → Reader Command
  | 0 => return .nothing
  | fuel + 1 => do
    let subs := substitutions fuel
    let inner : Reader Command := return (← list fuel false false none).getD .nothing
    match ← token subs {} fuel with
    | .keyword .elif =>
      let test ← inner
      expect subs fuel {} .then
      let success ← inner
      return .conditional test success (← elsePart fuel)
    | .keyword .else => inner
    | _ =>
      takeBack
      return .nothing

/-- Reads the clauses of a choice. -/
def clauses : Nat → Reader (List Clause)
  | 0 => return []
  | fuel + 1 => do
    let subs := substitutions fuel
    let start : Expectation := { passesLineEnds := true, keywords := true }
    let t ← token subs start fuel
    if t.isKeyword .esac then return []
    match t with
    | .openParen => discard (token subs {} fuel)
    | _ => pure ()
    let found ← patterns subs fuel []
    let body := (← list fuel false true none).getD .nothing
    match ← token subs start fuel with
    | .keyword .esac => return [.clause found body]
    | .doubleSemicolon => return .clause found body :: (← clauses fuel)
    | _ => unexpectedFor "\";;\""

/-- Reads the redirections of a compound command that has been read. -/
def withRedirections : Nat → Nat → Command → Reader Command
  | 0, _, body => return body
  | fuel + 1, line, body => do
    match ← redirections (substitutions fuel) fuel commandStart [], body with
    | [], _ => return body
    | found, .subshell line inner _ => return .subshell line inner found
    | found, _ => return .redirected line body found

/-- Reads the words and the redirections of a simple command, or the function that it turns out to
be. `leading` says whether words can still be assignments. -/
def simple : Nat → Nat → Bool → SimpleDraft → Reader Command
  | 0, _, _, _ => return .nothing
  | fuel + 1, line, leading, d => do
    let subs := substitutions fuel
    match ← token subs { aliases := leading } fuel with
    | .word w _ =>
      if leading ∧ isAssignment w then
        simple fuel line true { d with assignments := w :: d.assignments }
      else simple fuel line false { d with words := w :: d.words }
    | .redirect descriptor operator =>
      let r ← redirection subs fuel descriptor operator
      simple fuel line leading { d with redirections := r :: d.redirections }
    | t =>
      match t, d with
      | .openParen, { assignments := [], words := [w], redirections := [] } =>
        match ← token subs {} fuel with
        | .closeParen => do
          let name := w.plainText?.getD ""
          if !Octets.isName name ∨ name ∈ reservedNames then throw "Bad function name"
          let begin := (← get).line
          discard (token subs laterCommand fuel)
          takeBack
          return .function begin name (← command fuel)
        | _ => unexpectedFor "\")\""
      | _, _ =>
        takeBack
        return .simple line d.assignments.reverse d.words.reverse d.redirections.reverse

/-- The reading of substitutions. -/
def substitutions : Nat → Substitutions
  | 0 => { parenthesized := return .nothing, ofText := fun _ => return .nothing }
  | fuel + 1 => {
      parenthesized := do
        let outer := (← get).pending
        let subs := substitutions fuel
        modify ({ · with pending := [], takenBack := false })
        let body ← list fuel false true none
        match ← token subs {} fuel with
        | .closeParen => pure ()
        | _ => unexpectedFor "\")\""
        let rest := (← get).rest
        modify ({ · with rest := [] })
        documents subs fuel
        modify ({ · with rest, pending := outer })
        return body.getD .nothing
      ofText := fun text => do
        let before ← get
        set { before with rest := text, line := 1, pending := [], takenBack := false }
        let body ← list fuel false true none
        modify fun s => { s with
          rest := before.rest, line := before.line, pending := before.pending, takenBack := false }
        return body.getD .nothing }

end

/-- Reads the next line of commands; there is none at the end of the text. -/
def line (fuel : Nat) : Reader (Option Command) := do
  modify ({ · with takenBack := false, pending := [] })
  list fuel true false none

/-- A bound for the depth of the reading of a text. -/
def fuelFor (text : List Char) : Nat := 64 * (text.length + 2)

end Reader

end FileScript.Shell
