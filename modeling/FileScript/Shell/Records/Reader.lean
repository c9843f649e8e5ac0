import FileScript.Shell.Records.Token

/-!
# Reading programs for records

A mistake in a statement ends only that statement: what follows is read too, so that more than one
mistake can be told. A name belongs to a variable, a table or a function, as it is first used.
-/

namespace FileScript.Shell

namespace Records

/-- What a name belongs to. -/
inductive Kind where
  | scalar
  | table
  | function
  deriving DecidableEq, Repr, Inhabited

/-- Where in a program a statement stands. -/
inductive Region where
  | outside
  | rule
  | function
  deriving DecidableEq, Repr, Inhabited

/-- What a function is called with. -/
inductive Given where
  | term
  | name (v : Variable)
  deriving DecidableEq, Repr, Inhabited

/-- A call of a function. -/
structure Use where
  name : String
  lead : String
  line : Nat
  arguments : List Given
  /-- What is known of the parameters of the function in which the call stands. -/
  kinds : List (Option Kind) := []
  deriving Repr, Inhabited

/-- A program that is being read. -/
structure Reader where
  lexer : Lexer
  token : Token := .newline
  /-- What is said first about a mistake. It names the file. -/
  lead : String := ""
  /-- The texts that follow, and what is said first about mistakes in them. -/
  later : List (String × String) := []
  names : List (String × Kind)
  /-- The parameters of the present function. -/
  parameters : List (String × Option Kind) := []
  /-- The messages so far, the latest first. -/
  messages : List String := []
  /-- How many more tokens have to be read before another mistake is told. -/
  quiet : Nat := 0
  region : Region := .outside
  loops : Nat := 0
  uses : List Use := []
  functions : List (String × Function) := []
  /-- What is known of the parameters of the functions. -/
  kinds : List (String × List (Option Kind)) := []
  deriving Inhabited

/-- Why reading does not go on. -/
inductive Halt where
  /-- A mistake, which has been told. -/
  | mistake
  /-- Nothing more is read. -/
  | abandon
  deriving DecidableEq, Repr, Inhabited

/-- Steps of reading. -/
abbrev Read := EStateM Halt Reader

namespace Reader

/-- The names that belong to something from the beginning. -/
def knownNames : List (String × Kind) :=
  (["NR", "FNR", "NF", "FS", "OFS", "ORS", "RS", "FILENAME", "SUBSEP", "RSTART", "RLENGTH", "OFMT",
    "CONVFMT", "ARGC"].map (·, Kind.scalar)) ++ (["ARGV", "ENVIRON"].map (·, Kind.table))

/-! ## Mistakes -/

/-- How many mistakes are told. -/
def messageLimit : Nat := 5

/-- Notes a message. -/
def say (text : String) : Read Unit := do
  modify fun r => { r with messages := text :: r.messages }
  if (← get).messages.length ≥ messageLimit then throw .abandon

/-- Tells a mistake. -/
def report (text : String) : Read Unit := do
  let r ← get
  say (r.lead ++ s!"line {r.lexer.start}: {text}")

/-- Ends a statement because of a token that cannot stand where it does. -/
def unfit {α : Type} : Read α := do
  let r ← get
  let shown := r.token.shown
  if r.quiet = 0 then
    let ends := r.token.endsStatement || r.token matches .stop | .closeBrace
    match r.token with
    | .unexpected c => say (s!"{r.lexer.start}: unexpected character '" ++ c.toString ++ "'")
    | _ =>
      if ends ∧ 0 < r.lexer.parens then report s!"missing ) near {shown}"
      else if 0 < r.lexer.braces ∧
          r.token matches .stop | .keyword .beginning | .keyword .ending then
        report ("missing \x7d near " ++ shown)
      else report s!"syntax error at or near {shown}"
  modify ({ · with quiet := 3 })
  if r.token matches .stop then throw .abandon
  throw .mistake

/-! ## Tokens -/

/-- The token that a word stands for, which can be the name of a function. -/
def resolved (token : Token) : Read Token := do
  match token with
  | .name s attached =>
    let r ← get
    if (r.parameters.lookup s).isSome then return token
    match r.names.lookup s with
    | some .function => return .function s
    | some _ => return token
    | none =>
      if attached then
        modify fun r => { r with names := (s, .function) :: r.names }
        return .function s
      else return token
  | _ => return token

/-- Reads the next token. -/
def advanceWithin : Nat → Read Unit
  | 0 => throw .abandon
  | fuel + 1 => do
    let r ← get
    match r.lexer.next with
    | .error runaway =>
      report runaway.message
      throw .abandon
    | .ok (.extra c, lexer) =>
      modify ({ · with lexer })
      report ("extra '" ++ c.toString ++ "'")
      advanceWithin fuel
    | .ok (.stop, lexer) =>
      match r.later with
      | [] => set { r with lexer, token := .stop, quiet := r.quiet - 1 }
      | (lead, text) :: later =>
        let lexer := ({ lexer with rest := text.toList, line := 1 }).skipLines
        set { r with lexer, lead, later }
        advanceWithin fuel
    | .ok (token, lexer) =>
      set { r with lexer, quiet := r.quiet - 1 }
      let token ← resolved token
      modify ({ · with token })

/-- Reads the next token. -/
def advance : Read Unit := do
  let r ← get
  advanceWithin (r.lexer.rest.length + r.later.length + 2)

/-- Passes a token, which has to come here. -/
def expect (isFit : Token → Bool) : Read Unit := do
  if isFit (← get).token then advance else unfit

/-- Passes a closing parenthesis. -/
def expectClose : Read Unit := expect (· matches .closeParen)

/-- Passes an opening parenthesis. -/
def expectOpen : Read Unit := expect (· matches .openParen)

/-- Passes the end of a statement. -/
def separator : Read Unit := expect Token.endsStatement

/-- Passes line ends that have no meaning. -/
def skipNewline : Read Unit := do
  if (← get).token matches .newline then advance

/-! ## Names -/

/-- How a message names something. -/
def kindText (isOwn : Bool) : Kind → String
  | .table => if isOwn then "local array" else "array"
  | .function => "function"
  | .scalar => if isOwn then "local variable" else "variable"

/-- The variable or table with a name, of which nothing is said but its name. -/
def variableOf (name : String) : Read Variable := do
  match (← get).parameters.findIdx? (·.1 = name) with
  | some i => return .own i
  | none => return .shared name

/-- The variable or table with a name. -/
def used (name : String) (kind : Kind) : Read Variable := do
  let r ← get
  match r.parameters.findIdx? (·.1 = name) with
  | some i =>
    match (r.parameters[i]?).bind (·.2) with
    | none =>
      set { r with parameters := r.parameters.modify i fun (name, _) => (name, some kind) }
    | some known =>
      if known ≠ kind then report s!"illegal reference to {kindText true known} {name}"
    return .own i
  | none =>
    match r.names.lookup name with
    | none => set { r with names := (name, kind) :: r.names }
    | some known =>
      if known ≠ kind then report s!"illegal reference to {kindText false known} {name}"
    return .shared name

/-- Learns from a call what the variables belong to that a function is called with. -/
def settle (use : Use) : Read Unit := do
  let kinds := ((← get).kinds.lookup use.name).getD []
  (use.arguments.zip kinds).forM fun (given, kind) => do
    match given, kind with
    | .name (.shared name), some kind =>
      modify fun r =>
        if (r.names.lookup name).isSome then r else { r with names := (name, kind) :: r.names }
    | .name (.own i), some kind =>
      modify fun r => { r with
        parameters := r.parameters.modify i fun (name, known) => (name, known.or (some kind)) }
    | _, _ => return

/-- The pattern that a text denotes. -/
def compiled (source : String) : Read Term := do
  match patternOf source with
  | .ok e => return .pattern e
  | .error mistake =>
    report s!"regular expression compile failed ({mistake.text})\n{source}"
    return .pattern .empty

/-- A term where a pattern is asked for: a constant text is one then. -/
def asPattern (t : Term) : Read Term := do
  match t with
  | .text s => compiled s
  | _ => return t

/-! ## Terms -/

/-- Whether a term can begin with a token, when another one comes before it. -/
def beginsTerm : Token → Bool
  | .number .. | .text _ | .pattern _ | .name .. | .function _ | .builtin _ | .dollar | .not
  | .openParen | .step _ => true
  | .keyword .getline => true
  | _ => false

/-- How closely the signs bind their terms. -/
inductive Level where
  | assignment
  | choice
  | or
  | and
  | member
  | fitting
  | comparison
  | joining
  | sum
  | product
  | sign
  | input
  | power
  deriving DecidableEq, Repr, Inhabited

namespace Level

/-- The rank of a level. -/
def rank (l : Level) : Nat := l.ctorIdx

instance : LE Level := ⟨fun a b => a.rank ≤ b.rank⟩

instance (a b : Level) : Decidable (a ≤ b) := inferInstanceAs (Decidable (a.rank ≤ b.rank))

end Level

/-- The level of an operation, and that of its second term. -/
def operationLevels : Operation → Level × Level
  | .add | .subtract => (.sum, .product)
  | .multiply | .divide | .remainder => (.product, .sign)
  | .power => (.power, .power)

mutual

/-- Reads a term whose signs bind at least as closely as a level. With `isOpen`, it may be an
assignment. -/
def term : Nat → Level → (isOpen : Bool) → Read Term
  | 0, _, _ => throw .abandon
  | fuel + 1, level, isOpen => do
    let first ← first fuel isOpen
    continued fuel level first

/-- Reads a whole term. -/
def wholeTerm : Nat → Read Term
  | 0 => throw .abandon
  | fuel + 1 => term fuel .assignment true

/-- Reads what follows a term. -/
def continued : Nat → Level → Term → Read Term
  | 0, _, _ => throw .abandon
  | fuel + 1, level, left => do
    let token := (← get).token
    let goOn (left : Term) : Read Term := continued fuel level left
    let paired (second : Level) (isOpen : Bool) (make : Term → Term) : Read Term := do
      advance
      goOn (make (← term fuel second isOpen))
    match token with
    | .question =>
      if level ≤ .choice then
        advance
        let yes ← wholeTerm fuel
        expect (· matches .colon)
        goOn (.choice left yes (← term fuel .choice true))
      else return left
    | .or => if level ≤ .or then paired .and true (.or left) else return left
    | .and => if level ≤ .and then paired .member true (.and left) else return left
    | .keyword .member =>
      if level ≤ .member then
        advance
        goOn (.member [left] (← tableName))
      else return left
    | .fitting negated =>
      if level ≤ .fitting then
        advance
        let right ← term fuel .comparison true
        goOn (.fitting negated left (← asPattern right))
      else return left
    | .comparison c =>
      if level ≤ .comparison then paired .joining true (.comparison c left) else return left
    | .pipe =>
      if level ≤ .input then
        advance
        expect (· matches .keyword .getline)
        goOn (.readCommand (← target? fuel) left)
      else return left
    | .operation o =>
      let (own, second) := operationLevels o
      if level ≤ own then paired second false (.operation o left) else return left
    | token =>
      if level ≤ .joining ∧ beginsTerm token then
        goOn (.joined left (← term fuel .sum false))
      else return left

/-- Reads a term without signs between its parts. -/
def first : Nat → (isOpen : Bool) → Read Term
  | 0, _ => throw .abandon
  | fuel + 1, isOpen => do
    let r ← get
    match r.token with
    | .number x source =>
      if x.isInf ∨ x != 0 ∧ x < 2.2250738585072014e-308 then
        report s!"{source} : decimal overflow"
      advance
      return .number x
    | .text s =>
      advance
      return .text s
    | .pattern source =>
      let t ← compiled source
      advance
      return t
    | .not =>
      advance
      return .not (← term fuel .sign false)
    | .operation .subtract =>
      advance
      return .negative (← term fuel .sign false)
    | .operation .add =>
      advance
      return .positive (← term fuel .sign false)
    | .step up =>
      advance
      return .step .before up (← place fuel)
    | .dollar => afterPlace fuel isOpen (← place fuel)
    | .name s _ =>
      advance
      afterPlace fuel isOpen (← afterName fuel s)
    | .function s => call fuel s
    | .builtin b => builtinCall fuel b
    | .keyword .getline =>
      advance
      let target ← target? fuel
      if (← get).token matches .comparison .less then
        advance
        return .readFile target (← term fuel .power false)
      else return .read target
    | .openParen =>
      advance
      let found ← terms fuel
      expectClose
      match found with
      | [t] => return t
      | _ =>
        expect (· matches .keyword .member)
        return .member found (← tableName)
    | _ => unfit

/-- Reads the name of a table. -/
def tableName : Read Variable := do
  match (← get).token with
  | .name s _ =>
    let v ← used s .table
    advance
    return v
  | _ => unfit

/-- Reads terms with commas between them. -/
def terms : Nat → Read (List Term)
  | 0 => throw .abandon
  | fuel + 1 => do
    let t ← wholeTerm fuel
    if (← get).token matches .comma then
      advance
      return t :: (← terms fuel)
    else return [t]

/-- Reads what can follow a name: the subscripts of a table. -/
def afterName : Nat → String → Read Term
  | 0, _ => throw .abandon
  | fuel + 1, s => do
    if (← get).token matches .openBracket then
      let v ← used s .table
      advance
      let found ← terms fuel
      expect (· matches .closeBracket)
      return .element v found
    else return .slot (← used s .scalar)

/-- Reads something that can be given a value. -/
def place : Nat → Read Term
  | 0 => throw .abandon
  | fuel + 1 => do
    match (← get).token with
    | .name s _ =>
      advance
      afterName fuel s
    | .dollar =>
      advance
      return .field (← fieldNumber fuel)
    | _ => unfit

/-- Reads the number of a field. -/
def fieldNumber : Nat → Read Term
  | 0 => throw .abandon
  | fuel + 1 => do
    match (← get).token with
    | .name s _ =>
      advance
      afterName fuel s
    | .dollar => place fuel
    | .number x source =>
      if x.floor != x then report s!"${source} is invalid field index"
      advance
      return .number x
    | .operation .subtract =>
      advance
      return .negative (← fieldNumber fuel)
    | .operation .add =>
      advance
      return .positive (← fieldNumber fuel)
    | .not =>
      advance
      return .not (← fieldNumber fuel)
    | _ => first fuel false

/-- Reads the place for a record that is read, if one is named. -/
def target? : Nat → Read (Option Term)
  | 0 => throw .abandon
  | fuel + 1 => do
    match (← get).token with
    | .name .. | .dollar => return some (← place fuel)
    | _ => return none

/-- Reads what can follow a place: a step, or a value that it is given. -/
def afterPlace : Nat → (isOpen : Bool) → Term → Read Term
  | 0, _, _ => throw .abandon
  | fuel + 1, isOpen, found => do
    match (← get).token with
    | .step up =>
      advance
      return .step .after up found
    | .assign o =>
      if isOpen then
        advance
        return .assign o found (← wholeTerm fuel)
      else return found
    | _ => return found

/-- Reads what a function is called with. A name by itself can be one of a table. -/
def arguments : Nat → Read (List (Term × Given))
  | 0 => throw .abandon
  | fuel + 1 => do
    let one ← argument fuel
    if (← get).token matches .comma then
      advance
      return one :: (← arguments fuel)
    else return [one]

/-- Reads one of the things that a function is called with. -/
def argument : Nat → Read (Term × Given)
  | 0 => throw .abandon
  | fuel + 1 => do
    match (← get).token with
    | .name s _ =>
      advance
      if (← get).token matches .comma | .closeParen then
        let v ← variableOf s
        return (.slot v, .name v)
      else
        let t ← afterPlace fuel true (← afterName fuel s)
        return (← continued fuel .assignment t, .term)
    | _ => return (← wholeTerm fuel, .term)

/-- Reads a call of a function that the program defines. -/
def call : Nat → String → Read Term
  | 0, _ => throw .abandon
  | fuel + 1, name => do
    let r ← get
    advance
    expectOpen
    let found ← if (← get).token matches .closeParen then pure [] else arguments fuel
    unless (← get).token matches .closeParen do unfit
    let use : Use := {
      name, lead := r.lead, line := r.lexer.start, arguments := found.map (·.2)
      kinds := r.parameters.map (·.2) }
    settle use
    modify fun r => { r with uses := use :: r.uses }
    advance
    return .call name (found.map (·.1))

/-- Reads a call of a function that needs no definition. -/
def builtinCall : Nat → Builtin → Read Term
  | 0, _ => throw .abandon
  | fuel + 1, b => do
    advance
    match b with
    | .length =>
      if (← get).token matches .openParen then
        advance
        if (← get).token matches .closeParen then
          advance
          return .builtin b []
        let (t, _) ← argument fuel
        expectClose
        return .builtin b [t]
      else return .builtin b []
    | .substitute | .substituteAll =>
      expectOpen
      let pattern ← asPattern (← wholeTerm fuel)
      expect (· matches .comma)
      let text ← wholeTerm fuel
      let target ← if (← get).token matches .comma then do
        advance
        place fuel
      else pure (.field (.number 0))
      expectClose
      return .builtin b [pattern, text, target]
    | .split =>
      expectOpen
      let text ← wholeTerm fuel
      expect (· matches .comma)
      let v ← tableName
      let found : List Term := [text, .slot v]
      if (← get).token matches .comma then
        advance
        let divider ← wholeTerm fuel
        if let .text s := divider then
          if s.length > 1 then discard (compiled s)
        expectClose
        return .builtin b (found ++ [divider])
      else
        expectClose
        return .builtin b found
    | .search =>
      expectOpen
      let text ← wholeTerm fuel
      expect (· matches .comma)
      let pattern ← asPattern (← wholeTerm fuel)
      expectClose
      return .builtin b [text, pattern]
    | _ =>
      expectOpen
      let found ← if (← get).token matches .closeParen then pure [] else terms fuel
      let (least, most) := b.arity
      if found.length < least ∨ most < found.length then
        report s!"wrong number of arguments in call to {b.name}"
      expectClose
      return .builtin b found

end

/-! ## Statements -/

/-- Reads the values of printed output. -/
def printed (fuel : Nat) : Read (List Term) := do
  let token := (← get).token
  let more (t : Term) : Read (List Term) := do
    let t ← continued fuel .assignment t
    if (← get).token matches .comma then
      advance
      return t :: (← terms fuel)
    else return [t]
  if token.endsStatement ∨ token matches .output _ then return []
  match token with
  | .openParen =>
    advance
    if (← get).token matches .closeParen then
      advance
      return []
    let found ← terms fuel
    expectClose
    match found with
    | [t] => more t
    | _ =>
      if (← get).token matches .keyword .member then
        advance
        more (.member found (← tableName))
      else return found
  | _ => terms fuel

/-- Reads where printed output goes. -/
def outputOf (fuel : Nat) : Read (Option (Direction × Term)) := do
  match (← get).token with
  | .output d =>
    advance
    return some (d, ← wholeTerm fuel)
  | _ => return none

/-- Passes a token that has no part in the program because of a mistake. -/
def discardToken : Read Unit := do
  let quiet := (← get).quiet
  advance
  modify ({ · with quiet })

/-- Goes on after a mistake in a statement, behind its end. -/
def recover : Nat → Read Unit
  | 0 => throw .abandon
  | fuel + 1 => do
    let r ← get
    if r.token matches .stop then throw .abandon
    if r.token.endsStatement then
      set { r with lexer := { r.lexer with parens := 0, printing := false } }
      advance
      modify ({ · with quiet := 0 })
    else
      discardToken
      recover fuel

mutual

/-- Reads a statement, or passes one that holds a mistake. -/
def statement : Nat → Read Statement
  | 0 => throw .abandon
  | fuel + 1 => do
    try plainStatement fuel
    catch
      | .mistake =>
        recover ((← get).lexer.rest.length + 2)
        return .nothing
      | .abandon => throw .abandon

/-- Reads statements in braces. -/
def block : Nat → Read Statement
  | 0 => throw .abandon
  | fuel + 1 => do
    expect (· matches .openBrace)
    let found ← statements fuel
    return .block found

/-- Reads statements up to a closing brace, and passes it. -/
def statements : Nat → Read (List Statement)
  | 0 => throw .abandon
  | fuel + 1 => do
    if (← get).token matches .closeBrace then
      advance
      return []
    let one ← statement fuel
    return one :: (← statements fuel)

/-- Reads the body of a loop. -/
def body : Nat → Read Statement
  | 0 => throw .abandon
  | fuel + 1 => do
    modify fun r => { r with loops := r.loops + 1 }
    skipNewline
    let found ← statement fuel
    modify fun r => { r with loops := r.loops - 1 }
    return found

/-- Reads a statement. -/
def plainStatement : Nat → Read Statement
  | 0 => throw .abandon
  | fuel + 1 => do
    let r ← get
    let ended (s : Statement) : Read Statement := do
      separator
      return s
    match r.token with
    | .newline | .semicolon | .closing => ended .nothing
    | .openBrace => block fuel
    | .keyword .ifWord =>
      advance
      expectOpen
      let condition ← wholeTerm fuel
      expectClose
      skipNewline
      let yes ← statement fuel
      if (← get).token matches .keyword .elseWord then
        advance
        return .ifElse condition yes (← statement fuel)
      else return .ifElse condition yes .nothing
    | .keyword .whileWord =>
      advance
      expectOpen
      let condition ← wholeTerm fuel
      expectClose
      return .loop (some condition) none (← body fuel)
    | .keyword .doWord =>
      advance
      let found ← body fuel
      return .repeatedly found (← loopCondition fuel)
    | .keyword .forWord =>
      advance
      expectOpen
      forLoop fuel
    | .keyword .print =>
      advance
      let values ← printed fuel
      let output ← outputOf fuel
      ended (.print values output)
    | .keyword .printFormatted =>
      advance
      let values ← printed fuel
      if values.isEmpty then report "no arguments in call to printf"
      let output ← outputOf fuel
      ended (.printFormatted values output)
    | .keyword .breakWord =>
      if r.loops = 0 then report "break statement outside of loop"
      advance
      ended .leave
    | .keyword .continueWord =>
      if r.loops = 0 then report "continue statement outside of loop"
      advance
      ended .proceed
    | .keyword .next =>
      if r.region ≠ .rule then report "improper use of next"
      advance
      ended .next
    | .keyword .nextFile =>
      if r.region ≠ .rule then report "improper use of nextfile"
      advance
      ended .nextFile
    | .keyword .exit =>
      advance
      ended (.exit (← optionalTerm fuel))
    | .keyword .returnWord =>
      if r.region ≠ .function then report "return outside function body"
      advance
      ended (.yield (← optionalTerm fuel))
    | .keyword .delete =>
      advance
      let v ← tableName
      if (← get).token matches .openBracket then
        advance
        let found ← terms fuel
        expect (· matches .closeBracket)
        ended (.delete v found)
      else ended (.deleteAll v)
    | _ => ended (.evaluate (← wholeTerm fuel))

/-- Reads the condition behind the body of a loop, and passes mistakes in it. -/
def loopCondition : Nat → Read Term
  | 0 => throw .abandon
  | fuel + 1 => do
    try
      expect (· matches .keyword .whileWord)
      expectOpen
      let condition ← wholeTerm fuel
      expectClose
      separator
      return condition
    catch
      | .mistake =>
        recover ((← get).lexer.rest.length + 2)
        loopCondition fuel
      | .abandon => throw .abandon

/-- Reads a term, unless the statement ends. -/
def optionalTerm : Nat → Read (Option Term)
  | 0 => throw .abandon
  | fuel + 1 => do
    if (← get).token.endsStatement then return none else return some (← wholeTerm fuel)

/-- Reads a loop, behind its opening parenthesis. -/
def forLoop : Nat → Read Statement
  | 0 => throw .abandon
  | fuel + 1 => do
    let semicolon : Read Unit := expect (· matches .semicolon)
    let rest (start : List Statement) : Read Statement := do
      semicolon
      let condition ← if (← get).token matches .semicolon then pure none
        else some <$> wholeTerm fuel
      semicolon
      let step ← if (← get).token matches .closeParen then pure none else some <$> wholeTerm fuel
      expectClose
      return .block (start ++ [.loop condition step (← body fuel)])
    match (← get).token with
    | .semicolon => rest []
    | .name s _ =>
      advance
      if (← get).token matches .keyword .member then
        let key ← used s .scalar
        advance
        let table ← tableName
        expectClose
        return .forEach key table (← body fuel)
      else
        let t ← afterPlace fuel true (← afterName fuel s)
        rest [.evaluate (← continued fuel .assignment t)]
    | _ => rest [.evaluate (← wholeTerm fuel)]

end

/-! ## Programs -/

/-- Reads the names of parameters. -/
def parameterNames (own : String) : Nat → Read (List String)
  | 0 => throw .abandon
  | fuel + 1 => do
    match (← get).token with
    | .name s _ =>
      advance
      if (← get).token matches .comma then
        advance
        return s :: (← parameterNames own fuel)
      else return [s]
    | .function s =>
      if s = own then report "function parameter cannot be the function"
      unfit
    | _ => unfit

/-- Reads a function. -/
def function (fuel : Nat) : Read Unit := do
  advance
  let r ← get
  let name ← match r.token with
    | .function s => pure s
    | .name s _ =>
      if (r.names.lookup s).isSome then discard (used s .function)
      else set { r with names := (s, .function) :: r.names }
      pure s
    | _ => unfit
  if (r.functions.lookup name).isSome then report s!"redefinition of {name}"
  advance
  expectOpen
  let parameters ← if (← get).token matches .closeParen then pure [] else
    parameterNames name fuel
  for (parameter, i) in parameters.zipIdx do
    if parameter ∈ parameters.take i then
      report s!"{parameter} is duplicated in argument list"
  modify ({ · with parameters := parameters.map (·, none), region := .function })
  expectClose
  skipNewline
  let body ← block fuel
  modify fun r => { r with
    functions := (name, { parameters := parameters.length, body }) :: r.functions
    kinds := (name, r.parameters.map (·.2)) :: r.kinds
    parameters := [], region := .outside }

/-- Reads a block in a region of the program. -/
def regionBlock (region : Region) (fuel : Nat) : Read Statement := do
  modify ({ · with region, loops := 0 })
  let found ← block fuel
  modify ({ · with region := .outside })
  return found

/-- Reads a rule with a pattern. -/
def rule (fuel : Nat) : Read (Selector × Statement) := do
  let first ← wholeTerm fuel
  let selector ← if (← get).token matches .comma then do
    advance
    pure (.range first (← wholeTerm fuel))
  else pure (.fitting first)
  if (← get).token matches .openBrace then return (selector, ← regionBlock .rule fuel)
  else
    separator
    return (selector, .print [] none)

/-- Reads a part of a program and adds it. -/
def part (fuel : Nat) (p : Program) : Read Program := do
  match (← get).token with
  | .keyword .beginning =>
    advance
    return { p with beginning := p.beginning ++ [← regionBlock .outside fuel] }
  | .keyword .ending =>
    advance
    return { p with ending := p.ending ++ [← regionBlock .outside fuel] }
  | .keyword .function =>
    function fuel
    return p
  | .openBrace => return { p with rules := p.rules ++ [(.all, ← regionBlock .rule fuel)] }
  | _ => return { p with rules := p.rules ++ [← rule fuel] }

/-- Goes on after a mistake outside of blocks, behind the next block. -/
def recoverOutside (fuel : Nat) : Nat → Read Unit
  | 0 => throw .abandon
  | left + 1 => do
    let r ← get
    match r.token with
    | .stop => throw .abandon
    | .openBrace =>
      set { r with
        lexer := { r.lexer with parens := 0, printing := false }, parameters := [] }
      discard (regionBlock .rule fuel)
      modify ({ · with quiet := 0 })
    | _ =>
      discardToken
      recoverOutside fuel left

/-- Reads the parts of a program. -/
def parts (fuel : Nat) : Nat → Program → Read Program
  | 0, p => return p
  | left + 1, p => do
    if (← get).token matches .stop then return p
    let p ← try part fuel p
      catch
        | .mistake => do
          recoverOutside fuel ((← get).lexer.rest.length + 2)
          pure p
        | .abandon => throw .abandon
    parts fuel left p

/-- Checks that a function is called in a right way. -/
def checkUse (r : Reader) (use : Use) : List String :=
  let say (text : String) : String := use.lead ++ s!"line {use.line}: {text}"
  match r.kinds.lookup use.name with
  | none => []
  | some kinds =>
    if kinds.length < use.arguments.length then
      [say s!"too many arguments in call to {use.name}"]
    else
      (use.arguments.zip kinds).zipIdx.filterMap fun ((given, kind), i) =>
        let known := match given with
          | .term => some Kind.scalar
          | .name (.shared name) => r.names.lookup name
          | .name (.own index) => (use.kinds[index]?).join
        match known, kind with
        | some .scalar, some .table =>
          some (say (s!"type error in arg({i + 1}) in call to {use.name} " ++
            "(actual local variable vs local array)"))
        | some .table, some .scalar =>
          some (say (s!"type error in arg({i + 1}) in call to {use.name} " ++
            "(actual local array vs local variable)"))
        | _, _ => none

/-- Reads a program from some texts, of which it is known what is said first about mistakes. If
there are mistakes, their messages are yielded. -/
def program (sources : List (String × String)) : Except (List String) Program :=
  let sources := sources.map fun (lead, text) =>
    (lead, if text.endsWith "\n" then text else text ++ "\n")
  let size := (sources.map (·.2.length)).foldl (· + ·) 0
  let (lead, text) := sources.headD ("", "\n")
  let start : Reader := {
    lexer := ({ rest := text.toList } : Lexer).skipLines
    lead, later := sources.tail, names := knownNames }
  let fuel := 16 * size + 64
  let act : Read Program := do
    advance
    modify ({ · with quiet := 0 })
    parts fuel (size + 2) {}
  match act.run start with
  | .error _ r => .error r.messages.reverse
  | .ok p r =>
    let isDefined (use : Use) : Bool := (r.functions.lookup use.name).isSome
    let undefined := (r.uses.filter (!isDefined ·)).map fun use =>
      r.lead ++ s!"line {r.lexer.line}: function {use.name} never defined"
    let wrong := r.uses.reverse.flatMap (checkUse r)
    let messages := r.messages.reverse ++ wrong
    let messages := if messages = [] then undefined else messages
    if messages = [] then .ok { p with functions := r.functions.reverse }
    else .error (messages.take messageLimit)

end Reader

end Records

end FileScript.Shell
