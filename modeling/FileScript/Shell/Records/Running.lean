import FileScript.Shell.Records.Machine

/-!
# Carrying out programs for records

The actions before the input come first; then, for every record, the rules whose patterns pick it;
and the actions at the end come last. Statements are carried out by recursion on a budget, which is
larger than any program needs.
-/

namespace FileScript.Shell

namespace Records

open Machine

/-- What does not change while a program runs. -/
structure Context where
  program : Program
  start : Start

/-- The value of a constant text. -/
def emptyText : Value := .text ""

/-! ## Functions that need no definition -/

/-- An integer of 32 bits near a number. -/
def shortOf (x : Float) : Int :=
  let limit : Int := 2147483647
  if x.isNaN then 0 else max (-limit) (min limit (signedOf x))

/-- A part of a text: its first character counts from one, and it has so many characters. -/
def partOf (text : String) (first : Float) (count : Option Float) : String :=
  let start := shortOf first
  let size := match count with
    | none => 2147483647
    | some x => if start < 1 then (shortOf x - start).bmod 4294967296 else shortOf x
  let size := if count.isSome ∧ size < 0 then 0 else size
  String.ofList ((text.toList.drop (max 1 start - 1).toNat).take size.toNat)

/-- The place at which a text begins in another one, counted from one. -/
def indexOf (text sought : String) : Nat :=
  go sought.toList 1 text.toList
where
  /-- Goes on behind some characters. -/
  go (sought : List Char) (place : Nat) : List Char → Nat
    | [] => if sought = [] then place else 0
    | c :: rest => if sought.isPrefixOf (c :: rest) then place else go sought (place + 1) rest

/-- What replaces a match: an ampersand stands for the match, and backslashes in front of one take
its meaning away. -/
def replacement (found : List Char) : (backslashes : Nat) → List Char → List Char
  | n, [] => List.replicate n '\\'
  | n, '\\' :: rest => replacement found (n + 1) rest
  | n, c :: rest =>
    if c = '&' then
      List.replicate (n / 2) '\\' ++ (if n % 2 = 1 then ['&'] else found) ++
        replacement found 0 rest
    else List.replicate n '\\' ++ c :: replacement found 0 rest

/-- Replaces matches in a text, and counts them. -/
def replaced (e : LinePattern.Expression) (everywhere : Bool) (new text : String) :
    String × Nat :=
  let bounds := matchesIn e text
  let bounds := if everywhere then bounds else bounds.take 1
  (String.ofList (go text.toList 0 bounds), bounds.length)
where
  /-- The text from a place on, of which something is left. -/
  go : List Char → Nat → List (Nat × Nat) → List Char
    | rest, _, [] => rest
    | rest, place, (a, b) :: bounds =>
      let before := rest.take (a - place)
      let found := (rest.drop (a - place)).take (b - a)
      before ++ replacement found 0 new.toList ++ go (rest.drop (b - place)) b bounds

/-- The next number of the sequence of random numbers. -/
def nextRandom (n : UInt64) : UInt64 := n * 6364136223846793005 + 1442695040888963407

/-! ## Terms -/

/-- How a number makes another one by a function. -/
def mathematics? : Builtin → Option (Float → Float)
  | .cosine => some Float.cos
  | .exponential => some Float.exp
  | .integer => some fun x => if x.isNaN ∨ x.isInf then x else if x < 0 then x.ceil else x.floor
  | .logarithm => some Float.log
  | .sine => some Float.sin
  | .squareRoot => some Float.sqrt
  | _ => none

/-- Carries out a function that takes values and needs no definition. -/
def apply (context : Context) (b : Builtin) (values : List Value) : Run Value := do
  let value (i : Nat) : Value := values.getD i .nothing
  let text (i : Nat) : Run String := textOf (value i)
  let changed (change : Char → Char) : Run Value := do
    return .text (String.ofList ((← text 0).toList.map change))
  match mathematics? b with
  | some f => return .number (f (value 0).toNumber)
  | none =>
    match b with
    | .arctangent => return .number ((value 0).toNumber.atan2 (value 1).toNumber)
    | .close => return .ofInt (← close context.start (← text 0))
    | .flush =>
      flush
      let isOpen ← match values with
        | [] => pure true
        | _ => do
          let name ← text 0
          pure (name = "" || name = "/dev/stdout" || (← get).sinks.any (·.name = name))
      return .number (if isOpen then 0 else -1)
    | .index => return .ofNat (indexOf (← text 0) (← text 1))
    | .random =>
      modify fun m => { m with random := nextRandom m.random }
      return .number (Float.ofNat ((← get).random >>> 11).toNat / 9007199254740992.0)
    | .seed =>
      let m ← get
      let seed ← match values with
        | [] => do pure (.ofNat ((← perform Effect.shared).host.clock / 1000000000))
        | v :: _ => pure v
      let random := UInt64.ofNat ((signedOf seed.toNumber) % UInt64.size).toNat
      set { m with seed, random := nextRandom random }
      return m.seed
    | .format =>
      let pattern ← text 0
      match format (← conversion) pattern (values.drop 1) with
      | (found, none) => return .text found
      | (_, some mistake) => Machine.fail (mistake.text "sprintf" pattern)
    | .part =>
      let count := (values[2]?).map Value.toNumber
      return .text (partOf (← text 0) (value 1).toNumber count)
    | .system =>
      flush
      let command ← text 0
      let ending ← perform (runCommand context.start "sh" command (return))
      return .ofNat (statusOf ending)
    | .time => return .ofNat ((← perform Effect.shared).host.clock / 1000000000)
    | .makeTime => return .number (-1)
    | .formatTime => return emptyText
    | .lower => changed Char.toLower
    | .upper => changed Char.toUpper
    | _ => return .nothing

/-- The key for some subscripts. -/
def keyOf (values : List Value) : Run Table.Key := do
  match values with
  | [v] => return Table.keyOf (← conversion) v
  | _ =>
    let texts ← values.mapM textOf
    return { text := (← variableText "SUBSEP").intercalate texts }

/-- Looks a key up in a table. -/
def look (makes : Bool) (v : Variable) (key : Table.Key) : Run (Nat × Table) := do
  let index ← tableOf v
  let t := (← table index).use makes key
  setTable index t
  return (index, t)

/-- A place whose parts are known. -/
inductive Spot where
  | variable (v : Variable)
  | element (index : Nat) (key : String)
  | field (n : Int)

/-- The value at a place. -/
def Spot.get : Spot → Run Value
  | .variable v => getVariable v
  | .element index key => return (← table index).get key
  | .field n => getField n

/-- Gives a place a value. -/
def Spot.set (s : Spot) (value : Value) : Run Unit := do
  match s with
  | .variable v => setVariable v value
  | .element index key => setTable index ((← table index).set key value)
  | .field n => setField n value

/-- The number of a field. -/
def fieldNumber (v : Value) : Int :=
  let x := v.toNumber
  if x.isNaN then 0 else shortOf x

/-- Takes a record that has been read, and yields whether there was one. -/
def taken (found : Option String) (spot : Option Spot) : Run Value := do
  match found, spot with
  | none, _ => return .number 0
  | some text, none =>
    setRecord text
    return .number 1
  | some text, some spot =>
    spot.set (.outer text)
    return .number 1

/-- How deeply functions can call one another. -/
def callLimit : Nat := 1000

mutual

/-- The value of a term. -/
def value (context : Context) : Nat → Term → Run Value
  | 0, _ => throw .fault
  | fuel + 1, t => do
    let number (t : Term) : Run Float := return (← value context fuel t).toNumber
    let holds (t : Term) : Run Bool := return (← value context fuel t).isTrue
    match t with
    | .number x => return .number x
    | .text s => return .text s
    | .pattern e => return .ofBool (fits e (← textOf (← getRecord)))
    | .slot v => getVariable v
    | .element v subscripts =>
      let key ← keyOf (← subscripts.mapM (value context fuel))
      let (_, t) ← look true v key
      return t.get key.text
    | .field n => getField (fieldNumber (← value context fuel n))
    | .assign none place new =>
      let spot ← spotOf context fuel place
      let v ← value context fuel new
      let v ← match v with
        | .nothing => pure v
        | _ => pure v
      spot.set v
      return v
    | .assign (some o) place new =>
      let spot ← spotOf context fuel place
      let y ← number new
      let x := (← spot.get).toNumber
      let v := Value.number (o.apply x y)
      spot.set v
      return v
    | .step moment up place =>
      let spot ← spotOf context fuel place
      let x := (← spot.get).toNumber
      let y := if up then x + 1 else x - 1
      spot.set (.number y)
      return .number (if moment = .before then y else x)
    | .negative t => return .number (-(← number t))
    | .positive t => return .number (← number t)
    | .not t => return .ofBool (!(← holds t))
    | .operation o a b =>
      let x ← number a
      return .number (o.apply x (← number b))
    | .comparison c a b =>
      let x ← value context fuel a
      let y ← value context fuel b
      return .ofBool (c.holds (Value.order (← conversion) x y))
    | .joined a b =>
      let x ← textOf (← value context fuel a)
      return .text (x ++ (← textOf (← value context fuel b)))
    | .fitting negated text pattern =>
      let s ← textOf (← value context fuel text)
      let e ← patternAt context fuel pattern
      return .ofBool (fits e s != negated)
    | .member subscripts v =>
      let key ← keyOf (← subscripts.mapM (value context fuel))
      let (_, t) ← look false v key
      return .ofBool (t.contains key.text)
    | .and a b =>
      if ← holds a then return .ofBool (← holds b) else return .ofBool false
    | .or a b =>
      if ← holds a then return .ofBool true else return .ofBool (← holds b)
    | .choice condition a b =>
      if ← holds condition then value context fuel a else value context fuel b
    | .call name arguments => call context fuel name arguments
    | .builtin b arguments => builtin context fuel b arguments
    | .read place =>
      let spot ← place.mapM (spotOf context fuel)
      taken (← readMain) spot
    | .readFile place path =>
      let spot ← place.mapM (spotOf context fuel)
      let path ← textOf (← value context fuel path)
      if ← openSource path then taken (← readSource path) spot else return .number (-1)
    | .readCommand place command =>
      let spot ← place.mapM (spotOf context fuel)
      let command ← textOf (← value context fuel command)
      openCommand context.start command
      taken (← readSource command) spot

/-- The place that a term names. -/
def spotOf (context : Context) : Nat → Term → Run Spot
  | 0, _ => throw .fault
  | fuel + 1, t => do
    match t with
    | .slot v => return .variable v
    | .element v subscripts =>
      let key ← keyOf (← subscripts.mapM (value context fuel))
      let (index, _) ← look true v key
      return .element index key.text
    | .field n => return .field (fieldNumber (← value context fuel n))
    | _ => throw .fault

/-- The pattern that a term stands for. -/
def patternAt (context : Context) : Nat → Term → Run LinePattern.Expression
  | 0, _ => throw .fault
  | fuel + 1, t => do
    match t with
    | .pattern e => return e
    | _ => patternFrom (← textOf (← value context fuel t))

/-- Carries out a function that needs no definition. -/
def builtin (context : Context) : Nat → Builtin → List Term → Run Value
  | 0, _, _ => throw .fault
  | fuel + 1, b, arguments => do
    match b, arguments with
    | .length, [] => return .ofNat (← textOf (← getRecord)).length
    | .length, [.slot v] =>
      match ← slotOf (← frame) v with
      | .table index => return .ofNat (← table index).size
      | .same other w =>
        match ← slotOf other w with
        | .table index => return .ofNat (← table index).size
        | _ => return .ofNat 0
      | .scalar found => return .ofNat (← textOf found).length
      | .unset => return .ofNat 0
    | .length, [t] => return .ofNat (← textOf (← value context fuel t)).length
    | .substitute, [pattern, new, place] => substituted context fuel false pattern new place
    | .substituteAll, [pattern, new, place] => substituted context fuel true pattern new place
    | .search, [text, pattern] =>
      let s ← textOf (← value context fuel text)
      let e ← patternAt context fuel pattern
      let (start, size) : Nat × Int := match firstMatch? e s with
        | some (before, size) => (before + 1, size)
        | none => (0, -1)
      setPlain "RSTART" (.ofNat start)
      setPlain "RLENGTH" (.ofInt size)
      return .ofNat start
    | .split, text :: .slot v :: rest =>
      let s ← textOf (← value context fuel text)
      let divider ← match rest with
        | [] => pure (← get).divider
        | .pattern e :: _ => pure (.pattern e)
        | t :: _ => do dividerOf (← textOf (← value context fuel t))
      let found := parts divider s
      setTable (← tableOf v) (Table.ofList (found.map Value.outer))
      return .ofNat found.length
    | _, _ =>
      let values ← arguments.mapM (value context fuel)
      apply context b values

/-- Replaces matches of a pattern at a place, and yields how many there were. -/
def substituted (context : Context) : Nat → (everywhere : Bool) → Term → Term → Term → Run Value
  | 0, _, _, _, _ => throw .fault
  | fuel + 1, everywhere, pattern, new, place => do
    let e ← patternAt context fuel pattern
    let new ← textOf (← value context fuel new)
    let spot ← spotOf context fuel place
    let (text, count) := replaced e everywhere new (← textOf (← spot.get))
    if 0 < count then spot.set (.text text)
    return .ofNat count

/-- Calls a function. -/
def call (context : Context) : Nat → String → List Term → Run Value
  | 0, _, _ => throw .fault
  | fuel + 1, name, arguments => do
    match context.program.functions.lookup name with
    | none => return .nothing
    | some f =>
      if callLimit < (← get).frames.size then
        refuse "program limit exceeded: eval stack size=1024"
      let own ← frame
      let given ← arguments.mapM fun t => do
        match t with
        | .slot v =>
          match ← slotOf own v with
          | .unset => return Slot.same own v
          | slot => return slot
        | _ => return Slot.scalar (← value context fuel t)
      let slots := given ++ List.replicate (f.parameters - given.length) .unset
      modify fun m => { m with frames := m.frames.push slots.toArray }
      let result ← tryCatch (do
          run context fuel f.body
          return Value.nothing)
        fun
          | .function v => return v
          | leave => do
            modify fun m => { m with frames := m.frames.pop }
            throw leave
      modify fun m => { m with frames := m.frames.pop }
      return result

/-- Carries out a statement. -/
def run (context : Context) : Nat → Statement → Run Unit
  | 0, _ => throw .fault
  | fuel + 1, s => do
    match s with
    | .nothing => return
    | .block found => found.forM (run context fuel)
    | .evaluate t => discard (value context fuel t)
    | .print values output =>
      let found ← values.mapM (value context fuel)
      let numbers ← variableText "OFMT"
      let texts ← if values.isEmpty then do pure [(← textOf (← getRecord))]
        else pure (found.map (·.toText numbers))
      let line := (← variableText "OFS").intercalate texts ++ (← variableText "ORS")
      printed context fuel line output
    | .printFormatted values output =>
      let found ← values.mapM (value context fuel)
      let pattern ← textOf (found.headD .nothing)
      let (text, mistake) := format (← variableText "OFMT") pattern (found.drop 1)
      printed context fuel text output
      if let some mistake := mistake then Machine.fail (mistake.text "printf" pattern)
    | .ifElse condition yes no =>
      if (← value context fuel condition).isTrue then run context fuel yes
      else run context fuel no
    | .loop condition step body => rounds context fuel condition step body
    | .repeatedly body condition =>
      if ← round context fuel body then
        rounds context fuel (some condition) none body
    | .forEach key v body =>
      let index ← tableOf v
      let t := (← table index).withTexts
      setTable index t
      walk context fuel key body t.keys
    | .leave => throw .loop
    | .proceed => throw .round
    | .next => throw .record
    | .nextFile => throw .file
    | .exit status =>
      if let some t := status then
        let n := signedOf (← value context fuel t).toNumber
        modify ({ · with status := (n % 256).toNat })
      throw .program
    | .yield none => throw (.function .nothing)
    | .yield (some t) => throw (.function (← value context fuel t))
    | .delete v subscripts =>
      let key ← keyOf (← subscripts.mapM (value context fuel))
      let (index, t) ← look false v key
      setTable index (t.erase key.text)
    | .deleteAll v => setTable (← tableOf v) {}

/-- Prints a text to the output or to where it is said. -/
def printed (context : Context) : Nat → String → Option (Direction × Term) → Run Unit
  | 0, _, _ => throw .fault
  | fuel + 1, text, output => do
    match output with
    | none => modify fun m => { m with held := m.held ++ text }
    | some (direction, t) =>
      printTo direction (← textOf (← value context fuel t)) text

/-- Carries out one round of a loop, and tells whether the loop goes on. -/
def round (context : Context) : Nat → Statement → Run Bool
  | 0, _ => throw .fault
  | fuel + 1, body =>
    tryCatch (do
        run context fuel body
        return true)
      fun
        | .loop => return false
        | .round => return true
        | leave => throw leave

/-- Carries out the rounds of a loop. -/
def rounds (context : Context) : Nat → (condition step : Option Term) → Statement → Run Unit
  | 0, _, _, _ => throw .fault
  | fuel + 1, condition, step, body => do
    let goesOn ← match condition with
      | none => pure true
      | some t => do pure (← value context fuel t).isTrue
    if goesOn then
      if ← round context fuel body then
        if let some t := step then discard (value context fuel t)
        rounds context fuel condition step body

/-- Carries out a loop for keys. -/
def walk (context : Context) : Nat → Variable → Statement → List String → Run Unit
  | 0, _, _, _ => throw .fault
  | _, _, _, [] => return
  | fuel + 1, v, body, key :: rest => do
    setVariable v (.text key)
    if ← round context fuel body then walk context fuel v body rest

end

/-! ## Programs -/

/-- How many steps one part of a program can take after another. -/
def budget : Nat := 100000000

/-- Whether a rule picks the present record. -/
def picks (context : Context) (number : Nat) : Selector → Run Bool
  | .all => return true
  | .fitting t => return (← value context budget t).isTrue
  | .range first last => do
    let begun ← if number ∈ (← get).ranges then pure true
      else do pure (← value context budget first).isTrue
    if begun then
      let ends := (← value context budget last).isTrue
      modify fun m =>
        let others := m.ranges.filter (· ≠ number)
        { m with ranges := if ends then others else number :: others }
    return begun

/-- Carries out the rules for the present record. -/
def runRules (context : Context) : Run Unit :=
  context.program.rules.zipIdx.forM fun ((selector, action), i) => do
    if ← picks context i selector then run context budget action

/-- How many records can be read. -/
def recordLimit : Nat := 100000000

/-- Reads records and carries out the rules for them. -/
def runRecords (context : Context) : Nat → Run Unit
  | 0 => return
  | fuel + 1 => do
    match ← readMain with
    | none => return
    | some text =>
      setRecord text
      tryCatch (runRules context) fun
        | .record => return
        | .file => modify fun m => { m with main := m.main.map ({ · with rest := [] }) }
        | leave => throw leave
      runRecords context fuel

/-- Carries out statements until the program is left. -/
def untilLeft (act : Run Unit) : Run Bool :=
  tryCatch (do
      act
      return false)
    fun
      | .program => return true
      | leave => throw leave

/-- Carries out a program. -/
def runProgram (context : Context) : Run Unit := do
  let p := context.program
  let left ← untilLeft (p.beginning.forM (run context budget))
  let left ← if left ∨ p.rules.isEmpty ∧ p.ending.isEmpty then pure left
    else untilLeft (runRecords context recordLimit)
  unless left ∧ p.ending.isEmpty do
    discard (untilLeft (p.ending.forM (run context budget)))

/-- Carries out a program and ends its output. Yields the status. -/
def runToEnd (context : Context) (prepare : Run Unit) (m : Machine) : Effect Nat := do
  let (result, m) ← (do
    prepare
    runProgram context : Run Unit).run m
  let (closed, m) ← (finish context.start : Run Unit).run m
  match result, closed with
  | .ok (), .ok () => return m.status
  | _, _ => return 2

end Records

end FileScript.Shell
