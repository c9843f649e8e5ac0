import FileScript.Shell.LinePattern.Matching

/-!
# Programs for records

Such a program is a list of rules. A rule has a pattern, which picks some of the records that are
read, and an action, which is carried out for these. The action works with the fields of the record
and with variables.
-/

namespace FileScript.Shell

namespace Records

/-- The fundamental operations. -/
inductive Operation where
  | add
  | subtract
  | multiply
  | divide
  | remainder
  | power
  deriving DecidableEq, Repr, Inhabited

/-- The ways to compare two values. -/
inductive Comparison where
  | less
  | atMost
  | equal
  | unequal
  | more
  | atLeast
  deriving DecidableEq, Repr, Inhabited

/-- Whether a comparison holds for two values in some order. -/
def Comparison.holds (c : Comparison) (o : Ordering) : Bool :=
  match c with
  | less => o == .lt
  | atMost => o != .gt
  | equal => o == .eq
  | unequal => o != .eq
  | more => o == .gt
  | atLeast => o != .lt

/-- Where output goes. -/
inductive Direction where
  | replace
  | append
  | pipe
  deriving DecidableEq, Repr, Inhabited

/-- The functions that need no definition. -/
inductive Builtin where
  | arctangent
  | close
  | cosine
  | exponential
  | flush
  | substituteAll
  | index
  | integer
  | length
  | logarithm
  | search
  | makeTime
  | random
  | sine
  | split
  | format
  | squareRoot
  | seed
  | formatTime
  | substitute
  | part
  | system
  | time
  | lower
  | upper
  deriving DecidableEq, Repr, Inhabited

namespace Builtin

/-- The names of the functions. -/
def names : List (String × Builtin) :=
  [("atan2", arctangent), ("close", close), ("cos", cosine), ("exp", exponential),
    ("fflush", flush), ("gsub", substituteAll), ("index", index), ("int", integer),
    ("length", length), ("log", logarithm), ("match", search), ("mktime", makeTime),
    ("rand", random), ("sin", sine), ("split", split), ("sprintf", format), ("sqrt", squareRoot),
    ("srand", seed), ("strftime", formatTime), ("sub", substitute), ("substr", part),
    ("system", system), ("systime", time), ("tolower", lower), ("toupper", upper)]

/-- The function with a name. -/
def ofName? (name : String) : Option Builtin := names.lookup name

/-- The name of a function. -/
def name (b : Builtin) : String := ((names.find? (·.2 = b)).map (·.1)).getD ""

/-- The least and the greatest number of values that a function takes. -/
def arity : Builtin → Nat × Nat
  | arctangent | index => (2, 2)
  | random | time => (0, 0)
  | close | cosine | exponential | integer | logarithm | sine | squareRoot | system | lower
  | upper | makeTime => (1, 1)
  | flush | length | seed => (0, 1)
  | part => (2, 3)
  | search => (2, 2)
  | split | substitute | substituteAll => (2, 3)
  | formatTime => (0, 3)
  | format => (1, 255)

end Builtin

/-- A variable: one of the whole program, or one of the present function by its number. -/
inductive Variable where
  | shared (name : String)
  | own (index : Nat)
  deriving DecidableEq, Repr, Inhabited

/-- The order in which a change and its value come. -/
inductive Moment where
  | before
  | after
  deriving DecidableEq, Repr, Inhabited

/-- An expression. -/
inductive Term where
  | number (x : Float)
  | text (s : String)
  | pattern (e : LinePattern.Expression)
  | slot (v : Variable)
  | element (table : Variable) (subscripts : List Term)
  | field (number : Term)
  /-- Gives a place a value, which an operation may make from its old one. -/
  | assign (operation : Option Operation) (place value : Term)
  /-- Adds one to a place, or takes one away. -/
  | step (moment : Moment) (up : Bool) (place : Term)
  | negative (t : Term)
  | positive (t : Term)
  | not (t : Term)
  | operation (o : Operation) (a b : Term)
  | comparison (c : Comparison) (a b : Term)
  | joined (a b : Term)
  | fitting (negated : Bool) (text pattern : Term)
  | member (subscripts : List Term) (table : Variable)
  | and (a b : Term)
  | or (a b : Term)
  | choice (condition a b : Term)
  | call (name : String) (arguments : List Term)
  | builtin (b : Builtin) (arguments : List Term)
  /-- Reads a record from the input, from a file or from what a command prints. -/
  | read (place : Option Term)
  | readFile (place : Option Term) (path : Term)
  | readCommand (place : Option Term) (command : Term)

instance : Inhabited Term := ⟨.number 0⟩

/-- Whether something can be given a value. -/
def Term.isPlace : Term → Bool
  | slot _ | element .. | field _ => true
  | _ => false

/-- A statement. -/
inductive Statement where
  | nothing
  | block (statements : List Statement)
  | evaluate (t : Term)
  | print (values : List Term) (output : Option (Direction × Term))
  | printFormatted (values : List Term) (output : Option (Direction × Term))
  | ifElse (condition : Term) (yes no : Statement)
  /-- Repeats the body as long as the condition holds, and carries out the step after each round. -/
  | loop (condition step : Option Term) (body : Statement)
  /-- Repeats the body once and then as long as the condition holds. -/
  | repeatedly (body : Statement) (condition : Term)
  | forEach (key table : Variable) (body : Statement)
  /-- Leaves a loop. -/
  | leave
  /-- Goes on with the next round of a loop. -/
  | proceed
  | next
  | nextFile
  | exit (status : Option Term)
  /-- Ends a function with a value. -/
  | yield (value : Option Term)
  | delete (table : Variable) (subscripts : List Term)
  | deleteAll (table : Variable)
  deriving Inhabited

/-- What picks records. -/
inductive Selector where
  | all
  | fitting (t : Term)
  /-- The records from one that fits up to another one. -/
  | range (first last : Term)
  deriving Inhabited

/-- A function. -/
structure Function where
  parameters : Nat
  body : Statement
  deriving Inhabited

/-- A program. -/
structure Program where
  /-- What is done before the input is read. -/
  beginning : List Statement := []
  rules : List (Selector × Statement) := []
  /-- What is done at the end of the input. -/
  ending : List Statement := []
  functions : List (String × Function) := []
  deriving Inhabited

end Records

end FileScript.Shell
