/-!
# Shell commands

What the text of a shell command means: words, which are expanded before they are used, redirections
and commands.
-/

namespace FileScript.Shell

/-- What an expansion of a variable does if the variable is unset, and what if it is set. -/
inductive Fallback where
  /-- Another word stands for an unset variable. -/
  | substitute
  /-- Another word stands for a set variable, and nothing for an unset one. -/
  | alternative
  /-- An unset variable is given a value first. -/
  | assign
  /-- An unset variable is an error. -/
  | demand
  deriving DecidableEq, Repr, Inhabited

/-- What an expansion makes of the value of a variable. -/
inductive ParameterForm where
  | value
  | size
  /-- A word may take the place of the value. An empty variable can count as unset. -/
  | orElse (fallback : Fallback) (emptyIsUnset : Bool)
  /-- What matches a pattern is cut off at the beginning or at the end. -/
  | trim (atEnd longest : Bool)
  /-- Has no meaning. -/
  | bad
  deriving DecidableEq, Repr, Inhabited

/-- What a redirection does with a file. -/
inductive OpenMode where
  | read
  | write
  /-- Writes even to a file that is protected by the options of the shell. -/
  | overwrite
  | append
  | readWrite
  deriving DecidableEq, Repr, Inhabited

mutual

/-- A piece of a word. -/
inductive Fragment where
  | char (c : Char) (quoted : Bool)
  /-- A quotation begins or ends. -/
  | mark
  | parameter (name : String) (form : ParameterForm) (argument : List Fragment)
  /-- Stands for the output of a command. -/
  | command (body : Command)
  | arithmetic (expression : List Fragment)

/-- Where a descriptor of a command leads. -/
inductive Redirection where
  | file (descriptor : Nat) (mode : OpenMode) (name : List Fragment)
  /-- To the same place as another descriptor. -/
  | duplicate (descriptor : Nat) (target : List Fragment)
  /-- To a text that is part of the command: one of the texts that the reader has collected. -/
  | document (descriptor : Nat) (index : Nat)

/-- A command. Some note the line on which they begin. -/
inductive Command where
  | nothing
  | simple (line : Nat) (assignments words : List (List Fragment)) (redirections : List Redirection)
  | pipeline (commands : List Command)
  | negated (body : Command)
  | sequence (first second : Command)
  | onSuccess (first second : Command)
  | onFailure (first second : Command)
  | redirected (line : Nat) (body : Command) (redirections : List Redirection)
  | subshell (line : Nat) (body : Command) (redirections : List Redirection)
  | background (line : Nat) (body : Command) (redirections : List Redirection)
  | conditional (test success failure : Command)
  /-- Repeats its body as long as its test ends with success, or with failure. -/
  | loop (onFailure : Bool) (test body : Command)
  | forEach (line : Nat) (name : String) (words : List (List Fragment)) (body : Command)
  | choice (line : Nat) (word : List Fragment) (clauses : List Clause)
  | function (line : Nat) (name : String) (body : Command)

/-- A part of a choice: the patterns on which it is made, and what is done then. -/
inductive Clause where
  | clause (patterns : List (List Fragment)) (body : Command)

end

/-- A word before its expansion. -/
abbrev Word := List Fragment

instance : Inhabited Fragment := ⟨.mark⟩

instance : Inhabited Command := ⟨.nothing⟩

instance : Inhabited Redirection := ⟨.document 0 0⟩

namespace Word

/-- The text of a word with its quotation taken away, if the word stands for no other text. -/
def text? : Word → Option String
  | [] => some ""
  | .char c _ :: rest => (text? rest).map (c.toString ++ ·)
  | .mark :: rest => text? rest
  | _ :: _ => none

/-- The text of a word that has no quotation and stands for no other text. -/
def plainText? (w : Word) : Option String := (plainChars w).map String.ofList
where
  /-- The characters of such a word. -/
  plainChars : Word → Option (List Char)
    | [] => some []
    | .char c false :: rest => (plainChars rest).map (c :: ·)
    | _ :: _ => none

/-- The word that is written as a text without quotation. -/
def ofText (text : String) : Word := text.toList.map (.char · false)

end Word

end FileScript.Shell
