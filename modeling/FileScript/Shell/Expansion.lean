import FileScript.Shell.Arithmetic
import FileScript.Shell.Splitting

/-!
# Expansion of words

What a word stands for: home directories, the values of variables, the output of commands and the
results of calculations take the places of what asks for them; then the word is split into fields,
and fields that are patterns are replaced by the names of the files that they fit. How commands are
run is a parameter.
-/

namespace FileScript.Shell

namespace Expansion

/-- How expansions are carried out. -/
structure Setting where
  /-- Yields the output of a command. -/
  substitute : Command → Effect String
  /-- Whether the word will be split into fields. -/
  splits : Bool := false
  /-- Whether the surroundings of a word are quoted. -/
  quoted : Bool := false
  /-- Whether the word takes the place of a value, and so is split itself. -/
  isFallback : Bool := false

/-! ## Home directories -/

/-- The name of a user that a word begins with, up to a slash, or up to a colon as well. -/
def userName? (endsAtColon : Bool) : Word → Option (List Char)
  | [] => some []
  | .char c false :: rest =>
    if c = '/' ∨ c = ':' ∧ endsAtColon then some [] else (userName? endsAtColon rest).map (c :: ·)
  | _ :: _ => none

/-- How far the tildes of a word count. -/
inductive TildeScope where
  /-- At the beginning only. -/
  | start
  /-- After the first equals sign, and then after every colon. -/
  | assignment
  /-- After every colon. -/
  | value
  deriving DecidableEq, Repr, Inhabited

/-- The scope after a character, and whether a tilde counts that follows it. -/
def TildeScope.after (scope : TildeScope) (c : Char) : TildeScope × Bool :=
  match scope with
  | assignment => if c = '=' then (value, true) else (assignment, false)
  | value => (value, c = ':')
  | start => (start, false)

/-- A word in which tildes are replaced by home directories. `here` says whether a tilde counts at
the beginning, and `skipped` how many characters belong to the name of a user whose home directory
has been put there. -/
def withHomes (home : String → Option String) (scope : TildeScope) (here : Bool) (skipped : Nat) :
    Word → Word
  | [] => []
  | .char c false :: rest =>
    match skipped with
    | skipped + 1 => withHomes home scope false skipped rest
    | 0 =>
      let user? := if c = '~' ∧ here then userName? (scope ≠ .start) rest else none
      match user?.bind fun user => (home (String.ofList user)).map (user, ·) with
      | some (user, directory) =>
        directory.toList.map (.char · true) ++ withHomes home scope false user.length rest
      | none =>
        .char c false :: withHomes home (scope.after c).1 (scope.after c).2 0 rest
  | .parameter name form argument :: rest =>
    .parameter name form (withHomes home .start true 0 argument) ::
      withHomes home scope false 0 rest
  | f :: rest => f :: withHomes home scope false 0 rest

/-- A word in which tildes are replaced by home directories. -/
def resolveHomes (scope : TildeScope) (w : Word) : Effect Word := do
  let own ← Effect.lookup? "HOME"
  let home (user : String) : Option String :=
    if user = "" then own else if user = "root" then some "/root" else none
  let isTilde : Fragment → Bool := fun
    | .char c _ => c = '~'
    | .parameter .. => true
    | _ => false
  return if w.any isTilde then withHomes home scope (scope = .start) 0 w else w

/-! ## Variables -/

/-- The first separator that the shell uses to join arguments. -/
def joiner : Effect String := do
  match ← Effect.lookup? "IFS" with
  | none => return " "
  | some separators => return String.ofList (separators.toList.take 1)

/-- The separators at which words are split. -/
def separators : Effect (List Char) := do
  match ← Effect.lookup? "IFS" with
  | none => return Splitting.standard
  | some separators => return separators.toList

/-- The value of a parameter: of a variable, of an argument or of the shell's own. -/
def parameter? (s : Setting) (name : String) : Effect (Option String) := do
  let p ← Effect.self
  match name with
  | "?" => return some (toString p.status)
  | "$" => return some (toString p.shellNumber)
  | "#" => return some (toString p.arguments.length)
  | "!" => return p.lastJob.map toString
  | "-" => return some (String.ofList p.options)
  | "@" | "*" =>
    let apart := s.splits && (name = "@" || !s.quoted)
    let between ← if apart then pure Splitting.argumentEnd.toString else joiner
    return some (between.intercalate p.arguments)
  | "0" => return some p.name
  | _ =>
    if name.all Char.isDigit then return p.arguments[(name.toNat?.getD 0) - 1]?
    else Effect.lookup? name

/-- Fails because a parameter is not set. -/
def demandSet {α : Type} (name : String) (reason : String := "parameter not set") : Effect α :=
  Effect.fail s!"{name}: {reason}"

/-- The stretch that a value makes up. -/
def valueStretch (s : Setting) (name value : String) : Effect Stretch := do
  let glyphs := value.toList.map (Glyph.char · s.quoted)
  if !s.quoted then return { glyphs, splitting := .atSeparators }
  else if name = "@" && (← Effect.self).arguments ≠ [] then
    return { glyphs, splitting := .atArguments }
  else return { glyphs }

/-- The text of expanded stretches. -/
def textOf (word : List Stretch) : String := Glyph.text (word.flatMap (·.glyphs))

/-- The stretches of a parameter that is expanded in some form. `argument` expands the argument of
the form, if it has one. -/
def parameterStretches (s : Setting) (name : String) (form : ParameterForm)
    (argument : Option (Setting → Effect (List Stretch))) : Effect (List Stretch) := do
  let expand (s : Setting) : Effect (List Stretch) :=
    match argument with
    | some expand => expand s
    | none => return []
  let plain : Setting := { substitute := s.substitute }
  let whole (value : String) : Effect (List Stretch) := return [← valueStretch s name value]
  if form = .bad then Effect.fail "Bad substitution"
  let found ← parameter? s name
  let checkSet : Effect Unit := do
    if found.isNone ∧ (← Effect.option 'u') then demandSet name
  match form with
  | .bad => return []
  | .value =>
    checkSet
    whole (found.getD "")
  | .size =>
    checkSet
    whole (toString (found.getD "").length)
  | .trim atEnd longest =>
    checkSet
    match found with
    | none => return []
    | some value =>
      let pattern := Pattern.ofGlyphs ((← expand plain).flatMap (·.glyphs))
      let trim := if atEnd then Pattern.trimEnd else Pattern.trimStart
      whole (String.ofList (trim pattern longest value.toList))
  | .orElse action emptyIsUnset =>
    let value? := if emptyIsUnset then found.filter (· ≠ "") else found
    match action, value? with
    | .alternative, some _ | .substitute, none => expand { s with isFallback := true }
    | .alternative, none => return []
    | _, some value => whole value
    | .assign, none =>
      let value := textOf (← expand plain)
      unless Octets.isName name do Effect.fail s!"{name}: bad variable name"
      Effect.assign name value
      whole value
    | .demand, none =>
      if argument.isNone then
        let unset := "parameter not set"
        demandSet name (if emptyIsUnset then unset ++ " or null" else unset)
      else demandSet name (textOf (← expand plain))

/-! ## Words -/

/-- The stretch that the result of an expansion makes up. -/
def resultStretch (quoted : Bool) (text : String) : Stretch :=
  { glyphs := text.toList.map (.char · quoted)
    splitting := if quoted then .never else .atSeparators }

/-- The characters that a word begins with, after others that are given last first, and what follows
them. -/
def leadingChars (before : List (Char × Bool)) : Word → List (Char × Bool) × Word
  | .char c isLiteral :: rest => leadingChars ((c, isLiteral) :: before) rest
  | rest => (before.reverse, rest)

theorem sizeOf_leadingChars (before : List (Char × Bool)) (w : Word) :
    sizeOf (leadingChars before w).2 ≤ sizeOf w := by
  induction w generalizing before with
  | nil => exact Nat.le_refl _
  | cons f rest ih =>
    cases f with
    | char c isLiteral =>
      have := ih ((c, isLiteral) :: before)
      simp only [leadingChars, List.cons.sizeOf_spec] at *
      omega
    | _ => exact Nat.le_refl _

/-- The stretches that characters make up; those that are not literal may be split. -/
def charStretches (splits : Bool) (chars : List (Char × Bool)) : List Stretch :=
  if splits then
    (chars.splitBy fun a b => a.2 = b.2).map fun run =>
      { glyphs := run.map fun (c, isLiteral) => .char c isLiteral
        splitting := if (run.any (·.2)) then .never else .atSeparators }
  else [{ glyphs := chars.map fun (c, isLiteral) => .char c isLiteral }]

/-- The stretches of a word. -/
def stretches (s : Setting) (quoted : Bool) (w : Word) : Effect (List Stretch) :=
  match w with
  | [] => return []
  | .mark :: .parameter "@" .value _ :: .mark :: rest => do
    let mark : List Stretch := if quoted then [{ glyphs := [.mark] }] else []
    let value ← parameterStretches { s with quoted := s.quoted || !quoted } "@" .value none
    return mark ++ value ++ mark ++ (← stretches s quoted rest)
  | .mark :: rest => return { glyphs := [.mark] } :: (← stretches s (!quoted) rest)
  | .char c isLiteral :: rest => do
    let leading := leadingChars [(c, isLiteral)] rest
    let first := charStretches (s.isFallback && !s.quoted && !quoted) leading.1
    return first ++ (← stretches s quoted leading.2)
  | .parameter name form argument :: rest => do
    let expand : Setting → Effect (List Stretch) := fun s => stretches s false argument
    let value ← parameterStretches { s with quoted := s.quoted || quoted } name form
      (if argument.isEmpty then none else some expand)
    return value ++ (← stretches s quoted rest)
  | .command body :: rest => do
    let output ← s.substitute body
    return resultStretch (s.quoted || quoted) output :: (← stretches s quoted rest)
  | .arithmetic expression :: rest => do
    let text := textOf (← stretches { substitute := s.substitute } false expression)
    let value ← Arithmetic.evaluate text
    return resultStretch (s.quoted || quoted) (toString value) :: (← stretches s quoted rest)
termination_by sizeOf w
decreasing_by
  all_goals simp_wf
  all_goals try omega
  have := sizeOf_leadingChars [(c, isLiteral)] rest
  omega

/-! ## File names -/

/-- The parts of a pattern between slashes. -/
def components (pattern : List Pattern.Sign) : List (List Pattern.Sign) :=
  pattern.foldr (fun sign parts =>
    match parts with
    | [] => [[sign]]
    | part :: more => if sign.1 = '/' then [] :: parts else (sign :: part) :: more) [[]]

/-- Whether a pattern has a sign that can make it fit several texts. -/
def hasMeaning (pattern : List Pattern.Sign) : Bool :=
  pattern.any fun (c, isLiteral) => !isLiteral && (c = '*' || c = '?' || c = '[')

/-- The names in a directory that a pattern can fit. -/
def candidates (folder : Folder) (place : Place) (pattern : List Pattern.Sign) : List String :=
  let names := (folder.list place).map Octets.ofString
  if (pattern.head?.map (·.1)) = some '.' then "." :: ".." :: names
  else names.filter (!·.startsWith ".")

/-- The paths that the components of a pattern fit, each after the same beginning. -/
def matching (folder : Folder) (directory : Place) (start : String) :
    List (List Pattern.Sign) → List String
  | [] => []
  | [last] =>
    if hasMeaning last then
      match folder.find directory (if start = "" then "." else Octets.toString start) with
      | .ok (place, .directory) =>
        let items := Pattern.ofSigns last
        (candidates folder place last).filter (fun name => Pattern.fits items name.toList)
          |>.map (start ++ ·)
      | _ => []
    else
      let path := start ++ String.ofList (last.map (·.1))
      match folder.find directory (Octets.toString path) false with
      | .ok _ => [path]
      | .error _ => []
  | part :: more =>
    if hasMeaning part then
      match folder.find directory (if start = "" then "." else Octets.toString start) with
      | .ok (place, .directory) =>
        let items := Pattern.ofSigns part
        let names := (candidates folder place part).filter fun name =>
          Pattern.fits items name.toList
        names.flatMap fun name => matching folder directory (start ++ name ++ "/") more
      | _ => []
    else matching folder directory (start ++ String.ofList (part.map (·.1)) ++ "/") more

/-- The texts that a field stands for: the paths that it fits, if it is a pattern and there are any;
else its own text. -/
def pathsOf (glyphs : List Glyph) : Effect (List String) := do
  if !hasMeaning (glyphs.filterMap asSign) ∨ (← Effect.option 'f') then
    return [Glyph.text glyphs]
  let pattern := Pattern.signs glyphs
  let { folder, .. } := (← Effect.shared).host
  let found := matching folder (← Effect.self).directory "" (components pattern)
  return if found = [] then [Glyph.text glyphs] else found.mergeSort (· ≤ ·)
where
  /-- A glyph as a sign of a pattern. -/
  asSign : Glyph → Option Pattern.Sign
    | .char c isLiteral => some (c, isLiteral)
    | .mark => none

/-! ## Whole words -/

/-- The fields that a word stands for. -/
def fieldsOf (substitute : Command → Effect String) (w : Word) : Effect (List String) := do
  let w ← resolveHomes .start w
  let word ← stretches { substitute, splits := true } false w
  let fields := Splitting.fields (← separators) word
  return (← fields.mapM pathsOf).flatten

/-- The fields of several words. -/
def fieldsOfAll (substitute : Command → Effect String) (words : List Word) :
    Effect (List String) :=
  return (← words.mapM (fieldsOf substitute)).flatten

/-- The single text that a word stands for. -/
def textOfWord (substitute : Command → Effect String) (w : Word) (scope : TildeScope := .start) :
    Effect String := do
  let w ← resolveHomes scope w
  return textOf (← stretches { substitute } false w)

/-- The text of a redirection, in which quotation marks have no meaning. -/
def documentText (substitute : Command → Effect String) (w : Word) : Effect String :=
  return textOf (← stretches { substitute, quoted := true } false w)

/-- The pattern that a word stands for. -/
def patternOf (substitute : Command → Effect String) (w : Word) : Effect (List Pattern.Item) := do
  let w ← resolveHomes .start w
  return Pattern.ofGlyphs ((← stretches { substitute } false w).flatMap (·.glyphs))

end Expansion

end FileScript.Shell
