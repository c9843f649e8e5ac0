import FileScript.Shell.Accounts
import FileScript.Shell.Programs.Making

/-!
# Owners of files

A file belongs to a user and to a group. Words name them, with a colon between the two.
-/

namespace FileScript.Shell

namespace Programs

open Effect

/-! ## Whom files are given to -/

/-- To whom files are given: a user and a group, by their numbers and by what messages call them. -/
structure Owner where
  user : Option Nat := none
  group : Option Nat := none
  userName : Option String := none
  groupName : Option String := none
  deriving DecidableEq, Repr, Inhabited

namespace Owner

/-- The user that a word denotes. A plus sign stands before a number. -/
def userOf? (word : String) : Option Nat :=
  if word.startsWith "+" then Accounts.number? (word.drop 1).toString
  else Accounts.userNumber? word

/-- The group that a word denotes. A plus sign stands before a number. -/
def groupOf? (word : String) : Option Nat :=
  if word.startsWith "+" then Accounts.number? (word.drop 1).toString
  else Accounts.groupNumber? word

/-- The name of a user, or the number. -/
def userText (number : Nat) : String := (Accounts.userName? number).getD (toString number)

/-- The name of a group, or the number. -/
def groupText (number : Nat) : String := (Accounts.groupName? number).getD (toString number)

/-- A user and a group in a word, with a mark between them. -/
def ofParts (word user group : String) (hasMark : Bool) : Except String Owner := do
  let number ←
    if user = "" then pure none
    else match userOf? user with
      | some n => pure (some n)
      | none => throw s!"invalid user: {Quoting.value word}"
  let plain (word : String) : String := (word.dropWhile (· = '+')).toString
  if group ≠ "" then
    match groupOf? group with
    | some n =>
      return {
        user := number, group := some n, userName := some (plain user)
        groupName := some (plain group) }
    | none => throw s!"invalid group: {Quoting.value word}"
  if hasMark ∧ user ≠ "" then
    match Accounts.users.find? fun u => some u.number = number with
    | some u =>
      return {
        user := number, group := some u.group, userName := some (plain user)
        groupName := some (groupText u.group) }
    | none => throw s!"invalid spec: {Quoting.value word}"
  return { user := number, userName := if user = "" then none else some (plain user) }

/-- The user and the group that a word denotes. A point can stand for the colon. -/
def ofText (word : String) : Except String Owner :=
  match word.splitOn ":" with
  | user :: rest@(_ :: _) => ofParts word user (":".intercalate rest) true
  | _ =>
    match ofParts word word "" false with
    | .ok owner => .ok owner
    | .error text =>
      match word.splitOn "." with
      | user :: rest@(_ :: _) =>
        ((ofParts word user (".".intercalate rest) true).toOption).elim (.error text) .ok
      | _ => .error text

/-- The group that a word denotes. -/
def ofGroup (word : String) : Except String Owner :=
  if word = "" then .ok {}
  else match groupOf? word with
    | some n => .ok { group := some n, groupName := some ((word.dropWhile (· = '+')).toString) }
    | none => .error s!"invalid group: {Quoting.value word}"

/-- The owner of the item at a place. -/
def ofPlace (folder : Folder) (place : Place) : Owner :=
  let details := folder.detailsOf place
  { user := some details.owner, group := some details.group
    userName := some (userText details.owner), groupName := some (groupText details.group) }

/-- A user and a group as a message shows them. -/
def shown (user group : Option String) : String :=
  match user, group with
  | some user, some group => s!"{user}:{group}"
  | some user, none => user
  | none, some group => group
  | none, none => ""

end Owner

/-! ## Giving files -/

/-- How files are given to others. -/
structure Giving where
  owner : Owner
  /-- Only files of this owner are given. -/
  previous : Owner := {}
  call : Call

namespace Giving

/-- The ending of what is said of a file: from whom, and to whom it goes. -/
def ending (g : Giving) (old : Option Owner) : String :=
  let o := g.owner
  let new := Owner.shown o.userName o.groupName
  match old with
  | some old =>
    let user := o.userName.bind fun _ => old.userName
    let group := o.groupName.bind fun _ => old.groupName
    s!" from {Owner.shown user group} to {new}"
  | none => if new = "" then "" else s!" to {new}"

/-- What is given of files. -/
def what (g : Giving) : String :=
  if g.owner.userName.isSome ∨ g.owner.groupName.isNone then "ownership" else "group"

/-- Gives the item at a place to others, and tells so if that is asked for. -/
def give (g : Giving) (path : String) (place : Place) : Effect Unit := do
  let old := Owner.ofPlace (← shared).host.folder place
  let fits (wanted found : Option Nat) : Bool := wanted.isNone || wanted = found
  let isMeant := fits g.previous.user old.user && fits g.previous.group old.group
  let isNew := !(fits g.owner.user old.user && fits g.owner.group old.group)
  let name := Quoting.always path
  if isMeant then
    modifyFolder (·.modifyDetails place fun details => { details with
      owner := g.owner.user.getD details.owner, group := g.owner.group.getD details.group })
  if isMeant ∧ isNew then
    if g.call.has "verbose" ∨ g.call.has "changes" then
      print s!"changed {g.what} of {name}{g.ending (some old)}\n"
  else if g.call.has "verbose" then
    let user := g.owner.userName.bind fun _ => old.userName
    let group := g.owner.groupName.bind fun _ => old.groupName
    let kept := Owner.shown user group
    let ending := if kept = "" then kept else " as " ++ kept
    print s!"{g.what} of {name} retained{ending}\n"

/-- Gives an item to others, after all that is in it. -/
def giveTree (g : Giving) : Nat → String → Place → Effect Unit
  | 0, _, _ => return
  | fuel + 1, path, place => do
    let folder := (← shared).host.folder
    if let some .directory := folder.item? place then
      (folder.list place).forM fun name => do
        let separator := if path.endsWith "/" then "" else "/"
        g.giveTree fuel (path ++ separator ++ Octets.ofString name) (place ++ [name])
    g.give path place

/-- Gives what is at a path to others. -/
def giveAt (g : Giving) (path : String) : Effect Nat := do
  let name := Quoting.always path
  let isSilent := g.call.has "silent"
  match ← findEntry path with
  | .error e =>
    unless isSilent do tell s!"cannot access {name}: {e.text}"
    if g.call.has "verbose" then print s!"failed to change {g.what} of {name}{g.ending none}\n"
    return 1
  | .ok (place, item) =>
    match item, g.call.has "no-dereference", g.call.has "recursive" with
    | .link _, false, false =>
      match ← find path with
      | .ok (goal, _) =>
        g.give path goal
        return 0
      | .error e =>
        let old : Owner := { userName := some (Owner.userText 0), groupName := some (Owner.groupText 0) }
        unless isSilent do tell s!"cannot dereference {name}: {e.text}"
        if g.call.has "verbose" then
          print s!"failed to change {g.what} of {name}{g.ending (some old)}\n"
        return 1
    | .directory, _, true =>
      g.giveTree (← directoryDepth) path place
      return 0
    | _, _, _ =>
      g.give path place
      return 0

end Giving

/-- The options of `chown`. -/
def chownOptions : List Known :=
  [flag 'c' "changes", flag 'f' "silent", also "silent" "quiet", flag 'v' "verbose",
    flag 'R' "recursive", flag 'h' "no-dereference", long "dereference", flag 'H', flag 'L',
    flag 'P', long "reference" .value, long "from" .value, long "no-preserve-root",
    long "preserve-root"]

/-- Gives files to the owner that the first word denotes. -/
def givingTo (ofWord : String → Except String Owner) (words : List String) : Effect Nat :=
  called chownOptions words fun call => do
    let reference := call.value? "reference"
    let (word, paths) := match reference, call.operands with
      | none, word :: rest => (word, rest)
      | _, operands => ("", operands)
    if call.has "recursive" ∧ call.has "dereference" ∧ !(call.has "H" || call.has "L") then
      return ← refuse "-R --dereference requires either -H or -L"
    if reference.isNone ∧ call.operands = [] then return ← lacksOperand
    if paths = [] then
      return ← if reference.isSome then lacksOperand
        else misused s!"missing operand after {Quoting.value word}"
    let owner ← match reference with
      | none => pure (ofWord word)
      | some path =>
        match ← find path with
        | .ok (place, _) => pure (.ok (Owner.ofPlace (← shared).host.folder place))
        | .error e =>
          pure (.error s!"failed to get attributes of {Quoting.always path}: {e.text}")
    match owner, ((call.value? "from").map Owner.ofText).getD (.ok {}) with
    | .error text, _ | .ok _, .error text => refuse text
    | .ok owner, .ok previous =>
      let g : Giving := { owner, previous, call }
      return worst (← paths.mapM g.giveAt)

/-- Gives files to a user and a group. -/
def chown (words : List String) : Effect Nat := givingTo Owner.ofText words

/-- Gives files to a group. -/
def chgrp (words : List String) : Effect Nat :=
  let onlyGroup (owner : Owner) : Owner := { owner with user := none, userName := none }
  givingTo (fun word => (Owner.ofGroup word).map onlyGroup) words

end Programs

end FileScript.Shell
