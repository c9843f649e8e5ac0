/-!
# Users and groups

The users and the groups that the system knows, by their names and numbers. Commands run as the
first user.
-/

namespace FileScript.Shell.Accounts

/-- A user of the system. -/
structure User where
  name : String
  number : Nat
  /-- The number of the group to which the user belongs. -/
  group : Nat
  deriving DecidableEq, Repr, Inhabited

/-- The users of the system. -/
def users : List User :=
  [⟨"root", 0, 0⟩, ⟨"daemon", 1, 1⟩, ⟨"bin", 2, 2⟩, ⟨"sys", 3, 3⟩, ⟨"sync", 4, 65534⟩,
    ⟨"games", 5, 60⟩, ⟨"man", 6, 12⟩, ⟨"lp", 7, 7⟩, ⟨"mail", 8, 8⟩, ⟨"news", 9, 9⟩,
    ⟨"uucp", 10, 10⟩, ⟨"proxy", 13, 13⟩, ⟨"www-data", 33, 33⟩, ⟨"backup", 34, 34⟩,
    ⟨"list", 38, 38⟩, ⟨"irc", 39, 39⟩, ⟨"_apt", 42, 65534⟩, ⟨"nobody", 65534, 65534⟩]

/-- The groups of the system with their numbers. -/
def groups : List (String × Nat) :=
  [("root", 0), ("daemon", 1), ("bin", 2), ("sys", 3), ("adm", 4), ("tty", 5), ("disk", 6),
    ("lp", 7), ("mail", 8), ("news", 9), ("uucp", 10), ("man", 12), ("proxy", 13), ("kmem", 15),
    ("dialout", 20), ("fax", 21), ("voice", 22), ("cdrom", 24), ("floppy", 25), ("tape", 26),
    ("sudo", 27), ("audio", 29), ("dip", 30), ("www-data", 33), ("backup", 34),
    ("operator", 37), ("list", 38), ("irc", 39), ("src", 40), ("shadow", 42), ("utmp", 43),
    ("video", 44), ("sasl", 45), ("plugdev", 46), ("staff", 50), ("games", 60), ("users", 100),
    ("nogroup", 65534)]

/-- The user with a name. -/
def user? (name : String) : Option User := users.find? (·.name = name)

/-- The name of the user with a number. -/
def userName? (number : Nat) : Option String := (users.find? (·.number = number)).map (·.name)

/-- The name of the group with a number. -/
def groupName? (number : Nat) : Option String := (groups.find? (·.2 = number)).map (·.1)

/-- The number that a word denotes by its digits. -/
def number? (word : String) : Option Nat :=
  if word ≠ "" ∧ word.toList.all Char.isDigit then
    (word.toNat?).filter (· < UInt32.size - 1)
  else none

/-- The number of the user that a word denotes, by a name or a number. -/
def userNumber? (word : String) : Option Nat := ((user? word).map (·.number)).or (number? word)

/-- The number of the group that a word denotes, by a name or a number. -/
def groupNumber? (word : String) : Option Nat := (groups.lookup word).or (number? word)

end FileScript.Shell.Accounts
