import FileScript.Shell.Records.Value
import Std.Data.TreeMap

/-!
# Tables

A table holds values by keys, which are texts. Its keys are kept in chains, so that the order in
which they are walked through depends on how they were used: a key that is used moves to the front
of its chain. Keys that are used as integers are kept in chains of their own, and become texts when
a text is asked for.
-/

namespace FileScript.Shell

namespace Records

/-- A table. -/
structure Table where
  values : Std.TreeMap String Value := {}
  /-- The chains of the keys that have been used as integers. -/
  integers : Array (List Int) := .replicate 64 []
  /-- The chains of the keys that have been used as texts. -/
  texts : Array (List String) := .replicate 64 []
  /-- Whether all keys are in the chains of texts. -/
  hasTexts : Bool := false

instance : Inhabited Table := ⟨{}⟩

namespace Table

/-- A number made from a text, which chooses a chain. -/
def hash (text : String) : UInt32 :=
  text.foldl (fun h c => (h ^^^ UInt32.ofNat c.toNat) * 16777619) 2166136261

/-- The chain of a text. -/
def chainOf (text : String) : Nat := (hash text).toNat % 64

/-- The chain of an integer. -/
def chainOfInteger (n : Int) : Nat := (n % 64).toNat

/-- The number of keys. -/
def size (t : Table) : Nat := t.values.size

/-- Puts a key at the front of a chain. -/
def toFront {α : Type} [DecidableEq α] (key : α) (chains : Array (List α)) (i : Nat) :
    Array (List α) :=
  chains.modify i fun chain => key :: chain.filter (· ≠ key)

/-- Puts the keys that are integers into the chains of texts too. -/
def withTexts (t : Table) : Table :=
  if t.hasTexts then t
  else
    let texts := t.integers.foldl (fun texts chain =>
      chain.foldl (fun texts n =>
        let text := toString n
        texts.modify (chainOf text) (text :: ·)) texts) t.texts
    { t with texts, hasTexts := true }

/-- Looks a text up. With `makes`, it becomes a key. -/
def useText (makes : Bool) (key : String) (t : Table) : Table :=
  let t := t.withTexts
  if t.values.contains key then { t with texts := toFront key t.texts (chainOf key) }
  else if makes then
    { t with
      texts := toFront key t.texts (chainOf key), values := t.values.insert key .nothing }
  else t

/-- Looks an integer up. With `makes`, it becomes a key. -/
def useInteger (makes : Bool) (n : Int) (t : Table) : Table :=
  let i := chainOfInteger n
  let isKnown := n ∈ t.integers.getD i []
  if isKnown then { t with integers := toFront n t.integers i }
  else
    let key := toString n
    let t := if t.hasTexts then t.useText makes key
      else if makes then { t with values := t.values.insert key .nothing }
      else t
    if t.values.contains key then { t with integers := toFront n t.integers i } else t

/-- What is looked up in a table: a text, and the integer that it is written for. -/
structure Key where
  text : String
  integer : Option Int := none

/-- The key that a value stands for. The format is for numbers. -/
def keyOf (format : String) (v : Value) : Key :=
  match v with
  | .number x =>
    match wholeOf? x with
    | some n => { text := toString n, integer := some n }
    | none => { text := v.toText format }
  | _ => { text := v.toText format }

/-- Looks a key up. -/
def use (makes : Bool) (key : Key) (t : Table) : Table :=
  match key.integer with
  | some n => t.useInteger makes n
  | none => t.useText makes key.text

/-- Whether a text is a key. -/
def contains (t : Table) (key : String) : Bool := t.values.contains key

/-- The value of a key. -/
def get (t : Table) (key : String) : Value := t.values.getD key .nothing

/-- Gives a key a value. -/
def set (t : Table) (key : String) (v : Value) : Table :=
  { t with values := t.values.insert key v }

/-- Takes a key away. -/
def erase (t : Table) (key : String) : Table :=
  if t.values.contains key ∧ t.values.size = 1 then {}
  else
    let integers := match key.toInt? with
      | some n => t.integers.modify (chainOfInteger n) (·.filter (· ≠ n))
      | none => t.integers
    { t with
      values := t.values.erase key, integers
      texts := t.texts.modify (chainOf key) (·.filter (· ≠ key)) }

/-- The keys in the order in which they are walked through. -/
def keys (t : Table) : List String := t.withTexts.texts.toList.flatten

/-- The table of some values, which are numbered from one on. -/
def ofList (values : List Value) : Table :=
  (values.zipIdx 1).foldl (fun t (v, i) => (t.useInteger true i).set (toString i) v) {}

end Table

end Records

end FileScript.Shell
