/-!
# Orders that respect precedence

Pairs of names say that one comes before another. An order of all names that respects them is found
by taking names that nothing precedes any more, the ones that became free first before others. Where
there is a loop, one of its pairs is given up.
-/

namespace FileScript.Shell.Precedence

/-- What is known of a name. -/
structure Node where
  name : String
  /-- How many pairs say that another name comes before. -/
  count : Nat := 0
  /-- The names that come behind, by their numbers, the latest first. -/
  behind : List Nat := []
  placed : Bool := false
  deriving Repr, Inhabited

/-- A part of the order that is found: a name, or a loop that is given up. -/
inductive Finding where
  | name (name : String)
  | loop (names : List String)
  deriving DecidableEq, Repr, Inhabited

/-- The nodes of all names, in the order of the alphabet. -/
abbrev Graph := Array Node

/-- The graph of pairs of names. A name does not precede itself. -/
def ofPairs (pairs : List (String × String)) : Graph :=
  let names := (pairs.flatMap fun (a, b) => [a, b]).mergeSort
    fun a b => compare a.toList b.toList ≠ .gt
  let names := (names.splitBy (· = ·)).filterMap List.head?
  let start : Graph := (names.map fun name => ({ name } : Node)).toArray
  pairs.foldl (fun g (a, b) =>
    match g.findIdx? (·.name = a), g.findIdx? (·.name = b) with
    | some i, some j =>
      if i = j then g
      else (g.modify j fun n => { n with count := n.count + 1 }).modify i
        fun n => { n with behind := j :: n.behind }
    | _, _ => g) start

/-- The names that nothing precedes and that have no place yet. -/
def free (g : Graph) : List Nat :=
  (List.range g.size).filter fun i => (g[i]?).any fun n => n.count = 0 && !n.placed

/-- Takes names from a queue, where they are followed by those that become free. -/
def release : Nat → (queue : List Nat) → Graph → Graph × List Finding
  | 0, _, g | _, [], g => (g, [])
  | fuel + 1, i :: queue, g =>
    match g[i]? with
    | none => release fuel queue g
    | some n =>
      let g := g.modify i ({ · with placed := true })
      let (g, freed) := n.behind.foldl (fun (g, freed) j =>
        let g := g.modify j fun m => { m with count := m.count - 1 }
        if (g[j]?).any (·.count = 0) then (g, freed ++ [j]) else (g, freed)) (g, ([] : List Nat))
      let (g, rest) := release fuel (queue ++ freed) g
      (g, .name n.name :: rest)

/-- A search for a loop: a path of names each of which precedes the next. -/
structure Trail where
  path : List Nat := []
  /-- The first name of a pair that closes a loop. -/
  closing : Option Nat := none
  deriving Repr, Inhabited

/-- Looks whether a name that is not free precedes the first one of a path. -/
def Trail.step (g : Graph) (t : Trail) (i : Nat) : Trail :=
  match t.closing, g[i]?, t.path with
  | some _, _, _ | _, none, _ => t
  | none, some n, path =>
    if n.count = 0 then t
    else match path with
      | [] => { path := [i] }
      | first :: _ =>
        if first ∉ n.behind then t
        else if i ∈ path.dropLast then { t with closing := some i }
        else { t with path := i :: path }

/-- Looks for a loop. -/
def findLoop (g : Graph) : Nat → Trail → Trail
  | 0, t => t
  | fuel + 1, t =>
    let t := (List.range g.size).foldl (Trail.step g) t
    if t.closing.isSome then t else findLoop g fuel t

/-- Gives up the pair that closes a loop. -/
def breakLoop (g : Graph) : Graph × List Finding :=
  let t := findLoop g (g.size + 2) {}
  match t.closing, t.path with
  | some k, first :: _ =>
    let members := t.path.take ((t.path.idxOf k) + 1)
    let names := members.filterMap fun i => (g[i]?).map (·.name)
    let g := (g.modify k fun n => { n with behind := n.behind.erase first }).modify first
      fun n => { n with count := n.count - 1 }
    (g, [.loop names])
  | _, _ => (g.map ({ · with placed := true }), [])

/-- The names of a graph in an order. -/
def order : Nat → Graph → List Finding
  | 0, _ => []
  | fuel + 1, g =>
    let (g, found) := release (g.size + 1) (free g) g
    if g.all (·.placed) then found
    else
      let (g, lost) := breakLoop g
      found ++ lost ++ order fuel g

/-- An order of all names in pairs, with the loops that were given up. -/
def sorted (pairs : List (String × String)) : List Finding :=
  let g := ofPairs pairs
  order (pairs.length + 1) g

end FileScript.Shell.Precedence
