import FileScript.Shell.Precedence
import FileScript.Shell.Programs.Basic

/-!
# Names in order

A text holds pairs of names, the first of which comes before the second. All names are printed in an
order that respects them.
-/

namespace FileScript.Shell

namespace Programs

open Effect

/-- Prints names in an order in which the first of each pair precedes the second. -/
def tsort (words : List String) : Effect Nat :=
  called [] words fun call => do
    match call.operands with
    | _ :: extra :: _ => hasExtra extra
    | operands =>
      let path := operands.headD "-"
      let shown := Quoting.ifNeeded path
      match ← readFile path with
      | .error (.opening reason) => refuse s!"{shown}: {reason}"
      | .error (.reading reason) => refuse s!"{shown}: read error: {reason}"
      | .ok text =>
        let isGap (c : Char) : Bool := c = ' ' || c = '\t' || c = '\n'
        let runs := text.toList.splitBy fun a b => isGap a = isGap b
        let names := (runs.filter fun run => !run.any isGap).map String.ofList
        let rec pairs : List String → Option (List (String × String))
          | [] => some []
          | [_] => none
          | a :: b :: rest => (pairs rest).map ((a, b) :: ·)
        match pairs names with
        | none => refuse s!"{shown}: input contains an odd number of tokens"
        | some found =>
          let order := Precedence.sorted found
          order.forM fun
            | .name name => print (name ++ "\n")
            | .loop names => do
              tell s!"{shown}: input contains a loop:"
              names.forM tell
          return if order.any (fun
            | .loop _ => true
            | .name _ => false) then 1 else 0

end Programs

end FileScript.Shell
