/-!
# Runs of characters

The maximal runs of characters outside a class of separators, in order. Paths split this way at
slashes, and statements at spaces and tabs. A run is not empty and holds no separator, and there is
none only where every character is a separator.
-/

namespace FileScript.Text

/-- The maximal runs of characters of a text that are not separators, in order. -/
def runs (isSeparator : Char → Bool) : List Char → List (List Char)
  | [] => []
  | c :: rest =>
    if isSeparator c then runs isSeparator rest
    else
      (c :: rest.takeWhile (!isSeparator ·)) :: runs isSeparator (rest.dropWhile (!isSeparator ·))
termination_by text => text.length
decreasing_by
  · simp
  · exact Nat.lt_succ_of_le (List.dropWhile_sublist _).length_le

variable {isSeparator : Char → Bool} {text run : List Char}

theorem ne_nil_of_mem_runs (h : run ∈ runs isSeparator text) : run ≠ [] := by
  fun_induction runs isSeparator text with
  | case1 => cases h
  | case2 c rest hc ih => exact ih h
  | case3 c rest hc ih =>
    rcases List.mem_cons.mp h with rfl | h
    · exact List.cons_ne_nil _ _
    · exact ih h

theorem isSeparator_of_mem_runs (h : run ∈ runs isSeparator text) {c : Char} (hc : c ∈ run) :
    isSeparator c = false := by
  fun_induction runs isSeparator text with
  | case1 => cases h
  | case2 d rest hd ih => exact ih h
  | case3 d rest hd ih =>
    rcases List.mem_cons.mp h with rfl | h
    · rcases List.mem_cons.mp hc with rfl | hc
      · simpa using hd
      · simpa using List.all_eq_true.mp List.all_takeWhile _ hc
    · exact ih h

theorem runs_eq_nil_iff : runs isSeparator text = [] ↔ ∀ c ∈ text, isSeparator c := by
  fun_induction runs isSeparator text with
  | case1 => simp
  | case2 c rest hc ih => simp [hc, ih]
  | case3 c rest hc ih => simp [hc]

end FileScript.Text
