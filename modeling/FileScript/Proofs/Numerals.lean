import FileScript.Request
import Mathlib

/-!
# Numerals

Which tokens are numbers. A numeral is one or more digits behind at most one plus sign, and denotes
the sum of its digits by their places (`Numeral.Denotes`).

1. A token is read as the number that it denotes (`Numeral.value?_eq_some_iff`).
2. Digits that are gathered from left to right in a machine word stop it from overflowing exactly if
   the number does not fit, however many zeros lead (`Numeral.gather_eq_some_iff`).
3. A number that is written without a sign is read back (`Numeral.value?_digits`).
4. So statements accept exactly the numerals of numbers that are small enough, and refuse all other
   tokens with a fault that shows the token (`Request.Reads`).
-/

namespace FileScript

namespace Numeral

variable {base n size : Nat} {token : String}

/-! ## Digits -/

/-- The digits of a number, the highest place first. Zero has one digit. -/
def places (base n : Nat) : List Nat := if n = 0 then [0] else (Nat.digits base n).reverse

theorem places_ne_nil (base n : Nat) : places base n ≠ [] := by
  unfold places
  split
  · exact List.cons_ne_nil _ _
  · next hn => exact fun h => hn (Nat.digits_eq_nil_iff_eq_zero.mp (List.reverse_eq_nil_iff.mp h))

theorem lt_of_mem_places (hbase : 1 < base) : ∀ d ∈ places base n, d < base := by
  intro d hd
  unfold places at hd
  split at hd
  · rw [List.mem_singleton.mp hd]
    exact Nat.zero_lt_of_lt hbase
  · exact Nat.digits_lt_base hbase (List.mem_reverse.mp hd)

/-- The digits of a number add up to it by their places. -/
theorem ofDigits_places (base n : Nat) : Nat.ofDigits base (places base n).reverse = n := by
  unfold places
  split
  · next hn => rw [hn, List.reverse_singleton, Nat.ofDigits_singleton]
  · rw [List.reverse_reverse, Nat.ofDigits_digits]

theorem places_of_lt (hn : n < base) : places base n = [n] := by
  unfold places
  split
  · next hzero => rw [hzero]
  · next hne => rw [Nat.digits_of_lt base n hne hn, List.reverse_singleton]

theorem places_of_le (hbase : 1 < base) (hn : base ≤ n) :
    places base n = places base (n / base) ++ [n % base] := by
  have hpos : 0 < n := (Nat.zero_lt_of_lt hbase).trans_le hn
  have hdiv : n / base ≠ 0 := (Nat.div_pos hn (Nat.zero_lt_of_lt hbase)).ne'
  rw [places, places, if_neg hpos.ne', if_neg hdiv, Nat.digits_def' hbase hpos, List.reverse_cons]

/-- A number is written by its digits. -/
theorem toDigits_eq (hbase : 1 < base) (n : Nat) :
    Nat.toDigits base n = (places base n).map Nat.digitChar := by
  induction n using Nat.strong_induction_on with
  | _ n ih =>
    rw [Nat.toDigits_eq_if hbase]
    split
    · next hn => rw [places_of_lt hn, List.map_singleton]
    · next hn =>
      have hn := not_lt.mp hn
      have hlt := Nat.div_lt_self ((Nat.zero_lt_of_lt hbase).trans_le hn) hbase
      rw [ih _ hlt, places_of_le hbase hn, List.map_append, List.map_singleton]

theorem toNat_digitChar {d : Nat} (hd : d < 10) : (Nat.digitChar d).toNat = '0'.toNat + d := by
  rw [Nat.toNat_digitChar_of_lt_ten hd]
  rfl

/-- The digits of a base are the characters that stand for the numbers below it. -/
theorem isDigitOf_iff (hbase : base ≤ 10) {c : Char} :
    isDigitOf base c = true ↔ ∃ d < base, c = Nat.digitChar d := by
  rw [isDigitOf, Bool.and_eq_true, decide_eq_true_iff, decide_eq_true_iff, Char.le_def,
    UInt32.le_iff_toNat_le]
  constructor
  · rintro ⟨hle, hlt⟩
    change '0'.toNat ≤ c.toNat at hle
    refine ⟨c.toNat - '0'.toNat, by omega, Char.toNat_inj.mp ?_⟩
    rw [toNat_digitChar (by omega)]
    omega
  · rintro ⟨d, hd, rfl⟩
    have hnat := toNat_digitChar (hd.trans_le hbase)
    change '0'.toNat ≤ (Nat.digitChar d).toNat ∧ _
    omega

theorem all_isDigitOf_iff (hbase : base ≤ 10) {text : List Char} :
    (∀ c ∈ text, isDigitOf base c = true) ↔
      ∃ digits : List Nat, (∀ d ∈ digits, d < base) ∧ text = digits.map Nat.digitChar := by
  constructor
  · intro h
    induction text with
    | nil => exact ⟨[], fun d hd => absurd hd List.not_mem_nil, rfl⟩
    | cons c text ih =>
      obtain ⟨hc, htext⟩ := List.forall_mem_cons.mp h
      obtain ⟨d, hd, rfl⟩ := (isDigitOf_iff hbase).mp hc
      obtain ⟨digits, hdigits, rfl⟩ := ih htext
      exact ⟨d :: digits, List.forall_mem_cons.mpr ⟨hd, hdigits⟩, rfl⟩
  · rintro ⟨digits, hdigits, rfl⟩ c hc
    obtain ⟨d, hd, rfl⟩ := List.mem_map.mp hc
    exact (isDigitOf_iff hbase).mpr ⟨d, hdigits d hd, rfl⟩

/-- Digits that are read from left to right add up by their places. -/
theorem ofDigitChars_map {digits : List Nat} (hdigits : ∀ d ∈ digits, d < 10) :
    Nat.ofDigitChars base (digits.map Nat.digitChar) 0 = Nat.ofDigits base digits.reverse := by
  induction digits using List.reverseRecOn with
  | nil => rfl
  | append_singleton digits last ih =>
    obtain ⟨hdigits, hlast⟩ := List.forall_mem_append.mp hdigits
    rw [List.map_append, Nat.ofDigitChars_append, ih hdigits, List.reverse_concat,
      Nat.ofDigits_cons, List.map_singleton, Nat.ofDigitChars_cons, Nat.ofDigitChars_nil,
      toNat_digitChar (hlast last (List.mem_singleton_self _)), Nat.add_sub_cancel_left,
      Nat.add_comm]

theorem toString_eq_digits (n : Nat) : toString n = digits 10 n := by
  rw [Nat.toString_eq_repr, Nat.repr, digits]

/-! ## What tokens denote -/

/-- A token denotes a number in a base: it is one or more digits behind at most one plus sign, and
the number is the sum of the digits by their places. -/
def Denotes (base : Nat) (token : String) (n : Nat) : Prop :=
  ∃ digits : List Nat, digits ≠ [] ∧ (∀ d ∈ digits, d < base) ∧
    (token.toList = digits.map Nat.digitChar ∨ token.toList = '+' :: digits.map Nat.digitChar) ∧
    n = Nat.ofDigits base digits.reverse

/-- A token without the sign at its beginning. -/
def unsigned : List Char → List Char
  | '+' :: rest => rest
  | text => text

theorem unsigned_of_head_ne {text : List Char} (h : text.head? ≠ some '+') :
    unsigned text = text := by
  unfold unsigned
  split
  · exact absurd rfl h
  · rfl

theorem unsigned_eq_iff {text digits : List Char} (hdigits : digits.head? ≠ some '+') :
    unsigned text = digits ↔ text = digits ∨ text = '+' :: digits := by
  constructor
  · rintro rfl
    unfold unsigned
    split
    · exact .inr rfl
    · exact .inl rfl
  · rintro (rfl | rfl)
    · exact unsigned_of_head_ne hdigits
    · rfl

theorem value?_eq (base : Nat) (token : String) :
    value? base token =
      if unsigned token.toList ≠ [] ∧ (unsigned token.toList).all (isDigitOf base) then
        some (Nat.ofDigitChars base (unsigned token.toList) 0)
      else none := rfl

/-- Digits do not begin with a sign. -/
theorem head?_map_digitChar {digits : List Nat} (hdigits : ∀ d ∈ digits, d < 10) :
    (digits.map Nat.digitChar).head? ≠ some '+' := by
  intro h
  obtain ⟨d, hd, heq⟩ := List.mem_map.mp (List.mem_of_head? h)
  have hnat := toNat_digitChar (hdigits d hd)
  rw [heq] at hnat
  change 43 = 48 + d at hnat
  omega

/-- **A token is read as the number that it denotes.** -/
theorem value?_eq_some_iff (hbase : base ≤ 10) :
    value? base token = some n ↔ Denotes base token n := by
  have hsmall : ∀ {digits : List Nat}, (∀ d ∈ digits, d < base) → ∀ d ∈ digits, d < 10 :=
    fun hdigits d hd => (hdigits d hd).trans_le hbase
  rw [value?_eq, Option.ite_none_right_eq_some, List.all_eq_true, all_isDigitOf_iff hbase,
    Option.some.injEq]
  constructor
  · rintro ⟨⟨hne, digits, hdigits, heq⟩, rfl⟩
    refine ⟨digits, fun hnil => hne (by rw [heq, hnil, List.map_nil]), hdigits, ?_, ?_⟩
    · exact (unsigned_eq_iff (head?_map_digitChar (hsmall hdigits))).mp heq
    · rw [heq, ofDigitChars_map (hsmall hdigits)]
  · rintro ⟨digits, hne, hdigits, htoken, rfl⟩
    have heq := (unsigned_eq_iff (head?_map_digitChar (hsmall hdigits))).mpr htoken
    rw [heq, ofDigitChars_map (hsmall hdigits)]
    exact ⟨⟨fun hnil => hne (List.map_eq_nil_iff.mp hnil), digits, hdigits, rfl⟩, rfl⟩

/-- The digits of a number denote it. -/
theorem denotes_digits (hbase : 1 < base) (n : Nat) : Denotes base (digits base n) n :=
  ⟨places base n, places_ne_nil base n, lt_of_mem_places hbase,
    .inl (by rw [digits, String.toList_ofList, toDigits_eq hbase]), (ofDigits_places base n).symm⟩

/-- A number that is written without a sign is read back. -/
theorem value?_digits (hone : 1 < base) (hten : base ≤ 10) (n : Nat) :
    value? base (digits base n) = some n :=
  (value?_eq_some_iff hten).mpr (denotes_digits hone n)

/-! ## Gathering digits in a machine word -/

/-- A number, if it is one of the `size` values of a machine word. -/
def fit (size n : Nat) : Option Nat := if n < size then some n else none

/-- Digits are gathered from left to right in a machine word, which moves up by a place for each. It
must never overflow on the way. -/
def gather (base size : Nat) (word : Nat) : List Char → Option Nat
  | [] => some word
  | c :: rest => do
    let moved ← fit size (word * base)
    if isDigitOf base c then gather base size (← fit size (moved + (c.toNat - '0'.toNat))) rest
    else none

theorem le_ofDigitChars (hbase : 0 < base) (text : List Char) (word : Nat) :
    word ≤ Nat.ofDigitChars base text word := by
  induction text generalizing word with
  | nil => exact le_rfl
  | cons c text ih =>
    rw [Nat.ofDigitChars_cons]
    exact ((Nat.le_mul_of_pos_left word hbase).trans (Nat.le_add_right _ _)).trans (ih _)

/-- **A word overflows on the way exactly if the number does not fit**, since it never gets
smaller. -/
theorem gather_eq_some_iff (hbase : 0 < base) {text : List Char} {word : Nat}
    (hword : word < size) :
    gather base size word text = some n ↔ (∀ c ∈ text, isDigitOf base c = true) ∧
      n = Nat.ofDigitChars base text word ∧ n < size := by
  induction text generalizing word with
  | nil =>
    rw [gather, Option.some.injEq, Nat.ofDigitChars_nil]
    constructor
    · rintro rfl
      exact ⟨fun c hc => absurd hc List.not_mem_nil, rfl, hword⟩
    · rintro ⟨-, rfl, -⟩
      rfl
  | cons c text ih =>
    have hstep : gather base size word (c :: text) = some n ↔ word * base < size ∧
        isDigitOf base c = true ∧ word * base + (c.toNat - '0'.toNat) < size ∧
          gather base size (word * base + (c.toNat - '0'.toNat)) text = some n := by
      simp only [gather, fit, bind, Option.bind_eq_some_iff, Option.ite_none_right_eq_some,
        Option.some.injEq]
      constructor
      · rintro ⟨_, ⟨hmoved, rfl⟩, hc, _, ⟨hadded, rfl⟩, hrest⟩
        exact ⟨hmoved, hc, hadded, hrest⟩
      · rintro ⟨hmoved, hc, hadded, hrest⟩
        exact ⟨_, ⟨hmoved, rfl⟩, hc, _, ⟨hadded, rfl⟩, hrest⟩
    rw [hstep, Nat.ofDigitChars_cons, List.forall_mem_cons, Nat.mul_comm base word]
    constructor
    · rintro ⟨-, hc, hadded, hrest⟩
      obtain ⟨htext, hn, hsize⟩ := (ih hadded).mp hrest
      exact ⟨⟨hc, htext⟩, hn, hsize⟩
    · rintro ⟨⟨hc, htext⟩, rfl, hsize⟩
      have hadded := (le_ofDigitChars hbase text _).trans_lt hsize
      exact ⟨(Nat.le_add_right _ _).trans_lt hadded, hc, hadded,
        (ih hadded).mpr ⟨htext, rfl, hsize⟩⟩

/-- The number that a token denotes, gathered in a machine word: digits without a sign, or behind
one. -/
def gathered (base size : Nat) (token : String) : Option Nat :=
  if unsigned token.toList = [] then none else gather base size 0 (unsigned token.toList)

/-- Gathering digits in a word gives the number that a token denotes, if the word holds it. -/
theorem gathered_eq (hbase : 0 < base) (hsize : 0 < size) (token : String) :
    gathered base size token = (value? base token).filter (· < size) := by
  ext n
  rw [Option.filter_eq_some_iff, decide_eq_true_iff, gathered,
    Option.ite_none_left_eq_some, gather_eq_some_iff hbase hsize, value?_eq,
    Option.ite_none_right_eq_some, List.all_eq_true, Option.some.injEq, and_assoc, and_assoc,
    eq_comm (a := n)]

end Numeral

/-! ## Numbers of statements -/

namespace Request

open Numeral

/-- Tokens are read as numbers of a base below a limit: those that denote one, and no others; they
are refused with a fault that shows the token. It does not matter that the digits are gathered in a
word with `size` values. Numbers below the limit that are written out are read back. -/
structure Reads (read : String → Except Fault Nat) (base size limit : Nat) (fault : String → Fault)
    (write : Nat → String) : Prop where
  accepts : ∀ token n, read token = .ok n ↔ Denotes base token n ∧ n < limit
  refuses : ∀ token, (¬ ∃ n, Denotes base token n ∧ n < limit) → read token = .error (fault token)
  gathers : ∀ token, (read token).toOption = (gathered base size token).filter (· < limit)
  rereads : ∀ n < limit, read (write n) = .ok n

theorem reads_of_eq {read : String → Except Fault Nat} {base size limit : Nat}
    {fault : String → Fault} {write : Nat → String} (hone : 1 < base) (hten : base ≤ 10)
    (hlimit : 0 < limit) (hsize : limit ≤ size) (hwrite : ∀ n, write n = digits base n)
    (hread : ∀ token, read token = match (value? base token).filter (· < limit) with
      | some n => .ok n
      | none => .error (fault token)) : Reads read base size limit fault write := by
  have hsome : ∀ token n, (value? base token).filter (· < limit) = some n ↔
      Denotes base token n ∧ n < limit := fun token n => by
    rw [Option.filter_eq_some_iff, decide_eq_true_iff, value?_eq_some_iff hten]
  have haccepts : ∀ token n, read token = .ok n ↔ Denotes base token n ∧ n < limit := by
    intro token n
    rw [hread, ← hsome]
    cases (value? base token).filter (· < limit) <;> simp
  refine ⟨haccepts, ?_, ?_, ?_⟩
  · intro token hnone
    rw [hread]
    cases hvalue : (value? base token).filter (· < limit) with
    | some n => exact absurd ⟨n, (hsome token n).mp hvalue⟩ hnone
    | none => rfl
  · intro token
    have hbound : (gathered base size token).filter (· < limit) =
        (value? base token).filter (· < limit) := by
      rw [gathered_eq (by omega) (by omega), Option.filter_filter]
      refine congrArg (Option.filter · _) (funext fun n => ?_)
      rw [← Bool.decide_and, decide_eq_decide]
      omega
    rw [hread, hbound]
    cases (value? base token).filter (· < limit) <;> rfl
  · intro n hn
    rw [hwrite, haccepts]
    exact ⟨denotes_digits hone n, hn⟩

/-- **Numbers and modes are accepted exactly**: a number, be it a count or not, if it is decimal and
64 bits hold it; a mode if it is octal and has at most twelve bits. -/
theorem reads_number_and_mode :
    Reads number 10 UInt64.size UInt64.size .badNumber (toString ·) ∧
      Reads mode 8 UInt32.size (0o7777 + 1) .badMode octal := by
  constructor
  · exact reads_of_eq (by decide) (by decide) (by decide) le_rfl toString_eq_digits fun _ => rfl
  · refine reads_of_eq (by decide) (by decide) (by decide) (by decide) (fun _ => rfl) ?_
    intro token
    simp only [Nat.lt_succ_iff]
    rfl

end Request

end FileScript
