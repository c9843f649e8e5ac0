import FileScript.Proofs.ByteOrder
import FileScript.Proofs.Paths
import FileScript.Statement
import FileScript.Text.Runs

/-!
# The words of a line

A line is searched byte by byte, and what is found are its words: the maximal runs of characters
that are neither spaces nor tabs (`Statement.parse_exactly`).

1. `isSeparatorByte_of_mem`: a byte of a character separates words just if the character does. So
   every search ends between two characters (`findIdx?_eq_some`), and a stretch that begins and ends
   there can be taken out of the line (`Stretch.fits`, `Stretch.of_eq`).
2. `nextWord_eq_some`: the next word is the first run of what is left of the line.
3. `arguments_spec`: the arguments are the runs that follow, up to the rest of the line if a command
   takes that, unless they are too many.
-/

namespace FileScript

/-! ## Runs one by one -/

namespace Text

variable {isSeparator : Char → Bool} {text gap word after tail : List Char}

/-- A text goes on with `tail` from its run number `i` on. -/
def IsTail (isSeparator : Char → Bool) (text : List Char) (i : Nat) (tail : List Char) : Prop :=
  ∃ before, text = before ++ tail ∧ runs isSeparator before = (runs isSeparator text).take i ∧
    ∃ c ∈ tail.head?, isSeparator c = false

/-- The first run of a text, with what stands before and after it. -/
structure FirstRun (isSeparator : Char → Bool) (text gap word after : List Char) : Prop where
  eq : text = gap ++ (word ++ after)
  gap : ∀ c ∈ gap, isSeparator c = true
  ne_nil : word ≠ []
  word : ∀ c ∈ word, isSeparator c = false
  after : ∀ c ∈ after.head?, isSeparator c = true

theorem runs_append_of_all (h : ∀ c ∈ gap, isSeparator c = true) (text : List Char) :
    runs isSeparator (gap ++ text) = runs isSeparator text := by
  induction gap with
  | nil => rfl
  | cons c gap ih =>
    rw [List.cons_append, runs, if_pos (h c List.mem_cons_self),
      ih fun d hd => h d (List.mem_cons_of_mem c hd)]

theorem FirstRun.runs_eq (h : FirstRun isSeparator text gap word after) :
    runs isSeparator text = word :: runs isSeparator after := by
  have hword := runs_eq_singleton h.ne_nil h.word
  rw [h.eq, runs_append_of_all h.gap]
  cases after with
  | nil => rw [List.append_nil, hword, runs]
  | cons c after =>
    have hc : isSeparator c = true := h.after c rfl
    rw [runs_append_cons hc, hword, runs, if_pos hc, List.singleton_append]

theorem exists_firstRun (h : runs isSeparator text ≠ []) :
    ∃ gap word after, FirstRun isSeparator text gap word after := by
  fun_induction runs isSeparator text with
  | case1 => exact absurd rfl h
  | case2 c rest hc ih =>
    obtain ⟨gap, word, after, hrest⟩ := ih h
    refine ⟨c :: gap, word, after, ?_, ?_, hrest.ne_nil, hrest.word, hrest.after⟩
    · rw [hrest.eq, List.cons_append]
    · exact List.forall_mem_cons.mpr ⟨hc, hrest.gap⟩
  | case3 c rest hc ih =>
    refine ⟨[], c :: rest.takeWhile (!isSeparator ·), rest.dropWhile (!isSeparator ·), ?_, ?_,
      List.cons_ne_nil _ _, ?_, fun d hd => ?_⟩
    · rw [List.cons_append, List.takeWhile_append_dropWhile, List.nil_append]
    · exact fun _ h => absurd h List.not_mem_nil
    · refine List.forall_mem_cons.mpr ⟨by simpa using hc, fun d hd => ?_⟩
      simpa using List.mem_takeWhile_imp hd
    · have hnot := List.head?_dropWhile_not (!isSeparator ·) rest
      rw [Option.mem_def.mp hd] at hnot
      simpa using hnot

theorem flatten_runs (text : List Char) :
    (runs isSeparator text).flatten = text.filter (!isSeparator ·) := by
  fun_induction runs isSeparator text with
  | case1 => rfl
  | case2 c rest hc ih => rw [ih, List.filter_cons_of_neg (by simp [hc])]
  | case3 c rest hc ih =>
    have hsplit := List.takeWhile_append_dropWhile (p := (!isSeparator ·)) (l := rest)
    have hrun : (rest.takeWhile (!isSeparator ·)).filter (!isSeparator ·) =
        rest.takeWhile (!isSeparator ·) :=
      List.filter_eq_self.mpr fun _ => List.mem_takeWhile_imp (p := (!isSeparator ·))
    rw [List.flatten_cons, ih, List.filter_cons_of_pos (by simpa using hc), List.cons_append]
    conv_rhs => rw [← hsplit, List.filter_append, hrun]

/-- Only one tail of a text begins with its run number `i`. -/
theorem IsTail.unique {i : Nat} {tail' : List Char} (h : IsTail isSeparator text i tail)
    (h' : IsTail isSeparator text i tail') : tail = tail' := by
  -- the longer tail would begin with characters of which none separates runs
  have key {before before' tail tail' : List Char} (heq : before ++ tail = before' ++ tail')
      (hruns : runs isSeparator before = runs isSeparator before')
      (hhead : ∃ c ∈ tail.head?, isSeparator c = false)
      (hle : before.length ≤ before'.length) : tail = tail' := by
    obtain ⟨more, rfl, rfl⟩ | ⟨more, rfl, rfl⟩ := List.append_eq_append_iff.mp heq
    · have hfilter := congrArg List.flatten hruns
      rw [flatten_runs, flatten_runs, List.filter_append, List.self_eq_append_right,
        List.filter_eq_nil_iff] at hfilter
      cases more with
      | nil => rfl
      | cons c more =>
        obtain ⟨d, hd, hword⟩ := hhead
        cases hd
        simpa [hword] using hfilter c List.mem_cons_self
    · have hnil : more = [] := by
        rw [List.length_append] at hle
        exact List.length_eq_zero_iff.mp (by omega)
      rw [hnil, List.nil_append]
  obtain ⟨before, heq, hruns, hhead⟩ := h
  obtain ⟨before', heq', hruns', hhead'⟩ := h'
  rcases Nat.le_total before.length before'.length with hle | hle
  · exact key (heq.symm.trans heq') (hruns.trans hruns'.symm) hhead hle
  · exact (key (heq'.symm.trans heq) (hruns'.trans hruns.symm) hhead' hle).symm

theorem FirstRun.isTail_zero (h : FirstRun isSeparator text gap word after) :
    IsTail isSeparator text 0 (word ++ after) := by
  refine ⟨gap, h.eq, ?_, ?_⟩
  · rw [runs_eq_nil_iff.mpr h.gap, List.take_zero]
  · obtain ⟨c, word, rfl⟩ := List.exists_cons_of_ne_nil h.ne_nil
    exact ⟨c, rfl, h.word c List.mem_cons_self⟩

/-- What follows the first run has one run less before its tail. -/
theorem IsTail.succ {i : Nat} (h : FirstRun isSeparator text gap word after)
    (htail : IsTail isSeparator after i tail) : IsTail isSeparator text (i + 1) tail := by
  obtain ⟨before, hafter, hruns, c, hc, hword⟩ := htail
  refine ⟨gap ++ (word ++ before), ?_, ?_, c, hc, hword⟩
  · rw [h.eq, hafter, List.append_assoc, List.append_assoc]
  · have hfirst : FirstRun isSeparator (gap ++ (word ++ before)) gap word before := by
      refine ⟨rfl, h.gap, h.ne_nil, h.word, fun d hd => ?_⟩
      exact h.after d (by rw [hafter, List.head?_append, Option.mem_def.mp hd]; rfl)
    rw [hfirst.runs_eq, h.runs_eq, hruns, List.take_succ_cons]

end Text

/-! ## Stretches between characters -/

namespace Stretch

/-- A stretch can be taken out of a text if it begins and ends between two characters of the text,
or at one of its ends. -/
structure Fits (r : Stretch) (text : String) : Prop where
  start_le_stop : r.start ≤ r.stop
  isValid_start : (⟨r.start⟩ : String.Pos.Raw).IsValid text
  isValid_stop : (⟨r.stop⟩ : String.Pos.Raw).IsValid text

variable {text : String} {before piece after : List Char}

theorem isValid_utf8Len (h : text.toList = before ++ after) :
    (⟨String.utf8Len before⟩ : String.Pos.Raw).IsValid text := by
  refine String.Pos.Raw.isValid_iff_exists_append.mpr
    ⟨String.ofList before, String.ofList after, ?_, ?_⟩
  · rw [← String.ofList_append, ← h, String.ofList_toList]
  · rw [String.rawEndPos_ofList]

theorem fits (h : text.toList = before ++ piece ++ after) :
    Fits ⟨String.utf8Len before, String.utf8Len (before ++ piece)⟩ text where
  start_le_stop := by
    rw [String.utf8Len_append]
    exact Nat.le_add_right _ _
  isValid_start := isValid_utf8Len (h.trans (List.append_assoc _ _ _))
  isValid_stop := isValid_utf8Len h

theorem of_eq (h : text.toList = before ++ piece ++ after) :
    of ⟨String.utf8Len before, String.utf8Len (before ++ piece)⟩ text = String.ofList piece := by
  rw [of, String.utf8Len_append, ← String.ofList_toList (s := text), h]
  exact String.extract_of_valid before piece after

end Stretch

namespace Statement

/-! ## Searching by bytes -/

/-- A byte of a character separates words just if the character does. -/
theorem isSeparatorByte_of_mem {c : Char} {b : UInt8} (h : b ∈ String.utf8EncodeChar c) :
    isSeparatorByte b = isSeparator c := by
  have hc : isSeparator c = decide (c.val.toNat = 32 ∨ c.val.toNat = 9) := by
    rw [isSeparator, Bool.eq_iff_iff]
    simp [← Char.val_inj, ← UInt32.toNat_inj]
  have hb : isSeparatorByte b = decide (b.toNat = 32 ∨ b.toNat = 9) := by
    rw [isSeparatorByte, Bool.eq_iff_iff]
    simp only [Bool.or_eq_true, beq_iff_eq, decide_eq_true_eq, ← UInt8.toNat_inj]
    rfl
  rw [hc, hb, decide_eq_decide, Text.toNat_eq_iff_of_mem h (by decide),
    Text.toNat_eq_iff_of_mem h (by decide)]

theorem findIdx?_eq (bytes : ByteArray) (p : UInt8 → Bool) (pos : Nat) :
    bytes.findIdx? p pos = (((Content.bytes bytes).drop pos).findIdx? p).map (pos + ·) := by
  have hdrop {i : Nat} (hi : i < bytes.size) :
      (Content.bytes bytes).drop i = bytes[i] :: (Content.bytes bytes).drop (i + 1) :=
    List.drop_eq_getElem_cons (by rwa [Content.length_bytes])
  unfold ByteArray.findIdx?
  fun_induction ByteArray.findIdx?.loop bytes p pos with
  | case1 pos hpos hp => simp [hdrop hpos, List.findIdx?_cons, hp]
  | case2 pos hpos hp ih =>
    rw [hdrop hpos, ih, List.findIdx?_cons, if_neg hp, Option.map_map]
    congr 1
    funext i
    simp only [Function.comp_apply]
    omega
  | case3 pos hpos =>
    rw [List.drop_eq_nil_of_le (by rw [Content.length_bytes]; omega)]
    rfl

section Search

variable {line : String} {before rest gap : List Char} {p : UInt8 → Bool} {q : Char → Bool}

theorem length_flatMap_utf8 (text : List Char) :
    (text.flatMap String.utf8EncodeChar).length = String.utf8Len text := by
  induction text with
  | nil => rfl
  | cons c text ih =>
    rw [List.flatMap_cons, List.length_append, ih, String.length_utf8EncodeChar,
      String.utf8Len_cons, Nat.add_comm]

/-- What a search from a place between two characters on goes through. -/
theorem drop_bytes (h : line.toList = before ++ rest) :
    (Content.bytes line.toUTF8).drop (String.utf8Len before) =
      rest.flatMap String.utf8EncodeChar := by
  rw [Text.bytes_toUTF8, h, List.flatMap_append, ← length_flatMap_utf8, List.drop_left]

theorem findIdx?_flatMap (hpq : ∀ c, ∀ b ∈ String.utf8EncodeChar c, p b = q c)
    (hgap : ∀ c ∈ gap, q c = false) : (gap.flatMap String.utf8EncodeChar).findIdx? p = none := by
  rw [List.findIdx?_eq_none_iff]
  intro b hb
  obtain ⟨c, hc, hb⟩ := List.mem_flatMap.mp hb
  rw [hpq c b hb, hgap c hc]

variable (hpq : ∀ c, ∀ b ∈ String.utf8EncodeChar c, p b = q c)

include hpq

/-- A search for bytes of certain characters finds nothing if none of these characters follows. -/
theorem findIdx?_eq_none (h : line.toList = before ++ rest) (hrest : ∀ c ∈ rest, q c = false) :
    line.toUTF8.findIdx? p (String.utf8Len before) = none := by
  rw [findIdx?_eq, drop_bytes h, findIdx?_flatMap hpq hrest, Option.map_none]

/-- A search for bytes of certain characters ends before the first of these characters. -/
theorem findIdx?_eq_some (h : line.toList = before ++ (gap ++ rest))
    (hgap : ∀ c ∈ gap, q c = false) (hrest : ∃ c ∈ rest.head?, q c = true) :
    line.toUTF8.findIdx? p (String.utf8Len before) = some (String.utf8Len (before ++ gap)) := by
  obtain ⟨c, hc, hq⟩ := hrest
  obtain ⟨rest, rfl⟩ := List.head?_eq_some_iff.mp hc
  obtain ⟨b, more, hmore⟩ := List.exists_cons_of_ne_nil (String.utf8EncodeChar_ne_nil (c := c))
  have hb : p b = true := (hpq c b (hmore ▸ List.mem_cons_self)).trans hq
  rw [findIdx?_eq, drop_bytes h, List.flatMap_append, List.flatMap_cons, hmore,
    List.findIdx?_append, findIdx?_flatMap hpq hgap, List.cons_append, List.findIdx?_cons,
    if_pos hb, length_flatMap_utf8, String.utf8Len_append]
  simp

end Search

/-! ## The next word -/

section Scan

variable {line : String} {before rest gap word after : List Char}

theorem skipSeparators_eq_none (h : line.toList = before ++ rest)
    (hrest : Text.runs isSeparator rest = []) :
    skipSeparators line.toUTF8 (String.utf8Len before) = none := by
  refine findIdx?_eq_none (q := (!isSeparator ·)) (fun c b hb => ?_) h fun c hc => ?_
  · rw [isSeparatorByte_of_mem hb]
  · rw [Text.runs_eq_nil_iff.mp hrest c hc, Bool.not_true]

theorem skipSeparators_eq_some (h : line.toList = before ++ rest)
    (hrun : Text.FirstRun isSeparator rest gap word after) :
    skipSeparators line.toUTF8 (String.utf8Len before) = some (String.utf8Len (before ++ gap)) := by
  refine findIdx?_eq_some (q := (!isSeparator ·)) (fun c b hb => ?_) (hrun.eq ▸ h) ?_ ?_
  · rw [isSeparatorByte_of_mem hb]
  · exact fun c hc => by rw [hrun.gap c hc, Bool.not_true]
  · obtain ⟨c, word, rfl⟩ := List.exists_cons_of_ne_nil hrun.ne_nil
    exact ⟨c, rfl, by rw [hrun.word c List.mem_cons_self, Bool.not_false]⟩

theorem nextWord_eq_none (h : line.toList = before ++ rest)
    (hrest : Text.runs isSeparator rest = []) :
    nextWord line.toUTF8 (String.utf8Len before) = none := by
  rw [nextWord, skipSeparators_eq_none h hrest, Option.map_none]

/-- The next word is the first run of the rest of the line. -/
theorem nextWord_eq_some (h : line.toList = before ++ rest)
    (hrun : Text.FirstRun isSeparator rest gap word after) :
    nextWord line.toUTF8 (String.utf8Len before) =
      some ⟨String.utf8Len (before ++ gap), String.utf8Len (before ++ gap ++ word)⟩ := by
  have hline : line.toList = before ++ gap ++ (word ++ after) := by
    rw [h, hrun.eq, List.append_assoc]
  rw [nextWord, skipSeparators_eq_some h hrun, Option.map_some]
  congr 2
  cases after with
  | nil =>
    rw [List.append_nil] at hline
    rw [findIdx?_eq_none (fun c b => isSeparatorByte_of_mem) hline hrun.word, Option.getD_none,
      String.toUTF8_eq_toByteArray, String.size_toByteArray, ← String.utf8Len_toList, hline]
  | cons c after =>
    rw [findIdx?_eq_some (fun c b => isSeparatorByte_of_mem) hline hrun.word
      ⟨c, rfl, hrun.after c rfl⟩, Option.getD_some]

end Scan

/-! ## Arguments -/

/-- Whether `n` arguments are too many. The rest of a line counts as one argument, and never as one
too many. -/
def Exceeds (tailAt : Option Nat) (maxArgs n : Nat) : Prop :=
  maxArgs < n ∧ ∀ k ∈ tailAt, maxArgs < k

/-- The arguments that the words of a text make: all of them, or the first ones and then the rest of
the text from the next word on. -/
def Takes (tailAt : Option Nat) (text : List Char) (args : List String) : Prop :=
  ((∀ k ∈ tailAt, (Text.runs isSeparator text).length ≤ k) →
      args = (Text.runs isSeparator text).map String.ofList) ∧
    ∀ k ∈ tailAt, k < (Text.runs isSeparator text).length →
      ∃ tail, Text.IsTail isSeparator text k tail ∧
        args = ((Text.runs isSeparator text).take k).map String.ofList ++ [String.ofList tail]

section Arguments

variable {line : String} {before text gap word after : List Char} {left : Option Nat}

theorem takes_of_runs_eq_nil (h : Text.runs isSeparator text = []) (tailAt : Option Nat) :
    Takes tailAt text [] := by
  rw [Takes, h]
  exact ⟨fun _ => rfl, fun k _ hk => absurd hk (Nat.not_lt_zero k)⟩

theorem Takes.cons (hrun : Text.FirstRun isSeparator text gap word after)
    {args : List String} (h : Takes left after args) :
    Takes (left.map (· + 1)) text (String.ofList word :: args) := by
  rw [Takes, hrun.runs_eq, List.length_cons, List.map_cons]
  refine ⟨fun hall => ?_, fun k hk hlt => ?_⟩
  · rw [h.1 fun k hk => ?_]
    exact Nat.le_of_succ_le_succ (hall (k + 1) (Option.mem_map_of_mem _ hk))
  · obtain ⟨j, hj, rfl⟩ := Option.mem_map.mp hk
    obtain ⟨tail, htail, rfl⟩ := h.2 j hj (Nat.lt_of_succ_lt_succ hlt)
    exact ⟨tail, htail.succ hrun, rfl⟩

theorem exceeds_succ_iff {room n : Nat} :
    Exceeds (left.map (· + 1)) (room + 1) (n + 1) ↔ Exceeds left room n := by
  simp [Exceeds]

/-- The rest of the line is taken where it begins with a word. -/
theorem arguments_tail (h : line.toList = before ++ text) (maxArgs taken : Nat) :
    ∃ args, arguments line.toUTF8 (some taken) maxArgs (String.utf8Len before) taken = .ok args ∧
      (∀ r ∈ args, r.Fits line) ∧ Takes (some 0) text (args.map (·.of line)) := by
  rw [arguments, if_pos rfl]
  by_cases hruns : Text.runs isSeparator text = []
  · rw [skipSeparators_eq_none h hruns]
    exact ⟨[], rfl, fun _ hr => absurd hr List.not_mem_nil, takes_of_runs_eq_nil hruns _⟩
  obtain ⟨gap, word, after, hrun⟩ := Text.exists_firstRun hruns
  have hline : line.toList = before ++ gap ++ (word ++ after) ++ [] := by
    rw [h, hrun.eq, List.append_nil, List.append_assoc]
  have hsize : line.toUTF8.size = String.utf8Len (before ++ gap ++ (word ++ after)) := by
    rw [String.toUTF8_eq_toByteArray, String.size_toByteArray, ← String.utf8Len_toList, hline,
      List.append_nil]
  rw [skipSeparators_eq_some h hrun, hsize]
  refine ⟨_, rfl, fun r hr => ?_, fun hall => ?_, fun k hk _ => ?_⟩
  · rw [List.mem_singleton.mp hr]
    exact Stretch.fits hline
  · have hnone := hall 0 rfl
    rw [hrun.runs_eq] at hnone
    cases hnone
  · cases hk
    exact ⟨_, hrun.isTail_zero, congrArg (fun text => [text]) (Stretch.of_eq hline)⟩

theorem arguments_of_nextWord_eq_none {bytes : ByteArray} {tailAt : Option Nat} {pos taken : Nat}
    (htail : tailAt ≠ some taken) (h : nextWord bytes pos = none) (maxArgs : Nat) :
    arguments bytes tailAt maxArgs pos taken = .ok [] := by
  rw [arguments, if_neg htail]
  split
  · rfl
  · next hword => cases h.symm.trans hword

theorem arguments_of_nextWord_eq_some {bytes : ByteArray} {tailAt : Option Nat} {pos taken : Nat}
    {word : Stretch} (htail : tailAt ≠ some taken) (h : nextWord bytes pos = some word)
    (maxArgs : Nat) :
    arguments bytes tailAt maxArgs pos taken =
      if taken = maxArgs then .error (.invalidStatement s!"more than {maxArgs} arguments")
      else (word :: ·) <$> arguments bytes tailAt maxArgs word.stop (taken + 1) := by
  rw [arguments, if_neg htail]
  split
  · next hnone => cases h.symm.trans hnone
  · next hword =>
    cases h.symm.trans hword
    rfl

/-- **The arguments are the words of the text** before which `taken` arguments were found, up to the
rest of the line if it is to be taken after `left` more of them, and unless there is no `room` for
that many. -/
theorem arguments_spec (h : line.toList = before ++ text) (left : Option Nat) (room taken : Nat) :
    (Exceeds left room (Text.runs isSeparator text).length ∧
      arguments line.toUTF8 (left.map (taken + ·)) (taken + room) (String.utf8Len before) taken =
        .error (.invalidStatement s!"more than {taken + room} arguments")) ∨
    (¬ Exceeds left room (Text.runs isSeparator text).length ∧
      ∃ args, arguments line.toUTF8 (left.map (taken + ·)) (taken + room) (String.utf8Len before)
          taken = .ok args ∧
        (∀ r ∈ args, r.Fits line) ∧ Takes left text (args.map (·.of line))) := by
  -- the induction is on what is left of the line, of which each step takes the first word
  induction hlen : text.length using Nat.strong_induction_on
    generalizing before text left room taken with | _ len ih => ?_
  subst hlen
  rcases eq_or_ne left (some 0) with rfl | hleft
  · refine .inr ⟨fun hexceeds => ?_, arguments_tail h _ taken⟩
    exact absurd (hexceeds.2 0 rfl) (Nat.not_lt_zero _)
  obtain ⟨fewer, rfl⟩ : ∃ fewer : Option Nat, left = fewer.map (· + 1) := by
    cases left with
    | none => exact ⟨none, rfl⟩
    | some k =>
      obtain ⟨k, rfl⟩ := Nat.exists_eq_succ_of_ne_zero (fun hk => hleft (congrArg some hk))
      exact ⟨some k, rfl⟩
  have hmap : (fewer.map (· + 1)).map (taken + ·) = fewer.map (taken + 1 + ·) := by
    rw [Option.map_map]
    exact congrArg (fewer.map ·) (funext fun k => (Nat.add_right_comm taken 1 k).symm)
  have htail : fewer.map (taken + 1 + ·) ≠ some taken := by
    intro hsome
    obtain ⟨k, -, hk⟩ := Option.map_eq_some_iff.mp hsome
    omega
  rw [hmap]
  by_cases hruns : Text.runs isSeparator text = []
  · refine .inr ⟨fun hexceeds => ?_, [], ?_, ?_, takes_of_runs_eq_nil hruns _⟩
    · rw [hruns] at hexceeds
      exact absurd hexceeds.1 (Nat.not_lt_zero _)
    · exact arguments_of_nextWord_eq_none htail (nextWord_eq_none h hruns) _
    · exact fun _ hr => absurd hr List.not_mem_nil
  obtain ⟨gap, word, after, hrun⟩ := Text.exists_firstRun hruns
  have hline : line.toList = before ++ gap ++ word ++ after := by
    rw [h, hrun.eq, List.append_assoc, List.append_assoc]
  rw [arguments_of_nextWord_eq_some htail (nextWord_eq_some h hrun), hrun.runs_eq,
    List.length_cons]
  cases room with
  | zero =>
    refine .inl ⟨⟨Nat.succ_pos _, fun k hk => ?_⟩, if_pos rfl⟩
    obtain ⟨k, -, rfl⟩ := Option.mem_map.mp hk
    exact Nat.succ_pos k
  | succ room =>
    have hshorter : after.length < text.length := by
      have hword := List.length_pos_iff.mpr hrun.ne_nil
      rw [hrun.eq, List.length_append, List.length_append]
      omega
    have hroom : taken + (room + 1) = taken + 1 + room := by omega
    rw [exceeds_succ_iff, if_neg (by omega), hroom]
    rcases ih _ hshorter hline fewer room (taken + 1) rfl with
      ⟨hexceeds, herror⟩ | ⟨hfits, args, hok, hargs, htakes⟩
    · exact .inl ⟨hexceeds, by rw [herror]; rfl⟩
    · refine .inr ⟨hfits, ⟨_, _⟩ :: args, by rw [hok]; rfl, ?_, ?_⟩
      · exact List.forall_mem_cons.mpr ⟨Stretch.fits hline, hargs⟩
      · rw [List.map_cons, Stretch.of_eq hline]
        exact htakes.cons hrun

end Arguments

/-! ## Lines -/

/-- The words of a line. -/
def words (line : String) : List String :=
  (Text.runs isSeparator line.toList).map String.ofList

/-- A line that ends with a line feed, or with a carriage return and a line feed, is `trimmed`
without them, and any other line as it is. -/
def Trims (line trimmed : String) : Prop :=
  line = trimmed ++ "\r\n" ∨ (line = trimmed ++ "\n" ∧ trimmed.toList.getLast? ≠ some '\r') ∨
    (line = trimmed ∧ line.toList.getLast? ≠ some '\n')

theorem trims_trimLineEnd (line : String) : Trims line (trimLineEnd line) := by
  have hline : line = String.ofList line.toList.reverse.reverse := by
    rw [List.reverse_reverse, String.ofList_toList]
  have hlast (c : Char) : line.toList.getLast? = some c ↔ line.toList.reverse.head? = some c := by
    rw [List.head?_reverse]
  unfold trimLineEnd
  split
  · next rest heq =>
    refine .inl ?_
    rw [hline, heq, List.reverse_cons, List.reverse_cons, List.append_assoc, String.ofList_append]
    rfl
  · next rest hno heq =>
    refine .inr (.inl ⟨?_, fun hreturn => ?_⟩)
    · rw [hline, heq, List.reverse_cons, String.ofList_append]
    · rw [String.toList_ofList, List.getLast?_reverse] at hreturn
      obtain ⟨rest, rfl⟩ := List.head?_eq_some_iff.mp hreturn
      exact hno rest rfl
  · next _ hno =>
    refine .inr (.inr ⟨rfl, fun hfeed => ?_⟩)
    obtain ⟨rest, heq⟩ := List.head?_eq_some_iff.mp ((hlast '\n').mp hfeed)
    exact hno rest heq

end Statement

/-- A statement can be taken out of a line if its command and all of its arguments can. -/
structure Layout.Fits (l : Layout) (line : String) : Prop where
  command : l.command.Fits line
  args : ∀ r ∈ l.args, r.Fits line

namespace Statement

variable {grammar : Grammar} {maxArgs : Nat} {line : String} {gap command after : List Char}

theorem layout_eq_none (h : words line = []) : layout grammar maxArgs line = .ok none := by
  have hword : nextWord line.toUTF8 0 = none :=
    nextWord_eq_none (List.nil_append line.toList).symm (List.map_eq_nil_iff.mp h)
  rw [layout, hword]
  rfl

/-- What is laid out on a line that begins with the word `command`. -/
theorem layout_spec (hrun : Text.FirstRun isSeparator line.toList gap command after)
    (grammar : Grammar) (maxArgs : Nat) :
    (Exceeds (grammar (String.ofList command)) maxArgs (Text.runs isSeparator after).length ∧
      layout grammar maxArgs line =
        .error (.invalidStatement s!"more than {maxArgs} arguments")) ∨
    (¬ Exceeds (grammar (String.ofList command)) maxArgs (Text.runs isSeparator after).length ∧
      ∃ l, layout grammar maxArgs line = .ok (some l) ∧ l.Fits line ∧
        l.command.of line = String.ofList command ∧
        Takes (grammar (String.ofList command)) after (l.args.map (·.of line))) := by
  have hline : line.toList = gap ++ command ++ after := by
    rw [hrun.eq, List.append_assoc]
  have hword : nextWord line.toUTF8 0 =
      some ⟨String.utf8Len gap, String.utf8Len (gap ++ command)⟩ :=
    nextWord_eq_some (List.nil_append line.toList).symm hrun
  have hargs := arguments_spec hline (grammar (String.ofList command)) maxArgs 0
  rw [layout, hword]
  simp only [Nat.zero_add, Option.map_id'] at hargs
  simp only [Stretch.of_eq hline]
  rcases hargs with ⟨hexceeds, herror⟩ | ⟨hfits, args, hok, hargs, htakes⟩
  · exact .inl ⟨hexceeds, by rw [herror]; rfl⟩
  · exact .inr ⟨hfits, ⟨_, args⟩, by rw [hok]; rfl, ⟨Stretch.fits hline, hargs⟩,
      Stretch.of_eq hline, htakes⟩

/-- Whatever is laid out on a line can be taken out of it. -/
theorem fits_of_layout {l : Layout} (h : layout grammar maxArgs line = .ok (some l)) :
    l.Fits line := by
  by_cases hwords : words line = []
  · cases h.symm.trans (layout_eq_none hwords)
  obtain ⟨gap, command, after, hrun⟩ :=
    Text.exists_firstRun fun hnil => hwords (List.map_eq_nil_iff.mpr hnil)
  rcases layout_spec hrun grammar maxArgs with ⟨-, herror⟩ | ⟨-, other, hok, hfits, -⟩
  · cases h.symm.trans herror
  · cases h.symm.trans hok
    exact hfits

theorem parse_eq_none (h : words (trimLineEnd line) = []) :
    parse grammar maxArgs line = .ok none := by
  rw [parse, layout_eq_none h]
  rfl

/-- The statement on a line that has words. -/
theorem parse_spec {command : String} {args : List String}
    (h : words (trimLineEnd line) = command :: args) (grammar : Grammar) (maxArgs : Nat) :
    (Exceeds (grammar command) maxArgs args.length ∧
      parse grammar maxArgs line =
        .error (.invalidStatement s!"more than {maxArgs} arguments")) ∨
    (¬ Exceeds (grammar command) maxArgs args.length ∧
      ∃ taken, parse grammar maxArgs line =
          .ok (some { line := trimLineEnd line, command, args := taken }) ∧
        ((∀ k ∈ grammar command, args.length ≤ k) → taken = args) ∧
        ∀ k ∈ grammar command, k < args.length →
          ∃ tail, Text.IsTail isSeparator (trimLineEnd line).toList (k + 1) tail ∧
            taken = args.take k ++ [String.ofList tail]) := by
  have hruns : Text.runs isSeparator (trimLineEnd line).toList ≠ [] := fun hnil => by
    rw [words, hnil] at h
    cases h
  obtain ⟨gap, word, after, hrun⟩ := Text.exists_firstRun hruns
  rw [words, hrun.runs_eq, List.map_cons] at h
  obtain ⟨rfl, rfl⟩ := List.cons.inj h
  rw [List.length_map]
  rcases layout_spec hrun grammar maxArgs with
    ⟨hexceeds, herror⟩ | ⟨hfits, l, hok, -, hcommand, hall, htail⟩
  · exact .inl ⟨hexceeds, by rw [parse, herror]; rfl⟩
  · refine .inr ⟨hfits, l.args.map (·.of (trimLineEnd line)), ?_, hall, fun k hk hlt => ?_⟩
    · rw [parse, hok, ← hcommand]
      rfl
    · obtain ⟨tail, hrest, htaken⟩ := htail k hk hlt
      exact ⟨tail, hrest.succ hrun, by rw [htaken, List.map_take]⟩

theorem parse_of_length_le {command : String} {args : List String}
    (h : words (trimLineEnd line) = command :: args) (hall : ∀ k ∈ grammar command, args.length ≤ k)
    (hfits : args.length ≤ maxArgs) :
    parse grammar maxArgs line = .ok (some { line := trimLineEnd line, command, args }) := by
  rcases parse_spec h grammar maxArgs with ⟨hexceeds, -⟩ | ⟨-, taken, hok, htaken, -⟩
  · exact absurd hexceeds.1 (not_lt.mpr hfits)
  · rw [hok, htaken hall]

theorem parse_of_lt_length {command : String} {args : List String} {k : Nat} {tail : List Char}
    (h : words (trimLineEnd line) = command :: args) (hk : grammar command = some k)
    (hlt : k < args.length) (hfits : k ≤ maxArgs)
    (htail : Text.IsTail isSeparator (trimLineEnd line).toList (k + 1) tail) :
    parse grammar maxArgs line = .ok (some
      { line := trimLineEnd line, command := command
        args := args.take k ++ [String.ofList tail] }) := by
  rcases parse_spec h grammar maxArgs with ⟨hexceeds, -⟩ | ⟨-, taken, hok, -, htaken⟩
  · exact absurd (hexceeds.2 k hk) (not_lt.mpr hfits)
  · obtain ⟨found, hfound, rfl⟩ := htaken k hk hlt
    rw [hok, htail.unique hfound]

/-- Only too many arguments make a line invalid. -/
theorem parse_refused_iff {command : String} {args : List String}
    (h : words (trimLineEnd line) = command :: args) :
    (∃ reason, parse grammar maxArgs line = .error (.invalidStatement reason)) ↔
      Exceeds (grammar command) maxArgs args.length := by
  rcases parse_spec h grammar maxArgs with ⟨hexceeds, herror⟩ | ⟨hfits, taken, hok, -⟩
  · exact ⟨fun _ => hexceeds, fun _ => ⟨_, herror⟩⟩
  · refine ⟨fun ⟨reason, herror⟩ => ?_, fun hexceeds => absurd hexceeds hfits⟩
    cases hok.symm.trans herror

/-- **A line is read just as its words say.** Without its line end it is blank if it has no words.
Else the first word is the command. The others are the arguments, or the first `k` others and then
the line from the next word on to its end if the grammar says so; and the line is refused if more
than `maxArgs` words are to be arguments by themselves. -/
theorem parse_exactly (grammar : Grammar) (maxArgs : Nat) (line : String) :
    Trims line (trimLineEnd line) ∧
    (parse grammar maxArgs line = .ok none ↔ words (trimLineEnd line) = []) ∧
    (∀ command args, words (trimLineEnd line) = command :: args → grammar command = none →
      ((∃ reason, parse grammar maxArgs line = .error (.invalidStatement reason)) ↔
        maxArgs < args.length) ∧
      (args.length ≤ maxArgs → parse grammar maxArgs line =
        .ok (some { line := trimLineEnd line, command, args }))) ∧
    (∀ command args k, words (trimLineEnd line) = command :: args → grammar command = some k →
      ((∃ reason, parse grammar maxArgs line = .error (.invalidStatement reason)) ↔
        maxArgs < k ∧ maxArgs < args.length) ∧
      (args.length ≤ k → args.length ≤ maxArgs → parse grammar maxArgs line =
        .ok (some { line := trimLineEnd line, command, args })) ∧
      (k < args.length → k ≤ maxArgs →
        ∃ tail, Text.IsTail isSeparator (trimLineEnd line).toList (k + 1) tail ∧
          parse grammar maxArgs line = .ok (some
            { line := trimLineEnd line, command := command
              args := args.take k ++ [String.ofList tail] }))) ∧
    ∀ l, layout grammar maxArgs (trimLineEnd line) = .ok (some l) →
      l.Fits (trimLineEnd line) ∧
        parse grammar maxArgs line = .ok (some (l.statement (trimLineEnd line))) := by
  refine ⟨trims_trimLineEnd line, ⟨fun hblank => ?_, parse_eq_none⟩,
    fun command args h hplain => ?_, fun command args k h hk => ?_,
    fun l hl => ⟨fits_of_layout hl, by rw [parse, hl]; rfl⟩⟩
  · cases hwords : words (trimLineEnd line) with
    | nil => rfl
    | cons command args =>
      rcases parse_spec hwords grammar maxArgs with ⟨-, herror⟩ | ⟨-, taken, hok, -⟩
      · cases hblank.symm.trans herror
      · cases hblank.symm.trans hok
  · rw [parse_refused_iff h, Exceeds, hplain]
    exact ⟨by simp, parse_of_length_le h (by simp [hplain])⟩
  · rw [parse_refused_iff h, Exceeds, hk]
    refine ⟨by simp [and_comm], fun hall => parse_of_length_le h (by simpa [hk] using hall),
      fun hlt hfits => ?_⟩
    rcases parse_spec h grammar maxArgs with ⟨hexceeds, -⟩ | ⟨-, taken, hok, -, htaken⟩
    · exact absurd (hexceeds.2 k hk) (not_lt.mpr hfits)
    · obtain ⟨tail, htail, rfl⟩ := htaken k hk hlt
      exact ⟨tail, htail, hok⟩

end Statement

end FileScript
