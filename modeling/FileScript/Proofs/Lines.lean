import FileScript.Proofs.Words
import FileScript.Script

/-!
# The lines of a script

A script is cut at its line feeds. So the lines of two scripts, one written after the other, are
the lines of both, if the first of them ends with a line feed (`Script.lines_append`); and the lines
of a text are its lines as they were written (`Script.lines_toUTF8_cons`), because no other
character has a byte that ends a line. On a line that is written out word by word, these words are
read, and the rest of the line as it stands (`Statement.parse_spell_tail`).
-/

namespace FileScript

theorem Text.size_toUTF8 (text : String) : text.toUTF8.size = text.utf8ByteSize := by
  rw [String.toUTF8_eq_toByteArray, String.size_toByteArray]

theorem Text.toUTF8_append (a b : String) : (a ++ b).toUTF8 = a.toUTF8 ++ b.toUTF8 := by
  simp only [String.toUTF8_eq_toByteArray, String.toByteArray_append]

namespace Script

variable {line rest : List UInt8} {fault : Option String}

theorem lines_nil : lines ⟨[], fault⟩ = [] := by
  rw [lines]
  rfl

theorem lines_cons (h : lineFeed ∉ line) :
    lines ⟨line ++ lineFeed :: rest, fault⟩ = (line ++ [lineFeed]) :: lines ⟨rest, fault⟩ := by
  have hline : ∀ b ∈ line, (b != lineFeed) = true := fun b hb =>
    bne_iff_ne.mpr fun heq => h (heq ▸ hb)
  have hnext : next? ⟨line ++ lineFeed :: rest, fault⟩ =
      some (line ++ [lineFeed], ⟨rest, fault⟩) := by
    unfold next?
    rw [List.dropWhile_append_of_pos hline, List.takeWhile_append_of_pos hline]
    simp
  rw [lines, hnext]

/-- Bytes are lines, one after the other, and a rest without a line feed. -/
theorem exists_lines (bytes : List UInt8) :
    ∃ (pieces : List (List UInt8)) (rest : List UInt8),
      bytes = pieces.flatMap (· ++ [lineFeed]) ++ rest ∧
        (∀ piece ∈ pieces, lineFeed ∉ piece) ∧ lineFeed ∉ rest := by
  induction bytes using List.reverseRecOn with
  | nil => exact ⟨[], [], rfl, by simp, by simp⟩
  | append_singleton bytes b ih =>
    obtain ⟨pieces, rest, rfl, hpieces, hrest⟩ := ih
    by_cases hb : b = lineFeed
    · refine ⟨pieces ++ [rest], [], ?_, ?_, by simp⟩
      · rw [List.flatMap_append, hb]
        simp
      · simpa [or_imp, forall_and, hrest] using hpieces
    · exact ⟨pieces, rest ++ [b], List.append_assoc .., hpieces, by simpa [hrest] using Ne.symm hb⟩

theorem lines_flatMap {pieces : List (List UInt8)} (h : ∀ piece ∈ pieces, lineFeed ∉ piece) :
    lines ⟨pieces.flatMap (· ++ [lineFeed]) ++ rest, fault⟩ =
      pieces.map (· ++ [lineFeed]) ++ lines ⟨rest, fault⟩ := by
  induction pieces with
  | nil => rfl
  | cons piece pieces ih =>
    obtain ⟨hpiece, hpieces⟩ := List.forall_mem_cons.mp h
    rw [List.flatMap_cons, List.append_assoc, List.append_assoc, List.singleton_append,
      lines_cons hpiece, ih hpieces, List.map_cons, List.cons_append]

/-- After a line feed a new line begins. -/
theorem exists_lines_of_ends {first : List UInt8}
    (h : first = [] ∨ first.getLast? = some lineFeed) :
    ∃ pieces : List (List UInt8), first = pieces.flatMap (· ++ [lineFeed]) ∧
      ∀ piece ∈ pieces, lineFeed ∉ piece := by
  obtain ⟨pieces, rest, rfl, hpieces, hrest⟩ := exists_lines first
  have hnil : rest = [] := by
    rcases h with h | h
    · exact (List.append_eq_nil_iff.mp h).2
    · rw [List.getLast?_append] at h
      cases hlast : rest.getLast? with
      | none => exact List.getLast?_eq_none_iff.mp hlast
      | some b =>
        rw [hlast] at h
        cases h
        exact absurd (List.mem_of_getLast? hlast) hrest
  exact ⟨pieces, by rw [hnil, List.append_nil], hpieces⟩

/-- **The lines of a script that goes on after a whole line** are those before and those after. -/
theorem lines_append {first : List UInt8} (h : first = [] ∨ first.getLast? = some lineFeed) :
    lines ⟨first ++ rest, fault⟩ = lines ⟨first, fault⟩ ++ lines ⟨rest, fault⟩ := by
  obtain ⟨pieces, rfl, hpieces⟩ := exists_lines_of_ends h
  have hlines : lines ⟨pieces.flatMap (· ++ [lineFeed]) ++ [], fault⟩ =
      pieces.map (· ++ [lineFeed]) ++ lines ⟨[], fault⟩ := lines_flatMap hpieces
  rw [List.append_nil, lines_nil, List.append_nil] at hlines
  rw [lines_flatMap hpieces, hlines]

/-! ## Lines of a text -/

/-- A text without line feeds is encoded without them. -/
theorem lineFeed_not_mem {text : String} (h : '\n' ∉ text.toList) :
    lineFeed ∉ Content.bytes text.toUTF8 := by
  rw [Text.bytes_toUTF8, List.mem_flatMap]
  rintro ⟨c, hc, hmem⟩
  have hval : c.val.toNat = 10 := (Text.toNat_eq_iff_of_mem hmem (by decide)).mp rfl
  have heq : c = '\n' := Char.val_inj.mp (UInt32.toNat_inj.mp hval)
  exact h (heq ▸ hc)

/-- The lines of a text begin with its first one. -/
theorem lines_toUTF8_cons {text : String} (h : '\n' ∉ text.toList) (more : String) :
    lines ⟨Content.bytes (text ++ "\n" ++ more).toUTF8, fault⟩ =
      Content.bytes (text ++ "\n").toUTF8 :: lines ⟨Content.bytes more.toUTF8, fault⟩ := by
  have hfeed : Content.bytes "\n".toUTF8 = [lineFeed] := by decide
  simp only [Text.toUTF8_append, Content.bytes_append, hfeed, List.append_assoc,
    List.singleton_append]
  exact lines_cons (lineFeed_not_mem h)

variable {grammar : Grammar} {maxArgs : Nat}

theorem fromUTF8?_bytes (text : String) :
    String.fromUTF8? (Content.bytes text.toUTF8).toByteArray = some text := by
  have hbytes : (Content.bytes text.toUTF8).toByteArray = text.toUTF8 :=
    Content.bytes_injective (by rw [Content.bytes, List.data_toByteArray])
  rw [hbytes, String.fromUTF8?, String.toUTF8_eq_toByteArray, dif_pos text.isValidUTF8]
  rfl

/-- A statement is read off the bytes of its line. -/
theorem readLine_of_parse {text : String} {s : Statement}
    (h : Statement.parse grammar maxArgs text = .ok (some s)) :
    readLine grammar maxArgs (Content.bytes text.toUTF8) = .ok (.statement s) := by
  rw [readLine, fromUTF8?_bytes]
  dsimp only
  rw [h]
  rfl

end Script

/-! ## Lines that are written out -/

namespace Text

variable {isSeparator : Char → Bool} {text tail : List Char} {c : Char}

/-- A separator in front of a text is not in its tails. -/
theorem IsTail.cons {i : Nat} (htail : IsTail isSeparator text i tail) (hc : isSeparator c = true) :
    IsTail isSeparator (c :: text) i tail := by
  obtain ⟨before, heq, hruns, hhead⟩ := htail
  refine ⟨c :: before, by rw [heq, List.cons_append], ?_, hhead⟩
  rw [runs, if_pos hc, runs, if_pos hc, hruns]

end Text

namespace Statement

theorem trimLineEnd_append {text : String} (h : text.toList.getLast? ≠ some '\r') :
    trimLineEnd (text ++ "\n") = text := by
  have hreverse : (text ++ "\n").toList.reverse = '\n' :: text.toList.reverse := by
    rw [String.toList_append, List.reverse_append]
    rfl
  unfold trimLineEnd
  rw [hreverse]
  split
  · next rest heq =>
    obtain ⟨-, hrest⟩ := List.cons.inj heq
    rw [← List.head?_reverse, hrest] at h
    exact absurd rfl h
  · next rest _ heq =>
    rw [← (List.cons.inj heq).2, List.reverse_reverse, String.ofList_toList]
  · next _ hno => exact absurd rfl (hno _)

/-- A token can stand on a line as a word. -/
structure IsToken (token : String) : Prop where
  ne_empty : token ≠ ""
  not_separator : ∀ c ∈ token.toList, isSeparator c = false
  no_lineFeed : '\n' ∉ token.toList

/-- A line that begins with some tokens, with the rest of the line after them. -/
def spell (tokens : List String) (rest : String) : String :=
  tokens.foldr (fun token line => token ++ " " ++ line) rest

variable {tokens args : List String} {command rest text last : String} {grammar : Grammar}
  {maxArgs : Nat}

theorem toList_spell_cons (token : String) (tokens : List String) (rest : String) :
    (spell (token :: tokens) rest).toList = token.toList ++ ' ' :: (spell tokens rest).toList := by
  rw [spell, List.foldr_cons, String.toList_append, String.toList_append, List.append_assoc]
  rfl

theorem IsToken.firstRun {token : String} (h : IsToken token) (line : List Char) :
    Text.FirstRun isSeparator (token.toList ++ ' ' :: line) [] token.toList (' ' :: line) where
  eq := rfl
  gap _ hc := absurd hc List.not_mem_nil
  ne_nil hnil := h.ne_empty (String.toList_eq_nil_iff.mp hnil)
  word := h.not_separator
  after := by
    rintro _ ⟨⟩
    rfl

theorem words_token {token : String} (h : IsToken token) : words token = [token] := by
  have hruns := Text.runs_eq_singleton
    (fun hnil => h.ne_empty (String.toList_eq_nil_iff.mp hnil)) h.not_separator
  rw [words, hruns, List.map_cons, List.map_nil, String.ofList_toList]

/-- The words of a line are the tokens that were written out, and the words after them. -/
theorem words_spell (h : ∀ token ∈ tokens, IsToken token) (rest : String) :
    words (spell tokens rest) = tokens ++ words rest := by
  induction tokens with
  | nil => rfl
  | cons token tokens ih =>
    obtain ⟨htoken, htokens⟩ := List.forall_mem_cons.mp h
    have hruns : Text.runs isSeparator (' ' :: (spell tokens rest).toList) =
        Text.runs isSeparator (spell tokens rest).toList := by
      have hblank : isSeparator ' ' = true := rfl
      rw [Text.runs, if_pos hblank]
    rw [words, toList_spell_cons, (htoken.firstRun _).runs_eq, hruns, List.map_cons,
      String.ofList_toList, List.cons_append, ← ih htokens]
    rfl

/-- After the tokens stands the rest of the line as it is. -/
theorem isTail_spell (h : ∀ token ∈ tokens, IsToken token)
    (hrest : ∃ c ∈ rest.toList.head?, isSeparator c = false) :
    Text.IsTail isSeparator (spell tokens rest).toList tokens.length rest.toList := by
  induction tokens with
  | nil => exact ⟨[], rfl, by rw [List.length_nil, List.take_zero, Text.runs], hrest⟩
  | cons token tokens ih =>
    obtain ⟨htoken, htokens⟩ := List.forall_mem_cons.mp h
    rw [toList_spell_cons]
    exact .succ (htoken.firstRun _) ((ih htokens).cons rfl)

theorem getLast?_spell (tokens : List String) (hrest : rest ≠ "") :
    (spell tokens rest).toList.getLast? = rest.toList.getLast? := by
  induction tokens with
  | nil => rfl
  | cons token tokens ih =>
    rw [toList_spell_cons, List.getLast?_append, List.getLast?_cons, ih]
    cases hlast : rest.toList.getLast? with
    | none => exact absurd (String.toList_eq_nil_iff.mp (List.getLast?_eq_none_iff.mp hlast)) hrest
    | some c => rfl

theorem no_lineFeed_spell (h : ∀ token ∈ tokens, IsToken token) (hrest : '\n' ∉ rest.toList) :
    '\n' ∉ (spell tokens rest).toList := by
  induction tokens with
  | nil => exact hrest
  | cons token tokens ih =>
    obtain ⟨htoken, htokens⟩ := List.forall_mem_cons.mp h
    rw [toList_spell_cons, List.mem_append, List.mem_cons, not_or, not_or]
    exact ⟨htoken.no_lineFeed, by decide, ih htokens⟩

theorem trimLineEnd_spell (tokens : List String) (hne : text ≠ "")
    (hlast : text.toList.getLast? ≠ some '\r') :
    trimLineEnd (spell tokens text ++ "\n") = spell tokens text :=
  trimLineEnd_append (by rwa [getLast?_spell _ hne])

/-- A line whose last argument is the rest of the line, as it stands. -/
theorem parse_spell_tail (htokens : ∀ token ∈ command :: args, IsToken token)
    (hk : grammar command = some args.length) (hfits : args.length ≤ maxArgs)
    (htext : ∃ c ∈ text.toList.head?, isSeparator c = false)
    (hlast : text.toList.getLast? ≠ some '\r') :
    parse grammar maxArgs (spell (command :: args) text ++ "\n") =
      .ok (some { line := spell (command :: args) text, command, args := args ++ [text] }) := by
  have hne : text ≠ "" := by
    rintro rfl
    obtain ⟨c, hc, -⟩ := htext
    cases hc
  have htrim := trimLineEnd_spell (command :: args) hne hlast
  have hwords : words (trimLineEnd (spell (command :: args) text ++ "\n")) =
      command :: (args ++ words text) := by
    rw [htrim, words_spell htokens, List.cons_append]
  have hpos : 0 < (words text).length := by
    rw [List.length_pos_iff]
    intro hnil
    obtain ⟨c, hc, hword⟩ := htext
    have hblank :=
      Text.runs_eq_nil_iff.mp (List.map_eq_nil_iff.mp hnil) c (List.mem_of_mem_head? hc)
    cases hword.symm.trans hblank
  rw [parse_of_lt_length hwords hk (by rw [List.length_append]; omega) hfits
    (htrim ▸ isTail_spell htokens htext), htrim, List.take_left, String.ofList_toList]

/-- A line whose arguments are all plain. -/
theorem parse_spell (htokens : ∀ token ∈ command :: args, IsToken token) (hlast : IsToken last)
    (hk : grammar command = none) (hfits : args.length < maxArgs)
    (hreturn : last.toList.getLast? ≠ some '\r') :
    parse grammar maxArgs (spell (command :: args) last ++ "\n") =
      .ok (some { line := spell (command :: args) last, command, args := args ++ [last] }) := by
  have htrim := trimLineEnd_spell (command :: args) hlast.ne_empty hreturn
  have hwords : words (trimLineEnd (spell (command :: args) last ++ "\n")) =
      command :: (args ++ [last]) := by
    rw [htrim, words_spell htokens, words_token hlast, List.cons_append]
  rw [parse_of_length_le hwords (by simp [hk]) (by simpa using hfits), htrim]

end Statement

end FileScript
