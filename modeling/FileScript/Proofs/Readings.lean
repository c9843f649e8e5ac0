import FileScript.Proofs.Replays

/-!
# Reading scripts line by line

Bytes can be cut into lines in one way only (`Script.IsCut`): after each line feed and nowhere else.
Readings of a script find what stands on these lines, one line each, whether it is a statement or
not, and after that the end of the input again and again (`Script.readings_eq`). What a reading
finds depends on the bytes of its line alone (`Script.readLine_of_text`,
`Script.readLine_of_no_text`), and on no line it is the end of the input. So the loop over the
readings ends after one more of them than there are lines, and is a replay of the script
(`Replay.loop_eq`).
-/

namespace FileScript

namespace Script

variable {grammar : Grammar} {maxArgs : Nat} {bytes line : List UInt8}

/-! ## Cutting bytes into lines -/

/-- Bytes are cut into lines: the lines are all of the bytes, a line is not empty and holds a line
feed at its end at most, and only the last line may be without one. -/
structure IsCut (bytes : List UInt8) (lines : List (List UInt8)) : Prop where
  joined : lines.flatten = bytes
  ne_nil : ∀ line ∈ lines, line ≠ []
  inside : ∀ line ∈ lines, lineFeed ∉ line.dropLast
  ended : ∀ line ∈ lines.dropLast, line.getLast? = some lineFeed

theorem next?_eq_none_iff {s : Script} (hs : s.fault = none) :
    s.next? = none ↔ s.bytes = [] := by
  unfold next?
  split
  · next c rest hafter =>
    refine iff_of_false (by simp) fun hnil => ?_
    rw [hnil] at hafter
    cases hafter
  · simp [hs]

/-- The first line is as much of a script as ends with a line feed, or all of it. -/
structure IsFirst (s : Script) (line : List UInt8) (rest : Script) : Prop where
  bytes_eq : s.bytes = line ++ rest.bytes
  fault_eq : rest.fault = s.fault
  ne_nil : line ≠ []
  inside : lineFeed ∉ line.dropLast
  ended : rest.bytes = [] ∨ line.getLast? = some lineFeed

theorem isFirst_of_next? {s rest : Script} (h : s.next? = some (line, rest)) :
    s.IsFirst line rest := by
  have hsplit : s.bytes.takeWhile (· != lineFeed) ++ s.bytes.dropWhile (· != lineFeed) = s.bytes :=
    List.takeWhile_append_dropWhile
  have hbefore : lineFeed ∉ s.bytes.takeWhile (· != lineFeed) := fun hmem => by
    simpa using List.mem_takeWhile_imp hmem
  unfold next? at h
  split at h
  · next c after hafter =>
    obtain ⟨rfl, rfl⟩ := Prod.mk.inj (Option.some.inj h)
    have hfeed : c = lineFeed := by
      simpa [hafter] using List.head_dropWhile_not (· != lineFeed) (l := s.bytes) (by simp [hafter])
    refine ⟨?_, rfl, by simp, by simpa using hbefore, .inr (by simp)⟩
    rw [hafter, hfeed] at hsplit
    rw [List.append_assoc, List.singleton_append]
    exact hsplit.symm
  · next hnone =>
    split at h
    · cases h
    · next hrest =>
      obtain ⟨rfl, rfl⟩ := Prod.mk.inj (Option.some.inj h)
      rw [hnone, List.append_nil] at hsplit
      rw [hsplit] at hbefore
      refine ⟨by simp, rfl, fun hnil => hrest (.inl hnil), fun hmem => ?_, .inl rfl⟩
      exact hbefore (List.mem_of_mem_dropLast hmem)

theorem lines_of_next? {s rest : Script} (h : s.next? = some (line, rest)) :
    s.lines = line :: rest.lines := by
  rw [lines, h]

theorem lines_of_next?_eq_none {s : Script} (h : s.next? = none) : s.lines = [] := by
  rw [lines, h]

theorem isCut_lines {s : Script} (hs : s.fault = none) : IsCut s.bytes s.lines := by
  induction s using lines.induct with
  | case1 s hnone =>
    rw [lines_of_next?_eq_none hnone, (next?_eq_none_iff hs).mp hnone]
    exact ⟨rfl, by simp, by simp, by simp⟩
  | case2 s line rest hnext ih =>
    have hfirst := isFirst_of_next? hnext
    have hmore := ih (hfirst.fault_eq.trans hs)
    rw [lines_of_next? hnext]
    refine ⟨?_, ?_, ?_, ?_⟩
    · rw [List.flatten_cons, hmore.joined, hfirst.bytes_eq]
    · exact List.forall_mem_cons.mpr ⟨hfirst.ne_nil, hmore.ne_nil⟩
    · exact List.forall_mem_cons.mpr ⟨hfirst.inside, hmore.inside⟩
    · cases hlines : rest.lines with
      | nil => simp
      | cons next more =>
        rw [List.dropLast_cons_of_ne_nil (List.cons_ne_nil _ _), ← hlines]
        refine List.forall_mem_cons.mpr ⟨hfirst.ended.resolve_left fun hnil => ?_, hmore.ended⟩
        have hjoined := hmore.joined
        rw [hlines, hnil, List.flatten_cons] at hjoined
        exact hmore.ne_nil next (by simp [hlines]) (List.append_eq_nil_iff.mp hjoined).1

/-- What has no line feed is one line. -/
theorem lines_of_not_mem (h : lineFeed ∉ line) (hne : line ≠ []) :
    lines ⟨line, none⟩ = [line] := by
  have hafter : line.dropWhile (· != lineFeed) = [] :=
    List.dropWhile_eq_nil_iff.mpr fun b hb => bne_iff_ne.mpr fun heq => h (heq ▸ hb)
  have hnext : next? ⟨line, none⟩ = some (line, ⟨[], none⟩) := by
    unfold next?
    simp [hafter, hne]
  rw [lines_of_next? hnext, lines_nil]

/-- Bytes are cut into lines in one way only. -/
theorem IsCut.eq_lines {ls : List (List UInt8)} (h : IsCut bytes ls) :
    ls = lines ⟨bytes, none⟩ := by
  induction ls generalizing bytes with
  | nil => rw [← h.joined, List.flatten_nil, lines_nil]
  | cons line more ih =>
    have hline := h.ne_nil line List.mem_cons_self
    have hinside := h.inside line List.mem_cons_self
    have hmore : IsCut more.flatten more := by
      refine ⟨rfl, (List.forall_mem_cons.mp h.ne_nil).2, (List.forall_mem_cons.mp h.inside).2, ?_⟩
      intro l hl
      refine h.ended l ?_
      cases more with
      | nil => cases hl
      | cons => exact List.mem_cons_of_mem _ hl
    rw [← h.joined, List.flatten_cons]
    by_cases hends : line.getLast? = some lineFeed
    · obtain ⟨piece, rfl⟩ := List.getLast?_eq_some_iff.mp hends
      rw [List.dropLast_concat] at hinside
      rw [List.append_assoc, List.singleton_append, lines_cons hinside, ← ih hmore]
    · have hnil : more = [] := by
        by_contra hne
        refine hends (h.ended line ?_)
        rw [List.dropLast_cons_of_ne_nil hne]
        exact List.mem_cons_self
      rw [hnil, List.flatten_nil, List.append_nil]
      refine (lines_of_not_mem (fun hmem => ?_) hline).symm
      -- a line feed would be inside the line, or at its end
      rw [← List.dropLast_append_getLast hline, List.mem_append, List.mem_singleton] at hmem
      rcases hmem with hmem | hmem
      · exact hinside hmem
      · exact hends (by rw [List.getLast?_eq_getLast_of_ne_nil hline, hmem])

/-! ## Readings -/

/-- What `n` readings of a script find, in order, and the script after them. -/
def readings (grammar : Grammar) (maxArgs : Nat) :
    Nat → Script → List (Except Fault Reading) × Script
  | 0, s => ([], s)
  | n + 1, s =>
    let (found, rest) := s.read grammar maxArgs
    let (more, last) := readings grammar maxArgs n rest
    (found :: more, last)

theorem read_of_next? {s rest : Script} (h : s.next? = some (line, rest)) :
    s.read grammar maxArgs = (readLine grammar maxArgs line, rest) := by
  rw [read, h]

theorem read_of_next?_eq_none {s : Script} (hs : s.fault = none) (h : s.next? = none) :
    s.read grammar maxArgs = (.ok .endOfInput, s) := by
  rw [read, h, hs]

/-- The script of the bytes after the first lines. -/
theorem mk_flatten_lines {s : Script} (hs : s.fault = none) : ⟨s.lines.flatten, none⟩ = s := by
  rw [(isCut_lines hs).joined, ← hs]

/-- **Each reading finds what is on the next line**, and those after the last line find the end of
the input. What has not been read are the lines that follow. -/
theorem readings_eq {s : Script} (hs : s.fault = none) (n : Nat) :
    s.readings grammar maxArgs n =
      ((s.lines.map (readLine grammar maxArgs)).take n ++
        List.replicate (n - s.lines.length) (.ok .endOfInput),
      ⟨(s.lines.drop n).flatten, none⟩) := by
  induction n generalizing s with
  | zero =>
    rw [List.drop_zero, mk_flatten_lines hs]
    simp [readings]
  | succ n ih =>
    rw [readings]
    cases hnext : s.next? with
    | none =>
      rw [read_of_next?_eq_none hs hnext, lines_of_next?_eq_none hnext]
      dsimp only
      rw [ih hs, lines_of_next?_eq_none hnext]
      simp [List.replicate_succ]
    | some first =>
      obtain ⟨line, rest⟩ := first
      have hrest : rest.fault = none := (isFirst_of_next? hnext).fault_eq.trans hs
      rw [read_of_next? hnext, lines_of_next? hnext]
      dsimp only
      rw [ih hrest]
      simp

/-- What stands on a line that is a text is what the text says. -/
theorem readLine_of_text (text : String) :
    readLine grammar maxArgs (Content.bytes text.toUTF8) =
      (Statement.parse grammar maxArgs text).map fun found => found.elim .blank .statement := by
  rw [readLine, fromUTF8?_bytes]
  dsimp only
  cases Statement.parse grammar maxArgs text with
  | error fault => rfl
  | ok found => cases found <;> rfl

/-- A line that is not the encoding of a text is no statement. -/
theorem readLine_of_no_text (h : ∀ text : String, Content.bytes text.toUTF8 ≠ line) :
    readLine grammar maxArgs line = .error (.invalidStatement "line is not valid UTF-8") := by
  rw [readLine]
  cases htext : String.fromUTF8? line.toByteArray with
  | none => rfl
  | some text =>
    refine absurd ?_ (h text)
    unfold String.fromUTF8? at htext
    split at htext
    · cases htext
      simp [Content.bytes, String.fromUTF8]
    · cases htext

theorem readLine_ne_endOfInput (line : List UInt8) :
    readLine grammar maxArgs line ≠ .ok .endOfInput := by
  by_cases h : ∃ text : String, Content.bytes text.toUTF8 = line
  · obtain ⟨text, rfl⟩ := h
    rw [readLine_of_text]
    cases Statement.parse grammar maxArgs text with
    | error fault => simp [Except.map]
    | ok found => cases found <;> simp [Except.map]
  · rw [readLine_of_no_text (not_exists.mp h)]
    simp

end Script

namespace Replay

/-! ## The loop over the readings -/

/-- The loop over the readings of a script, for at most `fuel` of them: what is found is dispatched
or reported, and at the end of the input the replay is finished. There is no status if the readings
do not get there. -/
def loop (registry : Registry) : (fuel : Nat) → Script → Step (Option Int)
  | 0, _ => return none
  | fuel + 1, s => do
    let maxArgs := (← get).frame.session.maxArgs
    let (found, rest) := s.read registry.grammar maxArgs
    match found with
    | .ok .endOfInput => return some (← finish)
    | .ok .blank => loop registry fuel rest
    | .ok (.statement statement) =>
      dispatch registry statement
      loop registry fuel rest
    | .error (.transfer text) => throw (.transfer text)
    | .error fault =>
      report .replay .error s!"failed to parse statement: {fault.message}"
      loop registry fuel rest

variable {registry : Registry}

theorem script_of_next? {s rest : Script} {first : List UInt8} (h : s.next? = some (first, rest)) :
    script registry s = (do line registry first; script registry rest) := by
  have hfault : rest.fault = s.fault := (Script.isFirst_of_next? h).fault_eq
  unfold script
  rw [Script.lines_of_next? h, hfault]
  exact bind_assoc ..

/-- **The loop is a replay of the script**, and ends after one reading more than there are lines, if
not before. -/
theorem loop_eq (s : Script) {fuel : Nat} (hfuel : s.lines.length < fuel) :
    loop registry fuel s = some <$> script registry s := by
  induction fuel generalizing s with
  | zero => exact absurd hfuel (Nat.not_lt_zero _)
  | succ fuel ih =>
    unfold loop
    cases hnext : s.next? with
    | none =>
      unfold script
      cases hfault : s.fault with
      | none =>
        simp only [Script.read_of_next?_eq_none hfault hnext, Script.lines_of_next?_eq_none hnext]
        rfl
      | some text =>
        simp only [Script.read, hfault, hnext, Script.lines_of_next?_eq_none hnext]
        rfl
    | some first =>
      obtain ⟨first, rest⟩ := first
      have hrest : loop registry fuel rest = some <$> script registry rest := by
        refine ih rest ?_
        rw [Script.lines_of_next? hnext, List.length_cons] at hfuel
        exact Nat.lt_of_succ_lt_succ hfuel
      rw [script_of_next? hnext, map_bind]
      unfold line
      rw [bind_assoc]
      refine bind_congr fun r => ?_
      simp only [Script.read_of_next? hnext, hrest]
      cases hfound : Script.readLine registry.grammar r.frame.session.maxArgs first with
      | ok found =>
        cases found with
        | statement | blank => rfl
        | endOfInput => exact absurd hfound (Script.readLine_ne_endOfInput first)
      | error fault =>
        have hrejects := Script.rejects_of_readLine hfound
        cases fault with
        | transfer => cases hrejects
        | _ => rfl

end Replay

namespace Script

/-! ## All readings of a stream of bytes -/

/-- A stream of bytes is read as some lines: it can be cut into these lines only; each reading finds
what is on the next of them and takes it from the script, whatever it is, and after the last there
is nothing but the end of the input; what is on a line depends on its bytes, and is never the end of
the input; and the loop over the readings is a replay that ends after them. -/
structure IsReadAs (bytes : List UInt8) (lines : List (List UInt8)) : Prop where
  cut : ∀ ls, IsCut bytes ls ↔ ls = lines
  readings : ∀ grammar maxArgs n, Script.readings grammar maxArgs n ⟨bytes, none⟩ =
    ((lines.map (readLine grammar maxArgs)).take n ++
      List.replicate (n - lines.length) (.ok .endOfInput),
    ⟨(lines.drop n).flatten, none⟩)
  text : ∀ grammar maxArgs (text : String), Content.bytes text.toUTF8 ∈ lines →
    readLine grammar maxArgs (Content.bytes text.toUTF8) =
      (Statement.parse grammar maxArgs text).map fun found => found.elim .blank .statement
  no_text : ∀ grammar maxArgs, ∀ line ∈ lines,
    (∀ text : String, Content.bytes text.toUTF8 ≠ line) →
      readLine grammar maxArgs line = .error (.invalidStatement "line is not valid UTF-8")
  not_end : ∀ grammar maxArgs, ∀ line ∈ lines, readLine grammar maxArgs line ≠ .ok .endOfInput
  loop : ∀ registry fuel, lines.length < fuel →
    Replay.loop registry fuel ⟨bytes, none⟩ = some <$> Replay.script registry ⟨bytes, none⟩

/-- **Every stream of bytes is read line by line**, up to its end. -/
theorem isReadAs_lines (bytes : List UInt8) : IsReadAs bytes (lines ⟨bytes, none⟩) where
  cut ls := by
    refine ⟨IsCut.eq_lines, ?_⟩
    rintro rfl
    exact isCut_lines (s := ⟨bytes, none⟩) rfl
  readings _ _ n := readings_eq rfl n
  text _ _ text _ := readLine_of_text text
  no_text _ _ _ _ h := readLine_of_no_text h
  not_end _ _ line _ := readLine_ne_endOfInput line
  loop _ _ h := Replay.loop_eq _ h

end Script

end FileScript
