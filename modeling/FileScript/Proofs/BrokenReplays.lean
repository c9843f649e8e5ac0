import FileScript.Proofs.Replays

/-!
# Replays that break off

Two things end a replay early: the sink takes no more, or reading breaks off. What has been done by
then is what a replay that is not disturbed does first (`Frame.replay_stops`).

1. A sink with room for `n` bytes takes what is printed for the lines as long as all of it fits, and
   the first `n` bytes of it in the end. The first line for which it does not fit is carried out,
   and it is the last one (`Replay.lines_within`).
2. If reading breaks off, the lines that end with a line feed have been read
   (`Script.lines_broken`).
-/

namespace FileScript

/-! ## Whole lines -/

namespace Script

/-- The longest beginning of some bytes that is empty or ends with a line feed. -/
structure IsWhole (whole bytes : List UInt8) : Prop where
  begins : whole <+: bytes
  ends : whole = [] ∨ whole.getLast? = some lineFeed
  longest : ∀ other, other <+: bytes → other = [] ∨ other.getLast? = some lineFeed →
    other.length ≤ whole.length

variable {pieces : List (List UInt8)} {rest : List UInt8}

theorem isWhole_flatMap (pieces : List (List UInt8)) (hrest : lineFeed ∉ rest) :
    IsWhole (pieces.flatMap (· ++ [lineFeed])) (pieces.flatMap (· ++ [lineFeed]) ++ rest) where
  begins := List.prefix_append _ _
  ends := by
    rcases List.eq_nil_or_concat pieces with rfl | ⟨before, piece, rfl⟩
    · exact .inl rfl
    · right
      simp
  longest other hother hends := by
    by_contra hlt
    obtain ⟨more, rfl⟩ := List.prefix_of_prefix_length_le (List.prefix_append _ rest) hother
      (not_le.mp hlt).le
    have hmore : more <+: rest := (List.prefix_append_right_inj _).mp hother
    -- a longer part would end with a line feed of the rest
    cases hlast : more.getLast? with
    | none =>
      rw [List.getLast?_eq_none_iff.mp hlast, List.append_nil] at hlt
      exact hlt le_rfl
    | some b =>
      rcases hends with hnil | hfeed
      · rw [(List.append_eq_nil_iff.mp hnil).2] at hlast
        cases hlast
      · rw [List.getLast?_append, hlast] at hfeed
        cases hfeed
        exact hrest (hmore.subset (List.mem_of_getLast? hlast))

/-- Where reading breaks off, a line that has not ended is lost. -/
theorem lines_broken (hpieces : ∀ piece ∈ pieces, lineFeed ∉ piece) (hrest : lineFeed ∉ rest)
    (text : String) :
    lines ⟨pieces.flatMap (· ++ [lineFeed]) ++ rest, some text⟩ =
      lines ⟨pieces.flatMap (· ++ [lineFeed]), none⟩ := by
  have hnext : next? ⟨rest, some text⟩ = none := by
    have hdrop : rest.dropWhile (· != lineFeed) = [] := by
      rw [List.dropWhile_eq_nil_iff]
      exact fun b hb => bne_iff_ne.mpr fun heq => hrest (heq ▸ hb)
    unfold next?
    simp [hdrop]
  have hlost : lines ⟨rest, some text⟩ = [] := by rw [lines, hnext]
  have hwhole : lines ⟨pieces.flatMap (· ++ [lineFeed]) ++ [], none⟩ =
      pieces.map (· ++ [lineFeed]) ++ lines ⟨[], none⟩ := lines_flatMap hpieces
  rw [List.append_nil, lines_nil] at hwhole
  rw [lines_flatMap hpieces, hlost, hwhole]

end Script

/-! ## Sinks with little room -/

namespace Frame

/-- In a frame, `line` comes after the lines `earlier`, and more than `n` bytes are printed with it,
but not before. -/
structure Exceeds (f : Frame) (n : Nat) (earlier : List (List UInt8)) (line : List UInt8) :
    Prop where
  before : (Outcome.allPrinted (f.enterAll Builtin.registry earlier).1).size ≤ n
  after : n < (Outcome.allPrinted (f.enterAll Builtin.registry (earlier ++ [line])).1).size

end Frame

namespace Replay

variable {r : Replay} {f : Frame} {n : Nat}

/-- A replay in the state `r` has come to the state `r'` by lines with these outcomes, and to the
frame `g`. There was room for what was printed. -/
structure Fills (r : Replay) (n : Nat) (outcomes : List Outcome) (g : Frame) (r' : Replay) :
    Prop where
  frame : r'.frame.Alike g
  written : r'.sink.written = r.sink.written ++ Outcome.allPrinted outcomes
  status : r'.status = Outcome.lastStatus r.status outcomes
  fits : (Outcome.allPrinted outcomes).size ≤ n

/-- A replay in the state `r` has ended in the state `r'` after the first line for which there was
no room. -/
structure Stops (r : Replay) (n : Nat) (f : Frame) (lines : List (List UInt8)) (fault : Fault)
    (r' : Replay) : Prop where
  fault_eq : fault = .transfer "output limit"
  written : r'.sink.written = r.sink.written ++
    (Outcome.allPrinted (f.enterAll Builtin.registry lines).1).extract 0 n
  stop : ∃ earlier line later, lines = earlier ++ line :: later ∧ f.Exceeds n earlier line ∧
    r'.frame.Alike (f.enterAll Builtin.registry (earlier ++ [line])).2

theorem Fills.cons {outcome : Outcome} {outcomes : List Outcome} {g h : Frame} {mid r' : Replay}
    (hfirst : r.Fills n [outcome] g mid)
    (hrest : mid.Fills (n - outcome.printed.size) outcomes h r') :
    r.Fills n (outcome :: outcomes) h r' where
  frame := hrest.frame
  written := by
    rw [hrest.written, hfirst.written, ByteArray.append_assoc]
    simp [Outcome.allPrinted]
  status := hrest.status.trans (by rw [hfirst.status]; rfl)
  fits := by
    have hone := hfirst.fits
    have hmore := hrest.fits
    simp only [Outcome.allPrinted, ByteArray.size_append, ByteArray.size_empty] at hone ⊢
    omega

theorem Stops.cons {line : List UInt8} {lines : List (List UInt8)} {fault : Fault}
    {mid r' : Replay}
    (hfirst : r.Fills n [(f.enter Builtin.registry line).1] (f.enter Builtin.registry line).2 mid)
    (hrest : mid.Stops (n - (f.enter Builtin.registry line).1.printed.size)
      (f.enter Builtin.registry line).2 lines fault r') : r.Stops n f (line :: lines) fault r' where
  fault_eq := hrest.fault_eq
  written := by
    have hone := hfirst.fits
    rw [hrest.written, hfirst.written, ByteArray.append_assoc]
    simp only [Frame.enterAll, Outcome.allPrinted, ByteArray.append_empty] at hone ⊢
    rw [Content.front_append, Content.front_of_size_le hone]
  stop := by
    obtain ⟨earlier, last, later, rfl, hexceeds, hframe⟩ := hrest.stop
    have hone := hfirst.fits
    have hbefore := hexceeds.before
    have hafter := hexceeds.after
    refine ⟨line :: earlier, last, later, rfl, ⟨?_, ?_⟩, hframe⟩
    all_goals
      simp only [List.cons_append, Frame.enterAll, Outcome.allPrinted, ByteArray.size_append,
        ByteArray.size_empty] at hone ⊢
      omega

/-- What is printed for lines is written as far as there is room. -/
theorem lines_within (hroom : r.sink.room = some n) (hshared : r.sink.shared = false)
    (hf : r.frame.Alike f) (lines : List (List UInt8)) :
    Ends (lines.forM (Replay.line Builtin.registry)) r
      (fun _ => r.Fills n (f.enterAll Builtin.registry lines).1
        (f.enterAll Builtin.registry lines).2)
      (r.Stops n f lines) := by
  induction lines generalizing r f n with
  | nil => exact ⟨hf, ByteArray.append_empty.symm, rfl, Nat.zero_le n⟩
  | cons line lines ih =>
    refine Ends.bind_iff.mpr ((line_prints hf line).mono (fun _ mid h => ?_) fun fault r' h => ?_)
    · obtain ⟨before, flushes, hbefore, hfits, heq⟩ := h.sink
      cases hbefore.same hshared
      rw [Sink.fits, hroom, Option.all_some, decide_eq_true_iff] at hfits
      have hfirst : r.Fills n [(f.enter Builtin.registry line).1]
          (f.enter Builtin.registry line).2 mid := by
        refine ⟨h.frame, ?_, h.status, by simpa [Outcome.allPrinted] using hfits⟩
        rw [heq]
        simp [Sink.written_write, hroom, Outcome.allPrinted, hfits]
      have hroom' : mid.sink.room = some (n - (f.enter Builtin.registry line).1.printed.size) := by
        simp [heq, hroom]
      have hshared' : mid.sink.shared = false := by simp [heq, hshared]
      exact (ih hroom' hshared' h.frame).mono (fun _ _ => hfirst.cons) fun _ _ => .cons hfirst
    · obtain ⟨before, hbefore, hfits, heq⟩ := h.sink
      cases hbefore.same hshared
      rw [Sink.fits, hroom, Option.all_some, decide_eq_false_iff_not, not_le] at hfits
      refine ⟨h.fault_eq, ?_, [], line, lines, rfl, ⟨Nat.zero_le n, ?_⟩, h.frame⟩
      · rw [heq, Frame.enterAll, Outcome.allPrinted, Content.front_append,
          Nat.sub_eq_zero_of_le hfits.le]
        simp [Sink.written_write, hroom, min_eq_left hfits.le]
      · simpa [Frame.enterAll, Outcome.allPrinted] using hfits

end Replay

/-! ## Replays -/

namespace Frame

/-- What a replay of bytes leads to if no more than `n` bytes can be written. -/
def playsWithin (f : Frame) (n : Nat) (bytes : List UInt8) : Except Fault Int × Frame × Sink :=
  f.replay Builtin.registry { bytes } { room := some n }

/-- What a replay of bytes leads to if reading breaks off after them. -/
def playsBroken (f : Frame) (text : String) (bytes : List UInt8) :
    Except Fault Int × Frame × Sink :=
  f.replay Builtin.registry { bytes, fault := some text } {}

/-- If what is printed in a replay fits into `n` bytes, a sink with so much room changes nothing.
Otherwise the replay ends with a fault when the first `n` bytes are written, after the line with
which they are exceeded. -/
structure StopsWithin (f : Frame) (n : Nat) (bytes : List UInt8) : Prop where
  fits : (f.plays bytes).2.2.written.size ≤ n →
    (∃ status, (f.playsWithin n bytes).1 = .ok status ∧ (f.plays bytes).1 = .ok status) ∧
      (f.playsWithin n bytes).2.2.written = (f.plays bytes).2.2.written ∧
      (f.playsWithin n bytes).2.1.Alike (f.plays bytes).2.1
  exceeded : n < (f.plays bytes).2.2.written.size →
    (f.playsWithin n bytes).1 = .error (.transfer "output limit") ∧
      (f.playsWithin n bytes).2.2.written = (f.plays bytes).2.2.written.extract 0 n ∧
      ∃ earlier line later, Script.lines { bytes } = earlier ++ line :: later ∧
        f.Exceeds n earlier line ∧
        (f.playsWithin n bytes).2.1.Alike (f.enterAll Builtin.registry (earlier ++ [line])).2

/-- If reading breaks off, the replay ends with a fault after what one of the whole lines does. -/
structure StopsBroken (f : Frame) (text : String) (bytes : List UInt8) : Prop where
  fault : (f.playsBroken text bytes).1 = .error (.transfer text)
  whole : ∃ whole, Script.IsWhole whole bytes ∧
    (f.playsBroken text bytes).2.2.written = (f.plays whole).2.2.written ∧
    (f.playsBroken text bytes).2.1.Alike (f.plays whole).2.1

theorem replay_cases {f : Frame} {script : Script} {sink : Sink} {good : Int → Replay → Prop}
    {bad : Fault → Replay → Prop}
    (h : Ends (Replay.script Builtin.registry script) { frame := f, sink } good bad) :
    (∃ status r, f.replay Builtin.registry script sink = (.ok status, r.frame, r.sink) ∧
        good status r) ∨
      ∃ fault r, f.replay Builtin.registry script sink = (.error fault, r.frame, r.sink) ∧
        bad fault r := by
  unfold Ends at h
  unfold replay carryOut
  split at h
  · next heq => exact .inl ⟨_, _, by rw [heq], h⟩
  · next heq => exact .inr ⟨_, _, by rw [heq], h⟩

theorem stopsWithin (f : Frame) (n : Nat) (bytes : List UInt8) : f.StopsWithin n bytes := by
  obtain ⟨hplays, halike, hwritten⟩ := plays_eq (.refl f) bytes
  have hends : Ends (Replay.script Builtin.registry { bytes })
      { frame := f, sink := { room := some n } }
      (fun status r => status =
          Outcome.lastStatus 0 (f.enterAll Builtin.registry (Script.lines { bytes })).1 ∧
        ∃ r', { frame := f, sink := { room := some n } : Replay }.Fills n
            (f.enterAll Builtin.registry (Script.lines { bytes })).1
            (f.enterAll Builtin.registry (Script.lines { bytes })).2 r' ∧
          r.frame.Alike r'.frame ∧ r.sink.written = r'.sink.written)
      ({ frame := f, sink := { room := some n } : Replay }.Stops n f (Script.lines { bytes })) := by
    refine Ends.bind_iff.mpr ((Replay.lines_within rfl rfl (.refl f) _).mono ?_ fun _ _ h => h)
    intro _ r hr
    exact ⟨hr.status, r, hr, ⟨rfl, rfl⟩, rfl⟩
  have hempty (b : ByteArray) : ({} : Sink).written ++ b = b := ByteArray.empty_append
  rcases replay_cases hends with ⟨status, r, heq, hstatus, r', hfills, hframe, hsink⟩ |
    ⟨fault, r, heq, hstops⟩
  · have hsize := hfills.fits
    refine ⟨fun _ => ?_, fun hlt => ?_⟩
    · rw [playsWithin, heq]
      refine ⟨⟨status, rfl, hplays.trans (by rw [hstatus])⟩, ?_,
        hframe.trans (hfills.frame.trans halike.symm)⟩
      rw [hsink, hfills.written, hwritten]
      exact hempty _
    · rw [hwritten] at hlt
      omega
  · obtain ⟨earlier, line, later, hlines, hexceeds, hframe⟩ := hstops.stop
    have hafter := hexceeds.after
    refine ⟨fun hle => ?_, fun _ => ?_⟩
    · rw [hwritten, hlines, ← List.singleton_append, ← List.append_assoc, enterAll_append,
        Outcome.allPrinted_append, ByteArray.size_append] at hle
      omega
    · rw [playsWithin, heq]
      refine ⟨by rw [hstops.fault_eq], ?_, earlier, line, later, hlines, hexceeds, hframe⟩
      rw [hstops.written, hwritten]
      exact hempty _

theorem stopsBroken (f : Frame) (text : String) (bytes : List UInt8) :
    f.StopsBroken text bytes := by
  obtain ⟨pieces, rest, rfl, hpieces, hrest⟩ := Script.exists_lines bytes
  obtain ⟨-, halike, hwritten⟩ := plays_eq (.refl f) (pieces.flatMap (· ++ [Script.lineFeed]))
  have hends : Ends (Replay.script Builtin.registry
      { bytes := pieces.flatMap (· ++ [Script.lineFeed]) ++ rest, fault := some text })
      { frame := f, sink := {} } (fun _ _ => False)
      fun fault r => fault = .transfer text ∧
        { frame := f, sink := {} : Replay }.Follows
          (f.enterAll Builtin.registry
            (Script.lines { bytes := pieces.flatMap (· ++ [Script.lineFeed]) })).1
          (f.enterAll Builtin.registry
            (Script.lines { bytes := pieces.flatMap (· ++ [Script.lineFeed]) })).2 r := by
    unfold Replay.script
    rw [Script.lines_broken hpieces hrest]
    refine Ends.bind_iff.mpr
      ((Replay.lines_ends ⟨rfl, rfl⟩ (.refl f) _).mono ?_ fun _ _ h => h.elim)
    exact fun _ r hr => ⟨rfl, hr⟩
  rcases replay_cases hends with ⟨_, _, -, hfalse⟩ | ⟨fault, r, heq, rfl, hr⟩
  · exact hfalse.elim
  · refine ⟨by rw [playsBroken, heq], _, Script.isWhole_flatMap pieces hrest, ?_, ?_⟩
    · rw [playsBroken, heq, hr.written, hwritten]
      exact ByteArray.empty_append
    · rw [playsBroken, heq]
      exact hr.frame.trans halike.symm

/-- **A fault in writing or reading cuts a replay off**, and what it has done by then is what a
replay without the fault does first. -/
theorem replay_stops (f : Frame) (bytes : List UInt8) :
    (∀ n, f.StopsWithin n bytes) ∧ ∀ text, f.StopsBroken text bytes :=
  ⟨fun n => f.stopsWithin n bytes, fun text => f.stopsBroken text bytes⟩

end Frame

end FileScript
