import FileScript.Proofs.Blindness
import FileScript.Proofs.Outcomes
import FileScript.Replay

/-!
# Replays one after the other

A replay that is neither cut short nor out of room enters the lines of its script one by one
(`Frame.enterAll`) and writes what comes of them (`Frame.plays_eq`). What it leaves in the log is
seen by no later line. So a script can be cut after any of its lines and be replayed in two parts
(`Frame.plays_append`).
-/

namespace FileScript

namespace Outcome

/-- What is printed for a line. -/
def printed : Outcome → ByteArray
  | answered (.ok out) => out.render
  | _ => .empty

/-- The status of the statement on a line, if there is one. -/
def status? : Outcome → Option Int
  | answered (.ok _) => some 0
  | answered (.error fault) => some fault.status
  | _ => none

/-- What is printed for lines one after the other. -/
def allPrinted : List Outcome → ByteArray
  | [] => .empty
  | outcome :: outcomes => outcome.printed ++ allPrinted outcomes

/-- The status of the last statement among lines that come after a status. -/
def lastStatus (status : Int) : List Outcome → Int
  | [] => status
  | outcome :: outcomes => lastStatus (outcome.status?.getD status) outcomes

theorem allPrinted_append (first second : List Outcome) :
    allPrinted (first ++ second) = allPrinted first ++ allPrinted second := by
  induction first with
  | nil => rw [allPrinted, ByteArray.empty_append, List.nil_append]
  | cons outcome first ih =>
    rw [List.cons_append, allPrinted, allPrinted, ih, ByteArray.append_assoc]

theorem lastStatus_append (status : Int) (first second : List Outcome) :
    lastStatus status (first ++ second) = lastStatus (lastStatus status first) second := by
  induction first generalizing status with
  | nil => rfl
  | cons outcome first ih => exact ih _

/-- A status counts until there is a later one. -/
theorem lastStatus_of_exists {outcomes : List Outcome}
    (h : ∃ outcome ∈ outcomes, outcome.status? ≠ none) (status other : Int) :
    lastStatus status outcomes = lastStatus other outcomes := by
  induction outcomes generalizing status other with
  | nil => simp at h
  | cons outcome outcomes ih =>
    rw [lastStatus, lastStatus]
    cases hstatus : outcome.status? with
    | some n => rfl
    | none => exact ih (by simpa [hstatus] using h) _ _

theorem lastStatus_of_forall {outcomes : List Outcome}
    (h : ∀ outcome ∈ outcomes, outcome.status? = none) (status : Int) :
    lastStatus status outcomes = status := by
  induction outcomes with
  | nil => rfl
  | cons outcome outcomes ih =>
    rw [lastStatus, h outcome List.mem_cons_self]
    exact ih fun o ho => h o (List.mem_cons_of_mem _ ho)

end Outcome

/-! ## Lines one after the other -/

namespace Frame

/-- What becomes of lines that are entered one after the other, and the frame after them. -/
def enterAll (registry : Registry) : Frame → List (List UInt8) → List Outcome × Frame
  | f, [] => ([], f)
  | f, line :: lines =>
    ((f.enter registry line).1 :: (enterAll registry (f.enter registry line).2 lines).1,
      (enterAll registry (f.enter registry line).2 lines).2)

variable {f g : Frame}

theorem enterAll_append (registry : Registry) (f : Frame) (first second : List (List UInt8)) :
    f.enterAll registry (first ++ second) =
      ((f.enterAll registry first).1 ++ ((f.enterAll registry first).2.enterAll registry second).1,
        ((f.enterAll registry first).2.enterAll registry second).2) := by
  induction first generalizing f with
  | nil => rfl
  | cons line first ih => simp only [List.cons_append, enterAll, ih]

/-- The same becomes of a line in frames that are alike. -/
theorem Alike.enter (h : f.Alike g) (line : List UInt8) :
    (f.enter Builtin.registry line).1 = (g.enter Builtin.registry line).1 ∧
      (f.enter Builtin.registry line).2.Alike (g.enter Builtin.registry line).2 := by
  unfold Frame.enter
  rw [h.session]
  split
  · exact ⟨rfl, h⟩
  · next s _ =>
    obtain ⟨hresult, halike⟩ := s.blind_execute f g h
    exact ⟨congrArg Outcome.answered hresult, halike⟩
  · exact ⟨rfl, h⟩

theorem Alike.enterAll (h : f.Alike g) (lines : List (List UInt8)) :
    (f.enterAll Builtin.registry lines).1 = (g.enterAll Builtin.registry lines).1 ∧
      (f.enterAll Builtin.registry lines).2.Alike (g.enterAll Builtin.registry lines).2 := by
  induction lines generalizing f g with
  | nil => exact ⟨rfl, h⟩
  | cons line lines ih =>
    obtain ⟨houtcome, halike⟩ := h.enter line
    obtain ⟨houtcomes, halikes⟩ := ih halike
    exact ⟨congrArg₂ List.cons houtcome houtcomes, halikes⟩

/-- There is a status among the outcomes of lines just if there is a statement on one of them. -/
theorem exists_status_enterAll (f : Frame) (lines : List (List UInt8)) :
    (∃ outcome ∈ (f.enterAll Builtin.registry lines).1, outcome.status? ≠ none) ↔
      ∃ line ∈ lines, ∃ s,
        Script.readLine Builtin.registry.grammar f.session.maxArgs line = .ok (.statement s) := by
  induction lines generalizing f with
  | nil => simp [enterAll]
  | cons line lines ih =>
    have hline : (f.enter Builtin.registry line).1.status? ≠ none ↔ ∃ s,
        Script.readLine Builtin.registry.grammar f.session.maxArgs line = .ok (.statement s) := by
      unfold enter
      split
      · next herror => simp [Outcome.status?, herror]
      · next s hs =>
        rw [hs]
        cases (f.run (Builtin.registry.execute s)).1 <;> simp [Outcome.status?]
      · next found hno hfound =>
        cases found <;> simp_all [Outcome.status?]
    rw [enterAll, List.exists_mem_cons_iff, List.exists_mem_cons_iff, hline, ih, f.maxArgs_enter]

end Frame

/-! ## Sinks -/

/-- A sink takes everything, but nothing that shell commands print. -/
structure Sink.Open (s : Sink) : Prop where
  room : s.room = none
  shared : s.shared = false

namespace Sink

variable {s t : Sink}

theorem written_write (s : Sink) (bytes : ByteArray) :
    (s.write bytes).written =
      s.written ++ bytes.extract 0 (s.room.elim bytes.size (min · bytes.size)) := by
  unfold write
  cases s.room with
  | none => simp
  | some room => rfl

@[simp] theorem room_write (s : Sink) (bytes : ByteArray) :
    (s.write bytes).room = s.room.map (· - bytes.size) := by
  unfold write
  cases s.room <;> rfl

@[simp] theorem shared_write (s : Sink) (bytes : ByteArray) :
    (s.write bytes).shared = s.shared := by
  unfold write
  cases s.room <;> rfl

theorem fits_of_room_eq_none (h : s.room = none) (n : Nat) : s.fits n = true := by
  rw [fits, h]
  rfl

theorem fits_zero (s : Sink) : s.fits 0 = true := by
  rw [fits]
  cases s.room <;> simp

theorem write_empty (s : Sink) : s.write .empty = s := by
  obtain ⟨written, room, flushes, shared⟩ := s
  cases room <;> simp [write]

/-- What the sink `s` may be after shell commands have printed: itself, unless it is theirs too. -/
structure Shares (s t : Sink) : Prop where
  same : s.shared = false → t = s
  room : s.room = none → t.room = none
  shared : t.shared = s.shared

theorem Shares.refl (s : Sink) : s.Shares s := ⟨fun _ => rfl, id, rfl⟩

end Sink

/-! ## Replays -/

/-- A replay in the state `r` has come to the state `r'` by lines with these outcomes, and to the
frame `g`. -/
structure Replay.Follows (r : Replay) (outcomes : List Outcome) (g : Frame) (r' : Replay) :
    Prop where
  frame : r'.frame.Alike g
  written : r'.sink.written = r.sink.written ++ Outcome.allPrinted outcomes
  status : r'.status = Outcome.lastStatus r.status outcomes
  sink : r'.sink.Open

namespace Replay

/-- A replay in the state `r` has come to the state `r'` by a line with this outcome, and to the
frame `g`. There was room for what is printed for the line. -/
structure Prints (r : Replay) (outcome : Outcome) (g : Frame) (r' : Replay) : Prop where
  frame : r'.frame.Alike g
  status : r'.status = outcome.status?.getD r.status
  sink : ∃ before flushes, r.sink.Shares before ∧ before.fits outcome.printed.size = true ∧
    r'.sink = { before.write outcome.printed with flushes }

/-- A replay in the state `r` has ended in the state `r'`, and with the frame `g`, because there was
no room for what is printed for a line with this outcome. -/
structure Overruns (r : Replay) (outcome : Outcome) (g : Frame) (fault : Fault) (r' : Replay) :
    Prop where
  frame : r'.frame.Alike g
  fault_eq : fault = .transfer "output limit"
  sink : ∃ before, r.sink.Shares before ∧ before.fits outcome.printed.size = false ∧
    r'.sink = before.write outcome.printed

variable {r : Replay} {f : Frame}

theorem Prints.of_quiet {outcome : Outcome} {g : Frame} {r' : Replay} (hframe : r'.frame.Alike g)
    (hstatus : r'.status = outcome.status?.getD r.status) (hprinted : outcome.printed = .empty)
    (hsink : r.sink.Shares r'.sink) : r.Prints outcome g r' where
  frame := hframe
  status := hstatus
  sink := ⟨r'.sink, r'.sink.flushes, hsink, by rw [hprinted]; exact r'.sink.fits_zero,
    by rw [hprinted, Sink.write_empty]⟩

theorem report_iff {source : LogSource} {level : LogLevel} {text : String}
    {good : Unit → Replay → Prop} {bad : Fault → Replay → Prop} :
    Ends (report source level text : Step Unit) r good bad ↔
      good () { r with frame := r.frame.report { level, source, text } } := Iff.rfl

theorem write_iff {bytes : ByteArray} {good : Unit → Replay → Prop} {bad : Fault → Replay → Prop} :
    Ends (write bytes) r good bad ↔
      if r.sink.fits bytes.size then good () { r with sink := r.sink.write bytes }
      else bad (.transfer "output limit") { r with sink := r.sink.write bytes } := by
  unfold write
  simp only [Ends.bind_iff, Ends.get_iff, Ends.modify_iff]
  cases r.sink.fits bytes.size <;> rfl

theorem writePrinted_ends (r : Replay) :
    Ends writePrinted r
      (fun _ r' => r'.frame.Alike r.frame ∧ r'.status = r.status ∧ r.sink.Shares r'.sink)
      fun _ _ => False := by
  unfold writePrinted
  rw [Ends.bind_iff, Ends.get_iff]
  dsimp only
  split
  · next hshared =>
    refine ⟨⟨rfl, rfl⟩, rfl, fun hnot => ?_, fun hroom => ?_, r.sink.shared_write _⟩
    · cases hshared.symm.trans hnot
    · rw [Sink.room_write, hroom]
      rfl
  · exact ⟨.refl _, rfl, .refl _⟩

/-- A statement is carried out, however much has been noted before. -/
theorem dispatch_prints (hf : r.frame.Alike f) (s : Statement) :
    Ends (dispatch Builtin.registry s) r
      (fun _ => r.Prints (.answered (f.run (Builtin.registry.execute s)).1)
        (f.run (Builtin.registry.execute s)).2)
      (r.Overruns (.answered (f.run (Builtin.registry.execute s)).1)
        (f.run (Builtin.registry.execute s)).2) := by
  unfold dispatch
  simp only [Ends.bind_iff, report_iff, Ends.get_iff, Ends.modify_iff]
  generalize hentry : LogEntry.mk _ _ _ = entry
  obtain ⟨hresult, halike⟩ := s.blind_execute (r.frame.report entry) f ⟨hf.session, hf.host⟩
  generalize (r.frame.report entry).run (Builtin.registry.execute s) = x at hresult halike ⊢
  generalize f.run (Builtin.registry.execute s) = y at hresult halike ⊢
  obtain ⟨result, g⟩ := x
  obtain ⟨_, g'⟩ := y
  cases hresult
  refine (writePrinted_ends { r with frame := g }).mono ?_ fun _ _ h => h.elim
  rintro _ mid ⟨hframe, hstatus, hsink⟩
  have hmid : mid.frame.Alike g' := hframe.trans halike
  cases result with
  | ok out =>
    rw [Ends.bind_iff, write_iff]
    split
    · next hfits => exact ⟨hmid, rfl, mid.sink, _, hsink, hfits, rfl⟩
    · next hfits => exact ⟨hmid, rfl, mid.sink, hsink, Bool.eq_false_iff.mpr hfits, rfl⟩
  | error fault => exact .of_quiet ⟨hmid.session, hmid.host⟩ rfl rfl hsink

theorem line_prints (hf : r.frame.Alike f) (line : List UInt8) :
    Ends (Replay.line Builtin.registry line) r
      (fun _ => r.Prints (f.enter Builtin.registry line).1 (f.enter Builtin.registry line).2)
      (r.Overruns (f.enter Builtin.registry line).1 (f.enter Builtin.registry line).2) := by
  unfold Replay.line Frame.enter
  rw [Ends.bind_iff, Ends.get_iff, hf.session]
  dsimp only
  cases Script.readLine Builtin.registry.grammar f.session.maxArgs line with
  | error fault => exact .of_quiet ⟨hf.session, hf.host⟩ rfl rfl (.refl _)
  | ok found =>
    cases found with
    | statement s => exact dispatch_prints hf s
    | blank | endOfInput => exact .of_quiet hf rfl rfl (.refl _)

theorem line_ends (hsink : r.sink.Open) (hf : r.frame.Alike f) (line : List UInt8) :
    Ends (Replay.line Builtin.registry line) r
      (fun _ r' => r.Follows [(f.enter Builtin.registry line).1]
        (f.enter Builtin.registry line).2 r')
      fun _ _ => False := by
  refine (line_prints hf line).mono (fun _ r' h => ?_) fun _ _ h => ?_
  · obtain ⟨before, flushes, hbefore, -, heq⟩ := h.sink
    cases hbefore.same hsink.shared
    refine ⟨h.frame, ?_, h.status, ?_, ?_⟩
    · rw [heq]
      simp [Sink.written_write, hsink.room, Outcome.allPrinted]
    · simp [heq, hsink.room]
    · simp [heq, hsink.shared]
  · obtain ⟨before, hbefore, hfits, -⟩ := h.sink
    cases hbefore.same hsink.shared
    cases hfits.symm.trans (Sink.fits_of_room_eq_none hsink.room _)

/-- A line without a statement changes nothing but the log. -/
theorem line_of_no_statement (r : Replay) (line : List UInt8)
    (h : ∀ s, Script.readLine Builtin.registry.grammar r.frame.session.maxArgs line ≠
      .ok (.statement s)) :
    ∃ notices, Replay.line Builtin.registry line r =
      .ok () { r with frame.notices := notices } := by
  have hends : Ends (Replay.line Builtin.registry line) r
      (fun _ t => ∃ notices, t = { r with frame.notices := notices }) fun _ _ => False := by
    unfold Replay.line
    rw [Ends.bind_iff, Ends.get_iff]
    dsimp only
    cases hfound : Script.readLine Builtin.registry.grammar r.frame.session.maxArgs line with
    | error fault => exact ⟨_, rfl⟩
    | ok found =>
      cases found with
      | statement s => exact absurd hfound (h s)
      | blank | endOfInput => exact ⟨r.frame.notices, rfl⟩
  obtain ⟨_, _, heq, notices, rfl⟩ := hends.exists_ok
  exact ⟨notices, heq⟩

theorem Follows.nil (hsink : r.sink.Open) (hf : r.frame.Alike f) : r.Follows [] f r where
  frame := hf
  written := (ByteArray.append_empty).symm
  status := rfl
  sink := hsink

theorem Follows.cons {r' r'' : Replay} {outcome : Outcome} {outcomes : List Outcome} {g h : Frame}
    (hfirst : r.Follows [outcome] g r') (hrest : r'.Follows outcomes h r'') :
    r.Follows (outcome :: outcomes) h r'' where
  frame := hrest.frame
  written := by
    rw [hrest.written, hfirst.written, ByteArray.append_assoc]
    simp [Outcome.allPrinted]
  status := by
    rw [hrest.status, hfirst.status]
    rfl
  sink := hrest.sink

/-- Lines are entered one after the other. -/
theorem lines_ends (hsink : r.sink.Open) (hf : r.frame.Alike f) (lines : List (List UInt8)) :
    Ends (lines.forM (Replay.line Builtin.registry)) r
      (fun _ r' => r.Follows (f.enterAll Builtin.registry lines).1
        (f.enterAll Builtin.registry lines).2 r')
      fun _ _ => False := by
  induction lines generalizing r f with
  | nil => exact .nil hsink hf
  | cons line lines ih =>
    refine Ends.bind_iff.mpr ((line_ends hsink hf line).mono (fun _ r' hfirst => ?_) fun _ _ h => h)
    exact (ih hfirst.sink hfirst.frame).mono (fun _ _ hrest => hfirst.cons hrest) fun _ _ h => h

end Replay

/-- What a replay of bytes leads to when nothing goes wrong in reading them or in writing. -/
def Frame.plays (f : Frame) (bytes : List UInt8) : Except Fault Int × Frame × Sink :=
  f.replay Builtin.registry { bytes } {}

namespace Frame

/-- What comes of the lines of a script is written, and the last status returned. -/
theorem plays_eq {f g : Frame} (h : f.Alike g) (bytes : List UInt8) :
    (f.plays bytes).1 =
        .ok (Outcome.lastStatus 0 (g.enterAll Builtin.registry (Script.lines { bytes })).1) ∧
      (f.plays bytes).2.1.Alike (g.enterAll Builtin.registry (Script.lines { bytes })).2 ∧
      (f.plays bytes).2.2.written =
        Outcome.allPrinted (g.enterAll Builtin.registry (Script.lines { bytes })).1 := by
  have hends : Ends (Replay.script Builtin.registry { bytes }) { frame := f, sink := {} }
      (fun status r => status =
          Outcome.lastStatus 0 (g.enterAll Builtin.registry (Script.lines { bytes })).1 ∧
        r.frame.Alike (g.enterAll Builtin.registry (Script.lines { bytes })).2 ∧
        r.sink.written =
          Outcome.allPrinted (g.enterAll Builtin.registry (Script.lines { bytes })).1)
      fun _ _ => False := by
    refine Ends.bind_iff.mpr ((Replay.lines_ends ⟨rfl, rfl⟩ h _).mono ?_ fun _ _ h => h)
    intro _ r hr
    refine ⟨hr.status, ⟨hr.frame.session, hr.frame.host⟩, ?_⟩
    rw [← ByteArray.empty_append (b := Outcome.allPrinted _)]
    exact hr.written
  obtain ⟨status, r, heq, hstatus, hr⟩ := hends.exists_ok
  unfold Frame.plays Frame.replay Frame.carryOut
  rw [heq]
  exact ⟨congrArg Except.ok hstatus, hr⟩

/-- There is a statement on one of the lines of a script. -/
def Dispatches (f : Frame) (bytes : List UInt8) : Prop :=
  ∃ line ∈ Script.lines { bytes }, ∃ s,
    Script.readLine Builtin.registry.grammar f.session.maxArgs line = .ok (.statement s)

/-- A replay of the whole does what a replay of the first part and then one of the second do. -/
structure PlaysInParts (f : Frame) (first second : List UInt8) : Prop where
  session : (f.plays (first ++ second)).2.1.session =
    ((f.plays first).2.1.plays second).2.1.session
  host : (f.plays (first ++ second)).2.1.host = ((f.plays first).2.1.plays second).2.1.host
  written : (f.plays (first ++ second)).2.2.written =
    (f.plays first).2.2.written ++ ((f.plays first).2.1.plays second).2.2.written
  status : ∃ one two : Int, (f.plays first).1 = .ok one ∧
    ((f.plays first).2.1.plays second).1 = .ok two ∧
    ((f.plays first).2.1.Dispatches second → (f.plays (first ++ second)).1 = .ok two) ∧
    (¬ (f.plays first).2.1.Dispatches second → (f.plays (first ++ second)).1 = .ok one)

/-- **A script can be replayed in two parts**, cut after any of its lines. The status is that of the
second part if there is a statement in it, and else that of the first. A line without a statement
changes nothing but the log. -/
theorem plays_append (f : Frame) {first : List UInt8} (second : List UInt8)
    (hcut : first = [] ∨ first.getLast? = some Script.lineFeed) :
    f.PlaysInParts first second ∧
    ∀ (r : Replay) (line : List UInt8),
      (∀ s, Script.readLine Builtin.registry.grammar r.frame.session.maxArgs line ≠
        .ok (.statement s)) →
      ∃ notices, Replay.line Builtin.registry line r =
        .ok () { r with frame.notices := notices } := by
  obtain ⟨hone, halike, hprinted⟩ := plays_eq (.refl f) first
  obtain ⟨htwo, halike', hprinted'⟩ := plays_eq halike second
  obtain ⟨hwhole, halike'', hprinted''⟩ := plays_eq (.refl f) (first ++ second)
  rw [Script.lines_append hcut, enterAll_append] at hwhole halike'' hprinted''
  have hend := halike''.trans halike'.symm
  have hdispatches := exists_status_enterAll (f.plays first).2.1 (Script.lines ⟨second, none⟩)
  rw [(halike.enterAll _).1] at hdispatches
  refine ⟨⟨hend.session, hend.host, ?_, _, _, hone, htwo, fun h => ?_, fun h => ?_⟩,
    Replay.line_of_no_statement⟩
  · rw [hprinted'', Outcome.allPrinted_append, hprinted, hprinted']
  · rw [hwhole, Outcome.lastStatus_append, Outcome.lastStatus_of_exists (hdispatches.mpr h) _ 0]
  · rw [hwhole, Outcome.lastStatus_append, Outcome.lastStatus_of_forall]
    intro outcome houtcome
    by_contra hstatus
    exact h (hdispatches.mp ⟨outcome, houtcome, hstatus⟩)

/-! ## A script that is cut before a broken line -/

/-- Lines that end with a line feed, one of them blank. -/
def firstLines : List UInt8 := Content.bytes "close 0\n\t\nclose 0\n".toUTF8

/-- A line that is not UTF-8, and one without a line feed. -/
def brokenLines : List UInt8 := 0xff :: Script.lineFeed :: Content.bytes "create /b 644".toUTF8

theorem firstLines_end : firstLines.getLast? = some Script.lineFeed := by decide

theorem crowded_playsInParts :
    (firstLines = [] ∨ firstLines.getLast? = some Script.lineFeed) ∧
      crowded.PlaysInParts firstLines brokenLines :=
  ⟨.inr firstLines_end, (crowded.plays_append brokenLines (.inr firstLines_end)).1⟩

end Frame

end FileScript
