import FileScript.Proofs.Lines
import FileScript.Proofs.RequestForms

/-!
# What becomes of a line

A line of a script is blank, or it is no statement, or the statement on it is carried out or fails
(`Outcome`). Which of these it was tells whether the store was asked for anything
(`Frame.outcome_tells_requests`): a statement that is turned away was read and judged before the
first request, and one that is not makes one request or two.
-/

namespace FileScript

/-- What becomes of a line of a script. -/
inductive Outcome where
  | blank
  /-- The line is no statement. -/
  | unread (fault : Fault)
  /-- The statement on the line was carried out, or it failed. -/
  | answered (result : Except Fault Output)

/-- The fault that a line ends with. -/
def Outcome.fault? : Outcome → Option Fault
  | unread fault | answered (.error fault) => some fault
  | blank | answered (.ok _) => none

/-- What becomes of a line that is entered in a session, and the frame after it. -/
def Frame.enter (f : Frame) (registry : Registry) (line : List UInt8) : Outcome × Frame :=
  match Script.readLine registry.grammar f.session.maxArgs line with
  | .error fault => (.unread fault, f)
  | .ok (.statement s) =>
    (.answered (f.run (registry.execute s)).1, (f.run (registry.execute s)).2)
  | .ok _ => (.blank, f)

/-! ## Requests are counted -/

namespace Session

/-- The session `y` comes from `x` by a request to the store or two, under the same settings. -/
structure Asked (x y : Session) : Prop where
  lt : x.volume.requests < y.volume.requests
  le : y.volume.requests ≤ x.volume.requests + 2
  maxArgs : y.maxArgs = x.maxArgs

theorem Asked.once {x y : Session} (h : y.volume.requests = x.volume.requests + 1)
    (hmaxArgs : y.maxArgs = x.maxArgs) : x.Asked y := ⟨by omega, by omega, hmaxArgs⟩

theorem Asked.twice {x y : Session} (h : y.volume.requests = x.volume.requests + 2)
    (hmaxArgs : y.maxArgs = x.maxArgs) : x.Asked y := ⟨by omega, by omega, hmaxArgs⟩

/-- The session in which a statement has failed: nothing was asked of the store if the statement was
turned away. -/
inductive Failed (x : Session) : Fault → Session → Prop
  | rejected {fault : Fault} (h : fault.rejects = true) : Failed x fault x
  | refused (e : Errno) {y : Session} (h : x.Asked y) : Failed x (.refused e) y
  | full (capacity : Nat) {y : Session} (h : x.Asked y) : Failed x (.tableFull capacity) y

theorem Failed.maxArgs {x y : Session} {fault : Fault} (h : x.Failed fault y) :
    y.maxArgs = x.maxArgs := by
  cases h with
  | rejected => rfl
  | refused _ h | full _ h => exact h.maxArgs

end Session

namespace Action

variable {α : Type} {x s : Session} {good : α → Session → Prop} {bad : Fault → Session → Prop}

/-- Where a request leads if all that counts is that it was made. -/
theorem leads_request_of_asked {op : Timespec → Store.Update α}
    (hasked : ∀ store, x.Asked (s.replied store)) (hgood : ∀ a store, good a (s.replied store)) :
    Leads (request op) s good x.Failed := by
  refine leads_request ?_
  unfold Ends
  split
  · exact hgood _ _
  · exact .refused _ (hasked _)

theorem leads_requestClose_of_replied {op : Store.Update Unit}
    {good : Except Errno Unit → Session → Prop}
    (h : ∀ result store, good result (s.replied store)) :
    Leads (settle (·.requestClose op)) s good bad := by
  refine leads_requestClose (fun _ => h _ _) fun _ => ?_
  unfold Ends
  split <;> exact h _ _

end Action

namespace Request

open FileScript.Action

variable {act : Action Output}

/-- No more is looked at than whether there is a handle before the first request is made, and there
are two requests at most. -/
theorem Form.leads (h : Form act) (x : Session) : Leads act x (fun _ y => x.Asked y) x.Failed := by
  have once (store : Store) : x.Asked (x.replied store) := .once rfl rfl
  have twice (store store' : Store) : x.Asked ((x.replied store).replied store') := .twice rfl rfl
  cases h with
  | asking source label op out =>
    refine leads_bind (leads_traced (leads_request_of_asked once fun a store => ?_))
    exact leads_pure (once store)
  | askingFile fd label op =>
    refine leads_bind (leads_fileAt (fun handle _ => ?_) (.rejected rfl))
    refine leads_bind (leads_traced (leads_request_of_asked once fun a store => ?_))
    exact leads_pure (once store)
  | fetching label op out =>
    refine leads_bind (leads_bind (leads_report (leads_bind (leads_reportStatus
      (leads_request_of_asked once fun a store => ?_)))))
    dsimp only
    split
    · exact leads_pure (leads_pure (once store))
    · refine leads_bind (leads_reportStatus
        (leads_request_of_asked (twice store) fun b store' => ?_))
      exact leads_pure (leads_pure (twice store store'))
  | openingFile label op =>
    refine leads_bind (leads_traced (leads_request_of_asked once fun handle store => ?_))
    refine leads_bind (leads_installFile (fun fd files _ => ?_) fun _ => ?_)
    · exact leads_pure (.once rfl rfl)
    · exact leads_requestClose_of_replied fun _ store' => .full _ (twice store store')
  | openingDir label op =>
    refine leads_bind (leads_traced (leads_request_of_asked once fun handle store => ?_))
    refine leads_bind (leads_installDir (fun fd dirs _ => ?_) fun _ => ?_)
    · exact leads_pure (.once rfl rfl)
    · exact leads_requestClose_of_replied fun _ store' => .full _ (twice store store')
  | closingFile label fd =>
    refine leads_bind (leads_traced (leads_closeFile (fun handle _ => ?_) (.rejected rfl)))
    refine leads_requestClose_of_replied fun result store => ?_
    cases result with
    | ok => exact leads_pure (.once rfl rfl)
    | error e => exact .refused e (.once rfl rfl)
  | closingDir label fd =>
    refine leads_bind (leads_traced (leads_closeDir (fun handle _ => ?_) (.rejected rfl)))
    refine leads_requestClose_of_replied fun result store => ?_
    cases result with
    | ok => exact leads_pure (.once rfl rfl)
    | error e => exact .refused e (.once rfl rfl)
  | moving label fd offset op moved out =>
    refine leads_bind (leads_fileAt (fun handle _ => leads_traced ?_) (.rejected rfl))
    refine leads_bind (leads_request_of_asked once fun handle store => ?_)
    refine leads_bind (leads_putFile (leads_bind (leads_request_of_asked ?_ fun a store' => ?_)))
    · exact fun store' => .twice rfl rfl
    · exact leads_bind (leads_putFile (leads_pure (.twice rfl rfl)))
  | listing label fd op moved out =>
    refine leads_bind (leads_dirAt (fun handle _ => leads_traced ?_) (.rejected rfl))
    refine leads_bind (leads_request_of_asked once fun a store => ?_)
    exact leads_bind (leads_putDir (leads_pure (.once rfl rfl)))

/-- Where shell statements are switched off, they are turned away. -/
theorem runShell_leads {x : Session} (h : x.allowShell = false) (command : String) :
    Leads (runShell command) x (fun _ y => x.Asked y) x.Failed := by
  unfold runShell
  refine leads_bind (leads_session ?_)
  rw [h]
  exact leads_bind (leads_throw (.rejected rfl))

/-- A request is turned away, or it makes a request to the store or two. -/
theorem perform_asks {x : Session} {r : Request}
    (hshell : x.allowShell = true → ∀ command, r ≠ shell command) :
    Leads r.perform x (fun _ y => x.Asked y) x.Failed := by
  rcases r.perform_cases with ⟨command, rfl⟩ | hform
  · refine runShell_leads (Bool.eq_false_iff.mpr fun hallow => ?_) command
    exact hshell hallow command rfl
  · exact hform.leads x

/-- No request changes how many arguments a statement may have. -/
theorem perform_keeps_maxArgs (r : Request) (x : Session) :
    Leads r.perform x (fun _ y => y.maxArgs = x.maxArgs) fun _ y => y.maxArgs = x.maxArgs := by
  rcases r.perform_cases with ⟨command, rfl⟩ | hform
  · refine (leads_runShell command).mono ?_ ?_
    · rintro _ _ rfl
      rfl
    · rintro _ _ ⟨-, rfl⟩
      rfl
  · exact (hform.leads x).mono (fun _ _ h => h.maxArgs) fun _ _ h => h.maxArgs

end Request

theorem Statement.execute_asks {x : Session} {s : Statement}
    (hshell : x.allowShell = true → s.command ≠ Builtin.shell.synopsis.name) :
    Action.Leads (Builtin.registry.execute s) x (fun _ y => x.Asked y) x.Failed := by
  rcases s.execute_cases with ⟨r, ⟨b, hname, hr⟩, heq⟩ | ⟨fault, hrejects, heq⟩
  · rw [heq]
    refine Request.perform_asks fun hallow command hr' => hshell hallow ?_
    rw [← hname, ← Request.builtin_of_ofArgs hr, hr']
    rfl
  · rw [heq]
    exact Action.leads_throw (.rejected hrejects)

/-! ## Lines -/

theorem Script.rejects_of_readLine {grammar : Grammar} {maxArgs : Nat} {line : List UInt8}
    {fault : Fault} (h : readLine grammar maxArgs line = .error fault) : fault.rejects = true := by
  unfold readLine at h
  split at h
  · cases h
    rfl
  · next text _ =>
    rcases bind_eq_error_iff.mp h with h | ⟨found, -, h⟩
    · cases hwords : Statement.words (Statement.trimLineEnd text) with
      | nil => cases h.symm.trans (Statement.parse_eq_none hwords)
      | cons command args =>
        rcases Statement.parse_spec hwords grammar maxArgs with ⟨-, herror⟩ | ⟨-, taken, hok, -⟩
        · cases h.symm.trans herror
          rfl
        · cases h.symm.trans hok
    · cases found <;> cases h

/-- Whether a fault says what came of a request to the store. -/
def Fault.ofStore : Fault → Bool
  | refused _ | tableFull _ => true
  | _ => false

theorem Fault.ofStore_of_rejects {fault : Fault} (h : fault.rejects = true) :
    fault.ofStore = false := by
  cases fault with
  | refused | tableFull => cases h
  | _ => rfl

namespace Session

/-- What became of a line that was entered in the session `x`, and the session after it. -/
inductive Yields (x : Session) : Outcome → Session → Prop
  | blank : Yields x .blank x
  | unread {fault : Fault} (h : fault.rejects = true) : Yields x (.unread fault) x
  | done (out : Output) {y : Session} (h : x.Asked y) : Yields x (.answered (.ok out)) y
  | failed {fault : Fault} {y : Session} (h : x.Failed fault y) :
      Yields x (.answered (.error fault)) y

end Session

theorem Frame.yields_enter {f : Frame} {line : List UInt8}
    (hshell : f.session.allowShell = true → ∀ s,
      Script.readLine Builtin.registry.grammar f.session.maxArgs line = .ok (.statement s) →
        s.command ≠ Builtin.shell.synopsis.name) :
    f.session.Yields (f.enter Builtin.registry line).1
      (f.enter Builtin.registry line).2.session := by
  unfold enter
  split
  · next fault herror => exact .unread (Script.rejects_of_readLine herror)
  · next s hs =>
    have hrun := (Statement.execute_asks fun hallow => hshell hallow s hs).run
    split at hrun
    · next out g heq =>
      rw [heq]
      exact .done out hrun
    · next fault g heq =>
      rw [heq]
      exact .failed hrun
  · exact .blank

/-- **What becomes of a line tells whether the store was asked for anything.** If the line is blank
or turned away, the session is as it was. If the statement on it was carried out, or the store
refused it, or there was no descriptor for what it had opened, then one request was made or two. A
line ends in no other way, unless it runs a shell command. -/
theorem Frame.outcome_tells_requests (f : Frame) (line : List UInt8)
    (hshell : f.session.allowShell = true → ∀ s,
      Script.readLine Builtin.registry.grammar f.session.maxArgs line = .ok (.statement s) →
        s.command ≠ Builtin.shell.synopsis.name) :
    let outcome := (f.enter Builtin.registry line).1
    let x := f.session
    let y := (f.enter Builtin.registry line).2.session
    ((outcome = .blank ∨ ∃ fault, outcome.fault? = some fault ∧ fault.rejects = true) → y = x) ∧
    ((∃ out, outcome = .answered (.ok out)) ∨
        (∃ fault, outcome.fault? = some fault ∧ fault.ofStore = true) →
      x.volume.requests + 1 ≤ y.volume.requests ∧ y.volume.requests ≤ x.volume.requests + 2) ∧
    ∀ fault, outcome.fault? = some fault → fault.rejects = true ∨ fault.ofStore = true := by
  have hyields := yields_enter hshell
  dsimp only
  generalize (f.enter Builtin.registry line).1 = outcome at hyields ⊢
  generalize (f.enter Builtin.registry line).2.session = y at hyields ⊢
  cases hyields with
  | blank => simp [Outcome.fault?]
  | unread h => simp [Outcome.fault?, h, Fault.ofStore_of_rejects h]
  | done out h => simp [Outcome.fault?, h.lt, h.le]
  | failed h =>
    cases h with
    | rejected h => simp [Outcome.fault?, h, Fault.ofStore_of_rejects h]
    | refused e h => simp [Outcome.fault?, Fault.rejects, Fault.ofStore, h.lt, h.le]
    | full n h => simp [Outcome.fault?, Fault.rejects, Fault.ofStore, h.lt, h.le]

/-- No statement changes how many arguments a statement may have. -/
theorem Frame.maxArgs_execute (f : Frame) (s : Statement) :
    (f.run (Builtin.registry.execute s)).2.session.maxArgs = f.session.maxArgs := by
  rcases s.execute_cases with ⟨r, -, heq⟩ | ⟨fault, -, heq⟩
  · have hrun := (r.perform_keeps_maxArgs f.session).run
    rw [heq]
    split at hrun <;> next hresult => rw [hresult]; exact hrun
  · rw [heq]
    rfl

theorem Frame.maxArgs_enter (f : Frame) (line : List UInt8) :
    (f.enter Builtin.registry line).2.session.maxArgs = f.session.maxArgs := by
  unfold enter
  split
  · rfl
  · exact f.maxArgs_execute _
  · rfl

/-! ## A session without a free descriptor -/

/-- A line on which another file is to be made. -/
def createAnotherLine : List UInt8 := Content.bytes "create /b 644\n".toUTF8

theorem readLine_createAnotherLine :
    Script.readLine Builtin.registry.grammar 10 createAnotherLine =
      .ok (.statement createAnother) := by
  have hgrammar : Builtin.registry.grammar "create" = none := Builtin.create.grammar_registry
  refine Script.readLine_of_parse (Statement.parse_of_length_le ?_ ?_ ?_)
  · cbv
  · rw [hgrammar]
    rintro _ ⟨⟩
  · decide

set_option maxRecDepth 4000 in
/-- A file is made and closed again because no descriptor is free: these are two requests. -/
theorem Frame.createAnother_tells_requests :
    let f : Frame := { crowded with session.allowShell := true }
    (f.session.allowShell = true → ∀ s,
      Script.readLine Builtin.registry.grammar f.session.maxArgs createAnotherLine =
        .ok (.statement s) → s.command ≠ Builtin.shell.synopsis.name) ∧
    (f.enter Builtin.registry createAnotherLine).1.fault? = some (.tableFull 1) ∧
    f.session.volume.requests + 1 ≤
      (f.enter Builtin.registry createAnotherLine).2.session.volume.requests ∧
    (f.enter Builtin.registry createAnotherLine).2.session.volume.requests ≤
      f.session.volume.requests + 2 := by
  intro f
  have hmaxArgs : f.session.maxArgs = 10 := Frame.maxArgs_execute _ _
  have hread : Script.readLine Builtin.registry.grammar f.session.maxArgs createAnotherLine =
      .ok (.statement createAnother) := by
    rw [hmaxArgs]
    exact readLine_createAnotherLine
  have hshell : ∀ s, Script.readLine Builtin.registry.grammar f.session.maxArgs createAnotherLine =
      .ok (.statement s) → s.command ≠ Builtin.shell.synopsis.name := by
    intro s hs
    cases hread.symm.trans hs
    decide
  have hfault : (f.enter Builtin.registry createAnotherLine).1.fault? = some (.tableFull 1) := by
    rw [enter, hread]
    cbv
  exact ⟨fun _ => hshell, hfault,
    (outcome_tells_requests f createAnotherLine fun _ => hshell).2.1 (.inr ⟨_, hfault, rfl⟩)⟩

end FileScript
