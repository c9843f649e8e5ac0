import FileScript.Interpreter
import FileScript.Proofs.Endings

/-!
# What actions do to a session

An action reads nothing of its frame but the session, apart from shell commands, and its log is of
no concern here. `Action.Leads` tells in which sessions an action ends; there is one rule for each
step of which actions are composed.
-/

namespace FileScript

/-- Whether a fault says that no descriptor is free. -/
def Fault.isFull : Fault → Bool
  | tableFull _ => true
  | _ => false

/-- The session after a request that has left the store as it is now. -/
def Session.replied (s : Session) (store : Store) : Session :=
  { s with volume := { s.volume with store, requests := s.volume.requests + 1 } }

/-- The time of the next request. -/
def Session.now (s : Session) : Timespec := s.volume.clock s.volume.requests

namespace Action

variable {α β : Type} {s : Session} {act : Action α} {next : α → Action β}

/-- From the session `s` on, an action ends with a result and in a session for which `good` holds,
or with a fault and in a session for which `bad` holds. -/
def Leads (act : Action α) (s : Session) (good : α → Session → Prop)
    (bad : Fault → Session → Prop) : Prop :=
  ∀ f : Frame, f.session = s →
    Ends act f (fun a g => good a g.session) fun fault g => bad fault g.session

variable {good : α → Session → Prop} {bad : Fault → Session → Prop}

theorem Leads.mono {good' : α → Session → Prop} {bad' : Fault → Session → Prop}
    (h : Leads act s good bad) (hgood : ∀ a t, good a t → good' a t)
    (hbad : ∀ fault t, bad fault t → bad' fault t) : Leads act s good' bad' :=
  fun f hf => (h f hf).mono (fun _ _ => hgood _ _) fun _ _ => hbad _ _

/-- Where an action leads tells how a frame is after it. -/
theorem Leads.run {f : Frame} (h : Leads act f.session good bad) :
    match f.run act with
    | (.ok a, g) => good a g.session
    | (.error fault, g) => bad fault g.session := by
  have hends := h f rfl
  unfold Ends at hends
  unfold Frame.run
  cases hact : act f <;> rw [hact] at hends <;> exact hends

theorem leads_pure {a : α} (h : good a s) : Leads (pure a) s good bad := by
  rintro f rfl
  exact h

theorem leads_throw {fault : Fault} (h : bad fault s) : Leads (throw fault) s good bad := by
  rintro f rfl
  exact h

theorem leads_bind {good : β → Session → Prop}
    (h : Leads act s (fun a t => Leads (next a) t good bad) bad) :
    Leads (act >>= next) s good bad := fun f hf =>
  Ends.bind_iff.mpr ((h f hf).mono (fun _ g hnext => hnext g rfl) fun _ _ h => h)

theorem leads_report {source : LogSource} {level : LogLevel} {text : String}
    {good : Unit → Session → Prop} (h : good () s) :
    Leads (report source level text) s good bad := by
  rintro f rfl
  exact h

theorem leads_session {good : Session → Session → Prop} (h : good s s) :
    Leads session s good bad := by
  rintro f rfl
  exact h

theorem leads_modifySession {change : Session → Session} {good : Unit → Session → Prop}
    (h : good () (change s)) : Leads (modifySession change) s good bad := by
  rintro f rfl
  exact h

theorem leads_get_bind {next : Frame → Action β} {good : β → Session → Prop}
    (h : ∀ f, f.session = s → Leads (next f) s good bad) : Leads (get >>= next) s good bad :=
  fun f hf => Ends.bind_iff.mpr (h f hf f hf)

theorem leads_modify {change : Frame → Frame} (hchange : ∀ f, (change f).session = f.session)
    {good : Unit → Session → Prop} (h : good () s) : Leads (modify change) s good bad := by
  rintro f rfl
  exact Ends.modify_iff.mpr (by rw [hchange]; exact h)

theorem leads_ofExcept {result : Except Fault α} (hgood : ∀ a, result = .ok a → good a s)
    (hbad : ∀ fault, result = .error fault → bad fault s) :
    Leads (ofExcept result) s good bad := by
  cases result with
  | ok a => exact leads_pure (hgood a rfl)
  | error fault => exact leads_throw (hbad fault rfl)

theorem leads_attempt {good : Except Fault α → Session → Prop}
    (h : Leads act s (fun a t => good (.ok a) t) fun fault t => good (.error fault) t) :
    Leads (attempt act) s good bad := by
  intro f hf
  have hact := h f hf
  unfold attempt
  unfold Ends at hact ⊢
  cases hrun : act f <;> simp only [hrun] at hact ⊢ <;> exact hact

/-- Tracing an action does not change where it leads. -/
theorem leads_reportStatus {source : LogSource} {label : String} (h : Leads act s good bad) :
    Leads (reportStatus source label act) s good bad := by
  refine leads_bind (leads_attempt (h.mono ?_ ?_))
  · intro a t ha
    refine leads_bind (leads_report (leads_ofExcept ?_ ?_))
    · rintro _ ⟨⟩
      exact ha
    · rintro _ ⟨⟩
  · intro fault t hf
    refine leads_bind (leads_report (leads_ofExcept ?_ ?_))
    · rintro _ ⟨⟩
    · rintro _ ⟨⟩
      exact hf

theorem leads_traced {source : LogSource} {label : String} (h : Leads act s good bad) :
    Leads (traced source label act) s good bad :=
  leads_bind (leads_report (leads_reportStatus h))

/-- A shell command does not touch the session. -/
theorem leads_runShell (command : String) :
    Leads (Request.runShell command) s (fun _ t => t = s)
      fun fault t => fault.isFull = false ∧ t = s := by
  unfold Request.runShell
  -- what the command does to the host is of no concern
  generalize Shell.run = run
  refine leads_bind (leads_session ?_)
  dsimp only
  split
  case isFalse => exact leads_bind (leads_throw ⟨rfl, rfl⟩)
  refine leads_bind (leads_report ?_)
  split
  case isTrue => exact leads_bind (leads_throw ⟨rfl, rfl⟩)
  split
  case isTrue => exact leads_bind (leads_throw ⟨rfl, rfl⟩)
  refine leads_get_bind fun f _ => leads_bind (leads_modify ?_ (leads_bind (leads_report ?_)))
  · exact fun _ => rfl
  · split
    · exact leads_bind (leads_report (leads_pure rfl))
    · exact leads_pure rfl

/-! ## Requests to the store -/

theorem leads_settle {reply : Volume → Except Errno α × Volume}
    {good : Except Errno α → Session → Prop}
    (h : good (reply s.volume).1 { s with volume := (reply s.volume).2 }) :
    Leads (settle reply) s good bad := by
  unfold settle
  refine leads_bind (leads_session ?_)
  dsimp only
  split
  · exact leads_bind (leads_report (leads_bind (leads_modifySession (leads_pure h))))
  · exact leads_bind (leads_modifySession (leads_pure h))

/-- Where a request to the store leads, whether it is refused or not. -/
theorem leads_reply {op : Timespec → Store.Update α} {good : Except Errno α → Session → Prop}
    (h : Ends (op s.now) s.volume.store (fun a t => good (.ok a) (s.replied t))
      fun e t => good (.error e) (s.replied t)) :
    Leads (settle (·.request op)) s good bad := by
  refine leads_settle ?_
  unfold Ends Session.now at h
  simp only [Volume.request]
  split at h <;> next heq => rw [heq]; exact h

theorem leads_request {op : Timespec → Store.Update α}
    (h : Ends (op s.now) s.volume.store (fun a t => good a (s.replied t))
      fun e t => bad (.refused e) (s.replied t)) :
    Leads (request op) s good bad :=
  leads_bind (leads_reply (h.mono (fun _ _ h => leads_pure h) fun _ _ h => leads_throw h))

/-- A close can be made to fail, and then leaves the store as it is. -/
theorem leads_requestClose {op : Store.Update Unit} {good : Except Errno Unit → Session → Prop}
    (hfails : s.volume.failsCloseAt s.volume.requests = true →
      good (.error .inputOutput) (s.replied s.volume.store))
    (hcloses : s.volume.failsCloseAt s.volume.requests = false → Ends op s.volume.store
      (fun _ t => good (.ok ()) (s.replied t)) fun e t => good (.error e) (s.replied t)) :
    Leads (settle (·.requestClose op)) s good bad := by
  refine leads_settle ?_
  unfold Volume.requestClose
  split
  · next h => exact hfails h
  · next h =>
    have hends := hcloses (Bool.eq_false_iff.mpr h)
    unfold Ends at hends
    simp only [Volume.request]
    split at hends <;> next heq => rw [heq]; exact hends

/-! ## Descriptors -/

theorem leads_lookup {H : Type} {table : DescriptorTable H} {fd : Nat} {good : H → Session → Prop}
    (hgood : ∀ handle, table.get? fd = some handle → good handle s)
    (hbad : bad (.badDescriptor fd) s) : Leads (ofExcept (table.lookup fd)) s good bad := by
  unfold DescriptorTable.lookup
  split
  · next handle hget => exact leads_pure (hgood handle hget)
  · exact leads_throw hbad

theorem leads_fileAt {fd : Nat} {good : FileHandle → Session → Prop}
    (hgood : ∀ handle, s.files.get? fd = some handle → good handle s)
    (hbad : bad (.badDescriptor fd) s) : Leads (fileAt fd) s good bad :=
  leads_bind (leads_session (leads_lookup hgood hbad))

theorem leads_dirAt {fd : Nat} {good : DirHandle → Session → Prop}
    (hgood : ∀ handle, s.dirs.get? fd = some handle → good handle s)
    (hbad : bad (.badDescriptor fd) s) : Leads (dirAt fd) s good bad :=
  leads_bind (leads_session (leads_lookup hgood hbad))

theorem leads_putFile {fd : Nat} {handle : FileHandle} {good : Unit → Session → Prop}
    (h : good () { s with files := s.files.replace fd handle }) :
    Leads (putFile fd handle) s good bad := leads_modifySession h

theorem leads_putDir {fd : Nat} {handle : DirHandle} {good : Unit → Session → Prop}
    (h : good () { s with dirs := s.dirs.replace fd handle }) :
    Leads (putDir fd handle) s good bad := leads_modifySession h

/-- A new handle gets a descriptor, or is closed again because no descriptor is free. -/
theorem leads_installFile {handle : FileHandle} {good : Nat → Session → Prop}
    (hgood : ∀ fd files, s.files.insert? handle = some (fd, files) → good fd { s with files })
    (hfull : s.files.insert? handle = none →
      Leads (closeHandle handle) s (fun _ t => bad (.tableFull s.files.capacity) t) bad) :
    Leads (installFile handle) s good bad := by
  refine leads_bind (leads_session ?_)
  dsimp only
  split
  · next fd files h => exact leads_bind (leads_modifySession (leads_pure (hgood fd files h)))
  · next h =>
    refine leads_bind ((hfull h).mono (fun result t ht => ?_) fun _ _ h => h)
    split
    · exact leads_bind (leads_report (leads_throw ht))
    · exact leads_throw ht

theorem leads_installDir {handle : DirHandle} {good : Nat → Session → Prop}
    (hgood : ∀ fd dirs, s.dirs.insert? handle = some (fd, dirs) → good fd { s with dirs })
    (hfull : s.dirs.insert? handle = none →
      Leads (closeDirHandle handle) s (fun _ t => bad (.tableFull s.dirs.capacity) t) bad) :
    Leads (installDir handle) s good bad := by
  refine leads_bind (leads_session ?_)
  dsimp only
  split
  · next fd dirs h => exact leads_bind (leads_modifySession (leads_pure (hgood fd dirs h)))
  · next h =>
    refine leads_bind ((hfull h).mono (fun result t ht => ?_) fun _ _ h => h)
    split
    · exact leads_bind (leads_report (leads_throw ht))
    · exact leads_throw ht

/-- A descriptor is freed if its handle can be closed. -/
theorem leads_release {H : Type} {table : DescriptorTable H} {fd : Nat}
    {close : H → Action (Except Errno Unit)}
    {good : Except Fault (DescriptorTable H) → Session → Prop}
    (hclose : ∀ handle, table.get? fd = some handle → Leads (close handle) s
      (fun result t => match result with
        | .ok () => good (.ok (table.erase fd)) t
        | .error e => good (.error (.refused e)) t) bad)
    (hfree : good (.error (.badDescriptor fd)) s) : Leads (table.release fd close) s good bad := by
  unfold DescriptorTable.release DescriptorTable.lookup
  cases hget : table.get? fd with
  | none => exact leads_pure hfree
  | some handle =>
    refine leads_bind ((hclose handle hget).mono (fun result t ht => ?_) fun _ _ h => h)
    split <;> exact leads_pure ht

theorem leads_closeFile {fd : Nat} {good : Unit → Session → Prop}
    (hclose : ∀ handle, s.files.get? fd = some handle → Leads (closeHandle handle) s
      (fun result t => match result with
        | .ok () => good () { t with files := s.files.erase fd }
        | .error e => bad (.refused e) t) bad)
    (hbad : bad (.badDescriptor fd) s) : Leads (closeFile fd) s good bad := by
  refine leads_bind (leads_session (leads_bind (leads_release (fun handle hget => ?_) ?_)))
  · refine (hclose handle hget).mono (fun result t ht => ?_) fun _ _ h => h
    split
    · exact leads_bind (leads_pure (leads_modifySession ht))
    · exact leads_bind (leads_throw ht)
  · exact leads_bind (leads_throw hbad)

theorem leads_closeDir {fd : Nat} {good : Unit → Session → Prop}
    (hclose : ∀ handle, s.dirs.get? fd = some handle → Leads (closeDirHandle handle) s
      (fun result t => match result with
        | .ok () => good () { t with dirs := s.dirs.erase fd }
        | .error e => bad (.refused e) t) bad)
    (hbad : bad (.badDescriptor fd) s) : Leads (closeDir fd) s good bad := by
  refine leads_bind (leads_session (leads_bind (leads_release (fun handle hget => ?_) ?_)))
  · refine (hclose handle hget).mono (fun result t ht => ?_) fun _ _ h => h
    split
    · exact leads_bind (leads_pure (leads_modifySession ht))
    · exact leads_bind (leads_throw ht)
  · exact leads_bind (leads_throw hbad)

end Action

end FileScript
