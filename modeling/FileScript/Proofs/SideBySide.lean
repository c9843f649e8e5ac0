import FileScript.Proofs.RequestForms

/-!
# Two runs side by side

A statement does not see everything in its frame. A `Likeness` says what two frames have to have in
common so that statements cannot tell them apart. Two actions form a pair (`Likeness.Pairs`) if in
frames that are alike they end alike and leave frames that are alike. There is one rule for each
step of which actions are composed, and from these every statement forms a pair with itself
(`Statement.pairs_execute`).
-/

namespace FileScript

namespace Frame

variable {α β : Type}

theorem run_bind (f : Frame) (act : Action α) (next : α → Action β) :
    f.run (act >>= next) = match f.run act with
      | (.ok a, g) => g.run (next a)
      | (.error fault, g) => (.error fault, g) := by
  show f.run (EStateM.bind act next) = _
  unfold run EStateM.bind
  cases act f <;> rfl

theorem run_attempt (f : Frame) (act : Action α) :
    f.run act.attempt = (.ok (f.run act).1, (f.run act).2) := by
  unfold run Action.attempt
  cases act f <;> rfl

end Frame

/-- Two computations have ended with the same fault, or with results that agree. -/
inductive Agree {α β : Type} (same : α → β → Prop) : Except Fault α → Except Fault β → Prop
  | ok {a : α} {b : β} (h : same a b) : Agree same (.ok a) (.ok b)
  | error (fault : Fault) : Agree same (.error fault) (.error fault)

theorem agree_eq_iff {α : Type} {x y : Except Fault α} : Agree Eq x y ↔ x = y := by
  constructor
  · rintro (rfl | _) <;> rfl
  · rintro rfl
    cases x with
    | ok => exact .ok rfl
    | error fault => exact .error fault

/-- In what two frames are alike: their volumes, which requests do not tell apart, their tables of
files, which are not told apart by their descriptors, and their hosts. All that is seen of a handle
is the same but the offset. -/
structure Likeness where
  volumes : Volume → Volume → Prop
  files : DescriptorTable FileHandle → DescriptorTable FileHandle → Prop
  hosts : Host → Host → Prop
  store {v w : Volume} (h : volumes v w) : v.store = w.store
  request {v w : Volume} (h : volumes v w) {α : Type} (op : Timespec → Store.Update α) :
    (v.request op).1 = (w.request op).1 ∧ volumes (v.request op).2 (w.request op).2
  requestClose {v w : Volume} (h : volumes v w) (op : Store.Update Unit) :
    (v.requestClose op).1 = (w.requestClose op).1 ∧
      volumes (v.requestClose op).2 (w.requestClose op).2
  capacity {t u : DescriptorTable FileHandle} (h : files t u) : t.capacity = u.capacity
  lookup {t u : DescriptorTable FileHandle} (h : files t u) (fd : Nat) :
    Agree (fun a b => ∃ offset, b = { a with offset }) (t.lookup fd) (u.lookup fd)
  insert? {t u : DescriptorTable FileHandle} (h : files t u) (handle : FileHandle) :
    Option.Rel (fun x y => x.1 = y.1 ∧ files x.2 y.2) (t.insert? handle) (u.insert? handle)
  replace {t u : DescriptorTable FileHandle} (h : files t u) (fd : Nat) (handle : FileHandle) :
    files (t.replace fd handle) (u.replace fd handle)
  erase {t u : DescriptorTable FileHandle} (h : files t u) (fd : Nat) :
    files (t.erase fd) (u.erase fd)

namespace Likeness

/-- Two sessions are alike. -/
structure Sessions (L : Likeness) (x y : Session) : Prop where
  volume : L.volumes x.volume y.volume
  files : L.files x.files y.files
  dirs : x.dirs = y.dirs
  maxArgs : x.maxArgs = y.maxArgs
  allowShell : x.allowShell = y.allowShell

/-- Two frames are alike. What has been noted and printed does not count. -/
structure Frames (L : Likeness) (f g : Frame) : Prop where
  session : L.Sessions f.session g.session
  host : L.hosts f.host g.host

variable {L : Likeness} {α β γ δ : Type}

/-- In frames that are alike, two actions end with results that agree or with the same fault, and
leave frames that are alike. -/
def Pairs (L : Likeness) (same : α → β → Prop) (act : Action α) (act' : Action β) : Prop :=
  ∀ f g, L.Frames f g →
    Agree same (f.run act).1 (g.run act').1 ∧ L.Frames (f.run act).2 (g.run act').2

variable {same : α → β → Prop} {act : Action α} {act' : Action β}

theorem pairs_pure {a : α} {b : β} (h : same a b) : L.Pairs same (pure a) (pure b) :=
  fun _ _ hfg => ⟨.ok h, hfg⟩

theorem pairs_throw (fault : Fault) : L.Pairs same (throw fault) (throw fault) :=
  fun _ _ hfg => ⟨.error fault, hfg⟩

/-- What stands after a fault is not reached. -/
theorem pairs_throw_bind (fault : Fault) (next : γ → Action α) (next' : δ → Action β) :
    L.Pairs same (throw fault >>= next) (throw fault >>= next') :=
  fun _ _ hfg => ⟨.error fault, hfg⟩

theorem Pairs.bind {same' : γ → δ → Prop} {next : α → Action γ} {next' : β → Action δ}
    (h : L.Pairs same act act') (hnext : ∀ a b, same a b → L.Pairs same' (next a) (next' b)) :
    L.Pairs same' (act >>= next) (act' >>= next') := by
  intro f g hfg
  obtain ⟨hresult, hframes⟩ := h f g hfg
  rw [Frame.run_bind, Frame.run_bind]
  generalize f.run act = x at hresult hframes ⊢
  generalize g.run act' = y at hresult hframes ⊢
  obtain ⟨result, f'⟩ := x
  obtain ⟨result', g'⟩ := y
  dsimp only at hresult
  cases hresult with
  | ok hsame => exact hnext _ _ hsame f' g' hframes
  | error fault => exact ⟨.error fault, hframes⟩

/-- After an action that does the same in both frames, the next ones have to form pairs only for the
same result. -/
theorem Pairs.then {act act' : Action γ} {next : γ → Action α} {next' : γ → Action β}
    (h : L.Pairs Eq act act') (hnext : ∀ c, L.Pairs same (next c) (next' c)) :
    L.Pairs same (act >>= next) (act' >>= next') :=
  h.bind fun c _ heq => heq ▸ hnext c

theorem pairs_modify {change change' : Frame → Frame}
    (h : ∀ f g, L.Frames f g → L.Frames (change f) (change' g)) :
    L.Pairs Eq (modify change) (modify change') := fun f g hfg => ⟨.ok rfl, h f g hfg⟩

theorem pairs_modifySession {change change' : Session → Session}
    (h : ∀ x y, L.Sessions x y → L.Sessions (change x) (change' y)) :
    L.Pairs Eq (Action.modifySession change) (Action.modifySession change') :=
  pairs_modify fun _ _ hfg => ⟨h _ _ hfg.session, hfg.host⟩

theorem pairs_report (source : LogSource) (level : LogLevel) (text text' : String) :
    L.Pairs Eq (report source level text : Action Unit) (report source level text') :=
  pairs_modify fun _ _ hfg => ⟨hfg.session, hfg.host⟩

theorem pairs_session : L.Pairs L.Sessions Action.session Action.session :=
  fun _ _ hfg => ⟨.ok hfg.session, hfg⟩

/-- What has been noted and printed may be looked at if it makes no difference to what is done
next. -/
theorem pairs_get : L.Pairs L.Frames get get := fun _ _ hfg => ⟨.ok hfg, hfg⟩

theorem pairs_ofExcept {x : Except Fault α} {y : Except Fault β} (h : Agree same x y) :
    L.Pairs same (Action.ofExcept x) (Action.ofExcept y) := by
  cases h with
  | ok hsame => exact pairs_pure hsame
  | error fault => exact pairs_throw fault

theorem Pairs.attempt (h : L.Pairs same act act') :
    L.Pairs (Agree same) act.attempt act'.attempt := by
  intro f g hfg
  obtain ⟨hresult, hframes⟩ := h f g hfg
  rw [Frame.run_attempt, Frame.run_attempt]
  exact ⟨.ok hresult, hframes⟩

theorem Pairs.reportStatus (h : L.Pairs same act act') (source : LogSource) (label : String) :
    L.Pairs same (Action.reportStatus source label act) (Action.reportStatus source label act') :=
  h.attempt.bind fun _ _ hresult =>
    (pairs_report source .debug _ _).then fun _ => pairs_ofExcept hresult

theorem Pairs.traced (h : L.Pairs same act act') (source : LogSource) (label : String) :
    L.Pairs same (Action.traced source label act) (Action.traced source label act') :=
  (pairs_report source .debug label label).then fun _ => h.reportStatus source label

/-! ## Requests to the store -/

theorem pairs_settle {reply reply' : Volume → Except Errno α × Volume}
    (h : ∀ v w, L.volumes v w →
      (reply v).1 = (reply' w).1 ∧ L.volumes (reply v).2 (reply' w).2) :
    L.Pairs Eq (Action.settle reply) (Action.settle reply') := by
  refine pairs_session.bind fun x y hxy => ?_
  obtain ⟨hresult, hvolume⟩ := h _ _ hxy.volume
  have hmodify : L.Pairs Eq
      (Action.modifySession fun s => { s with volume := (reply x.volume).2 })
      (Action.modifySession fun s => { s with volume := (reply' y.volume).2 }) :=
    pairs_modifySession fun _ _ h => ⟨hvolume, h.files, h.dirs, h.maxArgs, h.allowShell⟩
  dsimp only
  rw [L.store hxy.volume, L.store hvolume]
  cases Volume.dropLog y.volume.store (reply' y.volume).2.store with
  | none => exact hmodify.then fun _ => pairs_pure hresult
  | some entry =>
    exact (pairs_report entry.source entry.level entry.text entry.text).then fun _ =>
      hmodify.then fun _ => pairs_pure hresult

theorem pairs_request (op : Timespec → Store.Update α) :
    L.Pairs Eq (Action.request op) (Action.request op) :=
  (pairs_settle fun _ _ h => L.request h op).then fun _ => pairs_ofExcept (agree_eq_iff.mpr rfl)

theorem pairs_closeHandle {a b : FileHandle} (h : ∃ offset, b = { a with offset }) :
    L.Pairs Eq (Action.closeHandle a) (Action.closeHandle b) := by
  obtain ⟨offset, rfl⟩ := h
  exact pairs_settle fun _ _ h => L.requestClose h (Store.close a)

theorem pairs_closeDirHandle (handle : DirHandle) :
    L.Pairs Eq (Action.closeDirHandle handle) (Action.closeDirHandle handle) :=
  pairs_settle fun _ _ h => L.requestClose h (Store.closeDir handle)

/-! ## Descriptors -/

theorem pairs_fileAt (fd : Nat) :
    L.Pairs (fun a b => ∃ offset, b = { a with offset }) (Action.fileAt fd) (Action.fileAt fd) :=
  pairs_session.bind fun _ _ hxy => pairs_ofExcept (L.lookup hxy.files fd)

theorem pairs_dirAt (fd : Nat) : L.Pairs Eq (Action.dirAt fd) (Action.dirAt fd) :=
  pairs_session.bind fun x y hxy => pairs_ofExcept (agree_eq_iff.mpr (by rw [hxy.dirs]))

theorem pairs_putFile (fd : Nat) (handle : FileHandle) :
    L.Pairs Eq (Action.putFile fd handle) (Action.putFile fd handle) :=
  pairs_modifySession fun _ _ h =>
    ⟨h.volume, L.replace h.files fd handle, h.dirs, h.maxArgs, h.allowShell⟩

theorem pairs_putDir (fd : Nat) (handle : DirHandle) :
    L.Pairs Eq (Action.putDir fd handle) (Action.putDir fd handle) :=
  pairs_modifySession fun x y h =>
    ⟨h.volume, h.files, by rw [h.dirs], h.maxArgs, h.allowShell⟩

theorem pairs_installFile (handle : FileHandle) :
    L.Pairs Eq (Action.installFile handle) (Action.installFile handle) := by
  refine pairs_session.bind fun x y hxy => ?_
  have hinsert := L.insert? hxy.files handle
  dsimp only
  rw [L.capacity hxy.files]
  generalize x.files.insert? handle = first at hinsert ⊢
  generalize y.files.insert? handle = second at hinsert ⊢
  cases hinsert with
  | none =>
    refine (pairs_closeHandle ⟨_, rfl⟩).then fun result => ?_
    cases result with
    | ok => exact pairs_throw _
    | error e => exact (pairs_report _ _ _ _).then fun _ => pairs_throw _
  | some h =>
    refine (pairs_modifySession fun _ _ h' => ?_).then fun _ => pairs_pure h.1
    exact ⟨h'.volume, h.2, h'.dirs, h'.maxArgs, h'.allowShell⟩

theorem pairs_installDir (handle : DirHandle) :
    L.Pairs Eq (Action.installDir handle) (Action.installDir handle) := by
  refine pairs_session.bind fun x y hxy => ?_
  dsimp only
  rw [hxy.dirs]
  cases y.dirs.insert? handle with
  | none =>
    refine (pairs_closeDirHandle handle).then fun result => ?_
    cases result with
    | ok => exact pairs_throw _
    | error e => exact (pairs_report _ _ _ _).then fun _ => pairs_throw _
  | some found =>
    refine (pairs_modifySession fun _ _ h => ?_).then fun _ => pairs_pure rfl
    exact ⟨h.volume, h.files, rfl, h.maxArgs, h.allowShell⟩

theorem pairs_release {H : Type} {same : H → H → Prop}
    {tables : DescriptorTable H → DescriptorTable H → Prop} {t u : DescriptorTable H} {fd : Nat}
    {close : H → Action (Except Errno Unit)} (hlookup : Agree same (t.lookup fd) (u.lookup fd))
    (hclose : ∀ a b, same a b → L.Pairs Eq (close a) (close b))
    (herase : tables (t.erase fd) (u.erase fd)) :
    L.Pairs (Agree tables) (t.release fd close) (u.release fd close) := by
  unfold DescriptorTable.release
  generalize t.lookup fd = a at hlookup ⊢
  generalize u.lookup fd = b at hlookup ⊢
  cases hlookup with
  | error fault => exact pairs_pure (.error fault)
  | ok hsame =>
    refine (hclose _ _ hsame).then fun result => ?_
    cases result with
    | ok => exact pairs_pure (.ok herase)
    | error e => exact pairs_pure (.error _)

theorem pairs_closeFile (fd : Nat) : L.Pairs Eq (Action.closeFile fd) (Action.closeFile fd) := by
  refine pairs_session.bind fun x y hxy => ?_
  refine (pairs_release (L.lookup hxy.files fd) (fun _ _ => pairs_closeHandle)
    (L.erase hxy.files fd)).bind fun _ _ hfiles => ?_
  refine (pairs_ofExcept hfiles).bind fun _ _ hfiles => pairs_modifySession fun _ _ h => ?_
  exact ⟨h.volume, hfiles, h.dirs, h.maxArgs, h.allowShell⟩

theorem pairs_closeDir (fd : Nat) : L.Pairs Eq (Action.closeDir fd) (Action.closeDir fd) := by
  refine pairs_session.bind fun x y hxy => ?_
  rw [hxy.dirs]
  have hrelease : L.Pairs (Agree Eq) (y.dirs.release fd Action.closeDirHandle)
      (y.dirs.release fd Action.closeDirHandle) :=
    pairs_release (agree_eq_iff.mpr rfl) (fun _ _ h => h ▸ pairs_closeDirHandle _) rfl
  refine hrelease.bind fun _ _ hdirs => ?_
  refine (pairs_ofExcept hdirs).bind fun _ _ hdirs => pairs_modifySession fun _ _ h => ?_
  exact ⟨h.volume, h.files, hdirs, h.maxArgs, h.allowShell⟩

end Likeness

/-! ## Statements -/

namespace Request

open FileScript.Likeness

variable {L : Likeness} {act : Action Output}

theorem pairs_fetch (label : String) (op : ByteArray → Store.Update (Nat × ByteArray)) :
    L.Pairs Eq (fetch label op) (fetch label op) := by
  refine (pairs_report _ _ _ _).then fun _ => ?_
  refine ((pairs_request _).reportStatus _ _).then fun (size, _) => ?_
  dsimp only
  split
  · exact pairs_pure rfl
  · exact ((pairs_request _).reportStatus _ _).then fun _ => pairs_pure rfl

theorem Form.pairs (h : Form act) : L.Pairs Eq act act := by
  cases h with
  | asking source label op out =>
    exact ((pairs_request op).traced source label).then fun a => pairs_pure rfl
  | askingFile fd label op hop =>
    refine (pairs_fileAt fd).bind fun handle _ ⟨offset, heq⟩ => ?_
    rw [heq, hop handle offset]
    exact ((pairs_request _).traced .files label).then fun _ => pairs_pure rfl
  | fetching label op out => exact (pairs_fetch label op).then fun _ => pairs_pure rfl
  | openingFile label op =>
    exact ((pairs_request op).traced .files label).then fun handle =>
      (pairs_installFile handle).then fun _ => pairs_pure rfl
  | openingDir label op =>
    exact ((pairs_request op).traced .directories label).then fun handle =>
      (pairs_installDir handle).then fun _ => pairs_pure rfl
  | closingFile label fd =>
    exact ((pairs_closeFile fd).traced .files label).then fun _ => pairs_pure rfl
  | closingDir label fd =>
    exact ((pairs_closeDir fd).traced .directories label).then fun _ => pairs_pure rfl
  | moving label fd offset op moved out =>
    refine (pairs_fileAt fd).bind fun handle handle' hmoved => Pairs.traced ?_ .files label
    -- the handle that is moved is the same from here on
    have hseek : Store.seek handle offset = Store.seek handle' offset := by
      obtain ⟨other, rfl⟩ := hmoved
      rfl
    rw [hseek]
    refine (pairs_request _).then fun handle => (pairs_putFile fd handle).then fun _ => ?_
    exact (pairs_request _).then fun a => (pairs_putFile fd _).then fun _ => pairs_pure rfl
  | listing label fd op moved out =>
    refine (pairs_dirAt fd).then fun handle => Pairs.traced ?_ .directories label
    exact (pairs_request _).then fun a => (pairs_putDir fd _).then fun _ => pairs_pure rfl

/-- Shell commands see the host. -/
theorem pairs_runShell (hhosts : ∀ h k, L.hosts h k ↔ h = k) (command : String) :
    L.Pairs Eq (runShell command) (runShell command) := by
  unfold runShell
  -- what the command does is of no concern, only that it sees no more than the host
  generalize Shell.run = run
  refine pairs_session.bind fun x y hxy => ?_
  dsimp only
  rw [hxy.allowShell]
  split
  case isFalse => exact pairs_throw_bind _ _ _
  refine (pairs_report _ _ _ _).then fun _ => ?_
  split
  case isTrue => exact pairs_throw_bind _ _ _
  split
  case isTrue => exact pairs_throw_bind _ _ _
  refine pairs_get.bind fun f g hfg => ?_
  rw [(hhosts _ _).mp hfg.host]
  refine Pairs.then (pairs_modify fun _ _ h => ?_) fun _ => ?_
  · exact ⟨h.session, (hhosts _ _).mpr rfl⟩
  refine (pairs_report _ _ _ _).then fun _ => ?_
  split
  · exact (pairs_report _ _ _ _).then fun _ => pairs_pure rfl
  · exact pairs_pure rfl

/-- A request forms a pair with itself, unless it runs a shell command and the hosts differ. -/
theorem pairs_perform (r : Request)
    (hshell : (∀ h k, L.hosts h k ↔ h = k) ∨ ∀ command, r ≠ shell command) :
    L.Pairs Eq r.perform r.perform := by
  rcases r.perform_cases with ⟨command, rfl⟩ | hform
  · exact pairs_runShell (hshell.resolve_right fun h => h command rfl) command
  · exact hform.pairs

end Request

/-- **A statement forms a pair with itself**, unless it runs a shell command and the hosts
differ. -/
theorem Statement.pairs_execute {L : Likeness} (s : Statement)
    (hshell : (∀ h k, L.hosts h k ↔ h = k) ∨ ∀ command, ¬ s.AsksFor (.shell command)) :
    L.Pairs Eq (Builtin.registry.execute s) (Builtin.registry.execute s) := by
  rcases s.execute_cases with ⟨r, hr, heq⟩ | ⟨fault, -, heq⟩
  · rw [heq]
    refine r.pairs_perform (hshell.imp_right fun h command hcommand => ?_)
    exact h command (hcommand ▸ hr)
  · rw [heq]
    exact Likeness.pairs_throw fault

end FileScript
