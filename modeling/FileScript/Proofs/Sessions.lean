import FileScript.Proofs.Actions
import FileScript.Proofs.Histories

/-!
# Stores under sessions

Whatever a statement does to the store of a session, it does by requests (`Action.Evolving`), also
when it fails half-way. So the store of a session is one to which some history of requests leads
(`Frame.Reachable.store`), and consistent at all times.
-/

namespace FileScript

namespace Store

/-- The store `t` is what some requests have made of the store `s`. -/
def Evolves (s t : Store) : Prop := ∃ history, t = s.after history

variable {s t u : Store}

theorem Evolves.refl (s : Store) : s.Evolves s := ⟨[], rfl⟩

theorem Evolves.trans (h : s.Evolves t) (h' : t.Evolves u) : s.Evolves u := by
  obtain ⟨history, rfl⟩ := h
  obtain ⟨later, rfl⟩ := h'
  exact ⟨history ++ later, (after_append s history later).symm⟩

theorem Evolves.reachable (hevolves : s.Evolves t) (h : s.Reachable) : t.Reachable := by
  obtain ⟨history, rfl⟩ := hevolves
  exact h.after history

/-- However it ends, an update leaves what some requests have made of the store. -/
def Evolving {α : Type} (update : Update α) : Prop :=
  ∀ s, Ends update s (fun _ t => s.Evolves t) fun _ t => s.Evolves t

section Evolving

variable {α : Type} {update : Update α}

theorem perform_evolving (now : Timespec) (op : Operation) : Evolving (op.perform now) := by
  intro s
  have hrequest : s.Evolves (s.request now op).2 := ⟨[(now, op)], rfl⟩
  unfold request at hrequest
  unfold Ends
  cases hop : op.perform now s <;> rw [hop] at hrequest <;> exact hrequest

theorem evolving_of_map {f : α → Answer} (now : Timespec) (op : Operation)
    (h : op.perform now = f <$> update) : Evolving update := by
  intro s
  have hperform := perform_evolving now op s
  rwa [h, Ends.map_iff] at hperform

theorem evolving_of_bind {f : α → Answer} (now : Timespec) (op : Operation)
    (h : op.perform now = update >>= fun a => pure (f a)) : Evolving update := by
  intro s
  have hperform := perform_evolving now op s
  rwa [h, Ends.bind_iff] at hperform

theorem evolving_of_inquires (h : ∀ s, Inquires update s) : Evolving update := fun s =>
  (h s).mono (fun _ _ ht => ht ▸ .refl s) fun _ _ ht => ht ▸ .refl s

end Evolving

end Store

namespace Action

variable {α β : Type} {act : Action α} {next : α → Action β}

/-- However it ends, an action makes nothing but requests to the store. -/
def Evolving (act : Action α) : Prop :=
  ∀ s : Session, Leads act s (fun _ t => s.volume.store.Evolves t.volume.store)
    fun _ t => s.volume.store.Evolves t.volume.store

theorem evolving_pure (a : α) : Evolving (pure a) := fun _ => leads_pure (Store.Evolves.refl _)

theorem evolving_throw (fault : Fault) : Evolving (throw fault : Action α) := fun _ =>
  leads_throw (Store.Evolves.refl _)

theorem Evolving.bind (h : Evolving act) (hnext : ∀ a, Evolving (next a)) :
    Evolving (act >>= next) := fun s =>
  leads_bind ((h s).mono (fun a t ht => (hnext a t).mono (fun _ _ h => ht.trans h)
    fun _ _ h => ht.trans h) fun _ _ h => h)

theorem Evolving.traced {source : LogSource} {label : String} (h : Evolving act) :
    Evolving (traced source label act) := fun s => leads_traced (h s)

theorem Evolving.reportStatus {source : LogSource} {label : String} (h : Evolving act) :
    Evolving (reportStatus source label act) := fun s => leads_reportStatus (h s)

theorem evolving_report (source : LogSource) (level : LogLevel) (text : String) :
    Evolving (report source level text) := fun _ => leads_report (Store.Evolves.refl _)

theorem evolving_session : Evolving session := fun _ => leads_session (Store.Evolves.refl _)

theorem evolving_modifySession {change : Session → Session}
    (h : ∀ s, (change s).volume = s.volume) : Evolving (modifySession change) := fun s =>
  leads_modifySession (by rw [h]; exact Store.Evolves.refl _)

theorem evolving_ofExcept (result : Except Fault α) : Evolving (ofExcept result) := fun _ =>
  leads_ofExcept (fun _ _ => Store.Evolves.refl _) fun _ _ => Store.Evolves.refl _

theorem evolving_request {op : Timespec → Store.Update α} (h : ∀ now, Store.Evolving (op now)) :
    Evolving (request op) := fun s => leads_request (h s.now _)

/-! ## Descriptors -/

theorem evolving_fileAt (fd : Nat) : Evolving (fileAt fd) := fun _ =>
  leads_fileAt (fun _ _ => Store.Evolves.refl _) (Store.Evolves.refl _)

theorem evolving_dirAt (fd : Nat) : Evolving (dirAt fd) := fun _ =>
  leads_dirAt (fun _ _ => Store.Evolves.refl _) (Store.Evolves.refl _)

theorem evolving_putFile (fd : Nat) (handle : FileHandle) : Evolving (putFile fd handle) :=
  evolving_modifySession fun _ => rfl

theorem evolving_putDir (fd : Nat) (handle : DirHandle) : Evolving (putDir fd handle) :=
  evolving_modifySession fun _ => rfl

theorem evolving_requestClose {op : Store.Update Unit} (h : Store.Evolving op) :
    Evolving (settle (·.requestClose op)) := fun _ =>
  leads_requestClose (fun _ => Store.Evolves.refl _) fun _ => h _

theorem evolving_closeHandle (handle : FileHandle) : Evolving (closeHandle handle) :=
  evolving_requestClose (Store.evolving_of_bind {} (.close handle) rfl)

theorem evolving_closeDirHandle (handle : DirHandle) : Evolving (closeDirHandle handle) :=
  evolving_requestClose (Store.evolving_of_bind {} (.closeDir handle) rfl)

theorem evolving_installFile (handle : FileHandle) : Evolving (installFile handle) := fun s =>
  leads_installFile (fun _ _ _ => Store.Evolves.refl _) fun _ => evolving_closeHandle handle s

theorem evolving_installDir (handle : DirHandle) : Evolving (installDir handle) := fun s =>
  leads_installDir (fun _ _ _ => Store.Evolves.refl _) fun _ => evolving_closeDirHandle handle s

theorem evolving_closeFile (fd : Nat) : Evolving (closeFile fd) := fun s =>
  leads_closeFile (fun handle _ => (evolving_closeHandle handle s).mono
    (fun result _ ht => by cases result <;> exact ht) fun _ _ h => h) (Store.Evolves.refl _)

theorem evolving_closeDir (fd : Nat) : Evolving (closeDir fd) := fun s =>
  leads_closeDir (fun handle _ => (evolving_closeDirHandle handle s).mono
    (fun result _ ht => by cases result <;> exact ht) fun _ _ h => h) (Store.Evolves.refl _)

theorem evolving_closeAll {H : Type} (table : DescriptorTable H)
    {close : H → Action (Except Errno Unit)} (h : ∀ handle, Evolving (close handle)) :
    Evolving (table.closeAll close) := by
  unfold DescriptorTable.closeAll
  generalize table.entries = entries
  generalize (0 : Nat) = failures
  induction entries generalizing failures with
  | nil => exact evolving_pure _
  | cons entry entries ih =>
    rw [List.foldlM_cons]
    refine ((h _).bind fun result => ?_).bind ih
    cases result with
    | ok => exact evolving_pure _
    | error e => exact (evolving_report _ _ _).bind fun _ => evolving_pure _

theorem evolving_teardown : Evolving teardown := by
  unfold teardown
  refine evolving_session.bind fun s => ?_
  refine (evolving_closeAll _ evolving_closeHandle).bind fun ofFiles => ?_
  refine Evolving.bind (evolving_modifySession ?_) fun _ => ?_
  · exact fun _ => rfl
  refine evolving_session.bind fun s => ?_
  refine (evolving_closeAll _ evolving_closeDirHandle).bind fun ofDirs => ?_
  refine Evolving.bind (evolving_modifySession ?_) fun _ => ?_
  · exact fun _ => rfl
  dsimp only
  split
  · exact (evolving_report _ _ _).bind fun _ => evolving_pure _
  · exact evolving_pure _

end Action

/-! ## Statements -/

theorem pure_eq_ok_iff {ε α : Type} {a b : α} : (pure a : Except ε α) = .ok b ↔ a = b :=
  ⟨fun h => Except.ok.inj h, congrArg Except.ok⟩

theorem bind_eq_ok_iff {ε α β : Type} {result : Except ε α} {next : α → Except ε β} {b : β} :
    (result >>= next) = .ok b ↔ ∃ a, result = .ok a ∧ next a = .ok b := by
  cases result with
  | ok a =>
    constructor
    · intro h
      exact ⟨a, rfl, h⟩
    · rintro ⟨_, h, h'⟩
      cases h
      exact h'
  | error e =>
    constructor
    · intro h
      cases h
    · rintro ⟨_, h, -⟩
      cases h

theorem bind_eq_error_iff {ε α β : Type} {result : Except ε α} {next : α → Except ε β} {e : ε} :
    (result >>= next) = .error e ↔
      result = .error e ∨ ∃ a, result = .ok a ∧ next a = .error e := by
  cases result with
  | ok a =>
    constructor
    · intro h
      exact .inr ⟨a, rfl, h⟩
    · rintro (h | ⟨_, h, h'⟩)
      · cases h
      · cases h
        exact h'
  | error e' =>
    constructor
    · intro h
      exact .inl (congrArg _ (Except.error.inj h))
    · rintro (h | ⟨_, h, -⟩)
      · exact congrArg _ (Except.error.inj h)
      · cases h

theorem pure_ne_error {ε α : Type} {a : α} {e : ε} : (pure a : Except ε α) ≠ .error e := by
  rintro ⟨⟩

namespace Request

/-- The command that makes a request. -/
def builtin : Request → Builtin
  | create .. => .create
  | openFile .. => .openFile
  | close .. => .close
  | read .. => .read
  | write .. => .write
  | sync .. => .sync
  | truncateOpen .. => .truncateOpen
  | openDir .. => .openDir
  | readDir .. => .readDir
  | closeDir .. => .closeDir
  | mkdir .. => .mkdir
  | rmdir .. => .rmdir
  | access .. => .access
  | chmod .. => .chmod
  | chown .. => .chown
  | stat .. => .stat
  | truncate .. => .truncate
  | unlink .. => .unlink
  | rename .. => .rename
  | utime .. => .utime
  | getXattr .. => .getXattr
  | setXattr .. => .setXattr
  | removeXattr .. => .removeXattr
  | listXattr .. => .listXattr
  | shell .. => .shell

theorem builtin_of_ofArgs {b : Builtin} {args : List String} {r : Request}
    (h : ofArgs b args = .ok r) : r.builtin = b := by
  unfold ofArgs at h
  split at h
  case h_26 => cases h
  all_goals simp only [bind_eq_ok_iff, pure_eq_ok_iff] at h
  all_goals grind [builtin]

theorem evolving_silently (source : LogSource) (label : String) {op : Timespec → Store.Update Unit}
    (h : ∀ now, Store.Evolving (op now)) : (silently source label op).Evolving :=
  (Action.evolving_request h).traced.bind fun _ => Action.evolving_pure _

theorem evolving_fetch (label : String) {op : ByteArray → Store.Update (Nat × ByteArray)}
    (h : ∀ s buffer, Store.Inquires (op buffer) s) : (fetch label op).Evolving := by
  have hop : ∀ buffer, Store.Evolving (op buffer) := fun buffer =>
    Store.evolving_of_inquires fun s => h s buffer
  unfold fetch
  refine (Action.evolving_report _ _ _).bind fun _ => ?_
  refine (Action.evolving_request fun _ => hop .empty).reportStatus.bind fun (size, _) => ?_
  dsimp only
  split
  · exact Action.evolving_pure _
  · exact (Action.evolving_request fun _ => hop _).reportStatus.bind
      fun _ => Action.evolving_pure _

theorem evolving_runShell (command : String) : (runShell command).Evolving := by
  intro s
  refine (Action.leads_runShell command).mono ?_ ?_
  · rintro _ _ rfl
    exact Store.Evolves.refl _
  · rintro _ _ ⟨-, rfl⟩
    exact Store.Evolves.refl _

open Store (evolving_of_map evolving_of_bind evolving_of_inquires) in
/-- Whatever a statement asks for, it makes nothing but requests to the store. -/
theorem evolving_perform (r : Request) : r.perform.Evolving := by
  cases r with
  | create path mode =>
    refine (Action.evolving_request fun now =>
      evolving_of_map now (.create path (.ofNat mode)) rfl).traced.bind fun handle => ?_
    exact (Action.evolving_installFile handle).bind fun _ => Action.evolving_pure _
  | openFile path flags =>
    refine (Action.evolving_request fun now =>
      evolving_of_map now (.openFile path ⟨.ofNat flags⟩) rfl).traced.bind fun handle => ?_
    exact (Action.evolving_installFile handle).bind fun _ => Action.evolving_pure _
  | close fd => exact (Action.evolving_closeFile fd).traced.bind fun _ => Action.evolving_pure _
  | read fd offset count =>
    refine (Action.evolving_fileAt fd).bind fun handle => Action.Evolving.traced ?_
    refine (Action.evolving_request fun _ => evolving_of_inquires fun _ =>
      Store.seek_inquires handle offset).bind fun handle => ?_
    refine (Action.evolving_putFile fd handle).bind fun _ => ?_
    exact (Action.evolving_request fun _ => evolving_of_inquires fun _ =>
      Store.read_inquires handle count).bind fun (_, handle) =>
        (Action.evolving_putFile fd handle).bind fun _ => Action.evolving_pure _
  | write fd offset count text =>
    refine (Action.evolving_fileAt fd).bind fun handle => Action.Evolving.traced ?_
    refine (Action.evolving_request fun _ => evolving_of_inquires fun _ =>
      Store.seek_inquires handle offset).bind fun handle => ?_
    refine (Action.evolving_putFile fd handle).bind fun _ => ?_
    exact (Action.evolving_request fun now => evolving_of_map now (.write handle _) rfl).bind
      fun handle => (Action.evolving_putFile fd handle).bind fun _ => Action.evolving_pure _
  | sync fd =>
    exact (Action.evolving_fileAt fd).bind fun handle => evolving_silently _ _ fun _ =>
      evolving_of_inquires fun _ => Store.sync_inquires handle
  | truncateOpen fd size =>
    exact (Action.evolving_fileAt fd).bind fun handle => evolving_silently _ _ fun now =>
      evolving_of_bind now (.truncateOpen handle size) rfl
  | openDir path =>
    refine (Action.evolving_request fun now =>
      evolving_of_map now (.openDir path) rfl).traced.bind fun handle => ?_
    exact (Action.evolving_installDir handle).bind fun _ => Action.evolving_pure _
  | readDir fd count =>
    refine (Action.evolving_dirAt fd).bind fun handle => Action.Evolving.traced ?_
    exact (Action.evolving_request fun _ => evolving_of_inquires fun _ =>
      Store.readDir_inquires handle count).bind fun (_, handle) =>
        (Action.evolving_putDir fd handle).bind fun _ => Action.evolving_pure _
  | closeDir fd => exact (Action.evolving_closeDir fd).traced.bind fun _ => Action.evolving_pure _
  | mkdir path mode =>
    exact evolving_silently _ _ fun now => evolving_of_bind now (.mkdir path (.ofNat mode)) rfl
  | rmdir path =>
    exact evolving_silently _ _ fun now => evolving_of_bind now (.rmdir path) rfl
  | access path mode =>
    exact evolving_silently _ _ fun _ => evolving_of_inquires fun _ => Store.access_inquires path _
  | chmod path mode =>
    exact evolving_silently _ _ fun now => evolving_of_bind now (.chmod path (.ofNat mode)) rfl
  | chown path uid =>
    exact evolving_silently _ _ fun now => evolving_of_bind now (.chown path uid) rfl
  | stat path =>
    exact (Action.evolving_request fun _ => evolving_of_inquires fun _ =>
      Store.stat_inquires path).traced.bind fun _ => Action.evolving_pure _
  | truncate path size =>
    exact evolving_silently _ _ fun now => evolving_of_bind now (.truncate path size) rfl
  | unlink path =>
    exact evolving_silently _ _ fun now => evolving_of_bind now (.unlink path) rfl
  | rename source target =>
    exact evolving_silently _ _ fun now => evolving_of_bind now (.rename source target) rfl
  | utime path accessed modified =>
    exact evolving_silently _ _ fun now =>
      evolving_of_bind now (.utime path { seconds := accessed } { seconds := modified }) rfl
  | getXattr path name =>
    exact (evolving_fetch _ fun _ buffer => Store.getXattr_inquires path name buffer).bind
      fun _ => Action.evolving_pure _
  | setXattr path name flags value =>
    exact evolving_silently _ _ fun now =>
      evolving_of_bind now (.setXattr path name value.toUTF8 ⟨.ofNat flags⟩) rfl
  | removeXattr path name =>
    exact evolving_silently _ _ fun now => evolving_of_bind now (.removeXattr path name) rfl
  | listXattr path =>
    exact (evolving_fetch _ fun _ buffer => Store.listXattr_inquires path buffer).bind
      fun _ => Action.evolving_pure _
  | shell command => exact evolving_runShell command

end Request

namespace Registry

theorem get?_register (r : Registry) (c : Command) (name : String) :
    (r.register c).get? name = if c.name = name then some c else r.get? name := by
  unfold register get?
  simp only [Std.TreeMap.getElem?_insert, compare_eq_iff_eq]

/-- The last of some commands with a name. -/
def lastNamed (commands : List Command) (name : String) : Option Command :=
  commands.reverse.find? (·.name = name)

/-- A registry finds the last command of a name. -/
theorem get?_ofList (commands : List Command) (name : String) :
    (ofList commands).get? name = lastNamed commands name := by
  induction commands using List.reverseRecOn with
  | nil => rfl
  | append_singleton commands last ih =>
    rw [ofList, List.foldl_append, List.foldl_cons, List.foldl_nil, get?_register, lastNamed,
      List.reverse_concat, List.find?_cons]
    by_cases hname : last.name = name
    · rw [if_pos hname, decide_eq_true hname]
    · rw [if_neg hname, decide_eq_false hname]
      exact ih

theorem mem_of_get?_ofList {commands : List Command} {name : String} {c : Command}
    (h : (ofList commands).get? name = some c) : c ∈ commands ∧ c.name = name := by
  rw [get?_ofList, lastNamed] at h
  have hname := List.find?_some h
  exact ⟨List.mem_reverse.mp (List.mem_of_find?_eq_some h), of_decide_eq_true hname⟩

theorem exists_get?_ofList {commands : List Command} {c : Command} (h : c ∈ commands) :
    ∃ found, (ofList commands).get? c.name = some found := by
  rw [get?_ofList, lastNamed, ← Option.isSome_iff_exists, List.find?_isSome]
  exact ⟨c, List.mem_reverse.mpr h, decide_eq_true rfl⟩

end Registry

namespace Builtin

/-- What a registry of the built-in commands finds under a name is the command of that name. -/
theorem exists_of_get? {name : String} {c : Command} (h : registry.get? name = some c) :
    ∃ b : Builtin, b.synopsis.name = name ∧ c = b.command := by
  obtain ⟨hmem, hname⟩ := Registry.mem_of_get?_ofList h
  obtain ⟨b, -, rfl⟩ := List.mem_map.mp hmem
  exact ⟨b, hname, rfl⟩

theorem evolving_execute (s : Statement) : (registry.execute s).Evolving := by
  unfold Registry.execute
  split
  · exact Action.evolving_throw _
  · next c h =>
    obtain ⟨b, -, rfl⟩ := exists_of_get? h
    split
    · exact (Action.evolving_ofExcept _).bind Request.evolving_perform
    · exact Action.evolving_throw _

end Builtin

/-! ## Sessions that can be reached -/

/-- The frames in which a session can be, on a store that had been used before or not. Closing can
be made to fail and to succeed again at any time. -/
inductive Frame.Reachable : Frame → Prop
  | start {f : Frame} (settings : Settings) (hstore : f.session.volume.store.Reachable)
      (hsession : f.session = Session.new settings f.session.volume) : Reachable f
  | statement {f : Frame} (h : Reachable f) (s : Statement) :
      Reachable (f.run (Builtin.registry.execute s)).2
  | teardown {f : Frame} (h : Reachable f) : Reachable (f.run Action.teardown).2
  | failsClose {f : Frame} (h : Reachable f) (fails : Bool) :
      Reachable { f with session.volume.failsClose := fails }

theorem Action.Evolving.run {α : Type} {act : Action α} (h : act.Evolving) (f : Frame) :
    f.session.volume.store.Evolves (f.run act).2.session.volume.store := by
  have hrun := (h f.session).run
  split at hrun <;> next heq => rw [heq]; exact hrun

/-- **The store of a session can be reached by requests alone.** -/
theorem Frame.Reachable.store {f : Frame} (h : f.Reachable) :
    f.session.volume.store.Reachable := by
  induction h with
  | start _ hstore => exact hstore
  | statement _ s ih => exact ((Builtin.evolving_execute s).run _).reachable ih
  | teardown _ ih => exact (Action.evolving_teardown.run _).reachable ih
  | failsClose _ _ ih => exact ih

theorem Frame.Reachable.consistent {f : Frame} (h : f.Reachable) :
    f.session.volume.store.Consistent :=
  h.store.consistent

end FileScript
