import FileScript.Proofs.Closing

/-!
# Accounts of handles

A handle that is open in the store of a session is in a table of the session, or it was leaked: no
descriptor was free for it and the close attempted on it failed (`Session.leaked`), or its close
failed in a teardown (`Session.abandoned`). A statement and a teardown keep this balance, and leak
nothing but what they are charged with (`execute_balances`, `Session.Balanced.tornDown`).
-/

namespace FileScript

open Volume (Holds)

/-- The numbers of handles that are open in a store and in no table. -/
@[ext] structure Leaks where
  files : List Nat := []
  dirs : List Nat := []
  deriving DecidableEq, Repr

namespace Leaks

/-- How many handles there are. -/
def size (leaks : Leaks) : Nat := leaks.files.length + leaks.dirs.length

instance : Append Leaks := ⟨fun a b => ⟨a.files ++ b.files, a.dirs ++ b.dirs⟩⟩

@[simp] theorem files_append (a b : Leaks) : (a ++ b).files = a.files ++ b.files := rfl

@[simp] theorem dirs_append (a b : Leaks) : (a ++ b).dirs = a.dirs ++ b.dirs := rfl

theorem size_append (a b : Leaks) : (a ++ b).size = a.size + b.size := by
  simp only [size, files_append, dirs_append, List.length_append]
  omega

@[simp] theorem append_empty (a : Leaks) : a ++ {} = a :=
  Leaks.ext (List.append_nil _) (List.append_nil _)

theorem append_files (a : Leaks) (ids : List Nat) :
    a ++ { files := ids } = { a with files := a.files ++ ids } :=
  Leaks.ext rfl (List.append_nil _)

theorem append_dirs (a : Leaks) (ids : List Nat) :
    a ++ { dirs := ids } = { a with dirs := a.dirs ++ ids } :=
  Leaks.ext (List.append_nil _) rfl

end Leaks

/-- What has joined some handles at the front may join them at the end. -/
theorem perm_rotate (a b c : List Nat) : (a ++ (b ++ c)).Perm (c ++ (a ++ b)) := by
  rw [← List.append_assoc]
  exact List.perm_append_comm

namespace Session

variable {x : Session} {fails : Nat → Bool} {leaks : Leaks}

/-- The numbers of the file handles in the table. -/
def fileIds (x : Session) : List Nat := x.files.handles.map FileHandle.id

/-- The numbers of the directory handles in the table. -/
def dirIds (x : Session) : List Nat := x.dirs.handles.map DirHandle.id

theorem fileIds_tornDown (x : Session) : x.tornDown.fileIds = [] := rfl

theorem dirIds_tornDown (x : Session) : x.tornDown.dirIds = [] := rfl

/-- What a statement leaks when it ends with a result. If no descriptor is free for the handle that
it has opened, the close attempted on that is the next request, and may fail. -/
def leaked (x : Session) (command : String) : Except Fault Output → Leaks
  | .ok _ => {}
  | .error fault =>
    if fault.isFull then
      let ids := unclosed x.volume.failsCloseAt (x.volume.requests + 1) [x.volume.store.nextHandle]
      if command = Builtin.openDir.synopsis.name then { dirs := ids } else { files := ids }
    else {}

theorem leaked_of_not_full {fault : Fault} (hfault : fault.isFull = false) (command : String) :
    x.leaked command (.error fault) = {} := by
  rw [leaked, hfault, if_neg Bool.false_ne_true]

/-- What a teardown leaks: it closes the files and then the directories, one request for each. -/
def abandoned (x : Session) : Leaks where
  files := unclosed x.volume.failsCloseAt x.volume.requests x.fileIds
  dirs := unclosed x.volume.failsCloseAt (x.volume.requests + x.files.size) x.dirIds

section NoFailure

variable (hfails : ∀ count, x.volume.failsCloseAt count = false)

include hfails

theorem leaked_eq_empty (command : String) (result : Except Fault Output) :
    x.leaked command result = {} := by
  cases result with
  | ok output => rfl
  | error fault =>
    rw [leaked, unclosed_eq_nil hfails, ite_self, ite_self]

theorem abandoned_eq_empty : x.abandoned = {} := by
  rw [abandoned, unclosed_eq_nil hfails, unclosed_eq_nil hfails]

end NoFailure

/-- The handles in the tables and the leaked ones are those that are open, where closing fails at
certain counts of requests. -/
def Balanced (x : Session) (fails : Nat → Bool) (leaks : Leaks) : Prop :=
  Holds fails Store.fileIds Store.dirIds x.volume (x.fileIds ++ leaks.files)
    (x.dirIds ++ leaks.dirs)

namespace Balanced

/-- A request that neither opens nor closes a handle keeps the balance. -/
theorem replied (h : x.Balanced fails leaks) {t : Store} (ht : t.Consistent)
    (hkeeps : x.volume.store.KeepsHandles t) : (x.replied t).Balanced fails leaks where
  consistent := ht
  schedule := h.schedule
  mine := h.mine.trans (.of_eq (congrArg Std.TreeMap.keys hkeeps.openFiles.symm))
  theirs := h.theirs.trans (.of_eq hkeeps.openDirs.symm)

theorem refused (h : x.Balanced fails leaks) :
    (x.replied x.volume.store).Balanced fails leaks := h.replied h.consistent (.refl _)

theorem replaceFile (h : x.Balanced fails leaks) {fd : Nat} {old new : FileHandle}
    (hget : x.files.get? fd = some old) (hid : new.id = old.id) :
    Balanced { x with files := x.files.replace fd new } fails leaks :=
  h.perm ((DescriptorTable.map_handles_replace hget hid).append_right _)

theorem replaceDir (h : x.Balanced fails leaks) {fd : Nat} {old new : DirHandle}
    (hget : x.dirs.get? fd = some old) (hid : new.id = old.id) :
    Balanced { x with dirs := x.dirs.replace fd new } fails leaks :=
  (h.swap.perm ((DescriptorTable.map_handles_replace hget hid).append_right _)).swap

/-- The open handles are counted by those in the tables and the leaked ones. -/
theorem openHandleCount_eq (h : x.Balanced fails leaks) :
    x.volume.store.openHandleCount = x.files.size + x.dirs.size + leaks.size := by
  have hfiles := h.mine.length_eq
  have hdirs := h.theirs.length_eq
  rw [List.length_append, fileIds, List.length_map, DescriptorTable.length_handles] at hfiles
  rw [List.length_append, dirIds, List.length_map, DescriptorTable.length_handles] at hdirs
  rw [Store.openHandleCount_eq, Leaks.size]
  omega

/-- **A teardown leaks the handles whose close fails, and makes one request for each handle.** -/
theorem tornDown (h : x.Balanced fails leaks) :
    x.failedCloses = x.abandoned.size ∧
      x.tornDown.volume.requests = x.volume.requests + x.files.size + x.dirs.size ∧
      x.tornDown.Balanced fails (leaks ++ x.abandoned) := by
  -- the files are closed first, the directories at the counts that follow
  obtain ⟨hfiles, hfileRequests, hmid⟩ := Holds.closeEach Volume.closes_close h
  obtain ⟨hdirs, hdirRequests, hend⟩ := Holds.closeEach Volume.closes_closeDir hmid.swap
  rw [hfileRequests, DescriptorTable.length_handles] at hdirs hdirRequests hend
  rw [DescriptorTable.length_handles] at hdirRequests
  unfold abandoned Balanced
  rw [h.schedule, fileIds_tornDown, dirIds_tornDown, List.nil_append, List.nil_append,
    Leaks.files_append, Leaks.dirs_append]
  refine ⟨congrArg₂ (· + ·) hfiles hdirs, hdirRequests, ?_⟩
  exact (hend.perm List.perm_append_comm).swap.perm List.perm_append_comm

end Balanced

end Session

/-! ## Steps that keep the balance -/

namespace Action

variable {α β : Type} {act : Action α} {next : α → Action β} {x : Session} {fails : Nat → Bool}
  {leaks : Leaks}

/-- From the session `x` on, an action ends in balance with the same leaks, and it does not fail for
want of a descriptor. -/
def SteadyAt (act : Action α) (x : Session) (fails : Nat → Bool) (leaks : Leaks) : Prop :=
  Leads act x (fun _ y => y.Balanced fails leaks)
    fun fault y => fault.isFull = false ∧ y.Balanced fails leaks

/-- From every session in balance on, an action leaks nothing. -/
def Steady (act : Action α) : Prop :=
  ∀ ⦃x : Session⦄ ⦃fails : Nat → Bool⦄ ⦃leaks : Leaks⦄, x.Balanced fails leaks →
    SteadyAt act x fails leaks

theorem steady_pure (a : α) : Steady (pure a) := fun _ _ _ h => leads_pure h

theorem Steady.bind (h : Steady act) (hnext : ∀ a, Steady (next a)) : Steady (act >>= next) :=
  fun _ _ _ hx => leads_bind ((h hx).mono (fun a _ hy => hnext a hy) fun _ _ hy => hy)

theorem Steady.traced {source : LogSource} {label : String} (h : Steady act) :
    Steady (traced source label act) := fun _ _ _ hx => leads_traced (h hx)

theorem Steady.reportStatus {source : LogSource} {label : String} (h : Steady act) :
    Steady (reportStatus source label act) := fun _ _ _ hx => leads_reportStatus (h hx)

theorem steady_report (source : LogSource) (level : LogLevel) (text : String) :
    Steady (report source level text) := fun _ _ _ h => leads_report h

/-- A request that neither opens nor closes a handle. -/
theorem steady_request {op : Timespec → Store.Update α}
    (h : ∀ now s, s.Consistent → Store.SparesHandles (op now) s) :
    Steady (request op) := by
  intro x fails leaks hx
  refine leads_request ((h x.now _ hx.consistent).mono ?_ ?_)
  · rintro _ t ⟨ht, hkeeps⟩
    exact hx.replied ht hkeeps
  · rintro e _ rfl
    exact ⟨rfl, hx.refused⟩

theorem steady_fetch (label : String) {op : ByteArray → Store.Update (Nat × ByteArray)}
    (h : ∀ s buffer, Store.Inquires (op buffer) s) : Steady (Request.fetch label op) := by
  have hrequest (buffer : ByteArray) : Steady (request fun _ => op buffer) :=
    steady_request fun _ s hs => (h s buffer).sparesHandles hs
  unfold Request.fetch
  refine (steady_report _ _ _).bind fun _ => (hrequest .empty).reportStatus.bind fun (size, _) => ?_
  dsimp only
  split
  · exact steady_pure _
  · exact (hrequest _).reportStatus.bind fun _ => steady_pure _

theorem steady_runShell (command : String) : Steady (Request.runShell command) := by
  intro x fails leaks h
  refine (leads_runShell command).mono ?_ ?_
  · rintro _ _ rfl
    exact h
  · rintro fault _ ⟨hfault, rfl⟩
    exact ⟨hfault, h⟩

theorem steady_silently (source : LogSource) (label : String) {op : Timespec → Store.Update Unit}
    (h : ∀ now s, s.Consistent → Store.SparesHandles (op now) s) :
    Steady (Request.silently source label op) :=
  (steady_request h).traced.bind fun _ => steady_pure _

/-! ### Descriptors -/

theorem steady_fileAt_bind {fd : Nat} {next : FileHandle → Action β}
    (h : ∀ ⦃x : Session⦄ ⦃fails : Nat → Bool⦄ ⦃leaks : Leaks⦄ ⦃handle : FileHandle⦄,
      x.Balanced fails leaks → x.files.get? fd = some handle →
        SteadyAt (next handle) x fails leaks) :
    Steady (fileAt fd >>= next) := fun _ _ _ hx =>
  leads_bind (leads_fileAt (fun _ hget => h hx hget) ⟨rfl, hx⟩)

theorem steady_closeFile (fd : Nat) : Steady (closeFile fd) := by
  intro x fails leaks h
  refine leads_bind (leads_session (leads_bind ((leads_release_holds Volume.closes_close h).mono
    ?_ fun _ _ h => h)))
  rintro result t ⟨w, rfl, hholds⟩
  cases result with
  | ok files => exact leads_bind (leads_pure (leads_modifySession hholds))
  | error fault => exact leads_bind (leads_throw hholds)

theorem steady_closeDir (fd : Nat) : Steady (closeDir fd) := by
  intro x fails leaks h
  refine leads_bind (leads_session (leads_bind
    ((leads_release_holds Volume.closes_closeDir h.swap).mono ?_ fun _ _ h => h)))
  rintro result t ⟨w, rfl, hholds⟩
  cases result with
  | ok dirs => exact leads_bind (leads_pure (leads_modifySession hholds.swap))
  | error fault => exact leads_bind (leads_throw ⟨hholds.1, hholds.2.swap⟩)

/-- A handle that was moved is put back in its place. -/
theorem putFile_balances {fd : Nat} {old new : FileHandle} {bad : Fault → Session → Prop}
    (h : x.Balanced fails leaks) (hget : x.files.get? fd = some old) (hid : new.id = old.id) :
    Leads (putFile fd new) x
      (fun _ y => y.Balanced fails leaks ∧ y.files.get? fd = some new) bad := by
  refine leads_putFile ⟨h.replaceFile hget hid, ?_⟩
  show (x.files.replace fd new).get? fd = some new
  rw [DescriptorTable.get?_replace, if_pos rfl, hget, Option.map_some]

/-- A request is made with a handle that was moved before, and moves it once more. -/
theorem steadyAt_seeking {fd offset : Nat} {op : FileHandle → Timespec → Store.Update α}
    {moved : α → FileHandle} (out : α → Output)
    (hop : ∀ handle now s, s.Consistent → Ends (op handle now) s
      (fun a t => (moved a).id = handle.id ∧ t.Consistent ∧ s.KeepsHandles t) fun _ t => t = s)
    {handle : FileHandle} (h : x.Balanced fails leaks) (hget : x.files.get? fd = some handle) :
    SteadyAt (do
      let handle ← request fun _ => Store.seek handle offset
      putFile fd handle
      let a ← request (op handle)
      putFile fd (moved a)
      return out a) x fails leaks := by
  refine leads_bind (leads_request ((Store.seek_ends handle offset).mono ?_ ?_))
  case refine_2 =>
    rintro e _ rfl
    exact ⟨rfl, h.refused⟩
  rintro sought _ ⟨hsought, rfl⟩
  -- what stands under the descriptor is replaced twice, and has the same number each time
  have hid : sought.id = handle.id := by rw [hsought]
  refine leads_bind ((putFile_balances h.refused hget hid).mono ?_ fun _ _ h => h)
  rintro _ y ⟨hy, hgety⟩
  refine leads_bind (leads_request ((hop sought y.now _ hy.consistent).mono ?_ ?_))
  case refine_2 =>
    rintro e _ rfl
    exact ⟨rfl, hy.refused⟩
  rintro a t ⟨ha, ht, hkeeps⟩
  refine leads_bind ((putFile_balances (hy.replied ht hkeeps) hgety ha).mono ?_ fun _ _ h => h)
  rintro _ z ⟨hz, -⟩
  exact leads_pure hz

/-- A directory is listed through a handle, which is put back moved. -/
theorem steadyAt_listing {fd count : Nat} (out : List DirEntry → Output) {handle : DirHandle}
    (h : x.Balanced fails leaks) (hget : x.dirs.get? fd = some handle) :
    SteadyAt (do
      let (entries, handle) ← request fun _ => Store.readDir handle count
      putDir fd handle
      return out entries) x fails leaks := by
  refine leads_bind (leads_request ((Store.readDir_moves h.consistent handle count).mono ?_ ?_))
  · rintro ⟨entries, moved⟩ t ⟨hid, ht, hkeeps⟩
    exact leads_bind (leads_putDir (leads_pure ((h.replied ht hkeeps).replaceDir hget hid)))
  · rintro e _ rfl
    exact ⟨rfl, h.refused⟩

/-! ### New handles -/

/-- A new file handle gets a descriptor; if none is free, it is leaked if it cannot be closed. -/
theorem installFile_balances {handle : FileHandle}
    (h : x.Balanced fails { leaks with files := handle.id :: leaks.files }) :
    Leads (installFile handle) x (fun _ y => y.Balanced fails leaks)
      fun fault y => fault.isFull = true ∧
        y.Balanced fails (leaks ++ { files := unclosed fails x.volume.requests [handle.id] }) := by
  refine leads_installFile (fun fd files hinsert => ?_) fun _ => ?_
  · have hids := (DescriptorTable.handles_of_insert? hinsert).map FileHandle.id
    exact h.perm ((hids.append_right leaks.files).trans List.perm_middle.symm)
  · have hholds := h.perm List.perm_middle.symm
    refine (leads_closing Volume.closes_close hholds).mono ?_ fun _ _ h => h
    rintro _ _ ⟨w, rfl, -, hw⟩
    rw [Leaks.append_files]
    exact ⟨rfl, hw.perm (perm_rotate _ _ _)⟩

/-- A new directory handle gets a descriptor; if none is free, it is leaked if it cannot be closed.
-/
theorem installDir_balances {handle : DirHandle}
    (h : x.Balanced fails { leaks with dirs := handle.id :: leaks.dirs }) :
    Leads (installDir handle) x (fun _ y => y.Balanced fails leaks)
      fun fault y => fault.isFull = true ∧
        y.Balanced fails (leaks ++ { dirs := unclosed fails x.volume.requests [handle.id] }) := by
  refine leads_installDir (fun fd dirs hinsert => ?_) fun _ => ?_
  · have hids := (DescriptorTable.handles_of_insert? hinsert).map DirHandle.id
    exact (h.swap.perm ((hids.append_right leaks.dirs).trans List.perm_middle.symm)).swap
  · have hholds := h.swap.perm List.perm_middle.symm
    refine (leads_closing Volume.closes_closeDir hholds).mono ?_ fun _ _ h => h
    rintro _ _ ⟨w, rfl, -, hw⟩
    rw [Leaks.append_dirs]
    exact ⟨rfl, (hw.perm (perm_rotate _ _ _)).swap⟩

end Action

/-! ## Statements -/

open FileScript.Action

namespace Request

/-- What a request asks for is done, and nothing is leaked but what it is charged with. -/
def Balances (r : Request) : Prop :=
  ∀ ⦃x : Session⦄ ⦃fails : Nat → Bool⦄ ⦃leaks : Leaks⦄, x.Balanced fails leaks →
    Leads r.perform x (fun _ y => y.Balanced fails leaks) fun fault y =>
      y.Balanced fails (leaks ++ x.leaked r.builtin.synopsis.name (.error fault))

theorem balances_of_steady {r : Request} (h : r.perform.Steady) : r.Balances := by
  intro x fails leaks hx
  refine (h hx).mono (fun _ _ hy => hy) ?_
  rintro fault y ⟨hfault, hy⟩
  rwa [x.leaked_of_not_full hfault, Leaks.append_empty]

/-- A request that opens a file and gives it a descriptor. -/
theorem balances_of_opens_file {r : Request} {source : LogSource} {label : String}
    {op : Timespec → Store.Update FileHandle}
    (hperform : r.perform = do
      let handle ← traced source label (request op)
      return .descriptor (← installFile handle))
    (hname : r.builtin.synopsis.name ≠ Builtin.openDir.synopsis.name)
    (hop : ∀ now s, s.Consistent → Ends (op now) s
      (fun handle t => t.Consistent ∧ Store.Opens Store.fileIds Store.dirIds s handle.id t)
      fun _ t => t = s) : r.Balances := by
  intro x fails leaks h
  rw [hperform]
  refine leads_bind (leads_traced (leads_request ((hop x.now _ h.consistent).mono ?_ ?_)))
  · rintro handle t ⟨ht, hopens⟩
    -- until it has a descriptor, the new handle counts as leaked
    have hopened : (x.replied t).Balanced fails { leaks with files := handle.id :: leaks.files } :=
      (Holds.opened h ht hopens).perm List.perm_middle
    refine leads_bind ((installFile_balances hopened).mono (fun _ _ hy => leads_pure hy) ?_)
    rintro fault y ⟨hfull, hy⟩
    rw [Session.leaked, hfull, if_pos rfl, if_neg hname, h.schedule, ← hopens.next]
    exact hy
  · rintro e _ rfl
    rw [x.leaked_of_not_full rfl, Leaks.append_empty]
    exact h.refused

theorem openDir_balances (path : String) : (openDir path).Balances := by
  intro x fails leaks h
  have hname : (openDir path).builtin.synopsis.name = Builtin.openDir.synopsis.name := rfl
  refine leads_bind (leads_traced (leads_request
    ((Store.openDir_opens h.consistent path).mono ?_ ?_)))
  · rintro handle t ⟨ht, hopens⟩
    have hopened : (x.replied t).Balanced fails { leaks with dirs := handle.id :: leaks.dirs } :=
      ((Holds.opened h.swap ht hopens).perm List.perm_middle).swap
    refine leads_bind ((installDir_balances hopened).mono (fun _ _ hy => leads_pure hy) ?_)
    rintro fault y ⟨hfull, hy⟩
    rw [Session.leaked, hfull, if_pos rfl, if_pos hname, h.schedule, ← hopens.next]
    exact hy
  · rintro e _ rfl
    rw [x.leaked_of_not_full rfl, Leaks.append_empty]
    exact h.refused

/-- **A request leaks nothing but what it is charged with.** -/
theorem perform_balances (r : Request) : r.Balances := by
  cases r with
  | create path mode =>
    exact balances_of_opens_file rfl (by simp [builtin, Builtin.synopsis]) fun _ _ h =>
      Store.create_opens h path _
  | openFile path flags =>
    exact balances_of_opens_file rfl (by simp [builtin, Builtin.synopsis]) fun _ _ h =>
      Store.openFile_opens h path _
  | openDir path => exact openDir_balances path
  | close fd =>
    exact balances_of_steady ((steady_closeFile fd).traced.bind fun _ => steady_pure _)
  | closeDir fd =>
    exact balances_of_steady ((steady_closeDir fd).traced.bind fun _ => steady_pure _)
  | read fd offset count =>
    refine balances_of_steady (steady_fileAt_bind fun x fails leaks handle h hget =>
      leads_traced ?_)
    exact steadyAt_seeking (fun a : ByteArray × FileHandle => .data a.1)
      (fun handle _ _ hs => Store.read_moves hs handle count) h hget
  | write fd offset count text =>
    refine balances_of_steady (steady_fileAt_bind fun x fails leaks handle h hget =>
      leads_traced ?_)
    exact steadyAt_seeking (fun _ => .count count)
      (fun handle _ _ hs => Store.write_moves hs handle _) h hget
  | readDir fd count =>
    refine balances_of_steady fun x fails leaks h =>
      leads_bind (leads_dirAt (fun handle hget => leads_traced ?_) ⟨rfl, h⟩)
    exact steadyAt_listing (fun entries => .listing entries.length (entries.map DirEntry.line)) h
      hget
  | sync fd =>
    exact balances_of_steady (steady_fileAt_bind fun _ _ _ handle h _ =>
      steady_silently _ _ (fun _ _ hs => (Store.sync_inquires handle).sparesHandles hs) h)
  | truncateOpen fd size =>
    exact balances_of_steady (steady_fileAt_bind fun _ _ _ handle h _ =>
      steady_silently _ _ (fun _ _ hs => (Store.truncateOpen_transacts handle size).sparesHandles hs
        (Store.truncateOpen_keepsHandles handle size)) h)
  | mkdir path mode =>
    exact balances_of_steady (steady_silently _ _ fun _ _ h =>
      (Store.mkdir_isQuiet path _).sparesHandles h (Store.mkdir_transacts path _))
  | rmdir path =>
    exact balances_of_steady (steady_silently _ _ fun _ _ h =>
      (Store.rmdir_isQuiet path).sparesHandles h (Store.rmdir_transacts path))
  | access path mode =>
    exact balances_of_steady (steady_silently _ _ fun _ _ h =>
      (Store.access_inquires path _).sparesHandles h)
  | chmod path mode =>
    exact balances_of_steady (steady_silently _ _ fun _ _ h =>
      (Store.chmod_isQuiet path _).sparesHandles h (Store.chmod_transacts path _))
  | chown path uid =>
    exact balances_of_steady (steady_silently _ _ fun _ _ h =>
      (Store.chown_isQuiet path uid).sparesHandles h (Store.chown_transacts path uid))
  | stat path =>
    exact balances_of_steady ((steady_request fun _ _ h =>
      (Store.stat_inquires path).sparesHandles h).traced.bind fun _ => steady_pure _)
  | truncate path size =>
    exact balances_of_steady (steady_silently _ _ fun _ _ h =>
      (Store.truncate_transacts path size).sparesHandles h (Store.truncate_keepsHandles path size))
  | unlink path =>
    exact balances_of_steady (steady_silently _ _ fun _ _ h =>
      (Store.unlink_isQuiet path).sparesHandles h (Store.unlink_transacts h path))
  | rename source target =>
    exact balances_of_steady (steady_silently _ _ fun _ _ h =>
      (Store.rename_isQuiet h source target).sparesHandles h
        (Store.rename_transacts h source target))
  | utime path accessed modified =>
    exact balances_of_steady (steady_silently _ _ fun _ _ h =>
      (Store.utime_isQuiet path _ _).sparesHandles h (Store.utime_transacts path _ _))
  | getXattr path name =>
    exact balances_of_steady ((steady_fetch _ fun _ buffer =>
      Store.getXattr_inquires path name buffer).bind fun _ => steady_pure _)
  | setXattr path name flags value =>
    exact balances_of_steady (steady_silently _ _ fun _ _ h =>
      (Store.setXattr_isQuiet path name _ _).sparesHandles h
        (Store.setXattr_transacts path name _ _))
  | removeXattr path name =>
    exact balances_of_steady (steady_silently _ _ fun _ _ h =>
      (Store.removeXattr_isQuiet path name).sparesHandles h (Store.removeXattr_transacts path name))
  | listXattr path =>
    exact balances_of_steady ((steady_fetch _ fun _ buffer =>
      Store.listXattr_inquires path buffer).bind fun _ => steady_pure _)
  | shell command => exact balances_of_steady (steady_runShell command)

/-! ### Arguments -/

/-- Reading arguments does not fail for want of a descriptor. -/
def Roomy {α : Type} (result : Except Fault α) : Prop :=
  ∀ fault, result = .error fault → fault.isFull = false

section Roomy

variable {α β : Type} {result : Except Fault α} {next : α → Except Fault β}

theorem roomy_pure (a : α) : Roomy (pure a) := fun _ h => nomatch h

theorem roomy_error_iff {fault : Fault} :
    Roomy (.error fault : Except Fault α) ↔ fault.isFull = false := by
  constructor
  · exact fun h => h fault rfl
  · rintro h _ ⟨⟩
    exact h

theorem roomy_bind_iff :
    Roomy (result >>= next) ↔ Roomy result ∧ ∀ a, result = .ok a → Roomy (next a) := by
  cases result with
  | ok a =>
    refine ⟨fun h => ⟨roomy_pure a, ?_⟩, fun h => h.2 a rfl⟩
    rintro _ ⟨⟩
    exact h
  | error fault =>
    refine ⟨fun h => ⟨?_, fun _ ha => nomatch ha⟩, fun h => ?_⟩
    · exact roomy_error_iff.mpr (roomy_error_iff.mp h)
    · exact roomy_error_iff.mpr (roomy_error_iff.mp h.1)

theorem roomy_number (token : String) : Roomy (number token) := by
  unfold number
  split
  · exact roomy_pure _
  · exact roomy_error_iff.mpr rfl

theorem roomy_mode (token : String) : Roomy (mode token) := by
  unfold mode
  split
  · exact roomy_pure _
  · exact roomy_error_iff.mpr rfl

theorem roomy_accessMode (token : String) : Roomy (accessMode token) := by
  unfold accessMode
  rw [roomy_bind_iff]
  refine ⟨roomy_mode token, fun n _ => ?_⟩
  split
  · exact roomy_pure _
  · exact roomy_error_iff.mpr rfl

theorem roomy_checkLength (text : String) (count : Nat) : Roomy (checkLength text count) := by
  unfold checkLength
  split
  · exact roomy_pure _
  · exact roomy_error_iff.mpr rfl

theorem roomy_ofArgs (b : Builtin) (args : List String) : Roomy (ofArgs b args) := by
  unfold ofArgs
  split
  case h_26 => exact roomy_error_iff.mpr rfl
  all_goals simp only [roomy_bind_iff, roomy_pure, roomy_number, roomy_mode, roomy_accessMode,
    roomy_checkLength, implies_true, and_self]

end Roomy

end Request

/-- **A statement leaks nothing but what it is charged with.** -/
theorem execute_balances {x : Session} {fails : Nat → Bool} {leaks : Leaks}
    (h : x.Balanced fails leaks) (s : Statement) :
    Leads (Builtin.registry.execute s) x (fun _ y => y.Balanced fails leaks) fun fault y =>
      y.Balanced fails (leaks ++ x.leaked s.command (.error fault)) := by
  have hkept (fault : Fault) (hfault : fault.isFull = false) :
      x.Balanced fails (leaks ++ x.leaked s.command (.error fault)) := by
    rwa [x.leaked_of_not_full hfault, Leaks.append_empty]
  unfold Registry.execute
  split
  · exact leads_throw (hkept _ rfl)
  · next c hc =>
    obtain ⟨b, hname, rfl⟩ := Builtin.exists_of_get? hc
    split
    · refine leads_bind (leads_ofExcept (fun r hr => ?_) fun fault hfault =>
        hkept fault (Request.roomy_ofArgs b s.args fault hfault))
      rw [← hname, ← Request.builtin_of_ofArgs hr]
      exact r.perform_balances h
    · exact leads_throw (hkept _ rfl)

end FileScript
