import FileScript.Proofs.DescriptorTables
import FileScript.Proofs.Frames
import FileScript.Proofs.Sessions

/-!
# Opening and closing handles

Which handles are open in a store before and after one is opened or closed, and which remain when
handles are closed one after the other on a volume where closing may fail at any count of requests:
exactly those whose close failed (`unclosed`). Files and directories are handles of two sorts, and
to open or close one of a sort does not concern the other sort.
-/

namespace FileScript

/-! ## Open handles by number -/

section Keys

variable {V : Type} {handles : Std.TreeMap Nat V} {id : Nat}

theorem mem_keys_iff : id ∈ handles.keys ↔ ∃ v, handles[id]? = some v := by
  rw [Std.TreeMap.mem_keys, Std.TreeMap.mem_iff_isSome_getElem?, Option.isSome_iff_exists]

/-- A new number joins those that there are. -/
theorem keys_insert_perm (hfresh : handles[id]? = none) (v : V) :
    (handles.insert id v).keys.Perm (id :: handles.keys) := by
  have hnew : id ∉ handles.keys := fun hmem => by
    obtain ⟨v, hv⟩ := mem_keys_iff.mp hmem
    rw [hfresh] at hv
    cases hv
  refine (List.perm_ext_iff_of_nodup Std.TreeMap.nodup_keys
    (List.nodup_cons.mpr ⟨hnew, Std.TreeMap.nodup_keys⟩)).mpr fun other => ?_
  rw [Std.TreeMap.mem_keys, Std.TreeMap.mem_insert, List.mem_cons, Std.TreeMap.mem_keys,
    compare_eq_iff_eq, eq_comm]

/-- A number that goes leaves the others. -/
theorem keys_erase_perm (hmem : id ∈ handles.keys) :
    handles.keys.Perm (id :: (handles.erase id).keys) := by
  have hgone : id ∉ (handles.erase id).keys := by simp
  refine (List.perm_ext_iff_of_nodup Std.TreeMap.nodup_keys
    (List.nodup_cons.mpr ⟨hgone, Std.TreeMap.nodup_keys⟩)).mpr fun other => ?_
  rw [List.mem_cons, Std.TreeMap.mem_keys, Std.TreeMap.mem_keys, Std.TreeMap.mem_erase, ne_eq,
    compare_eq_iff_eq]
  rw [Std.TreeMap.mem_keys] at hmem
  by_cases he : other = id
  · simp [he, hmem]
  · simp [he, Ne.symm he]

end Keys

namespace Store

variable {s mid t : Store} {now : Timespec}

/-- The numbers of the open file handles. -/
def fileIds (s : Store) : List Nat := s.openFiles.keys

/-- The numbers of the open directory handles. -/
def dirIds (s : Store) : List Nat := s.openDirs.keys

theorem openHandleCount_eq (s : Store) :
    s.openHandleCount = s.fileIds.length + s.dirIds.length := by
  rw [openHandleCount, fileIds, dirIds, Std.TreeMap.length_keys, Std.TreeMap.length_keys]

/-! ### Opening -/

/-- The store `t` is the store `s` after a handle of a sort was opened. -/
structure Opens (ids others : Store → List Nat) (s : Store) (id : Nat) (t : Store) : Prop where
  next : id = s.nextHandle
  ids : (ids t).Perm (id :: ids s)
  others : others t = others s

theorem registerFile_opens (h : s.Consistent) (hkeeps : KeepsHandles s mid) {ino : Nat}
    {flags : OpenFlags} {handle : FileHandle} (hopen : mid.registerFile ino flags = (handle, t)) :
    Opens fileIds dirIds s handle.id t := by
  cases hopen
  have hfresh : mid.openFiles[mid.nextHandle]? = none := by
    rw [hkeeps.openFiles, hkeeps.nextHandle]
    exact Option.eq_none_iff_forall_ne_some.mpr fun _ hid => lt_irrefl _ (h.file_lt hid)
  refine ⟨hkeeps.nextHandle, ?_, hkeeps.openDirs⟩
  rw [fileIds, fileIds, ← hkeeps.openFiles]
  exact keys_insert_perm hfresh ino

theorem create_opens (h : s.Consistent) (path : String) (mode : UInt32) :
    Ends (create now path mode) s
      (fun handle t => t.Consistent ∧ Opens fileIds dirIds s handle.id t) fun _ t => t = s := by
  refine ((create_transacts h path mode).and (create_ends path mode)).mono ?_ fun _ _ h => h.1
  rintro handle t ⟨hchanges, -, -, hopen⟩
  exact ⟨hchanges.consistent h, registerFile_opens h (.link s now _ _ mode) hopen⟩

theorem openFile_opens (h : s.Consistent) (path : String) (flags : OpenFlags) :
    Ends (openFile now path flags) s
      (fun handle t => t.Consistent ∧ Opens fileIds dirIds s handle.id t) fun _ t => t = s := by
  refine ((openFile_transacts h path flags).and (openFile_ends h path flags)).mono ?_
    fun _ _ h => h.1
  rintro handle t ⟨hchanges, mid, ino, i, hloc, hi, hkind, hopen⟩
  have hkeeps := hloc.keepsHandles.trans (alike_prepared now flags hi hkind).keepsHandles
  exact ⟨hchanges.consistent h, registerFile_opens h hkeeps hopen⟩

theorem openDir_opens (h : s.Consistent) (path : String) :
    Ends (openDir path) s
      (fun handle t => t.Consistent ∧ Opens dirIds fileIds s handle.id t) fun _ t => t = s := by
  have htransacts : Transacts {} (openDir path) s := openDir_transacts path
  refine (htransacts.and (openDir_ends path)).mono ?_ fun _ _ h => h.1
  rintro handle t ⟨hchanges, ino, i, -, -, -, hopen⟩
  cases hopen
  have hfresh : s.openDirs[s.nextHandle]? = none :=
    Option.eq_none_iff_forall_ne_some.mpr fun _ hid => lt_irrefl _ (h.dir_lt hid)
  exact ⟨hchanges.consistent h, rfl, keys_insert_perm hfresh _, rfl⟩

/-! ### Closing -/

/-- An open file handle can be closed, and no other handle is closed with it. -/
theorem close_of_open (h : s.Consistent) {handle : FileHandle} (hopen : handle.id ∈ s.fileIds) :
    ∃ t, close handle s = .ok () t ∧ t.Consistent ∧
      s.fileIds.Perm (handle.id :: t.fileIds) ∧ t.dirIds = s.dirIds := by
  obtain ⟨ino, hino⟩ := mem_keys_iff.mp hopen
  have hframe := SameFrame.releaseIfOrphaned { s with openFiles := s.openFiles.erase handle.id } ino
  refine ⟨_, ?_, h.closeFile hino, ?_, ?_⟩
  · unfold close
    rw [ask_bind, fileInode_eq_ok_iff.mpr hino]
    rfl
  · rw [fileIds, fileIds, hframe.openFiles]
    exact keys_erase_perm hopen
  · rw [dirIds, hframe.openDirs, dirIds]

theorem get_bind {α : Type} (next : Store → Update α) (s : Store) :
    (get >>= next : Update α) s = next s s := rfl

/-- An open directory handle can be closed, and no other handle is closed with it. -/
theorem closeDir_of_open (h : s.Consistent) {handle : DirHandle} (hopen : handle.id ∈ s.dirIds) :
    ∃ t, closeDir handle s = .ok () t ∧ t.Consistent ∧
      s.dirIds.Perm (handle.id :: t.dirIds) ∧ t.fileIds = s.fileIds := by
  obtain ⟨dir, hdir⟩ := mem_keys_iff.mp hopen
  have hframe := SameFrame.releaseIfOrphaned { s with openDirs := s.openDirs.erase handle.id }
    dir.inode
  refine ⟨_, ?_, h.closeDir hdir, ?_, ?_⟩
  · unfold closeDir
    rw [get_bind, hdir]
    rfl
  · rw [dirIds, dirIds, hframe.openDirs]
    exact keys_erase_perm hopen
  · rw [fileIds, hframe.openFiles, fileIds]

end Store

/-! ## Closing on a volume -/

/-- Those of some handles that remain when they are closed one after the other from a count of
requests on. -/
def unclosed (fails : Nat → Bool) : Nat → List Nat → List Nat
  | _, [] => []
  | count, id :: ids =>
    if fails count then id :: unclosed fails (count + 1) ids else unclosed fails (count + 1) ids

theorem unclosed_singleton (fails : Nat → Bool) (count id : Nat) :
    unclosed fails count [id] = if fails count then [id] else [] := rfl

theorem unclosed_eq_nil {fails : Nat → Bool} (h : ∀ count, fails count = false) (count : Nat)
    (ids : List Nat) : unclosed fails count ids = [] := by
  induction ids generalizing count with
  | nil => rfl
  | cons id ids ih => rw [unclosed, if_neg (by rw [h]; exact Bool.false_ne_true), ih]

namespace Volume

variable {H : Type} {fails : Nat → Bool} {ids others : Store → List Nat} {v : Volume}
  {mine theirs : List Nat}

/-- The volume after a request that has left the store as it is now. -/
def replied (v : Volume) (store : Store) : Volume := { v with store, requests := v.requests + 1 }

/-- The handles of a sort and of the other that are open on a volume where closing fails at certain
counts of requests. -/
structure Holds (fails : Nat → Bool) (ids others : Store → List Nat) (v : Volume)
    (mine theirs : List Nat) : Prop where
  consistent : v.store.Consistent
  schedule : v.failsCloseAt = fails
  mine : mine.Perm (ids v.store)
  theirs : theirs.Perm (others v.store)

theorem Holds.swap (h : Holds fails ids others v mine theirs) :
    Holds fails others ids v theirs mine := ⟨h.consistent, h.schedule, h.theirs, h.mine⟩

theorem Holds.perm (h : Holds fails ids others v mine theirs) {mine' : List Nat}
    (hperm : mine'.Perm mine) : Holds fails ids others v mine' theirs :=
  { h with mine := hperm.trans h.mine }

theorem Holds.opened (h : Holds fails ids others v mine theirs) {id : Nat} {t : Store}
    (ht : t.Consistent) (hopens : Store.Opens ids others v.store id t) :
    Holds fails ids others (v.replied t) (id :: mine) theirs where
  consistent := ht
  schedule := h.schedule
  mine := (h.mine.cons id).trans hopens.ids.symm
  theirs := h.theirs.trans (.of_eq hopens.others.symm)

/-- How handles of a sort are closed: a handle that is open is closed, and no other handle of this
or the other sort is closed with it. -/
def Closes (close : H → Store.Update Unit) (id : H → Nat) (ids others : Store → List Nat) : Prop :=
  ∀ ⦃s : Store⦄ ⦃handle : H⦄, s.Consistent → id handle ∈ ids s →
    ∃ t, close handle s = .ok () t ∧ t.Consistent ∧ (ids s).Perm (id handle :: ids t) ∧
      others t = others s

theorem closes_close : Closes Store.close FileHandle.id Store.fileIds Store.dirIds :=
  fun _ _ h hopen => Store.close_of_open h hopen

theorem closes_closeDir : Closes Store.closeDir DirHandle.id Store.dirIds Store.fileIds :=
  fun _ _ h hopen => Store.closeDir_of_open h hopen

/-- Makes one request to close each of some handles, and counts those that fail. -/
def closeEach (close : H → Store.Update Unit) (v : Volume) : List H → Nat × Volume
  | [] => (0, v)
  | handle :: handles =>
    match v.requestClose (close handle) with
    | (.ok (), w) => closeEach close w handles
    | (.error _, w) => ((closeEach close w handles).1 + 1, (closeEach close w handles).2)

section Closes

variable {close : H → Store.Update Unit} {id : H → Nat} (hcloses : Closes close id ids others)

include hcloses

/-- A request to close an open handle closes it, unless it was made to fail. -/
theorem Holds.requestClose {handle : H}
    (h : Holds fails ids others v (id handle :: mine) theirs) :
    ∃ w, v.requestClose (close handle) =
        (if fails v.requests then .error .inputOutput else .ok (), w) ∧
      w.requests = v.requests + 1 ∧
      Holds fails ids others w (unclosed fails v.requests [id handle] ++ mine) theirs := by
  unfold Volume.requestClose
  rw [h.schedule, unclosed_singleton]
  cases hfails : fails v.requests with
  | true => exact ⟨v.replied v.store, rfl, rfl, h.consistent, h.schedule, h.mine, h.theirs⟩
  | false =>
    obtain ⟨t, hclose, ht, hids, hothers⟩ :=
      hcloses h.consistent (h.mine.mem_iff.mp List.mem_cons_self)
    refine ⟨v.replied t, by rw [if_neg Bool.false_ne_true, request, hclose]; rfl, rfl, ht,
      h.schedule, ?_, h.theirs.trans (.of_eq hothers.symm)⟩
    exact (h.mine.trans hids).cons_inv

/-- **Of handles that are closed one after the other those remain whose close failed.** -/
theorem Holds.closeEach {handles : List H}
    (h : Holds fails ids others v (handles.map id ++ mine) theirs) :
    (closeEach close v handles).1 = (unclosed fails v.requests (handles.map id)).length ∧
      (closeEach close v handles).2.requests = v.requests + handles.length ∧
      Holds fails ids others (closeEach close v handles).2
        (unclosed fails v.requests (handles.map id) ++ mine) theirs := by
  induction handles generalizing v mine with
  | nil => exact ⟨rfl, rfl, h⟩
  | cons handle handles ih =>
    rw [List.map_cons, List.cons_append] at h
    obtain ⟨w, hrequest, hw, hholds⟩ := h.requestClose hcloses
    rw [Volume.closeEach, hrequest, List.map_cons, unclosed, ← hw, List.length_cons,
      ← Nat.succ_add_eq_add_succ, Nat.succ_eq_add_one, ← hw]
    rw [unclosed_singleton] at hholds
    cases hfails : fails v.requests with
    | true =>
      -- the handle remains, and is one of the others from here on
      rw [hfails] at hholds
      obtain ⟨hcount, hrequests, hclosed⟩ := ih (hholds.perm List.perm_middle)
      exact ⟨congrArg (· + 1) hcount, hrequests, hclosed.perm List.perm_middle.symm⟩
    | false =>
      rw [hfails] at hholds
      exact ih hholds

end Closes

end Volume

/-! ## Closing in sessions -/

namespace Session

/-- The session after all handles have been closed as far as possible. -/
def tornDown (s : Session) : Session where
  volume := ((s.volume.closeEach Store.close s.files.handles).2.closeEach Store.closeDir
    s.dirs.handles).2
  files := s.files.clear
  dirs := s.dirs.clear
  maxArgs := s.maxArgs
  allowShell := s.allowShell

/-- How many closes fail in a teardown. -/
def failedCloses (s : Session) : Nat :=
  (s.volume.closeEach Store.close s.files.handles).1 +
    ((s.volume.closeEach Store.close s.files.handles).2.closeEach Store.closeDir s.dirs.handles).1

end Session

namespace Action

variable {H : Type}

section Closes

variable {close : H → Store.Update Unit} {id : H → Nat} {ids others : Store → List Nat}
  (hcloses : Volume.Closes close id ids others) {fails : Nat → Bool} {s : Session}
  {mine theirs : List Nat} {bad : Fault → Session → Prop}

include hcloses

theorem leads_closing {handle : H}
    (h : Volume.Holds fails ids others s.volume (id handle :: mine) theirs) :
    Leads (settle (·.requestClose (close handle))) s
      (fun result t => ∃ w, t = { s with volume := w } ∧
        result = (if fails s.volume.requests then .error .inputOutput else .ok ()) ∧
        Volume.Holds fails ids others w (unclosed fails s.volume.requests [id handle] ++ mine)
          theirs)
      bad := by
  obtain ⟨w, hrequest, -, hholds⟩ := h.requestClose hcloses
  refine leads_settle ⟨w, ?_, ?_, hholds⟩ <;> rw [hrequest]

/-- To close a handle of a table either frees its descriptor or changes nothing in the table. -/
theorem leads_release_holds {table : DescriptorTable H} {fd : Nat}
    (h : Volume.Holds fails ids others s.volume (table.handles.map id ++ mine) theirs) :
    Leads (table.release fd fun handle => settle (·.requestClose (close handle))) s
      (fun result t => ∃ w, t = { s with volume := w } ∧ match result with
        | .ok rest => Volume.Holds fails ids others w (rest.handles.map id ++ mine) theirs
        | .error fault => fault.isFull = false ∧
          Volume.Holds fails ids others w (table.handles.map id ++ mine) theirs)
      bad := by
  refine leads_release (fun handle hget => ?_) ⟨s.volume, rfl, rfl, h⟩
  have hids : (table.handles.map id ++ mine).Perm
      (id handle :: ((table.erase fd).handles.map id ++ mine)) :=
    ((DescriptorTable.handles_erase hget).map id).append_right mine
  refine (leads_closing hcloses (h.perm hids.symm)).mono ?_ fun _ _ h => h
  rintro result t ⟨w, rfl, hresult, hholds⟩
  rw [unclosed_singleton] at hholds
  cases hfails : fails s.volume.requests with
  | true =>
    rw [hfails] at hresult hholds
    rw [hresult]
    exact ⟨w, rfl, rfl, hholds.perm hids⟩
  | false =>
    rw [hfails] at hresult hholds
    rw [hresult]
    exact ⟨w, rfl, hholds⟩

end Closes

/-- The handles of the entries of a table are closed one after the other. -/
theorem leads_foldlM_closing (close : H → Store.Update Unit) {step : Nat → Nat × H → Action Nat}
    (hstep : ∀ failures entry s, Leads (step failures entry) s
      (fun after t => t = { s with volume := (s.volume.requestClose (close entry.2)).2 } ∧
        after = match (s.volume.requestClose (close entry.2)).1 with
          | .ok () => failures
          | .error _ => failures + 1)
      fun _ _ => False) (entries : List (Nat × H)) (before : Nat) (s : Session) :
    Leads (entries.foldlM step before) s
      (fun failures t =>
        failures = before + (s.volume.closeEach close (entries.map Prod.snd)).1 ∧
          t = { s with volume := (s.volume.closeEach close (entries.map Prod.snd)).2 })
      fun _ _ => False := by
  induction entries generalizing before s with
  | nil => exact leads_pure ⟨rfl, rfl⟩
  | cons entry entries ih =>
    rw [List.foldlM_cons, List.map_cons, Volume.closeEach]
    refine leads_bind ((hstep before entry s).mono ?_ fun _ _ h => h)
    rintro after t ⟨rfl, hafter⟩
    refine (ih after _).mono ?_ fun _ _ h => h
    rintro failures t ⟨rfl, rfl⟩
    cases hresult : s.volume.requestClose (close entry.2) with
    | mk result w =>
      rw [hresult] at hafter
      cases result with
      | ok => exact ⟨by rw [hafter], rfl⟩
      | error e => exact ⟨by rw [hafter, Nat.add_right_comm, Nat.add_assoc], rfl⟩

/-- All handles of a table are closed one after the other. -/
theorem leads_closeAll (close : H → Store.Update Unit) (table : DescriptorTable H) (s : Session) :
    Leads (table.closeAll fun handle => settle (·.requestClose (close handle))) s
      (fun failures t => failures = (s.volume.closeEach close table.handles).1 ∧
        t = { s with volume := (s.volume.closeEach close table.handles).2 })
      fun _ _ => False := by
  unfold DescriptorTable.closeAll
  rw [← table.map_snd_entries]
  refine (leads_foldlM_closing close ?_ table.entries 0 s).mono ?_ fun _ _ h => h
  · rintro failures ⟨index, handle⟩ s
    refine leads_bind (leads_settle ?_)
    split
    · next heq => exact leads_pure ⟨rfl, by rw [heq]⟩
    · next e heq => exact leads_bind (leads_report (leads_pure ⟨rfl, by rw [heq]⟩))
  · rintro failures t ⟨hfailures, ht⟩
    exact ⟨by rw [hfailures, Nat.zero_add], ht⟩

theorem leads_teardown (s : Session) :
    Leads teardown s (fun failures t => failures = s.failedCloses ∧ t = s.tornDown)
      fun _ _ => False := by
  unfold teardown
  refine leads_bind (leads_session ?_)
  refine leads_bind ((leads_closeAll Store.close s.files s).mono ?_ fun _ _ h => h)
  rintro ofFiles t ⟨rfl, rfl⟩
  refine leads_bind (leads_modifySession (leads_bind (leads_session ?_)))
  refine leads_bind ((leads_closeAll Store.closeDir s.dirs _).mono ?_ fun _ _ h => h)
  rintro ofDirs t ⟨rfl, rfl⟩
  refine leads_bind (leads_modifySession ?_)
  dsimp only
  split
  · exact leads_bind (leads_report (leads_pure ⟨rfl, rfl⟩))
  · exact leads_pure ⟨rfl, rfl⟩

end Action

end FileScript
