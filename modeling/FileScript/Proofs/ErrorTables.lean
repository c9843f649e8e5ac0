import FileScript.Proofs.FileArrays
import FileScript.Proofs.OpenDirectories
import FileScript.Proofs.Refusals
import FileScript.Proofs.Resolution

/-!
# The errors of each request

A request fails with one of a few errors, which are told by its kind (`Operation.errors`). What is
not in this table cannot happen (`Store.Consistent.error_mem`): no request finds that an inode is
missing behind a name or an open handle, and no request through a file handle finds a directory
there.
-/

namespace FileScript

namespace Operation

/-- The errors of looking for something at a path. -/
def lookupErrors : List Errno := [.notFound, .notADirectory]

/-- The errors of looking for a place at which something is to be made. -/
def placementErrors : List Errno := .nameTooLong :: lookupErrors

/-- The errors with which a request can fail. -/
def errors : Operation → List Errno
  | openFile .. =>
    .invalidArgument :: .alreadyExists :: .isADirectory :: .permissionDenied :: placementErrors
  | create .. | mkdir .. => .alreadyExists :: placementErrors
  | close .. | seek .. | read .. | sync .. | closeDir .. | readDir .. => [.badDescriptor]
  | write .. => [.badDescriptor, .fileTooLarge]
  | truncateOpen .. => [.badDescriptor, .invalidArgument, .fileTooLarge]
  | openDir .. | access .. => .permissionDenied :: lookupErrors
  | rmdir .. => .busy :: .notEmpty :: lookupErrors
  | stat .. | chmod .. | chown .. | utime .. => lookupErrors
  | truncate .. => .isADirectory :: .permissionDenied :: .fileTooLarge :: lookupErrors
  | unlink .. => .isADirectory :: lookupErrors
  | rename .. => .busy :: .invalidArgument :: .isADirectory :: .notEmpty :: placementErrors
  | getXattr .. => .noData :: .outOfRange :: lookupErrors
  | setXattr .. => .invalidArgument :: .outOfRange :: .alreadyExists :: .noData :: lookupErrors
  | removeXattr .. => .noData :: lookupErrors
  | listXattr .. => .outOfRange :: lookupErrors

theorem inputOutput_not_mem_errors (op : Operation) : .inputOutput ∉ op.errors := by
  cases op <;> simp only [errors] <;> decide

theorem isADirectory_not_mem_errors {op : Operation} {handle : FileHandle}
    (h : op.lent = some (.file handle)) : .isADirectory ∉ op.errors := by
  cases op with
  | close | seek | read | write | truncateOpen | sync => simp only [errors]; decide
  | _ => cases h

end Operation

namespace Store

open Operation

variable {s : Store} {now : Timespec}

/-- A computation fails with one of these errors, if it fails. -/
abbrev FailsWithin {α : Type} (act : Update α) (s : Store) (errors : List Errno) : Prop :=
  Ends act s (fun _ _ => True) fun e _ => e ∈ errors

/-! ## Questions -/

theorem missing_mem (s : Store) (key : String) : s.missing key ∈ lookupErrors := by
  rcases s.missing_cases key with ⟨h, -⟩ | ⟨h, -⟩ <;> rw [h] <;> decide

theorem resolve_error_mem {path : String} {e : Errno} (h : s.resolve path = .error e) :
    e ∈ lookupErrors := by
  unfold resolve at h
  dsimp only at h
  split at h
  · cases h
  · cases h
    exact s.missing_mem _

theorem checkParent_error_mem {key : String} {e : Errno} (h : s.checkParent key = .error e) :
    e ∈ placementErrors := by
  unfold checkParent at h
  split at h
  · cases h
    decide
  · split at h
    · split at h
      · cases h
      · cases h
        decide
    · cases h
      exact List.mem_cons_of_mem _ (s.missing_mem key)

theorem copyOut_error_mem {source buffer : ByteArray} {e : Errno}
    (h : copyOut source buffer = .error e) : e = .outOfRange := by
  unfold copyOut at h
  split at h
  · cases h
  · split at h
    · cases h
      rfl
    · cases h

/-- What a path names has an inode, so that a request fails by looking it up or goes on with it. -/
theorem Sound.ends_lookup (h : s.Sound) {path : String} {good : String × Nat → Store → Prop}
    {errors : List Errno} (hsub : lookupErrors ⊆ errors)
    (hgood : ∀ ino i, s.names[Path.normalize path]? = some ino → s.inodes[ino]? = some i →
      good (Path.normalize path, ino) s) :
    Ends (ask (·.resolve path)) s good fun e _ => e ∈ errors := by
  refine Ends.ask_iff.mpr ⟨?_, fun e he => hsub (resolve_error_mem he)⟩
  rintro ⟨key, ino⟩ hplace
  obtain ⟨rfl, hino⟩ := resolve_eq_ok_iff.mp hplace
  obtain ⟨i, hi, -⟩ := h.inode_of_named hino
  exact hgood ino i hino hi

theorem Sound.failsWithin_lookup (h : s.Sound) {α : Type} {path : String}
    {next : String × Nat → Update α} {errors : List Errno} (hsub : lookupErrors ⊆ errors)
    (hnext : ∀ ino i, s.names[Path.normalize path]? = some ino → s.inodes[ino]? = some i →
      FailsWithin (next (Path.normalize path, ino)) s errors) :
    FailsWithin (ask (·.resolve path) >>= next) s errors :=
  Ends.bind_iff.mpr (h.ends_lookup hsub hnext)

/-- Behind an open handle there is a file, so that a request fails because the handle is not open or
goes on with the file. -/
theorem Sound.failsWithin_fileInode (h : s.Sound) {α : Type} {handle : FileHandle}
    {next : Nat → Update α} {errors : List Errno} (hmem : .badDescriptor ∈ errors)
    (hnext : ∀ ino i b, s.inodes[ino]? = some i → i.node = .file b →
      FailsWithin (next ino) s errors) :
    FailsWithin (ask (·.fileInode handle) >>= next) s errors := by
  refine Ends.bind_iff.mpr (ends_fileInode.mpr ⟨fun ino hino => ?_, fun _ => hmem⟩)
  obtain ⟨i, b, hi, hnode, -⟩ := h.file_of_open hino
  exact hnext ino i b hi hnode

/-! ## Files -/

theorem insertNode_fails (key : String) (node : Node) (mode : UInt32) :
    FailsWithin (insertNode now key node mode) s (.alreadyExists :: placementErrors) := by
  unfold insertNode
  simp only [Ends.bind_iff, Ends.get_iff, Ends.ite_iff, Ends.throw_iff, Ends.ask_iff,
    Ends.modifyGet_iff, implies_true, true_and]
  exact ⟨fun _ => List.mem_cons_self,
    fun _ e he => List.mem_cons_of_mem _ (checkParent_error_mem he)⟩

theorem locate_fails (key : String) (flags : OpenFlags) :
    FailsWithin (locate now key flags) s (.alreadyExists :: placementErrors) := by
  unfold locate
  rw [FailsWithin, Ends.bind_iff, Ends.get_iff]
  split
  · simp only [Ends.ite_iff, Ends.throw_iff, Ends.pure_iff, implies_true, and_true]
    exact fun _ => List.mem_cons_self
  · rw [Ends.ite_iff]
    refine ⟨fun _ => insertNode_fails key _ _, fun _ => ?_⟩
    exact List.mem_cons_of_mem _ (List.mem_cons_of_mem _ (s.missing_mem key))

theorem openFile_fails (h : s.Consistent) (path : String) (flags : OpenFlags) :
    FailsWithin (openFile now path flags) s (Operation.openFile path flags).errors := by
  simp only [Operation.errors]
  have hsub : .alreadyExists :: placementErrors ⊆
      .alreadyExists :: .isADirectory :: .permissionDenied :: placementErrors := by decide
  cases hvalid : flags.hasValidAccess with
  | false =>
    unfold openFile
    simp only [FailsWithin, Ends.bind_iff, Ends.ite_iff, Ends.throw_iff, hvalid,
      Bool.false_eq_true, false_implies, not_false_eq_true, forall_const, true_and]
    exact List.mem_cons_self
  | true =>
    refine openFile_ends_of_locate hvalid (((locate_ends _ flags).and (locate_fails _ flags)).mono
      ?_ fun _ _ he => List.mem_cons_of_mem _ (hsub he.2))
    rintro ino mid ⟨hloc, -⟩
    obtain ⟨i, hi, -⟩ := hloc.inode h
    refine ⟨i, hi, fun _ => ?_, fun _ => ?_⟩
    · decide
    · split
      · trivial
      · decide

theorem resizeInode_fails {ino : Nat} {i : Inode} {b : ByteArray} (hi : s.inodes[ino]? = some i)
    (hnode : i.node = .file b) (size : Nat) :
    FailsWithin (resizeInode now ino size) s [.fileTooLarge] :=
  (resizeInode_ends hi hnode size).mono (fun _ _ _ => trivial)
    fun _ _ he => List.mem_singleton.mpr he.2.2

theorem read_fails (h : s.Sound) (handle : FileHandle) (count : Nat) :
    FailsWithin (read handle count) s [.badDescriptor] := by
  unfold read
  refine h.failsWithin_fileInode (by decide) fun ino i b hi hnode => ?_
  simp only [Ends.bind_iff, Ends.ite_iff, Ends.throw_iff, Ends.pure_iff, ends_ask_inode hi, hnode]
  exact ⟨fun _ => trivial, fun _ => by decide⟩

theorem write_fails (h : s.Sound) (handle : FileHandle) (data : ByteArray) :
    FailsWithin (write now handle data) s [.badDescriptor, .fileTooLarge] := by
  unfold write
  refine h.failsWithin_fileInode (by decide) fun ino i b hi hnode => ?_
  simp only [Ends.bind_iff, Ends.ite_iff, Ends.throw_iff, Ends.pure_iff, Ends.modify_iff,
    ends_ask_inode hi, hnode, implies_true, true_and, and_true]
  exact ⟨fun _ _ _ => by decide, fun _ => by decide⟩

theorem truncateOpen_fails (h : s.Sound) (handle : FileHandle) (size : Nat) :
    FailsWithin (truncateOpen now handle size) s
      [.badDescriptor, .invalidArgument, .fileTooLarge] := by
  unfold truncateOpen
  refine h.failsWithin_fileInode (by decide) fun ino i b hi hnode => ?_
  simp only [Ends.bind_iff, Ends.ite_iff, Ends.throw_iff]
  refine ⟨fun _ => (resizeInode_fails hi hnode size).mono (fun _ _ _ => trivial) fun _ _ he => ?_,
    fun _ => by decide⟩
  exact List.mem_cons_of_mem _ (List.mem_cons_of_mem _ he)

theorem truncate_fails (h : s.Sound) (path : String) (size : Nat) :
    FailsWithin (truncate now path size) s (Operation.truncate path size).errors := by
  simp only [Operation.errors]
  unfold truncate
  refine h.failsWithin_lookup (by decide) fun ino i _ hi => ?_
  simp only [Ends.bind_iff, Ends.ite_iff, Ends.throw_iff, Ends.get_iff, ends_ask_inode hi]
  refine ⟨fun _ => by decide, fun hkind => ⟨fun _ => ?_, fun _ => by decide⟩⟩
  obtain ⟨b, hnode⟩ := exists_file_of_kind (kind_eq_file hkind)
  refine (resizeInode_fails hi hnode size).mono (fun _ _ _ => trivial) fun _ _ he => ?_
  rw [List.mem_singleton.mp he]
  decide

/-! ## Directories and names -/

theorem readDir_fails (h : s.Sound) (handle : DirHandle) (count : Nat) :
    FailsWithin (readDir handle count) s [.badDescriptor] := by
  cases hdir : s.openDirs[handle.id]? with
  | none =>
    unfold readDir
    rw [FailsWithin, Ends.bind_iff, Ends.get_iff, hdir]
    exact List.mem_singleton_self _
  | some dir => exact (readDir_ends h hdir count).mono (fun _ _ _ => trivial) fun _ _ h => h.elim

theorem openDir_fails (h : s.Sound) (path : String) :
    FailsWithin (openDir path) s (Operation.openDir path).errors := by
  simp only [Operation.errors]
  unfold openDir
  refine h.failsWithin_lookup (by decide) fun ino i _ hi => ?_
  simp only [Ends.bind_iff, Ends.ite_iff, Ends.throw_iff, Ends.get_iff, Ends.modifyGet_iff,
    ends_ask_inode hi, implies_true, true_and]
  exact ⟨fun _ => by decide, fun _ _ => by decide⟩

theorem unlinkName_fails {key : String} {ino : Nat} {i : Inode} (hino : s.names[key]? = some ino)
    (hi : s.inodes[ino]? = some i) (errors : List Errno) :
    FailsWithin (unlinkName now key) s errors :=
  (unlinkName_ends hino hi).mono (fun _ _ _ => trivial) fun _ _ h => h.elim

theorem rmdir_fails (h : s.Sound) (path : String) :
    FailsWithin (rmdir now path) s (Operation.rmdir path).errors := by
  simp only [Operation.errors]
  unfold rmdir
  refine h.failsWithin_lookup (by decide) fun ino i hino hi => ?_
  simp only [Ends.bind_iff, Ends.ite_iff, Ends.throw_iff, Ends.get_iff, ends_ask_inode hi]
  exact ⟨fun _ => by decide, fun _ => ⟨fun _ => by decide, fun _ =>
    ⟨fun _ => unlinkName_fails hino hi _, fun _ => by decide⟩⟩⟩

theorem unlink_fails (h : s.Sound) (path : String) :
    FailsWithin (unlink now path) s (Operation.unlink path).errors := by
  simp only [Operation.errors]
  unfold unlink
  refine h.failsWithin_lookup (by decide) fun ino i hino hi => ?_
  simp only [Ends.bind_iff, Ends.ite_iff, Ends.throw_iff, ends_ask_inode hi]
  exact ⟨fun _ => by decide, fun _ => unlinkName_fails hino hi _⟩

theorem checkReplace_error_mem {source target : Nat} {key : String} {i j : Inode} {e : Errno}
    (hi : s.inodes[source]? = some i) (hj : s.inodes[target]? = some j)
    (h : s.checkReplace source target key = .error e) :
    e ∈ [.notADirectory, .isADirectory, .notEmpty] := by
  unfold checkReplace at h
  simp only [inode_eq_ok_iff.mpr hi, inode_eq_ok_iff.mpr hj, bind, Except.bind] at h
  split at h
  · cases h
    decide
  · cases h
    decide
  · split at h
    · cases h
    · cases h
      decide
  · cases h

theorem vacate_fails (h : s.Sound) {source : Nat} {i : Inode} (hi : s.inodes[source]? = some i)
    (key : String) :
    FailsWithin (vacate now source key) s [.notADirectory, .isADirectory, .notEmpty] := by
  unfold vacate
  rw [FailsWithin, Ends.bind_iff, Ends.get_iff]
  split
  · trivial
  · next target htarget =>
    obtain ⟨j, hj, -⟩ := h.inode_of_named htarget
    rw [Ends.bind_iff, Ends.ask_iff]
    exact ⟨fun _ _ => unlinkName_fails htarget hj _, fun e he => checkReplace_error_mem hi hj he⟩

/-- A rename does not fail when it has begun. -/
theorem rename_fails (h : s.Consistent) (source target : String) :
    FailsWithin (rename now source target) s (Operation.rename source target).errors := by
  simp only [Operation.errors]
  have hplacement : placementErrors ⊆
      .busy :: .invalidArgument :: .isADirectory :: .notEmpty :: placementErrors := by decide
  have hreplacement : [.notADirectory, .isADirectory, .notEmpty] ⊆
      .busy :: .invalidArgument :: .isADirectory :: .notEmpty :: placementErrors := by decide
  unfold rename
  refine h.failsWithin_lookup (by decide) fun ino i hino hi => ?_
  simp only [Ends.bind_iff, Ends.ite_iff, Ends.throw_iff, Ends.pure_iff, Ends.ask_iff,
    Ends.modify_iff, implies_true, true_and]
  refine ⟨fun _ => by decide, fun _ hne => ⟨fun _ => by decide, fun _ =>
    ⟨fun _ _ => ?_, fun e he => hplacement (checkParent_error_mem he)⟩⟩⟩
  refine ((vacate_ends h hi).and (vacate_fails h.toSound hi _)).mono ?_
    fun _ _ he => hreplacement he.2
  rintro _ mid ⟨⟨-, hvacated⟩, -⟩ e he
  obtain ⟨j, hj⟩ := hvacated.inode_moved h hino hi hne
  replace he : (mid.moved now (Path.normalize source) (Path.normalize target)).inode ino =
    .error e := he
  rw [inode_eq_ok_iff.mpr hj] at he
  cases he

/-! ## Metadata and attributes -/

theorem stat_fails (h : s.Sound) (path : String) :
    FailsWithin (stat path) s lookupErrors := by
  unfold stat
  refine h.failsWithin_lookup (List.Subset.refl _) fun ino i _ hi => Ends.ask_iff.mpr ⟨?_, ?_⟩
  · exact fun _ _ => trivial
  · intro e he
    unfold attributes at he
    rw [inode_eq_ok_iff.mpr hi] at he
    cases he

theorem access_fails (h : s.Sound) (path : String) (wanted : UInt32) :
    FailsWithin (access path wanted) s (Operation.access path wanted).errors := by
  simp only [Operation.errors]
  unfold access
  refine h.failsWithin_lookup (by decide) fun ino i _ hi => ?_
  simp only [Ends.bind_iff, Ends.ite_iff, Ends.throw_iff, Ends.get_iff, Ends.pure_iff,
    ends_ask_inode hi, implies_true, true_and]
  exact fun _ => by decide

theorem changeInode_fails (h : s.Sound) (path : String) (f : Inode → Inode) :
    FailsWithin (changeInode now path f) s lookupErrors := by
  unfold changeInode
  refine h.failsWithin_lookup (List.Subset.refl _) fun ino i _ hi => ?_
  simp only [Ends.bind_iff, ends_ask_inode hi, Ends.modify_iff]

theorem getXattr_fails (h : s.Sound) (path name : String) (buffer : ByteArray) :
    FailsWithin (getXattr path name buffer) s (Operation.getXattr path name buffer).errors := by
  simp only [Operation.errors]
  unfold getXattr
  refine h.failsWithin_lookup (by decide) fun ino i _ hi => ?_
  dsimp only
  rw [FailsWithin, Ends.bind_iff, ends_ask_inode hi]
  split
  · rw [Ends.throw_iff]
    decide
  · refine Ends.ask_iff.mpr ⟨fun _ _ => trivial, fun e he => ?_⟩
    rw [copyOut_error_mem he]
    decide

theorem listXattr_fails (h : s.Sound) (path : String) (buffer : ByteArray) :
    FailsWithin (listXattr path buffer) s (Operation.listXattr path buffer).errors := by
  simp only [Operation.errors]
  unfold listXattr
  refine h.failsWithin_lookup (by decide) fun ino i _ hi => ?_
  dsimp only
  rw [FailsWithin, Ends.bind_iff, ends_ask_inode hi]
  refine Ends.ask_iff.mpr ⟨fun _ _ => trivial, fun e he => ?_⟩
  rw [copyOut_error_mem he]
  decide

theorem setXattr_fails (h : s.Sound) (path name : String) (value : ByteArray) (flags : XattrFlags) :
    FailsWithin (setXattr now path name value flags) s
      (Operation.setXattr path name value flags).errors := by
  simp only [Operation.errors]
  unfold setXattr
  simp only [FailsWithin, Ends.bind_iff, Ends.ite_iff, Ends.throw_iff, Ends.modify_iff]
  refine ⟨fun _ => by decide, fun _ => ⟨fun _ => by decide, fun _ => ⟨fun _ => ?_,
    fun _ => by decide⟩⟩⟩
  refine h.ends_lookup (by decide) fun ino i _ hi => ?_
  rw [ends_ask_inode hi]
  exact ⟨fun _ => by decide, fun _ => ⟨fun _ => by decide, fun _ => trivial⟩⟩

theorem removeXattr_fails (h : s.Sound) (path name : String) :
    FailsWithin (removeXattr now path name) s (Operation.removeXattr path name).errors := by
  simp only [Operation.errors]
  unfold removeXattr
  refine h.failsWithin_lookup (by decide) fun ino i _ hi => ?_
  simp only [Ends.bind_iff, Ends.ite_iff, Ends.throw_iff, Ends.modify_iff, ends_ask_inode hi,
    implies_true, true_and]
  exact fun _ => by decide

/-! ## All requests -/

/-- A request that fails does so with one of its errors, whatever it is asked through and about. -/
theorem perform_fails (h : s.Consistent) (now : Timespec) (op : Operation) :
    FailsWithin (op.perform now) s op.errors := by
  have hs := h.toSound
  cases op with
  | openFile path flags => exact Ends.map_iff.mpr (openFile_fails h path flags)
  | create path mode =>
    refine Ends.map_iff.mpr (Ends.bind_iff.mpr ?_)
    exact insertNode_fails _ _ mode
  | close handle =>
    refine Ends.bind_iff.mpr ?_
    unfold close
    exact hs.failsWithin_fileInode (List.mem_singleton_self _) fun _ _ _ _ _ => trivial
  | seek handle offset =>
    refine Ends.map_iff.mpr ?_
    unfold seek
    exact hs.failsWithin_fileInode (List.mem_singleton_self _) fun _ _ _ _ _ => trivial
  | read handle count => exact Ends.bind_iff.mpr (read_fails hs handle count)
  | write handle data => exact Ends.map_iff.mpr (write_fails hs handle data)
  | truncateOpen handle size => exact Ends.bind_iff.mpr (truncateOpen_fails hs handle size)
  | sync handle =>
    refine Ends.bind_iff.mpr ?_
    unfold sync
    exact hs.failsWithin_fileInode (List.mem_singleton_self _) fun _ _ _ _ _ => trivial
  | openDir path => exact Ends.map_iff.mpr (openDir_fails hs path)
  | closeDir handle =>
    refine Ends.bind_iff.mpr ?_
    unfold closeDir
    rw [Ends.bind_iff, Ends.get_iff]
    split
    · exact List.mem_singleton_self _
    · trivial
  | readDir handle count => exact Ends.bind_iff.mpr (readDir_fails hs handle count)
  | mkdir path mode =>
    refine Ends.bind_iff.mpr (Ends.bind_iff.mpr ?_)
    exact insertNode_fails _ _ mode
  | rmdir path => exact Ends.bind_iff.mpr (rmdir_fails hs path)
  | stat path => exact Ends.map_iff.mpr (stat_fails hs path)
  | access path wanted => exact Ends.bind_iff.mpr (access_fails hs path wanted)
  | chmod path mode => exact Ends.bind_iff.mpr (changeInode_fails hs path _)
  | chown path uid => exact Ends.bind_iff.mpr (changeInode_fails hs path _)
  | utime path accessed modified => exact Ends.bind_iff.mpr (changeInode_fails hs path _)
  | truncate path size => exact Ends.bind_iff.mpr (truncate_fails hs path size)
  | unlink path => exact Ends.bind_iff.mpr (unlink_fails hs path)
  | rename source target => exact Ends.bind_iff.mpr (rename_fails h source target)
  | getXattr path name buffer => exact Ends.bind_iff.mpr (getXattr_fails hs path name buffer)
  | setXattr path name value flags =>
    exact Ends.bind_iff.mpr (setXattr_fails hs path name value flags)
  | removeXattr path name => exact Ends.bind_iff.mpr (removeXattr_fails hs path name)
  | listXattr path buffer => exact Ends.bind_iff.mpr (listXattr_fails hs path buffer)

/-- **An error that a request does not list cannot come of it.** -/
theorem Consistent.error_mem (h : s.Consistent) {op : Operation} {e : Errno}
    (herror : (s.request now op).1 = .error e) : e ∈ op.errors := by
  rcases request_cases (perform_fails h now op) with ⟨_, _, heq, -⟩ | ⟨e', t, heq, hmem⟩ <;>
    rw [heq] at herror <;> cases herror
  exact hmem

end Store

end FileScript
