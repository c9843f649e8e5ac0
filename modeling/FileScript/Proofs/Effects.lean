import FileScript.Proofs.Histories

/-!
# The effects of requests

What a request can do to a store, told by its arguments (`Operation.Effect`): it sets something of
an inode, edits the bytes of a file, opens or closes a handle, or makes, removes or moves names. A
request that is carried out has one of these effects, and one that is refused has none
(`Store.request_effect`). What a request does not concern follows by cases on its effect, without
another look at the request.
-/

namespace FileScript

/-- A mode holds permission bits alone. -/
def IsPermissions (mode : UInt32) : Prop := mode &&& permissionMask = mode

theorem isPermissions_and (mode : UInt32) : IsPermissions (mode &&& permissionMask) := by
  rw [IsPermissions, UInt32.and_assoc, UInt32.and_self]

/-- Two inodes hold the same, and have the same permissions, owner and attributes. -/
structure Inode.SameBody (i j : Inode) : Prop where
  node : j.node = i.node
  mode : j.mode = i.mode
  uid : j.uid = i.uid
  gid : j.gid = i.gid
  xattrs : j.xattrs = i.xattrs

namespace Operation

/-- A request is made to edit the bytes of the file `ino`. Through a handle, that takes one that was
opened for writing. -/
def Edits (s : Store) (ino : Nat) : Operation → Prop
  | write handle _ | truncateOpen handle _ =>
    s.openFiles[handle.id]? = some ino ∧ handle.flags.writable = true
  | truncate path _ => s.names[Path.normalize path]? = some ino
  | openFile path flags =>
    s.names[Path.normalize path]? = some ino ∧
      (flags.contains .truncate && flags.writable) = true
  | _ => False

/-- The path of what a request removes. -/
def removes? : Operation → Option String
  | unlink path | rmdir path => some path
  | _ => none

/-- The path of what a request sets or removes an attribute of. -/
def marks? : Operation → Option String
  | setXattr path .. | removeXattr path _ => some path
  | _ => none

/-- The path of what a request describes anew. -/
def describes? : Operation → Option String
  | chmod path _ | chown path _ | utime path _ _ | setXattr path .. | removeXattr path _ =>
    some path
  | _ => none

/-- A request is made to set the times of the last access and the last modification. -/
def setsTimes : Operation → Bool
  | utime .. => true
  | _ => false

/-- What a request may do to the store `s` when it is carried out. -/
inductive Effect (now : Timespec) (s : Store) : Operation → Store → Prop
  | nothing (op : Operation) : Effect now s op s
  /-- An inode is given other permissions, another owner, other times or other attributes. -/
  | describe {op : Operation} {path : String} {ino : Nat} {old new : Inode}
      (hold : s.inodes[ino]? = some old)
      (hnode : new.node = old.node) (hlinked : new.linked = old.linked)
      (hmode : new.mode = old.mode ∨ IsPermissions new.mode)
      (hxattrs : op.marks? = none → new.xattrs = old.xattrs)
      (hop : op.describes? = some path) (hino : s.names[Path.normalize path]? = some ino)
      (hbody : op.setsTimes = true → old.SameBody new)
      (hkept : op.setsTimes = false →
        new.accessed = old.accessed ∧ new.modified = old.modified) :
      Effect now s op (s.setInode ino new)
  /-- A file is given other bytes. -/
  | edit {op : Operation} {ino : Nat} {old : Inode} (content : ByteArray)
      (hold : s.inodes[ino]? = some old) (hkind : old.kind = .file) (hedits : op.Edits s ino) :
      Effect now s op (s.setInode ino (old.setContent now content))
  | openFile {path : String} {flags : OpenFlags} {mid : Store} {ino : Nat} {i : Inode}
      (hloc : Store.Located now (Path.normalize path) flags s mid ino)
      (hi : mid.inodes[ino]? = some i) (hkind : i.kind = .file) :
      Effect now s (.openFile path flags) ((mid.prepared now flags ino i).registerFile ino flags).2
  | create {path : String} {mode : UInt32} (hfree : s.names[Path.normalize path]? = none)
      (hparent : s.checkParent (Path.normalize path) = .ok ()) :
      Effect now s (.create path mode)
        ((s.link now (Path.normalize path) (.file .empty) mode).registerFile s.nextInode
          .readWrite).2
  | mkdir {path : String} {mode : UInt32} (hfree : s.names[Path.normalize path]? = none)
      (hparent : s.checkParent (Path.normalize path) = .ok ()) :
      Effect now s (.mkdir path mode) (s.link now (Path.normalize path) .directory mode)
  | close {handle : FileHandle} {ino : Nat} (hino : s.openFiles[handle.id]? = some ino) :
      Effect now s (.close handle)
        ({ s with openFiles := s.openFiles.erase handle.id }.releaseIfOrphaned ino)
  | openDir {path : String} {ino : Nat} (hino : s.names[Path.normalize path]? = some ino) :
      Effect now s (.openDir path) (s.registerDir ino (Path.normalize path)).2
  | closeDir {handle : DirHandle} {dir : OpenDir} (hdir : s.openDirs[handle.id]? = some dir) :
      Effect now s (.closeDir handle)
        ({ s with openDirs := s.openDirs.erase handle.id }.releaseIfOrphaned dir.inode)
  | remove {op : Operation} {path : String} {ino : Nat} {i : Inode} (hop : op.removes? = some path)
      (hino : s.names[Path.normalize path]? = some ino) (hi : s.inodes[ino]? = some i) :
      Effect now s op ({ s with names := s.names.erase (Path.normalize path) }.dropLink now
        (Path.normalize path) ino i)
  | rename {source target : String} {t : Store}
      (hmovable : ¬ s.Immovable (Path.normalize source) (Path.normalize target))
      (hne : Path.normalize source ≠ Path.normalize target)
      (hmoved : Store.Moved now (Path.normalize source) (Path.normalize target) s t) :
      Effect now s (.rename source target) t

/-- What is carried out has an effect of the request `op`, and what is refused has none. -/
def Effects {α : Type} (now : Timespec) (op : Operation) (act : Store.Update α) (s : Store) :
    Prop :=
  Ends act s (fun _ t => op.Effect now s t) fun _ t => t = s

end Operation

namespace Store

open Operation

variable {s : Store} {now : Timespec} {op : Operation}

theorem Inquires.effects {α : Type} {act : Update α} (h : Inquires act s) : Effects now op act s :=
  h.mono (fun _ _ ht => ht ▸ .nothing op) fun _ _ ht => ht

/-! ## Inodes -/

theorem changeInode_effects {path : String} {f : Inode → Inode} (hop : op.describes? = some path)
    (hnode : ∀ i, (f i).node = i.node) (hlinked : ∀ i, (f i).linked = i.linked)
    (hmode : ∀ i, (f i).mode = i.mode ∨ IsPermissions (f i).mode)
    (hxattrs : ∀ i, (f i).xattrs = i.xattrs)
    (hbody : op.setsTimes = true → ∀ i : Inode, i.SameBody (f i))
    (hkept : op.setsTimes = false →
      ∀ i, (f i).accessed = i.accessed ∧ (f i).modified = i.modified) :
    Effects now op (changeInode now path f) s := by
  unfold changeInode Effects
  simp only [Ends.bind_iff, Ends.ask_iff, Ends.modify_iff, implies_true, and_true, inode_eq_ok_iff]
  rintro ⟨key, ino⟩ hplace i hi
  obtain ⟨-, hino⟩ := resolve_eq_ok_iff.mp hplace
  refine .describe hi (hnode i) (hlinked i) (hmode i) (fun _ => hxattrs i) hop hino
    (fun hsets => ?_) fun hkeeps => hkept hkeeps i
  exact ⟨(hbody hsets i).node, (hbody hsets i).mode, (hbody hsets i).uid, (hbody hsets i).gid,
    (hbody hsets i).xattrs⟩

theorem chmod_effects (path : String) (mode : UInt32) :
    Effects now (.chmod path mode) (chmod now path mode) s := by
  refine changeInode_effects rfl (fun _ => rfl) (fun _ => rfl)
    (fun _ => .inr (isPermissions_and mode)) (fun _ => rfl) (fun hsets => ?_) fun _ _ => ⟨rfl, rfl⟩
  cases hsets

theorem chown_effects (path : String) (uid : Nat) :
    Effects now (.chown path uid) (chown now path uid) s := by
  refine changeInode_effects rfl (fun _ => rfl) (fun _ => rfl) (fun _ => .inl rfl) (fun _ => rfl)
    (fun hsets => ?_) fun _ _ => ⟨rfl, rfl⟩
  cases hsets

theorem utime_effects (path : String) (accessed modified : Timespec) :
    Effects now (.utime path accessed modified) (utime now path accessed modified) s := by
  refine changeInode_effects rfl (fun _ => rfl) (fun _ => rfl) (fun _ => .inl rfl) (fun _ => rfl)
    (fun _ _ => ⟨rfl, rfl, rfl, rfl, rfl⟩) fun hkeeps => ?_
  cases hkeeps

theorem setXattr_effects (path name : String) (value : ByteArray) (flags : XattrFlags) :
    Effects now (.setXattr path name value flags) (setXattr now path name value flags) s := by
  unfold setXattr Effects
  simp only [Ends.bind_iff, Ends.ite_iff, Ends.throw_iff, Ends.ask_iff, Ends.modify_iff,
    implies_true, and_true, true_and, inode_eq_ok_iff]
  rintro _ _ _ ⟨key, ino⟩ hplace i hi _ _
  obtain ⟨-, hino⟩ := resolve_eq_ok_iff.mp hplace
  refine .describe hi rfl rfl (.inl rfl) (fun hmarks => ?_) rfl hino (fun hsets => ?_)
    fun _ => ⟨rfl, rfl⟩
  · cases hmarks
  · cases hsets

theorem removeXattr_effects (path name : String) :
    Effects now (.removeXattr path name) (removeXattr now path name) s := by
  unfold removeXattr Effects
  simp only [Ends.bind_iff, Ends.ite_iff, Ends.throw_iff, Ends.ask_iff, Ends.modify_iff,
    implies_true, and_true, inode_eq_ok_iff]
  rintro ⟨key, ino⟩ hplace i hi _
  obtain ⟨-, hino⟩ := resolve_eq_ok_iff.mp hplace
  refine .describe hi rfl rfl (.inl rfl) (fun hmarks => ?_) rfl hino (fun hsets => ?_)
    fun _ => ⟨rfl, rfl⟩
  · cases hmarks
  · cases hsets

theorem resizeInode_effects {ino : Nat} (hedits : op.Edits s ino) (size : Nat) :
    Effects now op (resizeInode now ino size) s := by
  unfold resizeInode Inode.resize Effects
  simp only [Ends.bind_iff, Ends.ask_iff, implies_true, and_true, inode_eq_ok_iff]
  intro i hi
  by_cases hlarge : size > Inode.maxFileSize
  · rw [if_pos hlarge]
    rfl
  · rw [if_neg hlarge]
    cases hnode : i.node with
    | directory => rfl
    | file content => exact .edit _ hi (by rw [Inode.kind, hnode]; rfl) hedits

theorem truncate_effects (path : String) (size : Nat) :
    Effects now (.truncate path size) (truncate now path size) s := by
  unfold truncate Effects
  simp only [Ends.bind_iff, Ends.ask_iff, Ends.get_iff, Ends.ite_iff, Ends.throw_iff, implies_true,
    and_true, true_and]
  rintro ⟨key, ino⟩ hplace i _ _ _
  have hedits : (Operation.truncate path size).Edits s ino := (resolve_eq_ok_iff.mp hplace).2
  exact resizeInode_effects hedits size

theorem truncateOpen_effects (handle : FileHandle) (size : Nat) :
    Effects now (.truncateOpen handle size) (truncateOpen now handle size) s := by
  unfold truncateOpen Effects
  simp only [Ends.bind_iff, Ends.ask_iff, Ends.ite_iff, Ends.throw_iff, implies_true, and_true]
  intro ino hino hwritable
  have hedits : (Operation.truncateOpen handle size).Edits s ino :=
    ⟨fileInode_eq_ok_iff.mp hino, hwritable⟩
  exact resizeInode_effects hedits size

theorem write_effects (handle : FileHandle) (data : ByteArray) :
    Effects now (.write handle data) (write now handle data) s := by
  unfold write Effects
  simp only [Ends.bind_iff, Ends.ask_iff, Ends.ite_iff, Ends.throw_iff, implies_true, and_true,
    inode_eq_ok_iff, fileInode_eq_ok_iff]
  intro ino hino hwritable i hi
  have hedits : (Operation.write handle data).Edits s ino := ⟨hino, hwritable⟩
  cases hnode : i.node with
  | directory => rfl
  | file content =>
    simp only [Ends.ite_iff, Ends.pure_iff, Ends.bind_iff, Ends.throw_iff, Ends.modify_iff,
      implies_true, true_and]
    exact ⟨fun _ => .nothing _, fun _ _ => .edit _ hi (by rw [Inode.kind, hnode]; rfl) hedits⟩

/-! ## Handles -/

theorem names_prepared (flags : OpenFlags) (ino : Nat) (i : Inode) :
    (s.prepared now flags ino i).names = s.names := by
  unfold prepared
  split <;> rfl

theorem openFile_effects (h : s.Consistent) (path : String) (flags : OpenFlags) :
    Effects now (.openFile path flags) (openFile now path flags) s := by
  refine (openFile_ends h path flags).mono ?_ fun _ _ ht => ht
  rintro handle t ⟨mid, ino, i, hloc, hi, hkind, he⟩
  have heffect : (Operation.openFile path flags).Effect now s _ := .openFile hloc hi hkind
  rwa [he] at heffect

theorem create_effects (path : String) (mode : UInt32) :
    Effects now (.create path mode) (create now path mode) s := by
  refine (create_ends path mode).mono ?_ fun _ _ ht => ht
  rintro handle t ⟨hfree, hparent, he⟩
  have heffect : (Operation.create path mode).Effect now s _ := .create hfree hparent
  rwa [he] at heffect

theorem close_effects (handle : FileHandle) : Effects now (.close handle) (close handle) s := by
  unfold close Effects
  simp only [Ends.bind_iff, Ends.ask_iff, Ends.modify_iff, implies_true, and_true,
    fileInode_eq_ok_iff]
  exact fun ino hino => .close hino

theorem openDir_effects (path : String) : Effects now (.openDir path) (openDir path) s := by
  refine (openDir_ends path).mono ?_ fun _ _ ht => ht
  rintro handle t ⟨ino, i, hino, -, -, he⟩
  have heffect : (Operation.openDir path).Effect now s _ := .openDir hino
  rwa [he] at heffect

theorem closeDir_effects (handle : DirHandle) :
    Effects now (.closeDir handle) (closeDir handle) s := by
  unfold closeDir Effects
  rw [Ends.bind_iff, Ends.get_iff]
  split
  · rfl
  · next dir hdir => exact .closeDir hdir

/-! ## Names -/

theorem mkdir_effects (path : String) (mode : UInt32) :
    Effects now (.mkdir path mode) (mkdir now path mode) s := by
  refine Ends.bind_iff.mpr ((insertNode_ends _ _ _).mono ?_ fun _ _ ht => ht)
  rintro ino t ⟨-, rfl, hfree, hparent⟩
  exact .mkdir hfree hparent

theorem unlinkName_effects {path : String} {ino : Nat} {i : Inode} (hop : op.removes? = some path)
    (hino : s.names[Path.normalize path]? = some ino) (hi : s.inodes[ino]? = some i) :
    Effects now op (unlinkName now (Path.normalize path)) s := by
  refine (unlinkName_ends hino hi).mono ?_ fun _ _ h => h.elim
  rintro _ t rfl
  exact .remove hop hino hi

theorem rmdir_effects (path : String) : Effects now (.rmdir path) (rmdir now path) s := by
  unfold rmdir Effects
  simp only [Ends.bind_iff, Ends.ite_iff, Ends.throw_iff, Ends.ask_iff, Ends.get_iff, implies_true,
    and_true, true_and, inode_eq_ok_iff]
  rintro ⟨key, ino⟩ hplace _ i hi _ _
  obtain ⟨rfl, hino⟩ := resolve_eq_ok_iff.mp hplace
  exact unlinkName_effects rfl hino hi

theorem unlink_effects (path : String) : Effects now (.unlink path) (unlink now path) s := by
  unfold unlink Effects
  simp only [Ends.bind_iff, Ends.ite_iff, Ends.throw_iff, Ends.ask_iff, implies_true, and_true,
    true_and, inode_eq_ok_iff]
  rintro ⟨key, ino⟩ hplace i hi _
  obtain ⟨rfl, hino⟩ := resolve_eq_ok_iff.mp hplace
  exact unlinkName_effects rfl hino hi

theorem rename_effects (h : s.Consistent) (source target : String) :
    Effects now (.rename source target) (rename now source target) s := by
  refine (rename_ends h source target).mono ?_ fun _ _ ht => ht.1
  rintro _ t ⟨hmovable, ht⟩
  split at ht
  · rw [ht]
    exact .nothing _
  · next hne => exact .rename hmovable hne ht

/-! ## All requests -/

/-- **Every request that is carried out has one of the effects that it may have.** -/
theorem perform_effects (h : s.Consistent) (now : Timespec) (op : Operation) :
    Effects now op (op.perform now) s := by
  cases op with
  | openFile path flags => exact Ends.map_iff.mpr (openFile_effects h path flags)
  | create path mode => exact Ends.map_iff.mpr (create_effects path mode)
  | close handle => exact Ends.bind_iff.mpr (close_effects handle)
  | seek handle offset => exact Ends.map_iff.mpr (seek_inquires handle offset).effects
  | read handle count => exact Ends.bind_iff.mpr (read_inquires handle count).effects
  | write handle data => exact Ends.map_iff.mpr (write_effects handle data)
  | truncateOpen handle size => exact Ends.bind_iff.mpr (truncateOpen_effects handle size)
  | sync handle => exact Ends.bind_iff.mpr (sync_inquires handle).effects
  | openDir path => exact Ends.map_iff.mpr (openDir_effects path)
  | closeDir handle => exact Ends.bind_iff.mpr (closeDir_effects handle)
  | readDir handle count => exact Ends.bind_iff.mpr (readDir_inquires handle count).effects
  | mkdir path mode => exact Ends.bind_iff.mpr (mkdir_effects path mode)
  | rmdir path => exact Ends.bind_iff.mpr (rmdir_effects path)
  | stat path => exact Ends.map_iff.mpr (stat_inquires path).effects
  | access path wanted => exact Ends.bind_iff.mpr (access_inquires path wanted).effects
  | chmod path mode => exact Ends.bind_iff.mpr (chmod_effects path mode)
  | chown path uid => exact Ends.bind_iff.mpr (chown_effects path uid)
  | utime path accessed modified =>
    exact Ends.bind_iff.mpr (utime_effects path accessed modified)
  | truncate path size => exact Ends.bind_iff.mpr (truncate_effects path size)
  | unlink path => exact Ends.bind_iff.mpr (unlink_effects path)
  | rename source target => exact Ends.bind_iff.mpr (rename_effects h source target)
  | getXattr path name buffer =>
    exact Ends.bind_iff.mpr (getXattr_inquires path name buffer).effects
  | setXattr path name value flags =>
    exact Ends.bind_iff.mpr (setXattr_effects path name value flags)
  | removeXattr path name => exact Ends.bind_iff.mpr (removeXattr_effects path name)
  | listXattr path buffer => exact Ends.bind_iff.mpr (listXattr_inquires path buffer).effects

theorem request_effect (h : s.Consistent) (now : Timespec) (op : Operation) :
    op.Effect now s (s.request now op).2 := by
  have hends := request_of_ends (perform_effects h now op)
  split at hends
  · next heq =>
    rw [heq]
    exact hends
  · next heq =>
    rw [heq, hends]
    exact .nothing op

/-! ## What holds of all inodes -/

/-- Something holds of all inodes and their numbers. -/
def Each (s : Store) (p : Nat → Inode → Prop) : Prop :=
  ∀ ⦃ino : Nat⦄ ⦃i : Inode⦄, s.inodes[ino]? = some i → p ino i

/-- The one inode of a new store is that of the root. -/
theorem each_new {p : Nat → Inode → Prop} (now : Timespec) (uid gid : Nat)
    (hroot : p rootInode (Inode.new now .directory 0o755 uid gid)) :
    (Store.new now uid gid).Each p := by
  intro ino i hi
  simp only [Store.new, Std.TreeMap.getElem?_insert, compare_eq_iff_eq] at hi
  split at hi
  · next he => rwa [← he, ← Option.some.inj hi]
  · simp at hi

/-- Whether something holds of an inode depends on its number, its mode and its attributes alone. -/
def Lasting (p : Nat → Inode → Prop) : Prop :=
  ∀ ⦃ino : Nat⦄ ⦃i j : Inode⦄, p ino i → j.mode = i.mode → j.xattrs = i.xattrs → p ino j

namespace Each

variable {t : Store} {p : Nat → Inode → Prop}

theorem setInode (h : s.Each p) {ino : Nat} {i : Inode} (hi : p ino i) :
    (s.setInode ino i).Each p := by
  intro other j hj
  simp only [Store.setInode, Std.TreeMap.getElem?_insert, compare_eq_iff_eq] at hj
  split at hj
  · next he => rwa [← he, ← Option.some.inj hj]
  · exact h hj

/-- The time is noted in the directory above a path. -/
theorem touchAbove (h : s.Each p) (now : Timespec) (key : String)
    (hp : ∀ ⦃ino : Nat⦄ ⦃i : Inode⦄, s.names[Path.parent key]? = some ino → p ino i →
      p ino (i.touch now)) : (s.touchParent now key).Each p := by
  intro ino i hi
  rw [getElem?_inodes_touchParent] at hi
  split at hi
  · next habove =>
    obtain ⟨old, hold, rfl⟩ := Option.map_eq_some_iff.mp hi
    exact hp habove (h hold)
  · exact h hi

theorem touchParent (h : s.Each p) (hp : Lasting p) (now : Timespec) (key : String) :
    (s.touchParent now key).Each p :=
  h.touchAbove now key fun _ _ _ hi => hp hi rfl rfl

theorem releaseIfOrphaned (h : s.Each p) (ino : Nat) : (s.releaseIfOrphaned ino).Each p := by
  unfold Store.releaseIfOrphaned
  split
  · exact h
  · intro other i hi
    rw [Std.TreeMap.getElem?_erase] at hi
    split at hi
    · cases hi
    · exact h hi

theorem unlink (h : s.Each p) (hp : Lasting p) (key : String) {ino : Nat} {i : Inode}
    (hi : s.inodes[ino]? = some i) :
    ({ s with names := s.names.erase key }.dropLink now key ino i).Each p := by
  have hmarked : (({ s with names := s.names.erase key } : Store).setInode ino
      { i with linked := false }).Each p :=
    setInode (s := { s with names := s.names.erase key }) h (hp (h hi) rfl rfl)
  exact (hmarked.touchParent hp now key).releaseIfOrphaned ino

theorem link (h : s.Each p) (hp : Lasting p) (now : Timespec) (key : String) (node : Node)
    (mode : UInt32) (hnew : p s.nextInode (Inode.new now node mode s.uid s.gid)) :
    (s.link now key node mode).Each p :=
  have hmade : (s.setInode s.nextInode (Inode.new now node mode s.uid s.gid)).Each p :=
    h.setInode hnew
  touchParent (s := { s with
    names := s.names.insert key s.nextInode
    inodes := s.inodes.insert s.nextInode (Inode.new now node mode s.uid s.gid)
    nextInode := s.nextInode + 1 }) hmade hp now key

theorem moved (h : s.Each p) (hp : Lasting p) (source : String) {target : String} {mid : Store}
    (hvacated : Vacated now target s mid) : (mid.moved now source target).Each p := by
  have hmid : (mid.moveTree source target).Each p := by
    cases hvacated with
    | free => exact h
    | taken _ hj => exact h.unlink hp target hj
  exact (hmid.touchParent hp now source).touchParent hp now target

theorem prepared (h : s.Each p) (hp : Lasting p) (flags : OpenFlags) {ino : Nat} {i : Inode}
    (hi : s.inodes[ino]? = some i) : (s.prepared now flags ino i).Each p := by
  unfold Store.prepared
  split
  · exact h.setInode (hp (h hi) rfl rfl)
  · exact h

/-- What holds of all inodes holds of them after a request, if it holds of new inodes and of those
that are described anew. -/
theorem of_effect (h : s.Each p) (hp : Lasting p)
    (hnew : ∀ node mode, p s.nextInode (Inode.new now node mode s.uid s.gid))
    (hdescribed : ∀ ⦃ino old new⦄, s.inodes[ino]? = some old →
      new.mode = old.mode ∨ IsPermissions new.mode →
      (op.marks? = none → new.xattrs = old.xattrs) → p ino new)
    (heffect : op.Effect now s t) : t.Each p := by
  cases heffect with
  | nothing => exact h
  | describe hold _ _ hmode hxattrs => exact h.setInode (hdescribed hold hmode hxattrs)
  | edit _ hold => exact h.setInode (hp (h hold) rfl rfl)
  | openFile hloc hi =>
    cases hloc with
    | found => exact h.prepared hp _ hi
    | made => exact (h.link hp now _ _ 0o644 (hnew _ _)).prepared hp _ hi
  | create => exact h.link hp now _ _ _ (hnew _ _)
  | mkdir => exact h.link hp now _ _ _ (hnew _ _)
  | @close handle ino _ =>
    exact releaseIfOrphaned (s := { s with openFiles := s.openFiles.erase handle.id }) h ino
  | openDir => exact h
  | @closeDir handle dir _ =>
    exact releaseIfOrphaned (s := { s with openDirs := s.openDirs.erase handle.id }) h dir.inode
  | remove _ _ hi => exact h.unlink hp _ hi
  | @rename source _ _ _ _ hmoved =>
    cases hmoved with
    | mk hvacated _ hi =>
      have hmid := h.moved hp (Path.normalize source) hvacated
      exact hmid.setInode (hp (hmid hi) rfl rfl)

end Each

end Store

end FileScript
