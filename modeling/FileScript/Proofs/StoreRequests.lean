import FileScript.Proofs.StoreChanges

/-!
# Requests in terms of changes

A request that is carried out makes some changes, and one that is refused makes none
(`Store.Transacts`). This needs a consistent store: some requests ask for an inode after they have
begun to change the store, and would fail half-way if it were not there. So every store that can be
reached is consistent (`Reachable.consistent`).
-/

namespace FileScript.Store

variable {s t : Store} {now : Timespec}

/-! ## Questions -/

theorem resolve_eq_ok_iff {path : String} {place : String × Nat} :
    s.resolve path = .ok place ↔
      place.1 = Path.normalize path ∧ s.names[Path.normalize path]? = some place.2 := by
  obtain ⟨key, ino⟩ := place
  unfold resolve
  cases hino : s.names[Path.normalize path]? with
  | none => simp [hino]
  | some n => simp [hino, eq_comm]

theorem names_of_resolve_eq_error {path : String} {e : Errno} (h : s.resolve path = .error e) :
    s.names[Path.normalize path]? = none := by
  cases hino : s.names[Path.normalize path]? with
  | none => rfl
  | some ino =>
    have hok : s.resolve path = .ok (Path.normalize path, ino) :=
      resolve_eq_ok_iff.mpr ⟨rfl, hino⟩
    rw [hok] at h
    cases h

theorem fileInode_eq_ok_iff {handle : FileHandle} {ino : Nat} :
    s.fileInode handle = .ok ino ↔ s.openFiles[handle.id]? = some ino := by
  unfold fileInode
  cases s.openFiles[handle.id]? <;> simp

/-- A directory without entries is one below which nothing has a name. -/
theorem children_isEmpty_iff {key : String} :
    (s.children key).isEmpty = true ↔
      ∀ name, Path.IsName name → s.names[Path.stem key ++ name]? = none := by
  rw [List.isEmpty_iff, List.eq_nil_iff_forall_not_mem]
  refine ⟨fun h name hname => ?_, fun h ⟨name, ino⟩ hmem => ?_⟩
  · rw [Option.eq_none_iff_forall_ne_some]
    intro ino hino
    exact h (name, ino) (Names.mem_children.mpr ⟨hname, hino⟩)
  · obtain ⟨hname, hino⟩ := Names.mem_children.mp hmem
    rw [h name hname] at hino
    cases hino

theorem ends_ask_resolve {path : String} {ino : Nat} {good : String × Nat → Store → Prop}
    {bad : Errno → Store → Prop} (hnamed : s.names[Path.normalize path]? = some ino) :
    Ends (ask (·.resolve path)) s good bad ↔ good (Path.normalize path, ino) s := by
  have hresolve : s.resolve path = .ok (Path.normalize path, ino) :=
    resolve_eq_ok_iff.mpr ⟨rfl, hnamed⟩
  rw [Ends.ask_iff, hresolve]
  constructor
  · exact fun h => h.1 _ rfl
  · refine fun h => ⟨?_, fun _ h => by cases h⟩
    rintro _ ⟨⟩
    exact h

theorem ends_ask_inode {ino : Nat} {i : Inode} (hi : s.inodes[ino]? = some i)
    {good : Inode → Store → Prop} {bad : Errno → Store → Prop} :
    Ends (ask (·.inode ino)) s good bad ↔ good i s := by
  rw [Ends.ask_iff, inode_eq_ok_iff.mpr hi]
  simp

theorem Sound.inode_of_named (h : s.Sound) {key : String} {ino : Nat}
    (hino : s.names[key]? = some ino) : ∃ i, s.inodes[ino]? = some i ∧ i.linked = true := by
  obtain ⟨kind, hp⟩ := h.named_linked hino
  obtain ⟨i, hi, -, hlinked⟩ := profile_eq_some_iff.mp hp
  exact ⟨i, hi, hlinked⟩

/-- Below a file nothing has a name. -/
theorem Sound.free_below_file (h : s.Sound) {key : String} {ino : Nat} {i : Inode}
    (hino : s.names[key]? = some ino) (hi : s.inodes[ino]? = some i) (hkind : i.kind ≠ .directory) :
    ∀ name, Path.IsName name → s.names[Path.stem key ++ name]? = none := by
  intro name hname
  obtain ⟨above, habove, rfl⟩ := Path.exists_names (h.all_normal hino)
  rw [← Path.ofComponents_concat habove]
  refine h.free_below_of_not_directory habove (fun up hup hp => hkind ?_)
    (Path.areNames_cons.mpr ⟨hname, Path.areNames_nil⟩) (List.cons_ne_nil _ _)
  rw [hino] at hup
  rw [← Option.some.inj hup, profile_of_inode hi] at hp
  exact (Prod.mk.inj (Option.some.inj hp)).1

theorem Sound.ne_root_of_file (h : s.Sound) {key : String} {ino : Nat} {i : Inode}
    (hino : s.names[key]? = some ino) (hi : s.inodes[ino]? = some i) (hkind : i.kind ≠ .directory) :
    key ≠ Path.root := by
  rintro rfl
  have hp := h.root_directory
  rw [← Option.some.inj (hino.symm.trans h.root_named), profile_of_inode hi] at hp
  exact hkind (Prod.mk.inj (Option.some.inj hp)).1

/-! ## Carried out or refused -/

/-- A request that is carried out makes some changes, and one that is refused makes none. -/
def Transacts {α : Type} (now : Timespec) (act : Update α) (s : Store) : Prop :=
  Ends act s (fun _ t => Changes now s t) fun _ t => t = s

section Transacts

variable {α β : Type} {act other : Update α} {next : α → Update β}

@[simp] theorem transacts_pure (a : α) : Transacts now (pure a) s := Relation.ReflTransGen.refl

@[simp] theorem transacts_throw (e : Errno) : Transacts now (throw e : Update α) s := rfl

@[simp] theorem transacts_throw_bind (e : Errno) : Transacts now (throw e >>= next) s :=
  Ends.bind_iff.mpr rfl

@[simp] theorem transacts_ask_bind {question : Store → Except Errno α} :
    Transacts now (ask question >>= next) s ↔
      ∀ a, question s = .ok a → Transacts now (next a) s := by
  unfold Transacts
  rw [Ends.bind_iff, Ends.ask_iff]
  exact and_iff_left fun _ _ => rfl

@[simp] theorem transacts_get_bind {next : Store → Update β} :
    Transacts now (get >>= next) s ↔ Transacts now (next s) s := Ends.bind_iff

@[simp] theorem transacts_map {f : α → β} : Transacts now (f <$> act) s ↔ Transacts now act s :=
  Ends.map_iff

@[simp] theorem transacts_ite {c : Prop} [Decidable c] :
    Transacts now (if c then act else other) s ↔
      (c → Transacts now act s) ∧ (¬ c → Transacts now other s) := Ends.ite_iff

@[simp] theorem transacts_modify {f : Store → Store} :
    Transacts now (modify f) s ↔ Changes now s (f s) := Iff.rfl

/-- What comes after the last step of a request that can change anything does not matter. -/
theorem Transacts.bind_pure (h : Transacts now act s) (f : α → β) :
    Transacts now (act >>= fun a => pure (f a)) s :=
  Ends.bind_iff.mpr h

theorem transacts_of_ends {good : α → Store → Prop} (h : Ends act s good fun _ t => t = s)
    (hgood : ∀ a t, good a t → Changes now s t) : Transacts now act s :=
  h.mono hgood fun _ _ h => h

end Transacts

theorem Changes.one (h : Change now s t) : Changes now s t := Relation.ReflTransGen.single h

/-! ## Requests that change one inode -/

theorem changeInode_transacts (path : String) {f : Inode → Inode}
    (hkind : ∀ i, (f i).kind = i.kind) (hlinked : ∀ i, (f i).linked = i.linked) :
    Transacts now (changeInode now path f) s := by
  unfold changeInode
  rw [transacts_ask_bind]
  intro place _
  rw [transacts_ask_bind]
  intro i hi
  rw [transacts_modify]
  exact Changes.one (.revise (inode_eq_ok_iff.mp hi) (hkind i) (hlinked i))

theorem chmod_transacts (path : String) (mode : UInt32) :
    Transacts now (chmod now path mode) s :=
  changeInode_transacts path (fun _ => rfl) fun _ => rfl

theorem chown_transacts (path : String) (uid : Nat) : Transacts now (chown now path uid) s :=
  changeInode_transacts path (fun _ => rfl) fun _ => rfl

theorem utime_transacts (path : String) (accessed modified : Timespec) :
    Transacts now (utime now path accessed modified) s :=
  changeInode_transacts path (fun _ => rfl) fun _ => rfl

theorem resize_eq_ok {i resized : Inode} {size : Nat} (h : i.resize now size = .ok resized) :
    resized.kind = i.kind ∧ resized.linked = i.linked := by
  unfold Inode.resize at h
  split at h
  · cases h
  · split at h
    · next content hnode =>
      cases h
      exact ⟨by rw [Inode.kind, Inode.kind, hnode]; rfl, rfl⟩
    · cases h

theorem resizeInode_transacts (ino size : Nat) : Transacts now (resizeInode now ino size) s := by
  unfold resizeInode
  rw [transacts_ask_bind]
  intro i hi
  split
  · next resized hresized =>
    rw [transacts_modify]
    obtain ⟨hkind, hlinked⟩ := resize_eq_ok hresized
    exact Changes.one (.revise (inode_eq_ok_iff.mp hi) hkind hlinked)
  · exact transacts_throw _

theorem truncate_transacts (path : String) (size : Nat) :
    Transacts now (truncate now path size) s := by
  unfold truncate
  simp only [transacts_ask_bind, transacts_get_bind, transacts_ite, transacts_throw_bind,
    resizeInode_transacts, implies_true, and_self]

theorem truncateOpen_transacts (handle : FileHandle) (size : Nat) :
    Transacts now (truncateOpen now handle size) s := by
  unfold truncateOpen
  simp only [transacts_ask_bind, transacts_ite, transacts_throw_bind, resizeInode_transacts,
    implies_true, and_self]

theorem write_transacts (handle : FileHandle) (data : ByteArray) :
    Transacts now (write now handle data) s := by
  unfold write
  rw [transacts_ask_bind]
  intro ino _
  rw [transacts_ite]
  refine ⟨fun _ => ?_, fun _ => transacts_throw_bind _⟩
  rw [transacts_ask_bind]
  intro i hi
  split
  · exact transacts_throw _
  · next content hnode =>
    simp only [transacts_ite, transacts_pure, transacts_throw_bind, implies_true, true_and]
    intro _ _
    refine Transacts.bind_pure ?_ _
    rw [transacts_modify]
    exact Changes.one (.revise (inode_eq_ok_iff.mp hi) (by rw [Inode.kind, Inode.kind, hnode]; rfl)
      rfl)

theorem setXattr_transacts (path name : String) (value : ByteArray) (flags : XattrFlags) :
    Transacts now (setXattr now path name value flags) s := by
  unfold setXattr
  simp only [transacts_ite, transacts_throw_bind, transacts_ask_bind, implies_true, true_and,
    and_true, transacts_modify, inode_eq_ok_iff]
  intro _ _ _ place _ i hi _ _
  exact Changes.one (.revise hi rfl rfl)

theorem removeXattr_transacts (path name : String) :
    Transacts now (removeXattr now path name) s := by
  unfold removeXattr
  simp only [transacts_ite, transacts_throw_bind, transacts_ask_bind, implies_true, and_true,
    transacts_modify, inode_eq_ok_iff]
  intro place _ i hi _
  exact Changes.one (.revise hi rfl rfl)

/-! ## Requests that change nothing -/

/-- A request leaves the store as it is, however it ends. -/
def Inquires {α : Type} (act : Update α) (s : Store) : Prop :=
  Ends act s (fun _ t => t = s) fun _ t => t = s

theorem Inquires.transacts {α : Type} {act : Update α} (h : Inquires act s) :
    Transacts now act s :=
  h.mono (fun _ _ ht => ht ▸ Relation.ReflTransGen.refl) fun _ _ ht => ht

theorem seek_ends (handle : FileHandle) (offset : Nat) :
    Ends (seek handle offset) s (fun moved t => moved = { handle with offset } ∧ t = s)
      fun _ t => t = s := by
  unfold seek
  simp only [Ends.bind_iff, Ends.ask_iff, Ends.pure_iff, implies_true, and_self]

theorem seek_inquires (handle : FileHandle) (offset : Nat) : Inquires (seek handle offset) s :=
  (seek_ends handle offset).mono (fun _ _ ht => ht.2) fun _ _ ht => ht

theorem sync_inquires (handle : FileHandle) : Inquires (sync handle) s := by
  unfold sync Inquires
  simp only [Ends.bind_iff, Ends.ask_iff, Ends.pure_iff, implies_true, and_self]

theorem read_inquires (handle : FileHandle) (count : Nat) : Inquires (read handle count) s := by
  unfold read Inquires
  simp only [Ends.bind_iff, Ends.ask_iff, Ends.ite_iff, Ends.throw_iff, implies_true, and_true]
  intro ino _ _ i _
  split <;> rfl

theorem readDir_inquires (handle : DirHandle) (count : Nat) :
    Inquires (readDir handle count) s := by
  unfold readDir Inquires
  rw [Ends.bind_iff, Ends.get_iff]
  split
  · rfl
  · simp only [Ends.ite_iff, Ends.pure_iff, Ends.bind_iff, Ends.ask_iff, implies_true, and_self]

theorem getXattr_inquires (path name : String) (buffer : ByteArray) :
    Inquires (getXattr path name buffer) s := by
  unfold getXattr Inquires
  simp only [Ends.bind_iff, Ends.ask_iff, implies_true, and_true]
  intro place _ i _
  split
  · rfl
  · simp only [Ends.ask_iff, implies_true, and_self]

theorem listXattr_inquires (path : String) (buffer : ByteArray) :
    Inquires (listXattr path buffer) s := by
  unfold listXattr Inquires
  simp only [Ends.bind_iff, Ends.ask_iff, implies_true, and_self]

theorem stat_inquires (path : String) : Inquires (stat path) s := by
  unfold stat Inquires
  simp only [Ends.bind_iff, Ends.ask_iff, implies_true, and_self]

theorem access_inquires (path : String) (wanted : UInt32) : Inquires (access path wanted) s := by
  unfold access Inquires
  simp only [Ends.bind_iff, Ends.ask_iff, Ends.get_iff, Ends.ite_iff, Ends.pure_iff,
    Ends.throw_iff, implies_true, and_self]

/-! ## Handles -/

theorem close_transacts (handle : FileHandle) : Transacts now (close handle) s := by
  unfold close
  rw [transacts_ask_bind]
  intro ino hino
  rw [transacts_modify]
  exact Changes.one (.closeFile (fileInode_eq_ok_iff.mp hino))

theorem closeDir_transacts (handle : DirHandle) : Transacts now (closeDir handle) s := by
  unfold closeDir
  rw [transacts_get_bind]
  split
  · exact transacts_throw _
  · next dir hdir =>
    rw [transacts_modify]
    exact Changes.one (.closeDir hdir)

theorem openDir_ends (path : String) :
    Ends (openDir path) s
      (fun handle t => ∃ ino i, s.names[Path.normalize path]? = some ino ∧
        s.inodes[ino]? = some i ∧ i.kind = .directory ∧
        s.registerDir ino (Path.normalize path) = (handle, t))
      fun _ t => t = s := by
  unfold openDir
  simp only [Ends.bind_iff, Ends.ask_iff, Ends.get_iff, Ends.ite_iff, Ends.throw_iff,
    Ends.modifyGet_iff, implies_true, true_and, and_true, ne_eq, not_not]
  rintro ⟨key, ino⟩ hplace i hi hkind _
  obtain ⟨rfl, hino⟩ := resolve_eq_ok_iff.mp hplace
  exact ⟨ino, i, hino, inode_eq_ok_iff.mp hi, hkind, rfl⟩

theorem openDir_transacts (path : String) : Transacts now (openDir path) s := by
  refine transacts_of_ends (openDir_ends path) ?_
  rintro handle t ⟨ino, i, hino, hi, hkind, he⟩
  have hopen : Change now s _ := .openDir hino hi hkind
  rw [he] at hopen
  exact Changes.one hopen

/-! ## New files and directories -/

/-- A new node is made where nothing is and where there may be something. -/
theorem insertNode_ends (key : String) (node : Node) (mode : UInt32) :
    Ends (insertNode now key node mode) s
      (fun ino t => ino = s.nextInode ∧ t = s.link now key node mode ∧ s.names[key]? = none ∧
        s.checkParent key = .ok ())
      fun _ t => t = s := by
  unfold insertNode
  simp only [Ends.bind_iff, Ends.get_iff, Ends.ite_iff, Ends.throw_iff, Ends.ask_iff,
    Ends.modifyGet_iff, implies_true, true_and, and_true]
  intro hfree _ hparent
  refine ⟨?_, hparent⟩
  exact Std.TreeMap.getElem?_eq_none fun hmem => hfree (Std.TreeMap.contains_iff_mem.mpr hmem)

theorem mkdir_transacts (path : String) (mode : UInt32) :
    Transacts now (mkdir now path mode) s := by
  unfold mkdir
  refine Transacts.bind_pure (transacts_of_ends (insertNode_ends _ _ _) ?_) _
  rintro ino t ⟨-, rfl, hfree, hparent⟩
  exact Changes.one (.link (Path.isNormal_normalize path) hfree hparent)

theorem create_ends (path : String) (mode : UInt32) :
    Ends (create now path mode) s
      (fun handle t => s.names[Path.normalize path]? = none ∧
        s.checkParent (Path.normalize path) = .ok () ∧
        (s.link now (Path.normalize path) (.file .empty) mode).registerFile s.nextInode .readWrite =
          (handle, t))
      fun _ t => t = s := by
  unfold create
  rw [Ends.bind_iff]
  refine (insertNode_ends _ _ _).mono ?_ fun _ _ h => h
  rintro ino t ⟨rfl, rfl, hfree, hparent⟩
  exact ⟨hfree, hparent, rfl⟩

theorem create_transacts (h : s.Consistent) (path : String) (mode : UInt32) :
    Transacts now (create now path mode) s := by
  refine transacts_of_ends (create_ends path mode) ?_
  rintro handle t ⟨hfree, hparent, he⟩
  have hi := h.inode_link now (.file .empty) mode hfree hparent
  have hopen : Change now _ _ := .openFile .readWrite hi rfl
  rw [he] at hopen
  exact (Changes.one (.link (Path.isNormal_normalize path) hfree hparent)).tail hopen

/-! ## Opening files -/

/-- The file that is opened, as it was found or as it was made. -/
inductive Located (now : Timespec) (key : String) (flags : OpenFlags) (s : Store) :
    Store → Nat → Prop
  | found {ino : Nat} (hino : s.names[key]? = some ino)
      (hnew : flags.contains .createNew = false) : Located now key flags s s ino
  | made (hfree : s.names[key]? = none) (hparent : s.checkParent key = .ok ())
      (hcreate : flags.contains .create = true) :
      Located now key flags s (s.link now key (.file .empty) 0o644) s.nextInode

theorem locate_ends (key : String) (flags : OpenFlags) :
    Ends (locate now key flags) s (fun ino t => Located now key flags s t ino)
      fun _ t => t = s := by
  unfold locate
  rw [Ends.bind_iff, Ends.get_iff]
  split
  · next ino hino =>
    rw [Ends.ite_iff]
    exact ⟨fun _ => rfl, fun hnew => .found hino (Bool.not_eq_true _ ▸ hnew)⟩
  · next hfree =>
    rw [Ends.ite_iff]
    refine ⟨fun hcreate => (insertNode_ends _ _ _).mono ?_ fun _ _ h => h, fun _ => rfl⟩
    rintro ino t ⟨rfl, rfl, hfree, hparent⟩
    exact .made hfree hparent hcreate

/-- The owner of a new file may open it with any flags. -/
theorem permits_new (flags : OpenFlags) (node : Node) :
    s.permits (Inode.new now node 0o644 s.uid s.gid) flags.needed = true := by
  have hbits : ∀ reads writes : Bool,
      (((0o644 &&& permissionMask) >>> 6 &&&
          ((if reads then 4 else 0) ||| (if writes then 2 else 0)) : UInt32) ==
        (if reads then 4 else 0) ||| (if writes then 2 else 0)) = true := by decide
  unfold permits Inode.permits Inode.new OpenFlags.needed
  rw [if_pos rfl]
  exact hbits _ _

theorem permits_link (key : String) (node : Node) (mode : UInt32) (i : Inode) (wanted : UInt32) :
    (s.link now key node mode).permits i wanted = s.permits i wanted := by
  unfold link touchParent
  split <;> rfl

/-- The store with a file as it is opened: emptied, if the flags say so. -/
def prepared (s : Store) (now : Timespec) (flags : OpenFlags) (ino : Nat) (i : Inode) : Store :=
  if flags.contains .truncate && flags.writable then s.setInode ino (i.setContent now .empty) else s

/-- What is no directory is a file. -/
theorem kind_eq_file {i : Inode} (h : i.kind ≠ .directory) : i.kind = .file := by
  cases hkind : i.kind with
  | file => rfl
  | directory => exact absurd hkind h

/-- What is of the kind of files holds bytes. -/
theorem exists_file_of_kind {i : Inode} (hkind : i.kind = .file) : ∃ b, i.node = .file b := by
  cases hnode : i.node with
  | file b => exact ⟨b, rfl⟩
  | directory =>
    rw [Inode.kind, hnode] at hkind
    cases hkind

theorem resize_zero {i : Inode} (hkind : i.kind = .file) :
    i.resize now 0 = .ok (i.setContent now .empty) := by
  obtain ⟨content, hnode⟩ := exists_file_of_kind hkind
  unfold Inode.resize
  rw [if_neg (Nat.not_lt_zero _), hnode]
  dsimp only
  rw [Content.resize, if_pos (Nat.zero_le _), ByteArray.extract_same]

theorem resizeInode_zero_ends {ino : Nat} {i : Inode} (hi : s.inodes[ino]? = some i)
    (hkind : i.kind = .file) :
    Ends (resizeInode now ino 0) s (fun _ t => t = s.setInode ino (i.setContent now .empty))
      fun _ _ => False := by
  unfold resizeInode
  rw [Ends.bind_iff, ends_ask_inode hi, resize_zero hkind]
  rfl

/-- What is found or made has an inode, which is not refused if it was made. -/
theorem Located.inode {key : String} {flags : OpenFlags} {mid : Store} {ino : Nat}
    (hloc : Located now key flags s mid ino) (h : s.Consistent) :
    ∃ i, mid.inodes[ino]? = some i ∧
      (mid = s ∨ i.kind = .file ∧ mid.permits i flags.needed = true) := by
  cases hloc with
  | found hino hnew =>
    obtain ⟨i, hi, -⟩ := h.inode_of_named hino
    exact ⟨i, hi, Or.inl rfl⟩
  | made hfree hparent hcreate =>
    refine ⟨_, h.inode_link now (.file .empty) 0o644 hfree hparent, Or.inr ⟨rfl, ?_⟩⟩
    rw [permits_link, permits_new]

/-- What becomes of opening a file is settled by the inode that is found or made: a directory is
refused, and so is a file without the permissions that the flags need. -/
theorem openFile_ends_of_locate {path : String} {flags : OpenFlags}
    {good : FileHandle → Store → Prop} {bad : Errno → Store → Prop}
    (hvalid : flags.hasValidAccess = true)
    (hlocate : Ends (locate now (Path.normalize path) flags) s
      (fun ino mid => ∃ i, mid.inodes[ino]? = some i ∧
        (i.kind = .directory → bad .isADirectory mid) ∧
        (i.kind = .file → if mid.permits i flags.needed = true then
          good ((mid.prepared now flags ino i).registerFile ino flags).1
            ((mid.prepared now flags ino i).registerFile ino flags).2
          else bad .permissionDenied mid)) bad) :
    Ends (openFile now path flags) s good bad := by
  unfold openFile
  simp only [Ends.bind_iff, Ends.ite_iff, Ends.throw_iff, hvalid, not_true_eq_false, false_implies,
    and_true, forall_const]
  refine hlocate.mono ?_ fun _ _ h => h
  rintro ino mid ⟨i, hi, hdirectory, hfile⟩
  rw [ends_ask_inode hi]
  refine ⟨hdirectory, fun hkind => ?_⟩
  have hkind' := kind_eq_file hkind
  have hends := hfile hkind'
  rw [Ends.get_iff]
  refine ⟨fun hpermits => ?_, fun hpermits => by rwa [if_neg hpermits] at hends⟩
  rw [if_pos hpermits] at hends
  refine ⟨fun htrunc => ?_, fun htrunc => ?_⟩
  · refine (resizeInode_zero_ends hi hkind').mono ?_ fun _ _ h => h.elim
    rintro _ t rfl
    rw [prepared, if_pos htrunc] at hends
    exact hends
  · rw [prepared, if_neg htrunc] at hends
    exact hends

/-- **A file is opened only when all is done that can be refused**: one that was made for it is not
refused to its owner. -/
theorem openFile_ends (h : s.Consistent) (path : String) (flags : OpenFlags) :
    Ends (openFile now path flags) s
      (fun handle t => ∃ mid ino i, Located now (Path.normalize path) flags s mid ino ∧
        mid.inodes[ino]? = some i ∧ i.kind = .file ∧
        (mid.prepared now flags ino i).registerFile ino flags = (handle, t))
      fun _ t => t = s := by
  cases hvalid : flags.hasValidAccess with
  | false =>
    unfold openFile
    simp only [Ends.bind_iff, Ends.ite_iff, Ends.throw_iff, hvalid, Bool.false_eq_true,
      false_implies, not_false_eq_true, forall_const, and_self]
  | true =>
    refine openFile_ends_of_locate hvalid ((locate_ends _ flags).mono ?_ fun _ _ h => h)
    intro ino mid hloc
    obtain ⟨i, hi, hmade⟩ := hloc.inode h
    refine ⟨i, hi, fun hkind => ?_, fun hkind => ?_⟩
    · rcases hmade with hmade | ⟨hfile, -⟩
      · exact hmade
      · rw [hfile] at hkind
        cases hkind
    · split
      · exact ⟨mid, ino, i, hloc, hi, hkind, rfl⟩
      · next hpermits =>
        rcases hmade with hmade | ⟨-, hpermits'⟩
        · exact hmade
        · exact absurd hpermits' hpermits

theorem Located.changes {key : String} {flags : OpenFlags} {mid : Store} {ino : Nat}
    (hloc : Located now key flags s mid ino) (hnormal : Path.isNormal key = true) :
    Changes now s mid := by
  cases hloc with
  | found => exact Relation.ReflTransGen.refl
  | made hfree hparent => exact Changes.one (.link hnormal hfree hparent)

theorem alike_prepared (now : Timespec) (flags : OpenFlags) {ino : Nat} {i : Inode}
    (hi : s.inodes[ino]? = some i) (hkind : i.kind = .file) :
    Alike s (s.prepared now flags ino i) := by
  unfold prepared
  split
  · exact alike_setInode hi hkind.symm rfl
  · exact Alike.refl s

theorem prepared_changes {flags : OpenFlags} {ino : Nat} {i : Inode}
    (hi : s.inodes[ino]? = some i) (hkind : i.kind = .file) :
    Changes now s (s.prepared now flags ino i) := by
  unfold prepared
  split
  · exact Changes.one (.revise hi hkind.symm rfl)
  · exact Relation.ReflTransGen.refl

theorem openFile_transacts (h : s.Consistent) (path : String) (flags : OpenFlags) :
    Transacts now (openFile now path flags) s := by
  refine transacts_of_ends (openFile_ends h path flags) ?_
  rintro handle t ⟨mid, ino, i, hloc, hi, hkind, he⟩
  have hp := (alike_prepared now flags hi hkind).profile ino
  rw [profile_of_inode hi, hkind] at hp
  obtain ⟨j, hj, hkind', -⟩ := profile_eq_some_iff.mp hp
  have hopen : Change now _ _ := .openFile flags hj hkind'
  rw [he] at hopen
  exact ((hloc.changes (Path.isNormal_normalize path)).trans (prepared_changes hi hkind)).tail hopen

end FileScript.Store
