import FileScript.Proofs.FileArrays
import FileScript.Proofs.Refusals
import FileScript.Proofs.Resolution

/-!
# Permissions

Four requests ask for permissions, each in its own words: an inquiry, opening a file, resizing it by
its path, and opening a directory. They agree (`Store.AccessPredicts`).

1. The bits of one class of users decide, and there is no second class to try
   (`Inode.permits_iff`).
2. The permissions that are needed for opening are those of the access mode, whatever else is in the
   flag word (`OpenFlags.needed_eq_asked`).
3. At a path that is there, each of the four requests hinges on its permissions alone
   (`Store.Hinges`).
4. A request through an open handle asks for no permissions: its answer is a function of the handle
   and of the bytes of the file (`Store.OpenOn.request_eq`), which no change of permissions or of
   owners touches.
-/

namespace FileScript

/-! ## Classes of users -/

/-- The classes of users that a mode tells apart. -/
inductive UserClass where
  | owner
  | group
  | others
  deriving DecidableEq, Repr

namespace UserClass

/-- Where the three permission bits of a class begin in a mode. -/
def place : UserClass → Nat
  | owner => 6
  | group => 3
  | others => 0

/-- A mode has all of the wanted bits set for a class. -/
def Grants (c : UserClass) (mode wanted : UInt32) : Prop :=
  ∀ k, wanted.toNat.testBit k = true → mode.toNat.testBit (c.place + k) = true

end UserClass

namespace Inode

/-- The class of a user and a group towards an inode. The owner is in no other class, and a member
of the group is not among the others. -/
def classOf (i : Inode) (uid gid : Nat) : UserClass :=
  if i.uid = uid then .owner else if i.gid = gid then .group else .others

/-- The bits of one class decide. -/
theorem permits_iff (i : Inode) (uid gid : Nat) (wanted : UInt32) :
    i.permits uid gid wanted = true ↔ (i.classOf uid gid).Grants i.mode wanted := by
  have hshift : (if i.uid = uid then 6 else if i.gid = gid then 3 else 0 : UInt32).toNat =
      (i.classOf uid gid).place := by
    unfold classOf
    split
    · rfl
    · split <;> rfl
  have hsmall : (i.classOf uid gid).place < 32 := by
    cases i.classOf uid gid <;> decide
  unfold permits UserClass.Grants
  dsimp only
  rw [beq_iff_eq, ← UInt32.toNat_inj, UInt32.toNat_and, UInt32.toNat_shiftRight, hshift,
    Nat.mod_eq_of_lt hsmall]
  constructor
  · intro h k hk
    rw [← h, Nat.testBit_and, Nat.testBit_shiftRight, Bool.and_eq_true] at hk
    exact hk.1
  · intro h
    refine Nat.eq_of_testBit_eq fun k => ?_
    rw [Nat.testBit_and, Nat.testBit_shiftRight]
    cases hk : wanted.toNat.testBit k with
    | false => rw [Bool.and_false]
    | true => rw [h k hk, Bool.and_self]

/-- The owner has no use of what the group and the others are granted. -/
example : (Inode.new {} .directory 0o077 1 1).permits 1 1 0o4 = false := by decide

end Inode

/-! ## Access modes -/

namespace OpenFlags

/-- The permissions that an access mode needs, which is in the two lowest bits of a flag word: to
read, to write, or both. -/
def asked (f : OpenFlags) : UInt32 :=
  if f.bits &&& 0o3 = 0 then 0o4 else if f.bits &&& 0o3 = 1 then 0o2 else 0o6

theorem access_cases (f : OpenFlags) :
    f.bits &&& 0o3 = 0 ∨ f.bits &&& 0o3 = 1 ∨ f.bits &&& 0o3 = 2 ∨ f.bits &&& 0o3 = 3 := by
  have hlt : (f.bits &&& 0o3).toNat < 4 := by
    rw [UInt64.toNat_and]
    exact Nat.lt_succ_of_le Nat.and_le_right
  simp only [← UInt64.toNat_inj, UInt64.toNat_ofNat]
  omega

theorem contains_writeOnly (f : OpenFlags) :
    f.contains writeOnly = ((f.bits &&& 0o3) &&& 0o1 == 0o1) := by
  rw [UInt64.and_assoc]
  rfl

theorem contains_readWrite (f : OpenFlags) :
    f.contains readWrite = ((f.bits &&& 0o3) &&& 0o2 == 0o2) := by
  rw [UInt64.and_assoc]
  rfl

/-- The permissions that are needed are those that the access mode asks for. -/
theorem needed_eq_asked {f : OpenFlags} (h : f.hasValidAccess = true) : f.needed = f.asked := by
  unfold needed asked readable writable hasValidAccess at *
  rw [contains_writeOnly, contains_readWrite] at *
  rcases f.access_cases with hf | hf | hf | hf <;> rw [hf] at h ⊢
  · decide
  · decide
  · decide
  · exact absurd h (by decide)

end OpenFlags

/-! ## Requests at a path that is there -/

namespace Store

variable {s t : Store} {now : Timespec} {path : String} {ino : Nat} {i : Inode}

/-- A request is carried out. -/
def Succeeds (s : Store) (now : Timespec) (op : Operation) : Prop :=
  ∃ answer t, s.request now op = (.ok answer, t)

/-- A request is carried out if something holds, and else refused for want of permission. -/
structure Hinges (s : Store) (now : Timespec) (op : Operation) (granted : Prop) : Prop where
  succeeds_iff : s.Succeeds now op ↔ granted
  denied : ¬ granted → s.request now op = (.error .permissionDenied, s)

theorem hinges_of_ends {op : Operation} {granted : Prop}
    (h : Ends (op.perform now) s (fun _ _ => granted)
      fun e t => e = .permissionDenied ∧ t = s ∧ ¬ granted) : s.Hinges now op granted := by
  rcases request_cases h with ⟨answer, t, heq, hgranted⟩ | ⟨_, _, heq, rfl, rfl, hdenied⟩
  · exact ⟨iff_of_true ⟨answer, t, heq⟩ hgranted, fun hdenied => absurd hgranted hdenied⟩
  · refine ⟨iff_of_false ?_ hdenied, fun _ => heq⟩
    rintro ⟨answer, t, hok⟩
    cases heq.symm.trans hok

theorem Hinges.congr {op : Operation} {granted granted' : Prop} (h : s.Hinges now op granted)
    (hiff : granted ↔ granted') : s.Hinges now op granted' :=
  ⟨h.succeeds_iff.trans hiff, fun hdenied => h.denied fun hgranted => hdenied (hiff.mp hgranted)⟩

section Named

variable (hino : s.names[Path.normalize path]? = some ino) (hi : s.inodes[ino]? = some i)

include hino hi

theorem access_hinges (now : Timespec) (wanted : UInt32) :
    s.Hinges now (.access path wanted) (s.permits i wanted = true) := by
  refine hinges_of_ends (Ends.bind_iff.mpr ?_)
  unfold access
  simp only [Ends.bind_iff, ends_ask_resolve hino, ends_ask_inode hi, Ends.get_iff, Ends.ite_iff,
    Ends.pure_iff, Ends.throw_iff]
  exact ⟨id, fun hdenied => ⟨trivial, trivial, hdenied⟩⟩

theorem openFile_hinges (hkind : i.kind = .file) {flags : OpenFlags}
    (hvalid : flags.hasValidAccess = true) (hnew : flags.contains .createNew = false)
    (now : Timespec) :
    s.Hinges now (.openFile path flags) (s.permits i flags.needed = true) := by
  refine hinges_of_ends (Ends.map_iff.mpr (openFile_ends_of_locate hvalid ?_))
  unfold locate
  rw [Ends.bind_iff, Ends.get_iff]
  simp only [hino, hnew, Bool.false_eq_true, if_false, Ends.pure_iff]
  refine ⟨i, hi, fun hdirectory => ?_, fun _ => ?_⟩
  · rw [hkind] at hdirectory
    cases hdirectory
  · split
    · next hpermits => exact hpermits
    · next hdenied => exact ⟨trivial, trivial, hdenied⟩

theorem truncate_hinges (hkind : i.kind = .file) {size : Nat} (hsize : size ≤ Inode.maxFileSize)
    (now : Timespec) : s.Hinges now (.truncate path size) (s.permits i 0o2 = true) := by
  obtain ⟨b, hnode⟩ := exists_file_of_kind hkind
  refine hinges_of_ends (Ends.bind_iff.mpr ?_)
  unfold truncate
  simp only [Ends.bind_iff, ends_ask_resolve hino, ends_ask_inode hi, Ends.get_iff, Ends.ite_iff,
    Ends.pure_iff, Ends.throw_iff, hkind, reduceCtorEq, false_implies, not_false_eq_true,
    forall_const, true_and]
  refine ⟨fun hpermits => ?_, id⟩
  refine (resizeInode_ends hi hnode size).mono (fun _ _ _ => hpermits) ?_
  rintro _ _ ⟨-, hlarge, -⟩
  exact absurd hsize (not_le.mpr hlarge)

theorem openDir_hinges (hkind : i.kind = .directory) (now : Timespec) :
    s.Hinges now (.openDir path) (s.permits i 0o4 = true) := by
  refine hinges_of_ends (Ends.map_iff.mpr ?_)
  unfold openDir
  simp only [Ends.bind_iff, ends_ask_resolve hino, ends_ask_inode hi, Ends.get_iff, Ends.ite_iff,
    Ends.throw_iff, Ends.modifyGet_iff, hkind, ne_eq, not_true_eq_false, false_implies,
    not_false_eq_true, forall_const, true_and]
  exact ⟨id, id⟩

end Named

end Store

/-! ## Requests through an open handle -/

namespace Operation

/-- A request that changes permissions or owners. -/
def regulates : Operation → Bool
  | chmod .. | chown .. => true
  | _ => false

theorem isQuiet_of_regulates {op : Operation} (h : op.regulates = true) : op.isQuiet = true := by
  cases op with
  | chmod | chown => rfl
  | _ => cases h

/-- The flags of the handle through which a request is made allow it. -/
def isAllowed : Operation → Bool
  | read handle _ => handle.flags.readable
  | write handle _ | truncateOpen handle _ => handle.flags.writable
  | _ => true

/-- The error of a request which the flags of its handle do not allow. -/
def denial : Operation → Errno
  | truncateOpen .. => .invalidArgument
  | _ => .badDescriptor

/-- The answer to a request through an open handle, behind which there is a file with the content
`b`. -/
def reply (b : ByteArray) : Operation → Except Errno Answer
  | seek handle offset => .ok (.file { handle with offset })
  | read handle count =>
    if handle.flags.readable then
      let data := Content.slice b handle.offset count
      .ok (.bytes data { handle with offset := handle.offset + data.size })
    else .error .badDescriptor
  | write handle data =>
    if handle.flags.writable then
      let stop := Store.writeStart handle b + data.size
      if data.size = 0 then .ok (.file handle)
      else if stop > Inode.maxFileSize then .error .fileTooLarge
      else .ok (.file { handle with offset := stop })
    else .error .badDescriptor
  | truncateOpen handle size =>
    if handle.flags.writable then
      if size > Inode.maxFileSize then .error .fileTooLarge else .ok .done
    else .error .invalidArgument
  | _ => .ok .done

/-- A request through an open handle is refused if the flags do not allow it, or if the file would
become too large. -/
theorem reply_cases (b : ByteArray) (op : Operation) :
    op.isAllowed = true ∧
        ((∃ answer, op.reply b = .ok answer) ∨ op.reply b = .error .fileTooLarge) ∨
      op.isAllowed = false ∧ op.reply b = .error op.denial := by
  cases op with
  | read handle count =>
    cases hflags : handle.flags.readable <;> simp [reply, isAllowed, denial, hflags]
  | write handle data =>
    cases hflags : handle.flags.writable
    · simp [reply, isAllowed, denial, hflags]
    · simp only [reply, isAllowed, hflags, if_true]
      split
      · simp
      · split <;> simp
  | truncateOpen handle size =>
    cases hflags : handle.flags.writable
    · simp [reply, isAllowed, denial, hflags]
    · simp only [reply, isAllowed, hflags, if_true]
      split <;> simp
  | _ => simp [reply, isAllowed]

end Operation

namespace Store

open Content

variable {s : Store} {now : Timespec} {op : Operation} {handle : FileHandle} {ino : Nat}

/-- **Permissions are not asked of an open handle**: its flags decide, and the file. -/
theorem OpenOn.request_eq (h : s.Sound) {b : ByteArray} (hopen : s.OpenOn handle ino (bytes b))
    (hop : op.lent = some (.file handle)) (now : Timespec) :
    (s.request now op).1 = op.reply b := by
  obtain ⟨i, b', hi, hnode, hcontent⟩ := h.file_of_open hopen.inode_eq
  cases bytes_injective (Option.some.inj (hopen.content_eq.symm.trans hcontent))
  have hends : Ends (op.perform now) s (fun answer _ => op.reply b = .ok answer)
      fun e _ => op.reply b = .error e := by
    cases op with
    | close | seek | sync =>
      cases hop
      simp only [Operation.perform, Store.close, Store.seek, Store.sync, Ends.bind_iff,
        Ends.map_iff, Ends.pure_iff, Ends.modify_iff, ends_ask_fileInode hopen.inode_eq,
        Operation.reply]
    | read _ count =>
      cases hop
      simp only [Operation.perform, Store.read, Ends.bind_iff, Ends.ite_iff, Ends.throw_iff,
        ends_ask_fileInode hopen.inode_eq, ends_ask_inode hi, hnode, Ends.pure_iff,
        Operation.reply]
      exact ⟨fun hreadable => if_pos hreadable, fun hflags => if_neg hflags⟩
    | write _ data =>
      cases hop
      simp only [Operation.perform, Store.write, Ends.map_iff, Ends.bind_iff, Ends.ite_iff,
        Ends.throw_iff, ends_ask_fileInode hopen.inode_eq, ends_ask_inode hi, hnode,
        Ends.pure_iff, Ends.modify_iff, Operation.reply]
      refine ⟨fun hwritable => ?_, fun hflags => if_neg hflags⟩
      rw [if_pos hwritable]
      exact ⟨fun hnothing => if_pos hnothing, fun hsome => by
        rw [if_neg hsome]
        exact ⟨fun hlarge => if_pos hlarge, fun hfits => if_neg hfits⟩⟩
    | truncateOpen _ size =>
      cases hop
      simp only [Operation.perform, Store.truncateOpen, Ends.bind_iff, Ends.ite_iff,
        Ends.throw_iff, ends_ask_fileInode hopen.inode_eq, Ends.pure_iff, Operation.reply]
      refine ⟨fun hwritable => ?_, fun hflags => if_neg hflags⟩
      rw [if_pos hwritable]
      refine (resizeInode_ends hi hnode size).mono ?_ ?_
      · exact fun _ _ ht => if_neg (not_lt.mpr ht.1)
      · rintro _ _ ⟨-, hlarge, rfl⟩
        exact if_pos hlarge
    | _ => cases hop
  rcases request_cases hends with ⟨answer, t, heq, hreply⟩ | ⟨e, t, heq, hreply⟩ <;>
    rw [heq, hreply]

/-- Requests that have nothing to do with bytes and handles leave an open file as it is. -/
theorem OpenOn.after_quiet (h : s.Consistent) {b : List UInt8} (hopen : s.OpenOn handle ino b)
    {history : List (Timespec × Operation)} (hquiet : ∀ step ∈ history, step.2.isQuiet = true) :
    (s.after history).OpenOn handle ino b := by
  induction history generalizing s with
  | nil => exact hopen
  | cons step history ih =>
    rw [List.forall_mem_cons] at hquiet
    refine ih (h.request step.1 step.2) ?_ hquiet.2
    have hstep : Quiet s (s.request step.1 step.2).2 := by
      rcases request_cases (perform_quiet h step.1 hquiet.1) with
        ⟨_, t, heq, ht⟩ | ⟨_, t, heq, rfl⟩ <;> rw [heq]
      · exact ht
      · exact .refl t
    have hino := hopen.inode_eq
    rw [← hstep.handles.openFiles] at hino
    obtain ⟨-, b', -, -, hcontent⟩ := (h.request step.1 step.2).file_of_open hino
    cases hopen.content_eq.symm.trans (hstep.contents hcontent)
    exact ⟨hino, hcontent⟩

/-! ## All stores -/

/-- An inquiry foretells what else asks for permissions, and the class of the user decides it alone:
a file is opened if what its access mode asks for is granted, and is resized by its path if writing
is; a directory is opened if reading is. Nothing else is refused about them. A handle that is open
asks for nothing more: it allows what its flags allow, and answers as before when permissions and
owners have changed. -/
structure AccessPredicts (s : Store) : Prop where
  inquiry : ∀ ⦃path : String⦄ ⦃ino : Nat⦄ ⦃i : Inode⦄, s.names[Path.normalize path]? = some ino →
    s.inodes[ino]? = some i → ∀ now wanted, s.Hinges now (.access path wanted)
      ((i.classOf s.uid s.gid).Grants i.mode wanted)
  opened : ∀ ⦃path : String⦄ ⦃flags : OpenFlags⦄, s.NamesFile (Path.normalize path) →
    flags.hasValidAccess = true → flags.contains .createNew = false → ∀ now later,
      s.Hinges now (.openFile path flags) (s.Succeeds later (.access path flags.asked))
  resized : ∀ ⦃path : String⦄ ⦃size : Nat⦄, s.NamesFile (Path.normalize path) →
    size ≤ Inode.maxFileSize → ∀ now later,
      s.Hinges now (.truncate path size) (s.Succeeds later (.access path 0o2))
  listed : ∀ ⦃path : String⦄, s.NamesDirectory (Path.normalize path) → ∀ now later,
    s.Hinges now (.openDir path) (s.Succeeds later (.access path 0o4))
  rights : ∀ ⦃handle : FileHandle⦄ ⦃ino : Nat⦄ ⦃op : Operation⦄,
    s.openFiles[handle.id]? = some ino → op.lent = some (.file handle) → ∀ now,
      if op.isAllowed then
        s.Succeeds now op ∨ s.request now op = (.error .fileTooLarge, s)
      else s.request now op = (.error op.denial, s)
  kept : ∀ ⦃handle : FileHandle⦄ ⦃ino : Nat⦄ ⦃history : List (Timespec × Operation)⦄,
    s.openFiles[handle.id]? = some ino → (∀ step ∈ history, step.2.regulates = true) →
      (s.after history).openFiles[handle.id]? = some ino ∧
        ∀ ⦃op : Operation⦄, op.lent = some (.file handle) → ∀ now,
          ((s.after history).request now op).1 = (s.request now op).1

theorem Consistent.rights (h : s.Consistent) (hino : s.openFiles[handle.id]? = some ino)
    (hop : op.lent = some (.file handle)) (now : Timespec) :
    if op.isAllowed then s.Succeeds now op ∨ s.request now op = (.error .fileTooLarge, s)
    else s.request now op = (.error op.denial, s) := by
  obtain ⟨i, b, -, -, hcontent⟩ := h.file_of_open hino
  have hanswer := OpenOn.request_eq h.toSound ⟨hino, hcontent⟩ hop now
  have hrefused : ∀ e, op.reply b = .error e → s.request now op = (.error e, s) := by
    intro e he
    rw [he] at hanswer
    exact Prod.ext hanswer (eq_of_request_error h (Prod.ext hanswer rfl))
  rcases op.reply_cases b with ⟨hallowed, ⟨answer, hreply⟩ | hreply⟩ | ⟨hallowed, hreply⟩
  · rw [hreply] at hanswer
    rw [if_pos hallowed]
    exact .inl ⟨answer, _, Prod.ext hanswer rfl⟩
  · rw [if_pos hallowed]
    exact .inr (hrefused _ hreply)
  · rw [hallowed]
    exact hrefused _ hreply

/-- Changes of permissions and owners leave an open handle as it is. -/
theorem Consistent.kept (h : s.Consistent) (hino : s.openFiles[handle.id]? = some ino)
    {history : List (Timespec × Operation)} (hhistory : ∀ step ∈ history, step.2.regulates = true) :
    (s.after history).openFiles[handle.id]? = some ino ∧
      ∀ ⦃op : Operation⦄, op.lent = some (.file handle) → ∀ now,
        ((s.after history).request now op).1 = (s.request now op).1 := by
  obtain ⟨i, b, -, -, hcontent⟩ := h.file_of_open hino
  have hopen : s.OpenOn handle ino (bytes b) := ⟨hino, hcontent⟩
  have hlater : (s.after history).OpenOn handle ino (bytes b) :=
    hopen.after_quiet h fun step hstep => Operation.isQuiet_of_regulates (hhistory step hstep)
  refine ⟨hlater.inode_eq, fun op hop now => ?_⟩
  rw [hlater.request_eq (h.after history).toSound hop, hopen.request_eq h.toSound hop]

theorem Consistent.accessPredicts (h : s.Consistent) : s.AccessPredicts where
  inquiry path ino i hino hi now wanted :=
    (access_hinges hino hi now wanted).congr (i.permits_iff s.uid s.gid wanted)
  opened := by
    rintro path flags ⟨ino, i, hino, hi, hkind⟩ hvalid hnew now later
    have hopen := openFile_hinges hino hi hkind hvalid hnew now
    rw [OpenFlags.needed_eq_asked hvalid] at hopen
    exact hopen.congr (access_hinges hino hi later flags.asked).succeeds_iff.symm
  resized := by
    rintro path size ⟨ino, i, hino, hi, hkind⟩ hsize now later
    exact (truncate_hinges hino hi hkind hsize now).congr
      (access_hinges hino hi later 0o2).succeeds_iff.symm
  listed := by
    rintro path ⟨ino, i, hino, hi, hkind⟩ now later
    exact (openDir_hinges hino hi hkind now).congr
      (access_hinges hino hi later 0o4).succeeds_iff.symm
  rights handle ino op hino hop now := h.rights hino hop now
  kept handle ino history hino hhistory := h.kept hino hhistory

/-- **In every store that can be reached, asking for access foretells every check of
permissions.** -/
theorem accessPredicts_after_new (now : Timespec) (uid gid : Nat)
    (history : List (Timespec × Operation)) :
    ((Store.new now uid gid).after history).AccessPredicts :=
  ((consistent_new now uid gid).after history).accessPredicts

end Store

end FileScript
