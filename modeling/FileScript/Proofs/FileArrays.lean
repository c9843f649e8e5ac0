import FileScript.Proofs.Frames

/-!
# Files as arrays of bytes

Behind names, handles and inodes a file is a plain array of bytes. Along every history of a store
the arrays are changed by the requests that open, create, write and resize files
(`Arrays.step`), each as one does it to an array, and at all times the files hold just these arrays
(`Store.actsOnArrays_after_new`).
-/

namespace FileScript

/-- Whether a request may make a file or change the bytes of one. -/
def Operation.editsFiles : Operation → Bool
  | openFile .. | create .. | write .. | truncateOpen .. | truncate .. => true
  | _ => false

/-- The bytes of the files, by their inode numbers. -/
abbrev Arrays := Nat → List UInt8

/-- Where a write through a handle begins in an array: at its end if the handle appends, else at the
offset. -/
def FileHandle.start (handle : FileHandle) (a : List UInt8) : Nat :=
  if handle.flags.contains .append then a.length else handle.offset

namespace Arrays

open Content

/-- The arrays after a request to the store `s` that ended with a result. Opening and creating make
an empty array for a new file, and opening may empty that of an old one. What was refused has no
effect, and neither have the requests that are not named here. -/
def step (a : Arrays) (s : Store) : Operation → Except Errno Answer → Arrays
  | .openFile path flags, .ok _ =>
    match s.names[Path.normalize path]? with
    | none => Function.update a s.nextInode []
    | some ino =>
      if flags.contains .truncate && flags.writable then Function.update a ino [] else a
  | .create _ _, .ok _ => Function.update a s.nextInode []
  | .write handle data, .ok _ =>
    match s.openFiles[handle.id]? with
    | none => a
    | some ino =>
      if data.size = 0 then a
      else Function.update a ino (written (a ino) (handle.start (a ino)) (bytes data))
  | .truncateOpen handle size, .ok _ =>
    match s.openFiles[handle.id]? with
    | none => a
    | some ino => Function.update a ino (resized (a ino) size)
  | .truncate path size, .ok _ =>
    match s.names[Path.normalize path]? with
    | none => a
    | some ino => Function.update a ino (resized (a ino) size)
  | _, _ => a

/-- The arrays after a history of the store `s`. -/
def after (a : Arrays) (s : Store) : List (Timespec × Operation) → Arrays
  | [] => a
  | (now, op) :: history =>
    (a.step s op (s.request now op).1).after (s.request now op).2 history

theorem step_error (a : Arrays) (s : Store) (op : Operation) (e : Errno) :
    a.step s op (.error e) = a := by
  unfold step
  split <;> first | rfl | simp_all

theorem step_of_not_editsFiles (a : Arrays) (s : Store) {op : Operation} (h : op.editsFiles = false)
    (result : Except Errno Answer) : a.step s op result = a := by
  unfold step
  split <;> first | rfl | cases h

end Arrays

namespace Store

open Content

variable {s t : Store} {now : Timespec} {a : Arrays}

/-! ## One file is changed -/

/-- Of the bytes of files, those of one file differ. -/
def Rewrites (s t : Store) (ino : Nat) (content : List UInt8) : Prop :=
  ∀ other, t.content other = if ino = other then some content else s.content other

theorem rewrites_setInode (s : Store) (ino : Nat) {i : Inode} {content : ByteArray}
    (hnode : i.node = .file content) : s.Rewrites (s.setInode ino i) ino (bytes content) := by
  intro other
  rw [content_setInode, hnode]
  rfl

theorem rewrites_link (s : Store) (now : Timespec) (key : String) (mode : UInt32) :
    s.Rewrites (s.link now key (.file .empty) mode) s.nextInode [] :=
  fun other => content_link key _ mode other

/-- A handle is open on a file with these bytes. -/
structure OpenOn (s : Store) (handle : FileHandle) (ino : Nat) (content : List UInt8) : Prop where
  inode_eq : s.openFiles[handle.id]? = some ino
  content_eq : s.content ino = some content

theorem OpenOn.unique {handle : FileHandle} {ino ino' : Nat} {content content' : List UInt8}
    (h : s.OpenOn handle ino content) (h' : s.OpenOn handle ino' content') :
    ino' = ino ∧ content' = content := by
  cases h.inode_eq.symm.trans h'.inode_eq
  cases h.content_eq.symm.trans h'.content_eq
  exact ⟨rfl, rfl⟩

/-- Behind an open file handle there is a file. -/
theorem Sound.file_of_open (h : s.Sound) {id ino : Nat} (hino : s.openFiles[id]? = some ino) :
    ∃ i b, s.inodes[ino]? = some i ∧ i.node = .file b ∧ s.content ino = some (bytes b) := by
  obtain ⟨linked, hp⟩ := h.file_open hino
  obtain ⟨i, hi, hkind, -⟩ := profile_eq_some_iff.mp hp
  obtain ⟨b, hnode⟩ := exists_file_of_kind hkind
  exact ⟨i, b, hi, hnode, by rw [content_of_inode hi, hnode]; rfl⟩

/-! ## What the requests on files do -/

theorem ends_fileInode {handle : FileHandle} {good : Nat → Store → Prop}
    {bad : Errno → Store → Prop} :
    Ends (ask (·.fileInode handle)) s good bad ↔
      (∀ ino, s.openFiles[handle.id]? = some ino → good ino s) ∧
        (s.openFiles[handle.id]? = none → bad .badDescriptor s) := by
  rw [Ends.ask_iff, fileInode]
  cases s.openFiles[handle.id]? <;> simp

theorem ends_ask_fileInode {handle : FileHandle} {ino : Nat}
    (hino : s.openFiles[handle.id]? = some ino) {good : Nat → Store → Prop}
    {bad : Errno → Store → Prop} :
    Ends (ask (·.fileInode handle)) s good bad ↔ good ino s := by
  rw [ends_fileInode, hino]
  simp

section Open

variable (now) (h : s.Sound) (handle : FileHandle)

include h

/-- A write through a handle that may write goes through if the file does not become too large. -/
theorem write_ends (data : ByteArray) :
    Ends ((Operation.write handle data).perform now) s
      (fun answer t => ∃ ino content, s.OpenOn handle ino content ∧
        if data.size = 0 then answer = .file handle ∧ t = s
        else handle.start content + data.size ≤ Inode.maxFileSize ∧
          answer = .file { handle with offset := handle.start content + data.size } ∧
          s.Rewrites t ino (written content (handle.start content) (bytes data)))
      fun e t => t = s ∧ ∀ ino content, s.OpenOn handle ino content →
        handle.flags.writable = true → data.size ≠ 0 ∧
          Inode.maxFileSize < handle.start content + data.size ∧ e = .fileTooLarge := by
  refine Ends.map_iff.mpr ?_
  unfold write
  rw [Ends.bind_iff, ends_fileInode]
  refine ⟨fun ino hino => ?_, fun hclosed => ⟨rfl, fun _ _ hopen => ?closed⟩⟩
  case closed =>
    cases hclosed.symm.trans hopen.inode_eq
  obtain ⟨i, b, hi, hnode, hcontent⟩ := h.file_of_open hino
  have hopen : s.OpenOn handle ino (bytes b) := ⟨hino, hcontent⟩
  have hstart : writeStart handle b = handle.start (bytes b) := by
    rw [writeStart, FileHandle.start, length_bytes]
  rw [Ends.ite_iff]
  refine ⟨fun _ => ?_, fun hflags => ⟨rfl, fun _ _ _ h => absurd h hflags⟩⟩
  rw [Ends.bind_iff, ends_ask_inode hi]
  simp only [hnode, hstart, Ends.ite_iff, Ends.pure_iff, Ends.bind_iff, Ends.throw_iff,
    Ends.modify_iff]
  refine ⟨fun hnothing => ⟨ino, _, hopen, by simp [hnothing]⟩, fun hsome =>
    ⟨fun hlarge => ⟨trivial, fun _ _ hopen' _ => ?_⟩, fun hfits => ⟨ino, _, hopen, ?_⟩⟩⟩
  · obtain ⟨rfl, rfl⟩ := hopen.unique hopen'
    exact ⟨hsome, hlarge, trivial⟩
  · rw [if_neg hsome]
    refine ⟨not_lt.mp hfits, rfl, ?_⟩
    rw [← bytes_overwrite]
    exact rewrites_setInode s ino rfl

/-- A read through a handle that may read gives the bytes from its offset on. -/
theorem read_ends (count : Nat) :
    Ends ((Operation.read handle count).perform now) s
      (fun answer t => t = s ∧ ∃ ino content data, s.OpenOn handle ino content ∧
        bytes data = portion content (min handle.offset content.length)
          (min (handle.offset + count) content.length) ∧
        answer = .bytes data { handle with offset := handle.offset + data.size })
      fun _ t => t = s ∧ ∀ ino content, s.OpenOn handle ino content →
        handle.flags.readable = false := by
  refine Ends.bind_iff.mpr ?_
  unfold read
  rw [Ends.bind_iff, ends_fileInode]
  refine ⟨fun ino hino => ?_, fun hclosed => ⟨rfl, fun _ _ hopen => ?closed⟩⟩
  case closed =>
    cases hclosed.symm.trans hopen.inode_eq
  obtain ⟨i, b, hi, hnode, hcontent⟩ := h.file_of_open hino
  rw [Ends.ite_iff]
  refine ⟨fun _ => ?_, fun hflags => ⟨rfl, fun _ _ _ => Bool.eq_false_of_not_eq_true hflags⟩⟩
  rw [Ends.bind_iff, ends_ask_inode hi]
  simp only [hnode, Ends.pure_iff]
  exact ⟨trivial, ino, bytes b, _, ⟨hino, hcontent⟩, by rw [bytes_slice, length_bytes], rfl⟩

end Open

/-- A resize goes through if the file does not become too large. -/
theorem resizeInode_ends {ino : Nat} {i : Inode} {b : ByteArray} (hi : s.inodes[ino]? = some i)
    (hnode : i.node = .file b) (size : Nat) :
    Ends (resizeInode now ino size) s
      (fun _ t => size ≤ Inode.maxFileSize ∧ s.Rewrites t ino (resized (bytes b) size) ∧
        SameFrame s t)
      fun e t => t = s ∧ Inode.maxFileSize < size ∧ e = .fileTooLarge := by
  unfold resizeInode Inode.resize
  rw [Ends.bind_iff, ends_ask_inode hi]
  by_cases hlarge : size > Inode.maxFileSize
  · rw [if_pos hlarge]
    exact ⟨rfl, hlarge, rfl⟩
  · rw [if_neg hlarge]
    simp only [hnode, Ends.modify_iff]
    rw [← bytes_resize]
    exact ⟨not_lt.mp hlarge, rewrites_setInode s ino rfl, .setInode s ino _⟩

/-- An open file is resized through a handle that may write. -/
theorem truncateOpen_ends (now : Timespec) (h : s.Sound) (handle : FileHandle) (size : Nat) :
    Ends ((Operation.truncateOpen handle size).perform now) s
      (fun answer t => answer = .done ∧ ∃ ino content, s.OpenOn handle ino content ∧
        size ≤ Inode.maxFileSize ∧ s.Rewrites t ino (resized content size) ∧ SameFrame s t)
      fun e t => t = s ∧ ∀ ino content, s.OpenOn handle ino content →
        handle.flags.writable = true → Inode.maxFileSize < size ∧ e = .fileTooLarge := by
  refine Ends.bind_iff.mpr ?_
  unfold truncateOpen
  rw [Ends.bind_iff, ends_fileInode]
  refine ⟨fun ino hino => ?_, fun hclosed => ⟨rfl, fun _ _ hopen => ?closed⟩⟩
  case closed =>
    cases hclosed.symm.trans hopen.inode_eq
  obtain ⟨i, b, hi, hnode, hcontent⟩ := h.file_of_open hino
  rw [Ends.ite_iff]
  refine ⟨fun _ => ?_, fun hflags => ⟨rfl, fun _ _ _ h => absurd h hflags⟩⟩
  refine (resizeInode_ends hi hnode size).mono ?_ ?_
  · rintro _ t ⟨hfits, ht⟩
    exact ⟨rfl, ino, bytes b, ⟨hino, hcontent⟩, hfits, ht⟩
  · rintro e t ⟨rfl, hlarge, rfl⟩
    exact ⟨rfl, fun _ _ _ _ => ⟨hlarge, rfl⟩⟩

/-- A file is resized by its path if its permissions allow writing. -/
theorem truncate_ends (now : Timespec) (h : s.Sound) (path : String) (size : Nat) :
    Ends ((Operation.truncate path size).perform now) s
      (fun answer t => answer = .done ∧ ∃ ino content, s.names[Path.normalize path]? = some ino ∧
        s.content ino = some content ∧ size ≤ Inode.maxFileSize ∧
        s.Rewrites t ino (resized content size) ∧ SameFrame s t)
      fun e t => t = s ∧ ∀ ino i b, s.names[Path.normalize path]? = some ino →
        s.inodes[ino]? = some i → i.node = .file b → s.permits i 0o2 = true →
          Inode.maxFileSize < size ∧ e = .fileTooLarge := by
  refine Ends.bind_iff.mpr ?_
  unfold truncate
  rw [Ends.bind_iff, Ends.ask_iff]
  refine ⟨?_, fun e he => ⟨rfl, fun _ _ _ hino => ?free⟩⟩
  case free =>
    rw [names_of_resolve_eq_error he] at hino
    cases hino
  rintro ⟨key, ino⟩ hplace
  obtain ⟨-, hino⟩ := resolve_eq_ok_iff.mp hplace
  obtain ⟨i, hi, -⟩ := h.inode_of_named hino
  rw [Ends.bind_iff, ends_ask_inode hi, Ends.ite_iff]
  refine ⟨fun hkind => ⟨rfl, fun ino' i' b hino' hi' hnode => ?directory⟩, fun hkind => ?_⟩
  case directory =>
    cases hino.symm.trans hino'
    cases hi.symm.trans hi'
    rw [Inode.kind, hnode] at hkind
    cases hkind
  rw [Ends.bind_iff, Ends.get_iff, Ends.ite_iff]
  refine ⟨fun _ => ?_, fun hdenied => ⟨rfl, fun ino' i' _ hino' hi' _ hpermits => ?denied⟩⟩
  case denied =>
    cases hino.symm.trans hino'
    cases hi.symm.trans hi'
    exact absurd hpermits hdenied
  obtain ⟨b, hnode⟩ := exists_file_of_kind (kind_eq_file hkind)
  refine (resizeInode_ends hi hnode size).mono ?_ ?_
  · rintro _ t ⟨hfits, ht⟩
    exact ⟨rfl, ino, bytes b, hino, by rw [content_of_inode hi, hnode]; rfl, hfits, ht⟩
  · rintro e t ⟨rfl, hlarge, rfl⟩
    exact ⟨rfl, fun _ _ _ _ _ _ _ => ⟨hlarge, rfl⟩⟩

/-! ## What opening does -/

theorem Rewrites.trans {u : Store} {ino : Nat} {content content' : List UInt8}
    (h : s.Rewrites t ino content) (h' : t.Rewrites u ino content') :
    s.Rewrites u ino content' := by
  intro other
  rw [h' other, h other]
  split <;> rfl

theorem eq_of_registerFile {ino : Nat} {flags : OpenFlags} {handle : FileHandle}
    (h : s.registerFile ino flags = (handle, t)) :
    handle = { id := s.nextHandle, flags } ∧ t = (s.registerFile ino flags).2 :=
  ⟨(congrArg Prod.fst h).symm, (congrArg Prod.snd h).symm⟩

theorem content_prepared (s : Store) (now : Timespec) (flags : OpenFlags) (ino : Nat) (i : Inode) :
    if flags.contains .truncate && flags.writable then
      s.Rewrites (s.prepared now flags ino i) ino []
    else s.prepared now flags ino i = s := by
  unfold prepared
  split
  · exact rewrites_setInode (i := i.setContent now .empty) s ino rfl
  · rfl

/-- A new file is empty, and an old one is emptied if the flags say so. -/
theorem openFile_contents (h : s.Consistent) (path : String) (flags : OpenFlags) :
    Ends ((Operation.openFile path flags).perform now) s
      (fun answer t => answer = .file { id := s.nextHandle, flags } ∧
        ∃ ino, t.openFiles[s.nextHandle]? = some ino ∧
          match s.names[Path.normalize path]? with
          | none => ino = s.nextInode ∧ s.Rewrites t ino []
          | some found => ino = found ∧
            if flags.contains .truncate && flags.writable then s.Rewrites t ino []
            else ∀ other, t.content other = s.content other)
      fun _ t => t = s := by
  refine Ends.map_iff.mpr ((openFile_ends h path flags).mono ?_ fun _ _ h => h)
  rintro handle t ⟨mid, ino, i, hloc, hi, hkind, hopened⟩
  have hnext : (mid.prepared now flags ino i).nextHandle = s.nextHandle :=
    (alike_prepared now flags hi hkind).nextHandle.trans hloc.keepsHandles.nextHandle
  obtain ⟨rfl, rfl⟩ := eq_of_registerFile hopened
  refine ⟨by rw [hnext], ino, ?_, ?_⟩
  · rw [getElem?_openFiles_registerFile, if_pos hnext]
  have hprepared := content_prepared mid now flags ino i
  cases hloc with
  | found hino =>
    rw [hino]
    refine ⟨rfl, ?_⟩
    split at hprepared
    · next htrunc =>
      rw [if_pos htrunc]
      exact hprepared
    · next htrunc =>
      rw [if_neg htrunc, hprepared]
      exact fun other => rfl
  | made hfree =>
    rw [hfree]
    refine ⟨rfl, ?_⟩
    have hmade := rewrites_link s now (Path.normalize path) 0o644
    split at hprepared
    · exact hmade.trans hprepared
    · rw [hprepared]
      exact hmade

theorem create_contents (path : String) (mode : UInt32) :
    Ends ((Operation.create path mode).perform now) s
      (fun answer t => answer = .file { id := s.nextHandle, flags := .readWrite } ∧
        t.openFiles[s.nextHandle]? = some s.nextInode ∧ s.Rewrites t s.nextInode [])
      fun _ t => t = s := by
  refine Ends.map_iff.mpr ((create_ends path mode).mono ?_ fun _ _ h => h)
  rintro handle t ⟨-, -, hopened⟩
  have hnext : (s.link now (Path.normalize path) (.file .empty) mode).nextHandle = s.nextHandle :=
    (KeepsHandles.link s now _ _ mode).nextHandle
  obtain ⟨rfl, rfl⟩ := eq_of_registerFile hopened
  refine ⟨by rw [hnext], ?_, rewrites_link s now _ mode⟩
  rw [getElem?_openFiles_registerFile, if_pos hnext]

/-! ## What the other requests do -/

/-- Where no file is made or changed, the files that are left have the bytes that they had. -/
theorem perform_keepsContents (h : s.Consistent) (now : Timespec) {op : Operation}
    (hop : op.editsFiles = false) :
    Ends (op.perform now) s (fun _ t => KeepsContents s t) fun _ t => t = s := by
  by_cases hquiet : op.isQuiet = true
  · exact (perform_quiet h now hquiet).mono (fun _ _ ht => ht.contents) fun _ _ h => h
  cases op with
  | close handle =>
    refine Ends.bind_iff.mpr ?_
    unfold close
    simp only [Ends.bind_iff, Ends.pure_iff, ends_fileInode, Ends.modify_iff, implies_true,
      and_true]
    exact fun ino _ => KeepsContents.releaseIfOrphaned _ ino
  | openDir path =>
    refine Ends.map_iff.mpr ((openDir_ends path).mono ?_ fun _ _ h => h)
    rintro handle t ⟨ino, i, -, -, -, hopened⟩
    obtain ⟨-, rfl⟩ := Prod.mk.inj hopened.symm
    exact .refl s
  | closeDir handle =>
    refine Ends.bind_iff.mpr ?_
    unfold closeDir
    rw [Ends.bind_iff, Ends.get_iff]
    split
    · rfl
    · next dir _ => exact KeepsContents.releaseIfOrphaned _ dir.inode
  | openFile | create | write | truncateOpen | truncate => cases hop
  | _ => exact absurd rfl hquiet

/-! ## The files hold the arrays -/

/-- Every file has the bytes of its array. -/
def Holds (s : Store) (a : Arrays) : Prop :=
  ∀ ⦃ino : Nat⦄ ⦃content : List UInt8⦄, s.content ino = some content → content = a ino

theorem Holds.of_keepsContents (h : s.Holds a) (hst : KeepsContents s t) : t.Holds a :=
  fun _ _ hcontent => h (hst hcontent)

theorem Holds.of_rewrites (h : s.Holds a) {ino : Nat} {content : List UInt8}
    (hst : s.Rewrites t ino content) : t.Holds (Function.update a ino content) := by
  intro other content' hcontent
  rw [hst other] at hcontent
  split at hcontent
  · next he =>
    rw [← he, Function.update_self]
    exact (Option.some.inj hcontent).symm
  · next hne =>
    rw [Function.update_of_ne (Ne.symm hne)]
    exact h hcontent

theorem holds_new (now : Timespec) (uid gid : Nat) (a : Arrays) :
    (Store.new now uid gid).Holds a := by
  intro ino content hcontent
  have hnone : (Store.new now uid gid).content ino = none := by
    unfold Store.content Store.new
    simp only [Std.TreeMap.getElem?_insert]
    split <;> rfl
  rw [hnone] at hcontent
  cases hcontent

theorem openFile_holds (h : s.Consistent) (ha : s.Holds a) (path : String) (flags : OpenFlags) :
    Ends ((Operation.openFile path flags).perform now) s
      (fun answer t => t.Holds (a.step s (.openFile path flags) (.ok answer)))
      fun _ t => t = s := by
  refine (openFile_contents h path flags).mono ?_ fun _ _ h => h
  rintro _ t ⟨-, ino, -, ht⟩
  cases hname : s.names[Path.normalize path]? with
  | none =>
    simp only [hname] at ht
    simp only [Arrays.step, hname]
    exact ha.of_rewrites (ht.1 ▸ ht.2)
  | some found =>
    simp only [hname] at ht
    simp only [Arrays.step, hname]
    obtain ⟨rfl, ht⟩ := ht
    split at ht
    · next htrunc =>
      rw [if_pos htrunc]
      exact ha.of_rewrites ht
    · next htrunc =>
      rw [if_neg htrunc]
      exact ha.of_keepsContents fun other content hcontent => by rwa [ht other] at hcontent

/-- Each request does to the files what it does to the arrays. -/
theorem perform_holds (h : s.Consistent) (ha : s.Holds a) (now : Timespec) (op : Operation) :
    Ends (op.perform now) s (fun answer t => t.Holds (a.step s op (.ok answer)))
      fun _ t => t = s := by
  by_cases hop : op.editsFiles = false
  · refine (perform_keepsContents h now hop).mono (fun answer t ht => ?_) fun _ _ h => h
    rw [a.step_of_not_editsFiles s hop]
    exact ha.of_keepsContents ht
  cases op with
  | openFile path flags => exact openFile_holds h ha path flags
  | create path mode =>
    refine (create_contents path mode).mono ?_ fun _ _ h => h
    rintro _ t ⟨-, -, ht⟩
    exact ha.of_rewrites ht
  | write handle data =>
    refine (write_ends now h.toSound handle data).mono ?_ fun _ _ h => h.1
    rintro _ t ⟨ino, content, hopen, ht⟩
    simp only [Arrays.step, hopen.inode_eq, ← ha hopen.content_eq]
    split at ht
    · next hnothing =>
      rw [if_pos hnothing, ht.2]
      exact ha
    · next hsome =>
      rw [if_neg hsome]
      exact ha.of_rewrites ht.2.2
  | truncateOpen handle size =>
    refine (truncateOpen_ends now h.toSound handle size).mono ?_ fun _ _ h => h.1
    rintro _ t ⟨-, ino, content, hopen, -, ht⟩
    simp only [Arrays.step, hopen.inode_eq, ← ha hopen.content_eq]
    exact ha.of_rewrites ht.1
  | truncate path size =>
    refine (truncate_ends now h.toSound path size).mono ?_ fun _ _ h => h.1
    rintro _ t ⟨-, ino, content, hino, hcontent, -, ht⟩
    simp only [Arrays.step, hino, ← ha hcontent]
    exact ha.of_rewrites ht.1
  | _ => exact absurd rfl hop

theorem Holds.request (ha : s.Holds a) (h : s.Consistent) (now : Timespec) (op : Operation) :
    (s.request now op).2.Holds (a.step s op (s.request now op).1) := by
  have hends := request_of_ends (perform_holds h ha now op)
  split at hends
  · next heq =>
    rw [heq]
    exact hends
  · next heq =>
    rw [heq, hends, Arrays.step_error]
    exact ha

theorem Holds.after (ha : s.Holds a) (h : s.Consistent) (history : List (Timespec × Operation)) :
    (s.after history).Holds (a.after s history) := by
  induction history generalizing s a with
  | nil => exact ha
  | cons step history ih => exact ih (ha.request h step.1 step.2) (h.request step.1 step.2)

/-! ## Requests in terms of the arrays -/

section Open

variable (h : s.Sound) {handle : FileHandle} {ino : Nat} {content : List UInt8}
  (hopen : s.OpenOn handle ino content)

include h hopen

theorem request_write (hwritable : handle.flags.writable = true) {data : ByteArray}
    (hsome : data.size ≠ 0) (now : Timespec) :
    if Inode.maxFileSize < handle.start content + data.size then
      s.request now (.write handle data) = (.error .fileTooLarge, s)
    else ∃ t, s.request now (.write handle data) =
        (.ok (.file { handle with offset := handle.start content + data.size }), t) ∧
      s.Rewrites t ino (written content (handle.start content) (bytes data)) := by
  obtain ⟨answer, t, heq, _, _, hopen', ht⟩ | ⟨e, t, heq, rfl, he⟩ :=
    request_cases (write_ends now h handle data)
  · obtain ⟨rfl, rfl⟩ := hopen.unique hopen'
    rw [if_neg hsome] at ht
    obtain ⟨hfits, rfl, ht⟩ := ht
    rw [if_neg (not_lt.mpr hfits)]
    exact ⟨t, heq, ht⟩
  · obtain ⟨-, hlarge, rfl⟩ := he ino content hopen hwritable
    rw [if_pos hlarge, heq]

theorem request_write_nothing (hwritable : handle.flags.writable = true) {data : ByteArray}
    (hnothing : data.size = 0) (now : Timespec) :
    s.request now (.write handle data) = (.ok (.file handle), s) := by
  obtain ⟨answer, t, heq, _, _, -, ht⟩ | ⟨e, t, heq, rfl, he⟩ :=
    request_cases (write_ends now h handle data)
  · rw [if_pos hnothing] at ht
    rw [heq, ht.1, ht.2]
  · exact absurd hnothing (he ino content hopen hwritable).1

theorem request_read (hreadable : handle.flags.readable = true) (now : Timespec) (count : Nat) :
    ∃ data, s.request now (.read handle count) =
        (.ok (.bytes data { handle with offset := handle.offset + data.size }), s) ∧
      bytes data = portion content (min handle.offset content.length)
        (min (handle.offset + count) content.length) := by
  obtain ⟨answer, t, heq, rfl, _, _, data, hopen', hdata, rfl⟩ | ⟨e, t, heq, rfl, he⟩ :=
    request_cases (read_ends now h handle count)
  · obtain ⟨rfl, rfl⟩ := hopen.unique hopen'
    exact ⟨data, heq, hdata⟩
  · rw [he ino content hopen] at hreadable
    cases hreadable

theorem request_truncateOpen_of_le (hwritable : handle.flags.writable = true) {size : Nat}
    (hfits : size ≤ Inode.maxFileSize) (now : Timespec) :
    ∃ t, s.request now (.truncateOpen handle size) = (.ok .done, t) ∧
      s.Rewrites t ino (resized content size) ∧ SameFrame s t := by
  obtain ⟨answer, t, heq, rfl, _, _, hopen', -, ht⟩ | ⟨e, t, -, -, he⟩ :=
    request_cases (truncateOpen_ends now h handle size)
  · obtain ⟨rfl, rfl⟩ := hopen.unique hopen'
    exact ⟨t, heq, ht⟩
  · exact absurd hfits (not_le.mpr (he ino content hopen hwritable).1)

theorem request_truncateOpen (hwritable : handle.flags.writable = true) (now : Timespec)
    (size : Nat) :
    if Inode.maxFileSize < size then
      s.request now (.truncateOpen handle size) = (.error .fileTooLarge, s)
    else ∃ t, s.request now (.truncateOpen handle size) = (.ok .done, t) ∧
      s.Rewrites t ino (resized content size) := by
  split
  · next hlarge =>
    obtain ⟨_, _, -, -, _, _, -, hfits, -⟩ | ⟨e, t, heq, rfl, he⟩ :=
      request_cases (truncateOpen_ends now h handle size)
    · exact absurd hlarge (not_lt.mpr hfits)
    · rw [heq, (he ino content hopen hwritable).2]
  · next hfits =>
    obtain ⟨t, heq, ht, -⟩ := request_truncateOpen_of_le h hopen hwritable (not_lt.mp hfits) now
    exact ⟨t, heq, ht⟩

end Open

/-- A file that is cut and then grows again has zeros where it was cut. -/
theorem request_regrow (h : s.Consistent) {handle : FileHandle} {ino : Nat} {content : List UInt8}
    (hopen : s.OpenOn handle ino content) (hwritable : handle.flags.writable = true)
    {size size' : Nat} (hle : size ≤ size') (hfits : size' ≤ Inode.maxFileSize)
    (now now' : Timespec) :
    ∃ t u, s.request now (.truncateOpen handle size) = (.ok .done, t) ∧
      t.request now' (.truncateOpen handle size') = (.ok .done, u) ∧
      s.Rewrites u ino (resized content size ++ List.replicate (size' - size) 0) := by
  obtain ⟨t, heq, ht, hframe⟩ :=
    request_truncateOpen_of_le h.toSound hopen hwritable (hle.trans hfits) now
  have hmid : t.Consistent := by
    have hrequest := h.request now (.truncateOpen handle size)
    rwa [heq] at hrequest
  have hopen' : t.OpenOn handle ino (resized content size) :=
    ⟨by rw [hframe.openFiles, hopen.inode_eq], by rw [ht ino, if_pos rfl]⟩
  obtain ⟨u, heq', hu, -⟩ := request_truncateOpen_of_le hmid.toSound hopen' hwritable hfits now'
  exact ⟨t, u, heq, heq', ht.trans (resized_resized content hle ▸ hu)⟩

theorem request_seek {handle : FileHandle} {ino : Nat} (hino : s.openFiles[handle.id]? = some ino)
    (now : Timespec) (offset : Nat) :
    s.request now (.seek handle offset) = (.ok (.file { handle with offset }), s) := by
  have hends : Ends ((Operation.seek handle offset).perform now) s
      (fun answer t => answer = .file { handle with offset } ∧ t = s) fun _ _ => False := by
    refine Ends.map_iff.mpr ?_
    unfold seek
    simp only [Ends.bind_iff, ends_ask_fileInode hino, Ends.pure_iff, and_self]
  obtain ⟨answer, t, heq, rfl, rfl⟩ | ⟨e, t, -, hfalse⟩ := request_cases hends
  · exact heq
  · exact hfalse.elim

theorem Holds.request_truncate (ha : s.Holds a) (h : s.Sound) {path : String} {ino : Nat}
    {i : Inode} (hino : s.names[Path.normalize path]? = some ino) (hi : s.inodes[ino]? = some i)
    (hkind : i.kind = .file) (hpermits : s.permits i 0o2 = true) (now : Timespec) (size : Nat) :
    if Inode.maxFileSize < size then
      s.request now (.truncate path size) = (.error .fileTooLarge, s)
    else ∃ t, s.request now (.truncate path size) = (.ok .done, t) ∧
      s.Rewrites t ino (resized (a ino) size) := by
  obtain ⟨b, hnode⟩ := exists_file_of_kind hkind
  have hbytes : s.content ino = some (bytes b) := by rw [content_of_inode hi, hnode]; rfl
  rw [← ha hbytes]
  obtain ⟨answer, t, heq, rfl, ino', content, hino', hcontent, hfits, ht, -⟩ |
    ⟨e, t, heq, rfl, he⟩ := request_cases (truncate_ends now h path size)
  · cases hino.symm.trans hino'
    cases hbytes.symm.trans hcontent
    rw [if_neg (not_lt.mpr hfits)]
    exact ⟨t, heq, ht⟩
  · obtain ⟨hlarge, rfl⟩ := he ino i b hino hi hnode hpermits
    rw [if_pos hlarge, heq]

/-- A request that does not edit files leaves their bytes alone. -/
theorem request_keepsContents (h : s.Consistent) {op : Operation} (hop : op.editsFiles = false)
    (now : Timespec) : KeepsContents s (s.request now op).2 := by
  obtain ⟨answer, t, heq, ht⟩ | ⟨e, t, heq, rfl⟩ := request_cases (perform_keepsContents h now hop)
  · rw [heq]
    exact ht
  · rw [heq]
    exact .refl t

/-! ## The refinement -/

/-- The files of a store hold these arrays, and the requests on files are what is done to arrays. A
write begins at the end of the array or at the offset, fills a gap before it with zeros, and is
refused if the array would become too long; a read gives the part of the array that there is; and an
array is cut or filled up with zeros when its file is resized, so that what was cut off does not
come back. -/
structure ActsOnArrays (s : Store) (a : Arrays) : Prop where
  holds : s.Holds a
  kept : ∀ ⦃id ino : Nat⦄, s.openFiles[id]? = some ino → s.content ino = some (a ino)
  opened : ∀ ⦃now : Timespec⦄ ⦃path : String⦄ ⦃flags : OpenFlags⦄ ⦃answer : Answer⦄ ⦃t : Store⦄,
    s.request now (.openFile path flags) = (.ok answer, t) →
      answer = .file { id := s.nextHandle, flags } ∧
        ∃ ino, t.openFiles[s.nextHandle]? = some ino ∧
          match s.names[Path.normalize path]? with
          | none => ino = s.nextInode ∧ s.Rewrites t ino []
          | some found => ino = found ∧
            if flags.contains .truncate && flags.writable then s.Rewrites t ino []
            else ∀ other, t.content other = s.content other
  created : ∀ ⦃now : Timespec⦄ ⦃path : String⦄ ⦃mode : UInt32⦄ ⦃answer : Answer⦄ ⦃t : Store⦄,
    s.request now (.create path mode) = (.ok answer, t) →
      answer = .file { id := s.nextHandle, flags := .readWrite } ∧
        t.openFiles[s.nextHandle]? = some s.nextInode ∧ s.Rewrites t s.nextInode []
  sought : ∀ ⦃handle : FileHandle⦄ ⦃ino : Nat⦄, s.openFiles[handle.id]? = some ino →
    ∀ now offset, s.request now (.seek handle offset) = (.ok (.file { handle with offset }), s)
  read : ∀ ⦃handle : FileHandle⦄ ⦃ino : Nat⦄, s.openFiles[handle.id]? = some ino →
    handle.flags.readable = true → ∀ now count,
      ∃ data, s.request now (.read handle count) =
          (.ok (.bytes data { handle with offset := handle.offset + data.size }), s) ∧
        bytes data = portion (a ino) (min handle.offset (a ino).length)
          (min (handle.offset + count) (a ino).length)
  wrote : ∀ ⦃handle : FileHandle⦄ ⦃ino : Nat⦄ ⦃data : ByteArray⦄,
    s.openFiles[handle.id]? = some ino → handle.flags.writable = true → data.size ≠ 0 → ∀ now,
      if Inode.maxFileSize < handle.start (a ino) + data.size then
        s.request now (.write handle data) = (.error .fileTooLarge, s)
      else ∃ t, s.request now (.write handle data) =
          (.ok (.file { handle with offset := handle.start (a ino) + data.size }), t) ∧
        s.Rewrites t ino (written (a ino) (handle.start (a ino)) (bytes data))
  wrote_nothing : ∀ ⦃handle : FileHandle⦄ ⦃ino : Nat⦄ ⦃data : ByteArray⦄,
    s.openFiles[handle.id]? = some ino → handle.flags.writable = true → data.size = 0 → ∀ now,
      s.request now (.write handle data) = (.ok (.file handle), s)
  resized_open : ∀ ⦃handle : FileHandle⦄ ⦃ino : Nat⦄, s.openFiles[handle.id]? = some ino →
    handle.flags.writable = true → ∀ now size,
      if Inode.maxFileSize < size then
        s.request now (.truncateOpen handle size) = (.error .fileTooLarge, s)
      else ∃ t, s.request now (.truncateOpen handle size) = (.ok .done, t) ∧
        s.Rewrites t ino (resized (a ino) size)
  resized_named : ∀ ⦃path : String⦄ ⦃ino : Nat⦄ ⦃i : Inode⦄,
    s.names[Path.normalize path]? = some ino → s.inodes[ino]? = some i → i.kind = .file →
      s.permits i 0o2 = true → ∀ now size,
        if Inode.maxFileSize < size then
          s.request now (.truncate path size) = (.error .fileTooLarge, s)
        else ∃ t, s.request now (.truncate path size) = (.ok .done, t) ∧
          s.Rewrites t ino (resized (a ino) size)
  regrown : ∀ ⦃handle : FileHandle⦄ ⦃ino size size' : Nat⦄, s.openFiles[handle.id]? = some ino →
    handle.flags.writable = true → size ≤ size' → size' ≤ Inode.maxFileSize → ∀ now now',
      ∃ t u, s.request now (.truncateOpen handle size) = (.ok .done, t) ∧
        t.request now' (.truncateOpen handle size') = (.ok .done, u) ∧
        s.Rewrites u ino (resized (a ino) size ++ List.replicate (size' - size) 0)
  others : ∀ ⦃op : Operation⦄, op.editsFiles = false → ∀ now, KeepsContents s (s.request now op).2
  refused : ∀ ⦃now : Timespec⦄ ⦃op : Operation⦄ ⦃e : Errno⦄ ⦃t : Store⦄,
    s.request now op = (.error e, t) → t = s

theorem Consistent.actsOnArrays (h : s.Consistent) (ha : s.Holds a) : s.ActsOnArrays a := by
  have hkept : ∀ ⦃id ino : Nat⦄, s.openFiles[id]? = some ino → s.content ino = some (a ino) := by
    intro id ino hino
    obtain ⟨i, b, -, -, hcontent⟩ := h.file_of_open hino
    rw [hcontent, ha hcontent]
  have hopen : ∀ ⦃handle : FileHandle⦄ ⦃ino : Nat⦄, s.openFiles[handle.id]? = some ino →
      s.OpenOn handle ino (a ino) := fun _ _ hino => ⟨hino, hkept hino⟩
  exact {
    holds := ha
    kept := hkept
    opened := fun _ _ _ _ _ heq => good_of_request (openFile_contents h _ _) heq
    created := fun _ _ _ _ _ heq => good_of_request (create_contents _ _) heq
    sought := fun _ _ hino now offset => request_seek hino now offset
    read := fun _ _ hino hreadable now count =>
      request_read h.toSound (hopen hino) hreadable now count
    wrote := fun _ _ _ hino hwritable hsome now =>
      request_write h.toSound (hopen hino) hwritable hsome now
    wrote_nothing := fun _ _ _ hino hwritable hnothing now =>
      request_write_nothing h.toSound (hopen hino) hwritable hnothing now
    resized_open := fun _ _ hino hwritable now size =>
      request_truncateOpen h.toSound (hopen hino) hwritable now size
    resized_named := fun _ _ _ hino hi hkind hpermits now size =>
      ha.request_truncate h.toSound hino hi hkind hpermits now size
    regrown := fun _ _ _ _ hino hwritable hle hfits now now' =>
      request_regrow h (hopen hino) hwritable hle hfits now now'
    others := fun _ hop now => request_keepsContents h hop now
    refused := fun _ _ _ _ heq => eq_of_request_error h heq }

/-- **After every history the files are arrays of bytes.** -/
theorem actsOnArrays_after_new (now : Timespec) (uid gid : Nat)
    (history : List (Timespec × Operation)) :
    ((Store.new now uid gid).after history).ActsOnArrays
      (Arrays.after (fun _ => []) (Store.new now uid gid) history) :=
  (Reachable.consistent ⟨now, uid, gid, history, rfl⟩).actsOnArrays
    ((holds_new now uid gid _).after (consistent_new now uid gid) history)

end Store

end FileScript
