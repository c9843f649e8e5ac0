import FileScript.Proofs.ErrorTables

/-!
# Requests on machine words

The numbers of a store know no bound, while a machine has words for them. Three requests compute
with offsets and lengths that a caller may choose: reading, writing and listing. Here they are
computed as a machine does, with sums and slices that stop the computation when they break a rule
(`Checked`), and no computation is ever stopped: in every store that can be reached it goes as it
does with numbers (`Checked.Agrees`).

1. No file is larger than `Inode.maxFileSize` (`Store.Reachable.bounded`), and no directory has more
   entries than inodes were made (`Store.Sound.length_children_le`).
2. A read takes no bytes beyond the end of the file, so that its offset moves only within the file.
3. A write that ends beyond the largest size is refused before its sum is used.
4. A listing moves its cursor only over entries that are there.
-/

namespace FileScript

/-! ## Bounds -/

namespace Store

open Content

variable {s t : Store} {now : Timespec}

/-- No file has more bytes than a file may have. -/
def Bounded (s : Store) : Prop :=
  ∀ ⦃ino : Nat⦄ ⦃content : List UInt8⦄, s.content ino = some content →
    content.length ≤ Inode.maxFileSize

theorem bounded_new (now : Timespec) (uid gid : Nat) : (Store.new now uid gid).Bounded := by
  intro ino content hcontent
  rw [holds_new now uid gid (fun _ => []) hcontent]
  exact Nat.zero_le _

theorem Bounded.of_keepsContents (h : s.Bounded) (hst : KeepsContents s t) : t.Bounded :=
  fun _ _ hcontent => h (hst hcontent)

theorem Bounded.of_rewrites (h : s.Bounded) {ino : Nat} {content : List UInt8}
    (hst : s.Rewrites t ino content) (hsize : content.length ≤ Inode.maxFileSize) : t.Bounded := by
  intro other content' hcontent
  rw [hst other] at hcontent
  split at hcontent
  · cases hcontent
    exact hsize
  · exact h hcontent

theorem Bounded.openFile (hb : s.Bounded) (h : s.Consistent) (path : String) (flags : OpenFlags) :
    Ends ((Operation.openFile path flags).perform now) s (fun _ t => t.Bounded)
      fun _ t => t = s := by
  refine (openFile_contents h path flags).mono ?_ fun _ _ ht => ht
  rintro _ t ⟨-, ino, -, ht⟩
  cases hname : s.names[Path.normalize path]? with
  | none =>
    simp only [hname] at ht
    exact hb.of_rewrites ht.2 (Nat.zero_le _)
  | some found =>
    simp only [hname] at ht
    obtain ⟨-, ht⟩ := ht
    split at ht
    · exact hb.of_rewrites ht (Nat.zero_le _)
    · exact fun other content hcontent => hb ((ht other).symm.trans hcontent)

theorem Bounded.perform (hb : s.Bounded) (h : s.Consistent) (now : Timespec) (op : Operation) :
    Ends (op.perform now) s (fun _ t => t.Bounded) fun _ t => t = s := by
  by_cases hop : op.editsFiles = false
  · exact (perform_keepsContents h now hop).mono (fun _ _ ht => hb.of_keepsContents ht)
      fun _ _ ht => ht
  cases op with
  | openFile path flags => exact hb.openFile h path flags
  | create path mode =>
    refine (create_contents path mode).mono ?_ fun _ _ ht => ht
    rintro _ t ⟨-, -, ht⟩
    exact hb.of_rewrites ht (Nat.zero_le _)
  | write handle data =>
    refine (write_ends now h.toSound handle data).mono ?_ fun _ _ ht => ht.1
    rintro _ t ⟨ino, content, hopen, ht⟩
    split at ht
    · exact ht.2 ▸ hb
    · refine hb.of_rewrites ht.2.2 ?_
      rw [length_written, length_bytes]
      exact max_le (hb hopen.content_eq) ht.1
  | truncateOpen handle size =>
    refine (truncateOpen_ends now h.toSound handle size).mono ?_ fun _ _ ht => ht.1
    rintro _ t ⟨-, ino, content, -, hsize, ht, -⟩
    exact hb.of_rewrites ht (by rwa [length_resized])
  | truncate path size =>
    refine (truncate_ends now h.toSound path size).mono ?_ fun _ _ ht => ht.1
    rintro _ t ⟨-, ino, content, -, -, hsize, ht, -⟩
    exact hb.of_rewrites ht (by rwa [length_resized])
  | _ => exact absurd rfl hop

theorem Bounded.request (hb : s.Bounded) (h : s.Consistent) (now : Timespec) (op : Operation) :
    (s.request now op).2.Bounded := by
  rcases request_cases (hb.perform h now op) with ⟨_, t, heq, ht⟩ | ⟨_, t, heq, rfl⟩ <;> rw [heq]
  · exact ht
  · exact hb

/-- No file grows beyond the largest size. -/
theorem Reachable.bounded (h : s.Reachable) : s.Bounded :=
  h.induction bounded_new fun _ hreachable hb now op => hb.request hreachable.consistent now op

/-- The entries of a directory are different inodes. -/
theorem Sound.nodup_children (h : s.Sound) (key : String) :
    ((s.children key).map Prod.snd).Nodup := by
  refine List.pairwise_map.mpr ((Names.sorted_children s.names key).imp_of_mem ?_)
  rintro ⟨name, ino⟩ ⟨other, ino'⟩ hmem hmem' hlt rfl
  have hsame := h.name_unique (Names.mem_children.mp hmem).2 (Names.mem_children.mp hmem').2
  rw [(String.append_right_inj _).mp hsame] at hlt
  exact lt_irrefl _ hlt

/-- A directory has no more entries than inodes were made. -/
theorem Sound.length_children_le (h : s.Sound) (key : String) :
    (s.children key).length ≤ s.nextInode := by
  have hsub : (s.children key).map Prod.snd ⊆ List.range s.nextInode := by
    intro ino hmem
    obtain ⟨⟨name, _⟩, hchild, rfl⟩ := List.mem_map.mp hmem
    obtain ⟨i, hi, -⟩ := h.inode_of_named (Names.mem_children.mp hchild).2
    exact List.mem_range.mpr (h.inode_lt (profile_of_inode hi))
  have hle := (List.subperm_of_subset (h.nodup_children key) hsub).length_le
  rwa [List.length_map, List.length_range] at hle

end Store

/-! ## Filling up and writing -/

namespace Content

theorem overwrite_of_le {content : ByteArray} {start : Nat} (h : start ≤ content.size)
    (data : ByteArray) :
    overwrite content start data =
      content.extract 0 start ++ data ++ content.extract (start + data.size) content.size := by
  unfold overwrite
  rw [if_neg (not_lt.mpr h)]

/-- It does not matter for a write whether the content is filled up beforehand, if not beyond the
end of the write. -/
theorem overwrite_resize {content data : ByteArray} {start size : Nat} (h : content.size ≤ size)
    (hsize : size ≤ start + data.size) :
    overwrite (resize content size) start data = overwrite content start data := by
  refine bytes_injective (eq_of_byteAt ?_ fun k => ?_)
  · rw [length_bytes, length_bytes, size_overwrite, size_overwrite, size_resize]
    omega
  · rw [bytes_overwrite, bytes_overwrite, byteAt_written, byteAt_written, byteAt_resize_of_le h]

theorem overwrite_filled {content filled data : ByteArray} {start : Nat}
    (h : (if content.size < start + data.size then resize content (start + data.size)
      else content) = filled) :
    start + data.size ≤ filled.size ∧
      overwrite filled start data = overwrite content start data := by
  rw [← h]
  split
  · next hshort => exact ⟨(size_resize _ _).ge, overwrite_resize hshort.le le_rfl⟩
  · next hlong => exact ⟨not_lt.mp hlong, rfl⟩

end Content

/-! ## Checked computations -/

namespace Operation

/-- The numbers with which a request computes are in words of the machine: the offset or the cursor
of its handle, and for a listing the number of the next inode. -/
def FitsWords (s : Store) : Operation → Prop
  | read handle _ | write handle _ => handle.offset < UInt64.size
  | readDir handle _ => handle.cursor < UInt64.size ∧ s.nextInode < UInt64.size
  | _ => True

end Operation

/-- Why a computation on machine words ends without a result. -/
inductive Stop where
  /-- The request is refused. -/
  | refused (e : Errno)
  /-- A sum is no word, or a difference is below zero. -/
  | overflow
  /-- Bytes are taken from where a content has none. -/
  | outOfBounds

/-- A request whose sums and slices are checked. -/
abbrev Checked := EStateM Stop Store

namespace Checked

open Store

/-- A part of a request that computes with no offset, length or cursor. -/
def ofUpdate {α : Type} (act : Update α) : Checked α := fun s =>
  match act s with
  | .ok a t => .ok a t
  | .error e t => .error (.refused e) t

/-- The sum of two words, which has to be a word. -/
def plus (a b : Nat) : Checked Nat := if a + b < UInt64.size then return a + b else throw .overflow

/-- The difference of two words, which has to be a word. -/
def minus (a b : Nat) : Checked Nat := if b ≤ a then return a - b else throw .overflow

/-- The sum of two words if it is a word, else the greatest word. -/
def saturatingPlus (a b : Nat) : Nat := min (a + b) (UInt64.size - 1)

/-- The sum of two words, if it is a word. -/
def plus? (a b : Nat) : Option Nat := if a + b < UInt64.size then some (a + b) else none

/-- The bytes from `start` on and before `stop`, all of which have to be there. -/
def slice (content : ByteArray) (start stop : Nat) : Checked ByteArray :=
  if start ≤ stop ∧ stop ≤ content.size then return content.extract start stop
  else throw .outOfBounds

/-- A content with `data` in place of the bytes from `start` on and before `stop`, which have to be
there, and to be as many. -/
def splice (content : ByteArray) (start stop : Nat) (data : ByteArray) : Checked ByteArray :=
  if start ≤ stop ∧ stop ≤ content.size ∧ data.size = stop - start then
    return content.extract 0 start ++ data ++ content.extract stop content.size
  else throw .outOfBounds

/-- Reads at most `count` bytes from the offset of a handle on, and moves it past them. -/
def read (handle : FileHandle) (count : Nat) : Checked (ByteArray × FileHandle) := do
  let ino ← ofUpdate (ask (·.fileInode handle))
  unless handle.flags.readable do throw (.refused .badDescriptor)
  let inode ← ofUpdate (ask (·.inode ino))
  match inode.node with
  | .directory => throw (.refused .isADirectory)
  | .file content =>
    let start := min handle.offset content.size
    let stop := min (saturatingPlus start count) content.size
    let bytes ← slice content start stop
    let offset ← plus handle.offset (← minus stop start)
    return (bytes, { handle with offset })

/-- Writes bytes through a handle and moves it to the end of what was written. The content is filled
up to this end first. -/
def write (now : Timespec) (handle : FileHandle) (data : ByteArray) : Checked FileHandle := do
  let ino ← ofUpdate (ask (·.fileInode handle))
  unless handle.flags.writable do throw (.refused .badDescriptor)
  let inode ← ofUpdate (ask (·.inode ino))
  match inode.node with
  | .directory => throw (.refused .isADirectory)
  | .file content =>
    if data.size = 0 then return handle
    let start := writeStart handle content
    match (plus? start data.size).filter (· ≤ Inode.maxFileSize) with
    | none => throw (.refused .fileTooLarge)
    | some stop =>
      let filled := if content.size < stop then Content.resize content stop else content
      let written ← splice filled start stop data
      ofUpdate (modify (·.setInode ino (inode.setContent now written)))
      return { handle with offset := stop }

/-- Lists the next entries through a handle, at most `count` of them, and moves it past them. -/
def readDir (handle : DirHandle) (count : Nat) : Checked (List DirEntry × DirHandle) := do
  let s ← get
  match s.openDirs[handle.id]? with
  | none => throw (.refused .badDescriptor)
  | some dir =>
    if s.names[dir.path]? ≠ some dir.inode then return ([], handle)
    let entries ← ofUpdate (ask fun s =>
      (((s.children dir.path).drop handle.cursor).take count).mapM s.entry)
    let cursor ← plus handle.cursor entries.length
    return (entries, { handle with cursor })

/-- What a request does to a store at the time `now`, computed on machine words. -/
def perform (now : Timespec) : Operation → Checked Answer
  | .read handle count => do
    let (data, moved) ← read handle count
    return .bytes data moved
  | .write handle data => .file <$> write now handle data
  | .readDir handle count => do
    let (listed, moved) ← readDir handle count
    return .entries listed moved
  | op => ofUpdate (op.perform now)

/-! ## Computations that are never stopped -/

variable {α β : Type} {s : Store} {now : Timespec}

/-- From the store `s` on, a checked computation goes as the one with numbers. -/
def Agrees (act : Checked α) (act' : Update α) (s : Store) : Prop := act s = ofUpdate act' s

theorem agrees_ofUpdate (act : Update α) (s : Store) : Agrees (ofUpdate act) act s := rfl

theorem agrees_pure (a : α) (s : Store) : Agrees (pure a) (pure a) s := rfl

theorem agrees_throw (e : Errno) (s : Store) :
    Agrees (throw (.refused e) : Checked α) (throw e) s := rfl

theorem Agrees.bind {act : Checked α} {act' : Update α} {next : α → Checked β}
    {next' : α → Update β} (h : Agrees act act' s)
    (hnext : ∀ a t, act' s = .ok a t → Agrees (next a) (next' a) t) :
    Agrees (act >>= next) (act' >>= next') s := by
  unfold Agrees ofUpdate at h
  show EStateM.bind act next s = ofUpdate (EStateM.bind act' next') s
  unfold ofUpdate EStateM.bind
  rw [h]
  cases hact : act' s with
  | ok a t => exact hnext a t hact
  | error e t => rfl

theorem Agrees.map {act : Checked α} {act' : Update α} (h : Agrees act act' s) (f : α → β) :
    Agrees (f <$> act) (f <$> act') s := by
  rw [map_eq_pure_bind, map_eq_pure_bind]
  exact h.bind fun a t _ => agrees_pure (f a) t

/-- A question leads on only if it is answered, and leaves the store as it is. -/
theorem agrees_ask_bind {question : Store → Except Errno α} {next : α → Checked β}
    {next' : α → Update β} (h : ∀ a, question s = .ok a → Agrees (next a) (next' a) s) :
    Agrees (ofUpdate (ask question) >>= next) (ask question >>= next') s := by
  refine (agrees_ofUpdate _ s).bind fun a t heq => ?_
  unfold ask at heq
  split at heq
  · next b hb =>
    cases heq
    exact h a hb
  · cases heq

theorem agrees_unless {c : Bool} {e : Errno} {next : Checked α} {next' : Update α}
    (h : c = true → Agrees next next' s) :
    Agrees
      (do
        unless c do throw (.refused e)
        next)
      (do
        unless c do throw e
        next') s := by
  cases c with
  | false => rfl
  | true => exact h rfl

theorem plus_eq {a b : Nat} (h : a + b < UInt64.size) : plus a b = pure (a + b) := if_pos h

theorem minus_eq {a b : Nat} (h : b ≤ a) : minus a b = pure (a - b) := if_pos h

theorem slice_eq {content : ByteArray} {start stop : Nat} (hle : start ≤ stop)
    (hstop : stop ≤ content.size) : slice content start stop = pure (content.extract start stop) :=
  if_pos ⟨hle, hstop⟩

theorem splice_eq {content data : ByteArray} {start stop : Nat} (hle : start ≤ stop)
    (hstop : stop ≤ content.size) (hsize : data.size = stop - start) :
    splice content start stop data =
      pure (content.extract 0 start ++ data ++ content.extract stop content.size) :=
  if_pos ⟨hle, hstop, hsize⟩

/-- A read takes bytes that are there, and its offset stays a word. -/
theorem read_agrees (hb : s.Bounded) {handle : FileHandle} (hoffset : handle.offset < UInt64.size)
    (count : Nat) : Agrees (read handle count) (Store.read handle count) s := by
  unfold read Store.read
  refine agrees_ask_bind fun ino _ => agrees_unless fun _ => agrees_ask_bind fun i hi => ?_
  rw [inode_eq_ok_iff] at hi
  cases hnode : i.node with
  | directory => exact agrees_throw _ s
  | file content =>
    have hsize : content.size ≤ Inode.maxFileSize := by
      have hcontent := content_of_inode hi
      rw [hnode] at hcontent
      simpa using hb hcontent
    have hword : Inode.maxFileSize < UInt64.size := by decide
    have hstop : min (saturatingPlus (min handle.offset content.size) count) content.size =
        min (handle.offset + count) content.size := by
      unfold saturatingPlus
      omega
    have hbytes : (Content.slice content handle.offset count).size =
        min (handle.offset + count) content.size - min handle.offset content.size := by
      rw [Content.size_slice]
      omega
    dsimp only
    rw [hstop, slice_eq (by omega) (by omega), pure_bind, minus_eq (by omega), pure_bind,
      plus_eq (by omega), pure_bind, ← hbytes]
    exact agrees_pure _ s

/-- A sum that is no word is too large for a file. -/
theorem filter_plus? (a b : Nat) :
    (plus? a b).filter (· ≤ Inode.maxFileSize) =
      if Inode.maxFileSize < a + b then none else some (a + b) := by
  have hword : Inode.maxFileSize < UInt64.size := by decide
  unfold plus?
  by_cases hlarge : Inode.maxFileSize < a + b
  · rw [if_pos hlarge]
    split
    · rw [Option.filter_some, if_neg (by simpa using hlarge)]
    · rfl
  · rw [if_neg hlarge, if_pos (by omega), Option.filter_some, if_pos (by simpa using hlarge)]

/-- A write puts its bytes in places that are there, after it was refused if there cannot be so
many. -/
theorem write_agrees (handle : FileHandle) (data : ByteArray) :
    Agrees (write now handle data) (Store.write now handle data) s := by
  unfold write Store.write
  refine agrees_ask_bind fun ino _ => agrees_unless fun _ => agrees_ask_bind fun i _ => ?_
  cases i.node with
  | directory => exact agrees_throw _ s
  | file content =>
    dsimp only
    split
    · exact agrees_pure _ s
    generalize writeStart handle content = start
    rw [filter_plus?]
    by_cases hlarge : Inode.maxFileSize < start + data.size
    · rw [if_pos hlarge, if_pos hlarge]
      exact agrees_throw _ s
    · rw [if_neg hlarge, if_neg hlarge]
      dsimp only
      generalize hfilled : (if content.size < start + data.size then
        Content.resize content (start + data.size) else content) = filled
      obtain ⟨hstop, hwritten⟩ := Content.overwrite_filled hfilled
      rw [splice_eq (Nat.le_add_right _ _) hstop (by omega), pure_bind,
        ← Content.overwrite_of_le (by omega) data, hwritten]
      exact agrees_ofUpdate (do
        modify (·.setInode ino (i.setContent now (Content.overwrite content start data)))
        return { handle with offset := start + data.size }) s

/-- A listing moves its cursor over entries that are there, so that it stays a word. -/
theorem readDir_agrees (h : s.Sound) {handle : DirHandle} (hcursor : handle.cursor < UInt64.size)
    (hinodes : s.nextInode < UInt64.size) (count : Nat) :
    Agrees (readDir handle count) (Store.readDir handle count) s := by
  show Agrees (get >>= _) (get >>= _) s
  refine (show Agrees get get s from rfl).bind fun _ _ heq => ?_
  cases heq
  cases s.openDirs[handle.id]? with
  | none => exact agrees_throw _ s
  | some dir =>
    dsimp only
    split
    · exact agrees_pure _ s
    refine agrees_ask_bind fun entries hentries => ?_
    obtain ⟨_, hentries', hnames, -⟩ := h.mapM_entry_children dir.path handle.cursor count
    cases hentries'.symm.trans hentries
    have hlength : entries.length ≤ (s.children dir.path).length - handle.cursor := by
      have htaken := congrArg List.length hnames
      rw [List.length_map, List.length_take, List.length_drop] at htaken
      omega
    have hentries_le := h.length_children_le dir.path
    rw [plus_eq (by omega), pure_bind]
    exact agrees_pure _ s

/-! ## All requests -/

/-- Every request goes on machine words as it does with numbers. -/
theorem perform_agrees (h : s.Consistent) (hb : s.Bounded) {op : Operation} (hop : op.FitsWords s) :
    Agrees (perform now op) (op.perform now) s := by
  cases op with
  | read handle count => exact (read_agrees hb hop count).bind fun _ t _ => agrees_pure _ t
  | write handle data => exact (write_agrees handle data).map _
  | readDir handle count =>
    exact (readDir_agrees h.toSound hop.1 hop.2 count).bind fun _ t _ => agrees_pure _ t
  | _ => exact agrees_ofUpdate _ s

/-- No computation on machine words is stopped for a sum or a slice. -/
theorem Agrees.refused {act : Checked α} {act' : Update α} (h : Agrees act act' s) {stop : Stop}
    {t : Store} (hstop : act s = .error stop t) : ∃ e, stop = .refused e := by
  rw [h] at hstop
  unfold ofUpdate at hstop
  split at hstop
  · cases hstop
  · next e _ _ =>
    cases hstop
    exact ⟨e, rfl⟩

end Checked

/-! ## All stores -/

namespace Store

/-- What cannot happen does not. A request fails only with its errors: no inode is missing, and no
directory is behind a file handle. On machine words a request is computed as with numbers: no sum is
too large, and no bytes are taken or replaced that are not there. -/
structure IsSafe (s : Store) : Prop where
  listed : ∀ ⦃now : Timespec⦄ ⦃op : Operation⦄ ⦃e : Errno⦄,
    (s.request now op).1 = .error e → e ∈ op.errors
  inodes_there : ∀ now op, (s.request now op).1 ≠ .error .inputOutput
  files_open : ∀ ⦃op : Operation⦄ ⦃handle : FileHandle⦄, op.lent = some (.file handle) →
    ∀ now, (s.request now op).1 ≠ .error .isADirectory
  agrees : ∀ ⦃op : Operation⦄, op.FitsWords s → ∀ now,
    (Checked.perform now op).Agrees (op.perform now) s
  unstopped : ∀ ⦃now : Timespec⦄ ⦃op : Operation⦄ ⦃stop : Stop⦄ ⦃t : Store⦄, op.FitsWords s →
    Checked.perform now op s = .error stop t → ∃ e, stop = .refused e

theorem Consistent.isSafe {s : Store} (h : s.Consistent) (hb : s.Bounded) : s.IsSafe where
  listed _ _ _ herror := h.error_mem herror
  inodes_there _ op herror := op.inputOutput_not_mem_errors (h.error_mem herror)
  files_open _ _ hop _ herror := Operation.isADirectory_not_mem_errors hop (h.error_mem herror)
  agrees _ hop _ := Checked.perform_agrees h hb hop
  unstopped _ _ _ _ hop hstop := (Checked.perform_agrees h hb hop).refused hstop

/-- **In every store that can be reached, no request meets what cannot happen**, whatever handle is
forged for it. -/
theorem isSafe_after_new (now : Timespec) (uid gid : Nat) (history : List (Timespec × Operation)) :
    ((Store.new now uid gid).after history).IsSafe :=
  have hreachable : ((Store.new now uid gid).after history).Reachable :=
    ⟨now, uid, gid, history, rfl⟩
  hreachable.consistent.isSafe hreachable.bounded

end Store

end FileScript
