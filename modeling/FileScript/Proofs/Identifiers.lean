import FileScript.Proofs.Closing
import FileScript.Proofs.Entries
import FileScript.Proofs.Modes
import FileScript.Proofs.Numbers

/-!
# Identifiers stand for one thing

A handle that is given out has a number that none has had before, so a number that was given back,
or that is forged, is refused with whatever it is presented; and the number of an inode that is gone
is not told again (`Store.NeverReuses`).

1. `Store.Trades` says what one request does to the handles: it keeps them, opens the next number,
   or closes the handle that it is given.
2. From this, by induction on the history, a handle is open from the request that gives it out to
   the one that closes it (`Store.Accounts`).
3. For inodes nothing is counted: a number that was told is one that was given out, and those stand
   for what they stood for (`Store.Descends`).
-/

namespace FileScript

/-- The sort of a handle, on a file or on a directory, and its number. -/
abbrev HandleTag : Type := EntryKind × Nat

namespace Operation

/-- The handle with which a request is made. -/
def presents? : Operation → Option HandleTag
  | close handle | seek handle _ | read handle _ | write handle _ | truncateOpen handle _
  | sync handle => some (.file, handle.id)
  | closeDir handle | readDir handle _ => some (.directory, handle.id)
  | _ => none

/-- A request is made to open a handle. -/
def opens : Operation → Bool
  | openFile .. | create .. | openDir .. => true
  | _ => false

/-- A request is made to close a handle. -/
def closes : Operation → Bool
  | close _ | closeDir _ => true
  | _ => false

end Operation

/-- The handle in an answer. -/
def Answer.handle? : Answer → Option HandleTag
  | .file handle | .bytes _ handle => some (.file, handle.id)
  | .dir handle | .entries _ handle => some (.directory, handle.id)
  | _ => none

namespace Store

variable {s t start : Store} {now : Timespec} {op : Operation} {tag : HandleTag} {ino : Nat}

/-! ## What happens in a history -/

/-- The handle is open. -/
def HasOpen (s : Store) : HandleTag → Prop
  | (.file, id) => id ∈ s.fileIds
  | (.directory, id) => id ∈ s.dirIds

/-- A request gives out a handle. -/
def Issues (s : Store) (now : Timespec) (op : Operation) (tag : HandleTag) : Prop :=
  op.opens = true ∧ ∃ answer t, s.request now op = (.ok answer, t) ∧ answer.handle? = some tag

/-- A request takes a handle back. -/
def Closes (s : Store) (now : Timespec) (op : Operation) (tag : HandleTag) : Prop :=
  op.closes = true ∧ op.presents? = some tag ∧ ∃ answer t, s.request now op = (.ok answer, t)

/-- A request tells the number of an inode, as that of what is at a path or in a directory. -/
def Reports (s : Store) (now : Timespec) (op : Operation) (ino : Nat) : Prop :=
  match op with
  | .stat _ => ∃ a t, s.request now op = (.ok (.attributes a), t) ∧ a.inode = ino
  | .readDir .. => ∃ entries moved t, s.request now op = (.ok (.entries entries moved), t) ∧
      ∃ entry ∈ entries, entry.inode = ino
  | _ => False

/-- At some time in a history that begins with a store, a request is made of which `event` holds. -/
def Sometime (event : Store → Timespec → Operation → Prop) (s : Store) :
    List (Timespec × Operation) → Prop
  | [] => False
  | (now, op) :: history => event s now op ∨ Sometime event (s.request now op).2 history

/-- The handle was given out in a history. -/
def Issued (s : Store) (history : List (Timespec × Operation)) (tag : HandleTag) : Prop :=
  s.Sometime (·.Issues · · tag) history

/-- The handle was taken back in a history. -/
def Closed (s : Store) (history : List (Timespec × Operation)) (tag : HandleTag) : Prop :=
  s.Sometime (·.Closes · · tag) history

/-- The number of an inode was told in a history. -/
def Reported (s : Store) (history : List (Timespec × Operation)) (ino : Nat) : Prop :=
  s.Sometime (·.Reports · · ino) history

/-- A request is refused because of the handle that it presents, and changes nothing. -/
def Disowns (s : Store) (tag : HandleTag) : Prop :=
  ∀ now op, op.presents? = some tag → s.request now op = (.error .badDescriptor, s)

/-- In no history that begins with a store does a number stand for two things. -/
structure NeverReuses (start : Store) : Prop where
  fresh : ∀ ⦃history now op tag⦄, (start.after history).Issues now op tag →
    ∀ other, other.2 = tag.2 → ¬ start.Issued history other
  open_iff : ∀ history tag, (start.after history).HasOpen tag ↔
    start.Issued history tag ∧ ¬ start.Closed history tag
  accepted : ∀ history tag, start.Issued history tag → ¬ start.Closed history tag →
    ∀ now op, op.closes = true → op.presents? = some tag → (start.after history).Closes now op tag
  unissued : ∀ history tag, ¬ start.Issued history tag → (start.after history).Disowns tag
  closed : ∀ history tag, start.Closed history tag → ∀ other, other.2 = tag.2 →
    ∀ later, (start.after (history ++ later)).Disowns other
  apart : ∀ history tag, start.Issued history tag → ∀ other, other.2 = tag.2 → other ≠ tag →
    ∀ later, (start.after (history ++ later)).Disowns other
  retired : ∀ history ino, start.Reported history ino →
    (start.after history).inodes[ino]? = none →
      ∀ later now op, ¬ (start.after (history ++ later)).Reports now op ino

/-! ## Histories, request by request -/

theorem after_concat (s : Store) (history : List (Timespec × Operation)) (now : Timespec)
    (op : Operation) :
    s.after (history ++ [(now, op)]) = ((s.after history).request now op).2 :=
  after_append s history [(now, op)]

theorem sometime_append {event : Store → Timespec → Operation → Prop}
    (history later : List (Timespec × Operation)) :
    s.Sometime event (history ++ later) ↔
      s.Sometime event history ∨ (s.after history).Sometime event later := by
  induction history generalizing s with
  | nil => exact (false_or _).symm.to_iff
  | cons step history ih =>
    obtain ⟨now, op⟩ := step
    rw [List.cons_append, Sometime, Sometime, ih, or_assoc]
    rfl

theorem sometime_concat {event : Store → Timespec → Operation → Prop}
    (history : List (Timespec × Operation)) (now : Timespec) (op : Operation) :
    s.Sometime event (history ++ [(now, op)]) ↔
      s.Sometime event history ∨ event (s.after history) now op := by
  rw [sometime_append, Sometime, Sometime, or_false]

/-! ## What a request does to the handles -/

theorem Opens.hasOpen_file {id : Nat} (h : Opens fileIds dirIds s id t) (other : HandleTag) :
    t.HasOpen other ↔ other = (.file, id) ∨ s.HasOpen other := by
  obtain ⟨kind, n⟩ := other
  cases kind <;> simp [HasOpen, h.ids.mem_iff, h.others]

theorem Opens.hasOpen_dir {id : Nat} (h : Opens dirIds fileIds s id t) (other : HandleTag) :
    t.HasOpen other ↔ other = (.directory, id) ∨ s.HasOpen other := by
  obtain ⟨kind, n⟩ := other
  cases kind <;> simp [HasOpen, h.ids.mem_iff, h.others]

theorem KeepsHandles.hasOpen (h : KeepsHandles s t) (tag : HandleTag) :
    t.HasOpen tag ↔ s.HasOpen tag := by
  obtain ⟨kind, n⟩ := tag
  cases kind <;> simp [HasOpen, fileIds, dirIds, h.openFiles, h.openDirs]

/-- What a request does to the handles, by its result. -/
inductive Trades (s : Store) (op : Operation) : Except Errno Answer → Store → Prop
  | refused (e : Errno) : Trades s op (.error e) s
  | kept {answer : Answer} {t : Store} (hopens : op.opens = false) (hcloses : op.closes = false)
      (hkept : ∀ tag, t.HasOpen tag ↔ s.HasOpen tag) : Trades s op (.ok answer) t
  | opened {answer : Answer} {t : Store} {tag : HandleTag} (hopens : op.opens = true)
      (hcloses : op.closes = false) (hhandle : answer.handle? = some tag)
      (hnext : tag.2 = s.nextHandle)
      (hopened : ∀ other, t.HasOpen other ↔ other = tag ∨ s.HasOpen other) :
      Trades s op (.ok answer) t
  | closed {answer : Answer} {t : Store} {tag : HandleTag} (hopens : op.opens = false)
      (hcloses : op.closes = true) (hpresents : op.presents? = some tag) (hopen : s.HasOpen tag)
      (hclosed : ∀ other, t.HasOpen other ↔ other ≠ tag ∧ s.HasOpen other) :
      Trades s op (.ok answer) t

theorem trades_of_ends
    (h : Ends (op.perform now) s (fun answer t => Trades s op (.ok answer) t) fun _ t => t = s) :
    Trades s op (s.request now op).1 (s.request now op).2 := by
  have hends := request_of_ends h
  split at hends
  · next heq => rwa [heq]
  · next heq =>
    rw [heq, hends]
    exact .refused _

/-- A request that neither opens nor closes a handle keeps them all. -/
theorem keepsHandles_of_effect (heffect : op.Effect now s t) (hopens : op.opens = false)
    (hcloses : op.closes = false) : KeepsHandles s t := by
  cases heffect with
  | nothing => exact .refl s
  | describe | edit => exact (SameFrame.setInode s _ _).keepsHandles
  | openFile | create | openDir => cases hopens
  | close | closeDir => cases hcloses
  | mkdir => exact .link s now _ _ _
  | remove _ _ hi => exact (Quiet.unlink hi).handles
  | rename _ _ hmoved =>
    cases hmoved with
    | mk hvacated =>
      exact (Quiet.moved hvacated).handles.trans (SameFrame.setInode _ _ _).keepsHandles

theorem trades_of_keeps (h : s.Consistent) (now : Timespec) (hopens : op.opens = false)
    (hcloses : op.closes = false) : Trades s op (s.request now op).1 (s.request now op).2 := by
  refine trades_of_ends ((perform_effects h now op).mono ?_ fun _ _ ht => ht)
  intro answer t heffect
  exact .kept hopens hcloses (keepsHandles_of_effect heffect hopens hcloses).hasOpen

theorem close_trades (handle : FileHandle) :
    Ends (close handle) s (fun _ t => Trades s (.close handle) (.ok .done) t) fun _ t => t = s := by
  unfold close
  simp only [Ends.bind_iff, Ends.ask_iff, Ends.modify_iff, implies_true, and_true,
    fileInode_eq_ok_iff]
  intro ino hino
  have hframe := SameFrame.releaseIfOrphaned { s with openFiles := s.openFiles.erase handle.id } ino
  refine .closed rfl rfl rfl (mem_keys_iff.mpr ⟨ino, hino⟩) ?_
  rintro ⟨kind, n⟩
  cases kind with
  | file => simp [HasOpen, fileIds, hframe.openFiles, eq_comm (a := n)]
  | directory => simp [HasOpen, dirIds, hframe.openDirs]

theorem closeDir_trades (handle : DirHandle) :
    Ends (closeDir handle) s (fun _ t => Trades s (.closeDir handle) (.ok .done) t)
      fun _ t => t = s := by
  unfold closeDir
  rw [Ends.bind_iff, Ends.get_iff]
  split
  · rfl
  · next dir hdir =>
    have hframe := SameFrame.releaseIfOrphaned { s with openDirs := s.openDirs.erase handle.id }
      dir.inode
    refine .closed rfl rfl rfl (mem_keys_iff.mpr ⟨dir, hdir⟩) ?_
    rintro ⟨kind, n⟩
    cases kind with
    | file => simp [HasOpen, fileIds, hframe.openFiles]
    | directory => simp [HasOpen, dirIds, hframe.openDirs, eq_comm (a := n)]

/-- Every request keeps the handles, opens the next or closes the one that it is given. -/
theorem Consistent.request_trades (h : s.Consistent) (now : Timespec) (op : Operation) :
    Trades s op (s.request now op).1 (s.request now op).2 := by
  cases op with
  | openFile path flags =>
    exact trades_of_ends (Ends.map_iff.mpr ((openFile_opens h path flags).mono
      (fun _ _ ht => .opened rfl rfl rfl ht.2.next ht.2.hasOpen_file) fun _ _ ht => ht))
  | create path mode =>
    exact trades_of_ends (Ends.map_iff.mpr ((create_opens h path mode).mono
      (fun _ _ ht => .opened rfl rfl rfl ht.2.next ht.2.hasOpen_file) fun _ _ ht => ht))
  | openDir path =>
    exact trades_of_ends (Ends.map_iff.mpr ((openDir_opens h path).mono
      (fun _ _ ht => .opened rfl rfl rfl ht.2.next ht.2.hasOpen_dir) fun _ _ ht => ht))
  | close handle => exact trades_of_ends (Ends.bind_iff.mpr (close_trades handle))
  | closeDir handle => exact trades_of_ends (Ends.bind_iff.mpr (closeDir_trades handle))
  | _ => exact trades_of_keeps h now rfl rfl

/-! ## Accounts of handles -/

/-- A handle that a request gives out is the next one. -/
theorem Issues.next (h : s.Consistent) (hissues : s.Issues now op tag) :
    tag.2 = s.nextHandle := by
  obtain ⟨hopens, answer, t, heq, hhandle⟩ := hissues
  have htrades := h.request_trades now op
  rw [heq] at htrades
  cases htrades with
  | kept hkeeps => cases hopens.symm.trans hkeeps
  | closed hkeeps => cases hopens.symm.trans hkeeps
  | opened _ _ hhandle' hnext =>
    rw [hhandle] at hhandle'
    rwa [Option.some.inj hhandle']

theorem Issues.unique {other : HandleTag} (hissues : s.Issues now op tag)
    (hother : s.Issues now op other) : other = tag := by
  obtain ⟨-, answer, t, heq, hhandle⟩ := hissues
  obtain ⟨-, answer', t', heq', hhandle'⟩ := hother
  cases heq.symm.trans heq'
  exact Option.some.inj (hhandle'.symm.trans hhandle)

/-- A request that closes a handle has found it open. -/
theorem Closes.hasOpen (h : s.Consistent) (hclose : s.Closes now op tag) : s.HasOpen tag := by
  obtain ⟨hcloses, hpresents, answer, t, heq⟩ := hclose
  have htrades := h.request_trades now op
  rw [heq] at htrades
  cases htrades with
  | kept _ hkeeps => cases hcloses.symm.trans hkeeps
  | opened _ hkeeps => cases hcloses.symm.trans hkeeps
  | closed _ _ hpresents' hopen =>
    rw [hpresents] at hpresents'
    rwa [Option.some.inj hpresents']

/-- After a request the handles are open that it has given out, and those that it has not taken
back. -/
theorem Consistent.hasOpen_request_iff (h : s.Consistent) (now : Timespec) (op : Operation)
    (tag : HandleTag) : (s.request now op).2.HasOpen tag ↔
      s.Issues now op tag ∨ s.HasOpen tag ∧ ¬ s.Closes now op tag := by
  have htrades := h.request_trades now op
  unfold Issues Closes
  generalize s.request now op = outcome at htrades ⊢
  obtain ⟨result, t⟩ := outcome
  cases htrades with
  | refused e => simp
  | kept hopens hcloses hkept => simp [hopens, hcloses, hkept]
  | opened hopens hcloses hhandle hnext hopened =>
    simp [hopens, hcloses, hhandle, hopened, eq_comm]
  | closed hopens hcloses hpresents hopen hclosed =>
    simp [hopens, hcloses, hpresents, hclosed, eq_comm, and_comm]

theorem Consistent.hasOpen_lt (h : s.Consistent) (hopen : s.HasOpen tag) :
    tag.2 < s.nextHandle := by
  obtain ⟨kind, id⟩ := tag
  cases kind with
  | file =>
    obtain ⟨ino, hino⟩ := mem_keys_iff.mp hopen
    exact h.file_lt hino
  | directory =>
    obtain ⟨dir, hdir⟩ := mem_keys_iff.mp hopen
    exact h.dir_lt hdir

/-- The handles that are open after a history are those that were given out and not taken back, and
no number was given out that is still to come. -/
structure Accounts (start : Store) (history : List (Timespec × Operation)) : Prop where
  open_iff : ∀ tag, (start.after history).HasOpen tag ↔
    start.Issued history tag ∧ ¬ start.Closed history tag
  issued_lt : ∀ tag, start.Issued history tag → tag.2 < (start.after history).nextHandle
  issued_of_closed : ∀ tag, start.Closed history tag → start.Issued history tag
  unique : ∀ tag other, start.Issued history tag → start.Issued history other →
    other.2 = tag.2 → other = tag

/-- One more request keeps the accounts. -/
theorem Accounts.request {history : List (Timespec × Operation)} (h : start.Accounts history)
    (hconsistent : (start.after history).Consistent) (now : Timespec) (op : Operation) :
    start.Accounts (history ++ [(now, op)]) := by
  have hissued : ∀ tag, start.Issued (history ++ [(now, op)]) tag ↔
      start.Issued history tag ∨ (start.after history).Issues now op tag := fun tag =>
    sometime_concat history now op
  have hclosed : ∀ tag, start.Closed (history ++ [(now, op)]) tag ↔
      start.Closed history tag ∨ (start.after history).Closes now op tag := fun tag =>
    sometime_concat history now op
  -- what is given out now was never given out before, so it was never closed either
  have hfresh : ∀ tag other, (start.after history).Issues now op tag →
      start.Issued history other → other.2 ≠ tag.2 := by
    intro tag other hissues hold
    rw [hissues.next hconsistent]
    exact (h.issued_lt other hold).ne
  have hkept : ∀ tag, (start.after history).Closes now op tag → start.Issued history tag := by
    intro tag hcloses
    exact ((h.open_iff tag).mp (hcloses.hasOpen hconsistent)).1
  refine ⟨fun tag => ?_, fun tag => ?_, fun tag => ?_, fun tag other => ?_⟩
  · rw [after_concat, hconsistent.hasOpen_request_iff, h.open_iff, hissued, hclosed]
    have hnew : (start.after history).Issues now op tag → ¬ start.Issued history tag :=
      fun hissues hold => hfresh tag tag hissues hold rfl
    have hback := hkept tag
    have hold := h.issued_of_closed tag
    tauto
  · rw [hissued, after_concat]
    have hle := (hconsistent.request_descends now op).nextHandle_le
    rintro (hold | hnew)
    · exact (h.issued_lt tag hold).trans_le hle
    · -- the handle is open after the request, so its number is below the next one
      refine (hconsistent.request now op).hasOpen_lt ?_
      exact (hconsistent.hasOpen_request_iff now op tag).mpr (.inl hnew)
  · rw [hissued, hclosed]
    exact fun hold => .inl (hold.elim (h.issued_of_closed tag) (hkept tag))
  · rw [hissued, hissued]
    rintro (htag | htag) (hother | hother) hnumber
    · exact h.unique tag other htag hother hnumber
    · exact absurd hnumber.symm (hfresh other tag hother htag)
    · exact absurd hnumber (hfresh tag other htag hother)
    · exact htag.unique hother

/-- A store in which nothing is open has its accounts in order after every history. -/
theorem Consistent.accounts_after (h : start.Consistent) (hnone : ∀ tag, ¬ start.HasOpen tag)
    (history : List (Timespec × Operation)) : start.Accounts history := by
  induction history using List.reverseRecOn with
  | nil =>
    refine ⟨fun tag => ?_, fun _ hissued => hissued.elim, fun _ hclosed => hclosed.elim,
      fun _ _ hissued => hissued.elim⟩
    exact iff_of_false (hnone tag) fun hissued => hissued.1
  | append_singleton history step ih => exact ih.request (h.after history) step.1 step.2

/-! ## Handles that are not open -/

theorem ends_of_closed_file {α : Type} {handle : FileHandle} (h : ¬ s.HasOpen (.file, handle.id))
    (next : Nat → Update α) :
    Ends (ask (·.fileInode handle) >>= next) s (fun _ _ => False)
      fun e t => e = .badDescriptor ∧ t = s := by
  have hfile : s.fileInode handle = .error .badDescriptor := by
    unfold fileInode
    split
    · next ino hino => exact absurd (mem_keys_iff.mpr ⟨ino, hino⟩) h
    · rfl
  rw [Ends.bind_iff, Ends.ask_iff, hfile]
  exact ⟨fun _ h => (by cases h), fun e h => ⟨(Except.error.inj h).symm, rfl⟩⟩

theorem ends_of_closed_dir {α : Type} {handle : DirHandle}
    (h : ¬ s.HasOpen (.directory, handle.id)) {found : Store → OpenDir → Update α} :
    Ends (get >>= fun s => match s.openDirs[handle.id]? with
      | none => throw .badDescriptor
      | some dir => found s dir) s (fun _ _ => False) fun e t => e = .badDescriptor ∧ t = s := by
  rw [Ends.bind_iff, Ends.get_iff]
  split
  · exact ⟨rfl, rfl⟩
  · next dir hdir => exact absurd (mem_keys_iff.mpr ⟨dir, hdir⟩) h

/-- Whatever is presented with a handle that is not open is refused. -/
theorem disowns_of_closed (h : ¬ s.HasOpen tag) : s.Disowns tag := by
  intro now op hpresents
  have hends : Ends (op.perform now) s (fun _ _ => False)
      fun e t => e = .badDescriptor ∧ t = s := by
    cases op with
    | seek | write => cases hpresents; exact Ends.map_iff.mpr (ends_of_closed_file h _)
    | close | read | truncateOpen | sync =>
      cases hpresents
      exact Ends.bind_iff.mpr (ends_of_closed_file h _)
    | closeDir | readDir => cases hpresents; exact Ends.bind_iff.mpr (ends_of_closed_dir h)
    | _ => cases hpresents
  rcases request_cases hends with ⟨_, _, -, hfalse⟩ | ⟨e, t, heq, rfl, rfl⟩
  · exact hfalse.elim
  · exact heq

/-- An open handle can be closed. -/
theorem closes_of_open (h : s.Consistent) (hopen : s.HasOpen tag) (now : Timespec)
    (hcloses : op.closes = true) (hpresents : op.presents? = some tag) : s.Closes now op tag := by
  have hends : Ends (op.perform now) s (fun _ _ => True) fun _ _ => False := by
    cases op with
    | close handle =>
      cases hpresents
      obtain ⟨t, hclose, -⟩ := close_of_open h hopen
      rw [Operation.perform, Ends.bind_iff, Ends, hclose]
      trivial
    | closeDir handle =>
      cases hpresents
      obtain ⟨t, hclose, -⟩ := closeDir_of_open h hopen
      rw [Operation.perform, Ends.bind_iff, Ends, hclose]
      trivial
    | _ => cases hcloses
  rcases request_cases hends with ⟨answer, t, heq, -⟩ | ⟨_, _, -, hfalse⟩
  · exact ⟨hcloses, hpresents, answer, t, heq⟩
  · exact hfalse.elim

/-! ## Numbers of inodes -/

/-- What is told of is there. -/
theorem Reachable.inode_of_reports (h : s.Reachable) (hreports : s.Reports now op ino) :
    ∃ i, s.inodes[ino]? = some i := by
  cases op with
  | stat path =>
    obtain ⟨a, t, heq, rfl⟩ := hreports
    rcases h.request_stat now path with ⟨b, i, hstat, -, hi, -⟩ | ⟨e, hstat, -⟩
    · cases heq.symm.trans hstat
      exact ⟨i, hi⟩
    · cases heq.symm.trans hstat
  | readDir handle count =>
    obtain ⟨entries, moved, t, heq, entry, hentry, rfl⟩ := hreports
    by_cases hopen : s.HasOpen (.directory, handle.id)
    · obtain ⟨dir, hdir⟩ := mem_keys_iff.mp hopen
      obtain ⟨listed, hlisted, -, hthere⟩ :=
        h.consistent.request_readDir h.tracked hdir now count
      cases heq.symm.trans hlisted
      exact (hthere entry hentry).imp fun _ hi => hi.1
    · cases heq.symm.trans (disowns_of_closed hopen now _ rfl)
  | _ => exact hreports.elim

/-- A number that was told is not one that is still to come. -/
theorem Reachable.reported_lt (h : start.Reachable) {history : List (Timespec × Operation)}
    (hreported : start.Reported history ino) : ino < (start.after history).nextInode := by
  induction history using List.reverseRecOn with
  | nil => exact hreported.elim
  | append_singleton history step ih =>
    obtain ⟨now, op⟩ := step
    have hafter : (start.after history).Reachable := h.after history
    have hle := (hafter.consistent.request_descends now op).nextInode_le
    rw [after_concat]
    rcases (sometime_concat history now op).mp hreported with hold | hnew
    · exact (ih hold).trans_le hle
    · obtain ⟨i, hi⟩ := hafter.inode_of_reports hnew
      exact (hafter.consistent.inode_lt (profile_of_inode hi)).trans_le hle

/-- What is gone does not come back. -/
theorem Descends.inode_eq_none (h : Descends s t) (hlt : ino < s.nextInode)
    (hgone : s.inodes[ino]? = none) : t.inodes[ino]? = none := by
  refine Option.eq_none_iff_forall_ne_some.mpr fun i hi => ?_
  obtain ⟨before, hp⟩ := h.kind_eq hlt (profile_of_inode hi)
  obtain ⟨j, hj, -⟩ := profile_eq_some_iff.mp hp
  rw [hgone] at hj
  cases hj

/-! ## All histories -/

theorem Reachable.neverReuses (h : start.Reachable) (hnone : ∀ tag, ¬ start.HasOpen tag) :
    start.NeverReuses where
  fresh history now op tag hissues other hnumber hissued := by
    have hlt := (h.consistent.accounts_after hnone history).issued_lt other hissued
    rw [hnumber, hissues.next (h.consistent.after history)] at hlt
    exact lt_irrefl _ hlt
  open_iff history := (h.consistent.accounts_after hnone history).open_iff
  accepted history tag hissued hclosed now op hcloses hpresents := by
    have hopen := ((h.consistent.accounts_after hnone history).open_iff tag).mpr ⟨hissued, hclosed⟩
    exact closes_of_open (h.consistent.after history) hopen now hcloses hpresents
  unissued history tag hissued := by
    refine disowns_of_closed fun hopen => hissued ?_
    exact (((h.consistent.accounts_after hnone history).open_iff tag).mp hopen).1
  closed history tag hclosed other hnumber later := by
    refine disowns_of_closed fun hopen => ?_
    have haccounts := h.consistent.accounts_after hnone (history ++ later)
    have hlater := (sometime_append history later).mpr (.inl hclosed)
    obtain ⟨hissued, hunclosed⟩ := (haccounts.open_iff other).mp hopen
    -- a handle of the other sort would have been given out with the same number
    have hsame := haccounts.unique tag other (haccounts.issued_of_closed tag hlater) hissued hnumber
    rw [hsame] at hunclosed
    exact hunclosed hlater
  apart history tag hissued other hnumber hne later := by
    refine disowns_of_closed fun hopen => hne ?_
    have haccounts := h.consistent.accounts_after hnone (history ++ later)
    have hlater := (sometime_append history later).mpr (.inl hissued)
    exact haccounts.unique tag other hlater ((haccounts.open_iff other).mp hopen).1 hnumber
  retired history ino hreported hgone later now op hreports := by
    obtain ⟨i, hi⟩ := (h.after (history ++ later)).inode_of_reports hreports
    rw [after_append] at hi
    have hdescends := (h.consistent.after history).after_descends later
    rw [hdescends.inode_eq_none (h.reported_lt hreported) hgone] at hi
    cases hi

/-- **Over all histories of a new store, no number of a handle or an inode stands for two
things.** -/
theorem neverReuses_new (now : Timespec) (uid gid : Nat) :
    (Store.new now uid gid).NeverReuses := by
  refine Reachable.neverReuses ⟨now, uid, gid, [], rfl⟩ ?_
  rintro ⟨kind, id⟩
  cases kind <;> simp [HasOpen, fileIds, dirIds, Store.new]

end Store

end FileScript
