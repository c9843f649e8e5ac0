import FileScript.Proofs.Sessions

/-!
# Statements that fail

A statement that fails has changed nothing (`Session.Spared`), with one exception: whether there is
a descriptor for a file is only found out when the store has opened it. The handle is closed again
then, but a file that was made for it stays, and one that was emptied stays empty
(`Request.Opened`).
-/

namespace FileScript

namespace Store

variable {s t u : Store}

/-- The same names, inodes and open handles are found in two stores. -/
structure Same (s t : Store) : Prop where
  names : ∀ key : String, t.names[key]? = s.names[key]?
  inodes : ∀ ino : Nat, t.inodes[ino]? = s.inodes[ino]?
  openFiles : ∀ id : Nat, t.openFiles[id]? = s.openFiles[id]?
  openDirs : ∀ id : Nat, t.openDirs[id]? = s.openDirs[id]?

theorem Same.refl (s : Store) : s.Same s := ⟨fun _ => rfl, fun _ => rfl, fun _ => rfl, fun _ => rfl⟩

theorem Same.trans (h : s.Same t) (h' : t.Same u) : s.Same u where
  names key := (h'.names key).trans (h.names key)
  inodes ino := (h'.inodes ino).trans (h.inodes ino)
  openFiles id := (h'.openFiles id).trans (h.openFiles id)
  openDirs id := (h'.openDirs id).trans (h.openDirs id)

theorem same_setInode {ino : Nat} {i : Inode} (hi : s.inodes[ino]? = some i) :
    s.Same (s.setInode ino i) := by
  refine ⟨fun _ => rfl, fun other => ?_, fun _ => rfl, fun _ => rfl⟩
  simp only [setInode, Std.TreeMap.getElem?_insert, compare_eq_iff_eq]
  split
  · next he => rw [← he, hi]
  · rfl

/-! ## Handles that are closed at once -/

theorem getElem?_erase_insert {α : Type} {handles : Std.TreeMap Nat α} {id : Nat} {a : α}
    (hfresh : handles[id]? = none) (other : Nat) :
    ((handles.insert id a).erase id)[other]? = handles[other]? := by
  simp only [Std.TreeMap.getElem?_erase, Std.TreeMap.getElem?_insert, compare_eq_iff_eq]
  split
  · next he => rw [← he, hfresh]
  · rfl

/-- To open a file that has a name and to close it again changes nothing. -/
theorem close_registerFile_ends (h : s.Consistent) {ino : Nat} (flags : OpenFlags)
    (hlinked : ∃ kind, s.profile ino = some (kind, true)) :
    Ends (close (s.registerFile ino flags).1) (s.registerFile ino flags).2
      (fun _ t => s.Same t) fun _ _ => False := by
  have hino : (s.registerFile ino flags).2.fileInode (s.registerFile ino flags).1 = .ok ino :=
    fileInode_eq_ok_iff.mpr ((getElem?_openFiles_registerFile ino flags _).trans (if_pos rfl))
  have hfresh : s.openFiles[s.nextHandle]? = none :=
    Option.eq_none_iff_forall_ne_some.mpr fun _ hid => lt_irrefl _ (h.file_lt hid)
  unfold close
  rw [Ends.bind_iff, Ends.ask_iff, hino]
  constructor
  · rintro _ ⟨⟩
    rw [Ends.modify_iff, releaseIfOrphaned_eq_self]
    · exact ⟨fun _ => rfl, fun _ => rfl, getElem?_erase_insert hfresh, fun _ => rfl⟩
    · exact Or.inl hlinked
  · intro e he
    cases he

/-- To open a directory that has a name and to close it again changes nothing. -/
theorem closeDir_registerDir_ends (h : s.Consistent) {ino : Nat} (key : String)
    (hlinked : ∃ kind, s.profile ino = some (kind, true)) :
    Ends (closeDir (s.registerDir ino key).1) (s.registerDir ino key).2
      (fun _ t => s.Same t) fun _ _ => False := by
  have hdir : (s.registerDir ino key).2.openDirs[(s.registerDir ino key).1.id]? =
      some { inode := ino, path := key } :=
    (getElem?_openDirs_registerDir ino key _).trans (if_pos rfl)
  have hfresh : s.openDirs[s.nextHandle]? = none :=
    Option.eq_none_iff_forall_ne_some.mpr fun _ hid => lt_irrefl _ (h.dir_lt hid)
  unfold closeDir
  rw [Ends.bind_iff, Ends.get_iff, hdir, Ends.modify_iff, releaseIfOrphaned_eq_self]
  · exact ⟨fun _ => rfl, fun _ => rfl, fun _ => rfl, getElem?_erase_insert hfresh⟩
  · exact Or.inl hlinked

end Store

/-! ## What a failed statement can have changed -/

namespace Request

/-- The descriptor whose handle a request moves. -/
def moves : Request → Option Nat
  | read fd _ _ | write fd _ _ _ => some fd
  | _ => none

/-- The store when a request has opened something, save for the handle. -/
inductive Opened (now : Timespec) (s : Store) : Request → Store → Prop
  | created {path : String} {mode : Nat} (hfree : s.names[Path.normalize path]? = none) :
      Opened now s (create path mode)
        (s.link now (Path.normalize path) (.file .empty) (.ofNat mode))
  | made {path : String} {flags : Nat} (hfree : s.names[Path.normalize path]? = none)
      (hcreate : OpenFlags.contains ⟨.ofNat flags⟩ .create = true) :
      Opened now s (openFile path flags) (s.link now (Path.normalize path) (.file .empty) 0o644)
  | emptied {path : String} {flags ino : Nat} {i : Inode}
      (hino : s.names[Path.normalize path]? = some ino) (hi : s.inodes[ino]? = some i)
      (htruncate : OpenFlags.contains ⟨.ofNat flags⟩ .truncate = true)
      (hwritable : OpenFlags.writable ⟨.ofNat flags⟩ = true) :
      Opened now s (openFile path flags) (s.setInode ino (i.setContent now .empty))
  | found {path : String} {flags : Nat} (hnamed : s.names[Path.normalize path]? ≠ none)
      (hkeep : ¬ (OpenFlags.contains ⟨.ofNat flags⟩ .truncate = true ∧
        OpenFlags.writable ⟨.ofNat flags⟩ = true)) :
      Opened now s (openFile path flags) s
  | listed {path : String} : Opened now s (openDir path) s

end Request

namespace Session

/-- How a session can be when a request has failed. -/
inductive Refused (x : Session) (r : Request) : Fault → Session → Prop
  | kept {fault : Fault} {y : Session} (hstore : y.volume.store = x.volume.store)
      (hfiles : y.files = x.files) (hdirs : y.dirs = x.dirs) : Refused x r fault y
  | moved {fault : Fault} {y : Session} {fd : Nat} {handle : FileHandle} (offset : Nat)
      (hmoves : r.moves = some fd) (hget : x.files.get? fd = some handle)
      (hstore : y.volume.store = x.volume.store)
      (hfiles : y.files = x.files.replace fd { handle with offset })
      (hdirs : y.dirs = x.dirs) : Refused x r fault y
  | full {capacity : Nat} {y : Session} {opened : Store}
      (hopened : r.Opened x.now x.volume.store opened) (hsame : opened.Same y.volume.store)
      (hfiles : y.files = x.files) (hdirs : y.dirs = x.dirs) :
      Refused x r (.tableFull capacity) y

end Session

namespace Request

variable {x : Session} {r : Request}

/-- Where a request that only makes a request to the store leads when it fails. -/
theorem silently_leads {source : LogSource} {label : String} {op : Timespec → Store.Update Unit}
    (h : Store.Transacts x.now (op x.now) x.volume.store) :
    Action.Leads (silently source label op) x (fun _ _ => True) (x.Refused r) := by
  refine Action.leads_bind (Action.leads_traced (Action.leads_request (h.mono ?_ ?_)))
  · exact fun _ _ _ => Action.leads_pure trivial
  · rintro e t rfl
    exact .kept rfl rfl rfl

theorem fetch_leads {label : String} {op : ByteArray → Store.Update (Nat × ByteArray)}
    (h : ∀ s buffer, Store.Inquires (op buffer) s) :
    Action.Leads (fetch label op) x (fun _ _ => True) (x.Refused r) := by
  unfold fetch
  refine Action.leads_bind (Action.leads_report (Action.leads_bind
    (Action.leads_reportStatus (Action.leads_request ((h _ .empty).mono ?_ ?_)))))
  · rintro ⟨size, buffer⟩ t rfl
    dsimp only
    split
    · exact Action.leads_pure trivial
    · refine Action.leads_bind
        (Action.leads_reportStatus (Action.leads_request ((h _ _).mono ?_ ?_)))
      · exact fun _ _ _ => Action.leads_pure trivial
      · rintro e t rfl
        exact .kept rfl rfl rfl
  · rintro e t rfl
    exact .kept rfl rfl rfl

/-- A handle for which no descriptor is free is closed again, and what was done before stays. -/
theorem full_leads_file {opened mid t : Store} {ino : Nat} {flags : OpenFlags} {handle : FileHandle}
    (hcloses : x.volume.failsClose = false) (hopened : r.Opened x.now x.volume.store opened)
    (hsame : opened.Same mid) (hmid : mid.Consistent)
    (hlinked : ∃ kind, mid.profile ino = some (kind, true))
    (hopen : mid.registerFile ino flags = (handle, t)) (capacity : Nat) :
    Action.Leads (Action.closeHandle handle) (x.replied t)
      (fun _ y => x.Refused r (.tableFull capacity) y) (x.Refused r) := by
  have hends := Store.close_registerFile_ends hmid flags hlinked
  rw [hopen] at hends
  refine Action.leads_requestClose (fun hfails => ?_) fun _ => ?_
  · rw [Volume.failsCloseAt, Session.replied, hcloses] at hfails
    cases hfails
  · exact hends.mono (fun _ _ ht => .full hopened (hsame.trans ht) rfl rfl) fun _ _ h => h.elim

theorem full_leads_dir {t : Store} {ino : Nat} {key : String} {handle : DirHandle}
    (hcloses : x.volume.failsClose = false)
    (hopened : r.Opened x.now x.volume.store x.volume.store) (hstore : x.volume.store.Consistent)
    (hlinked : ∃ kind, x.volume.store.profile ino = some (kind, true))
    (hopen : x.volume.store.registerDir ino key = (handle, t)) (capacity : Nat) :
    Action.Leads (Action.closeDirHandle handle) (x.replied t)
      (fun _ y => x.Refused r (.tableFull capacity) y) (x.Refused r) := by
  have hends := Store.closeDir_registerDir_ends hstore key hlinked
  rw [hopen] at hends
  refine Action.leads_requestClose (fun hfails => ?_) fun _ => ?_
  · rw [Volume.failsCloseAt, Session.replied, hcloses] at hfails
    cases hfails
  · exact hends.mono (fun _ _ ht => .full hopened ht rfl rfl) fun _ _ h => h.elim

theorem create_leads (hstore : x.volume.store.Consistent) (hcloses : x.volume.failsClose = false)
    (path : String) (mode : Nat) :
    Action.Leads (create path mode).perform x (fun _ _ => True) (x.Refused (create path mode)) := by
  refine Action.leads_bind (Action.leads_traced (Action.leads_request
    ((Store.create_ends path (.ofNat mode)).mono ?_ ?_)))
  · rintro handle t ⟨hfree, hparent, hopen⟩
    have hmade := hstore.inode_link x.now (.file .empty) (.ofNat mode) hfree hparent
    have hmid : (x.volume.store.link x.now (Path.normalize path) (.file .empty)
        (.ofNat mode)).Consistent :=
      hstore.link _ _ (Path.isNormal_normalize path) hfree hparent
    exact Action.leads_bind (Action.leads_installFile (fun _ _ _ => Action.leads_pure trivial)
      fun _ => full_leads_file hcloses (.created hfree) (.refl _) hmid
        ⟨_, Store.profile_of_inode hmade⟩ hopen _)
  · rintro e t rfl
    exact .kept rfl rfl rfl

/-- What was done to a file before it is opened is known. -/
theorem exists_opened {s mid : Store} {now : Timespec} (h : s.Consistent) {path : String}
    {flags ino : Nat} {i : Inode}
    (hloc : Store.Located now (Path.normalize path) ⟨.ofNat flags⟩ s mid ino)
    (hi : mid.inodes[ino]? = some i) :
    ∃ opened, (openFile path flags).Opened now s opened ∧
      opened.Same (mid.prepared now ⟨.ofNat flags⟩ ino i) := by
  unfold Store.prepared
  cases hloc with
  | found hino =>
    split
    · next htruncate =>
      rw [Bool.and_eq_true] at htruncate
      exact ⟨_, .emptied hino hi htruncate.1 htruncate.2, Store.Same.refl _⟩
    · next hkeep =>
      rw [Bool.and_eq_true] at hkeep
      exact ⟨s, .found (by rw [hino]; exact Option.some_ne_none _) hkeep, Store.Same.refl s⟩
  | made hfree hparent hcreate =>
    refine ⟨_, .made hfree hcreate, ?_⟩
    split
    · have hnew := h.inode_link now (.file .empty) 0o644 hfree hparent
      cases hi.symm.trans hnew
      exact Store.same_setInode hnew
    · exact Store.Same.refl _

theorem linked_of_located {s mid : Store} {now : Timespec} (h : s.Consistent) {key : String}
    {flags : OpenFlags} {ino : Nat} (hloc : Store.Located now key flags s mid ino) :
    ∃ kind, mid.profile ino = some (kind, true) := by
  cases hloc with
  | found hino => exact h.named_linked hino
  | made hfree hparent =>
    exact ⟨.file, Store.profile_of_inode (h.inode_link now (.file .empty) 0o644 hfree hparent)⟩

theorem openFile_leads (hstore : x.volume.store.Consistent) (hcloses : x.volume.failsClose = false)
    (path : String) (flags : Nat) :
    Action.Leads (openFile path flags).perform x (fun _ _ => True)
      (x.Refused (openFile path flags)) := by
  refine Action.leads_bind (Action.leads_traced (Action.leads_request
    ((Store.openFile_ends hstore path ⟨.ofNat flags⟩).mono ?_ ?_)))
  · rintro handle t ⟨mid, ino, i, hloc, hi, hkind, hopen⟩
    obtain ⟨opened, hopened, hsame⟩ := exists_opened hstore hloc hi
    have halike := Store.alike_prepared x.now ⟨.ofNat flags⟩ hi hkind
    have hmid := (hloc.changes (Path.isNormal_normalize path)).consistent hstore
    have hlinked := linked_of_located hstore hloc
    rw [← halike.profile] at hlinked
    exact Action.leads_bind (Action.leads_installFile (fun _ _ _ => Action.leads_pure trivial)
      fun _ => full_leads_file hcloses hopened hsame (hmid.of_alike halike) hlinked hopen _)
  · rintro e t rfl
    exact .kept rfl rfl rfl

theorem openDir_leads (hstore : x.volume.store.Consistent) (hcloses : x.volume.failsClose = false)
    (path : String) :
    Action.Leads (openDir path).perform x (fun _ _ => True) (x.Refused (openDir path)) := by
  refine Action.leads_bind (Action.leads_traced (Action.leads_request
    ((Store.openDir_ends path).mono ?_ ?_)))
  · rintro handle t ⟨ino, i, hino, hi, hkind, hopen⟩
    exact Action.leads_bind (Action.leads_installDir (fun _ _ _ => Action.leads_pure trivial)
      fun _ => full_leads_dir hcloses .listed hstore (hstore.named_linked hino) hopen _)
  · rintro e t rfl
    exact .kept rfl rfl rfl

/-! ## Descriptors -/

theorem close_leads (fd : Nat) :
    Action.Leads (close fd).perform x (fun _ _ => True) (x.Refused (close fd)) := by
  refine Action.leads_bind (Action.leads_traced (Action.leads_closeFile (fun handle _ => ?_) ?_))
  · have hclose : Store.Transacts x.now (Store.close handle) x.volume.store :=
      Store.close_transacts handle
    refine Action.leads_requestClose (fun _ => .kept rfl rfl rfl) fun _ => hclose.mono ?_ ?_
    · exact fun _ _ _ => Action.leads_pure trivial
    · rintro e t rfl
      exact .kept rfl rfl rfl
  · exact .kept rfl rfl rfl

theorem closeDir_leads (fd : Nat) :
    Action.Leads (closeDir fd).perform x (fun _ _ => True) (x.Refused (closeDir fd)) := by
  refine Action.leads_bind (Action.leads_traced (Action.leads_closeDir (fun handle _ => ?_) ?_))
  · have hclose : Store.Transacts x.now (Store.closeDir handle) x.volume.store :=
      Store.closeDir_transacts handle
    refine Action.leads_requestClose (fun _ => .kept rfl rfl rfl) fun _ => hclose.mono ?_ ?_
    · exact fun _ _ _ => Action.leads_pure trivial
    · rintro e t rfl
      exact .kept rfl rfl rfl
  · exact .kept rfl rfl rfl

/-- A handle has been moved when the request is refused for which it was moved. -/
theorem seeking_leads {α : Type} {fd offset : Nat} {handle : FileHandle}
    (hmoves : r.moves = some fd) (hget : x.files.get? fd = some handle)
    (op : FileHandle → Timespec → Store.Update α)
    (hop : ∀ handle now, Store.Transacts now (op handle now) x.volume.store)
    {next : α → Action Output}
    (hnext : ∀ a y, Action.Leads (next a) y (fun _ _ => True) (x.Refused r)) :
    Action.Leads (do
      let handle ← Action.request fun _ => Store.seek handle offset
      Action.putFile fd handle
      let a ← Action.request (op handle)
      next a) x (fun _ _ => True) (x.Refused r) := by
  refine Action.leads_bind (Action.leads_request ((Store.seek_ends handle offset).mono ?_ ?_))
  · rintro _ t ⟨rfl, rfl⟩
    refine Action.leads_bind (Action.leads_putFile (Action.leads_bind (Action.leads_request
      ((hop _ _).mono (fun a t _ => hnext a _) ?_))))
    rintro e t rfl
    exact .moved offset hmoves hget rfl rfl rfl
  · rintro e t rfl
    exact .kept rfl rfl rfl

theorem read_leads (fd offset count : Nat) :
    Action.Leads (read fd offset count).perform x (fun _ _ => True)
      (x.Refused (read fd offset count)) := by
  refine Action.leads_bind (Action.leads_fileAt (fun handle hget => ?_) (.kept rfl rfl rfl))
  refine Action.leads_traced (seeking_leads rfl hget (fun handle _ => Store.read handle count)
    (fun handle now => (Store.read_inquires handle count).transacts) ?_)
  exact fun _ _ => Action.leads_bind (Action.leads_putFile (Action.leads_pure trivial))

theorem write_leads (fd offset count : Nat) (text : String) :
    Action.Leads (write fd offset count text).perform x (fun _ _ => True)
      (x.Refused (write fd offset count text)) := by
  refine Action.leads_bind (Action.leads_fileAt (fun handle hget => ?_) (.kept rfl rfl rfl))
  refine Action.leads_traced (seeking_leads rfl hget _
    (fun handle now => Store.write_transacts handle (text.toUTF8.extract 0 count)) ?_)
  exact fun _ _ => Action.leads_bind (Action.leads_putFile (Action.leads_pure trivial))

theorem readDir_leads (fd count : Nat) :
    Action.Leads (readDir fd count).perform x (fun _ _ => True) (x.Refused (readDir fd count)) := by
  refine Action.leads_bind (Action.leads_dirAt (fun handle _ => ?_) (.kept rfl rfl rfl))
  refine Action.leads_traced (Action.leads_bind (Action.leads_request
    ((Store.readDir_inquires handle count).mono ?_ ?_)))
  · exact fun _ _ _ => Action.leads_bind (Action.leads_putDir (Action.leads_pure trivial))
  · rintro e t rfl
    exact .kept rfl rfl rfl

/-- **Where a request leads when it fails**: to a session in which little or nothing has changed. -/
theorem perform_leads (hstore : x.volume.store.Consistent) (hcloses : x.volume.failsClose = false)
    (hshell : ∀ command, r ≠ shell command) :
    Action.Leads r.perform x (fun _ _ => True) (x.Refused r) := by
  cases r with
  | create path mode => exact create_leads hstore hcloses path mode
  | openFile path flags => exact openFile_leads hstore hcloses path flags
  | close fd => exact close_leads fd
  | read fd offset count => exact read_leads fd offset count
  | write fd offset count text => exact write_leads fd offset count text
  | sync fd =>
    exact Action.leads_bind (Action.leads_fileAt
      (fun handle _ => silently_leads (Store.sync_inquires handle).transacts) (.kept rfl rfl rfl))
  | truncateOpen fd size =>
    exact Action.leads_bind (Action.leads_fileAt
      (fun handle _ => silently_leads (Store.truncateOpen_transacts handle size))
      (.kept rfl rfl rfl))
  | openDir path => exact openDir_leads hstore hcloses path
  | readDir fd count => exact readDir_leads fd count
  | closeDir fd => exact closeDir_leads fd
  | mkdir path mode => exact silently_leads (Store.mkdir_transacts path _)
  | rmdir path => exact silently_leads (Store.rmdir_transacts path)
  | access path mode => exact silently_leads (Store.access_inquires path _).transacts
  | chmod path mode => exact silently_leads (Store.chmod_transacts path _)
  | chown path uid => exact silently_leads (Store.chown_transacts path uid)
  | stat path =>
    refine Action.leads_bind (Action.leads_traced (Action.leads_request
      ((Store.stat_inquires path).mono (fun _ _ _ => Action.leads_pure trivial) ?_)))
    rintro e t rfl
    exact .kept rfl rfl rfl
  | truncate path size => exact silently_leads (Store.truncate_transacts path size)
  | unlink path => exact silently_leads (Store.unlink_transacts hstore path)
  | rename source target => exact silently_leads (Store.rename_transacts hstore source target)
  | utime path accessed modified => exact silently_leads (Store.utime_transacts path _ _)
  | getXattr path name =>
    exact Action.leads_bind ((fetch_leads fun _ buffer =>
      Store.getXattr_inquires path name buffer).mono (fun _ _ _ => Action.leads_pure trivial)
      fun _ _ h => h)
  | setXattr path name flags value => exact silently_leads (Store.setXattr_transacts path name _ _)
  | removeXattr path name => exact silently_leads (Store.removeXattr_transacts path name)
  | listXattr path =>
    exact Action.leads_bind ((fetch_leads fun _ buffer =>
      Store.listXattr_inquires path buffer).mono (fun _ _ _ => Action.leads_pure trivial)
      fun _ _ h => h)
  | shell command => exact absurd rfl (hshell command)

end Request

/-! ## Statements -/

/-- What a statement asks for. -/
def Statement.AsksFor (s : Statement) (r : Request) : Prop :=
  ∃ b : Builtin, b.synopsis.name = s.command ∧ Request.ofArgs b s.args = .ok r

/-- A statement that failed with `fault` has left the session as it was, but for the offset of the
handle that it moved, and for what it had opened when no descriptor was free. -/
structure Session.Spared (x : Session) (s : Statement) (fault : Fault) (y : Session) : Prop where
  store : x.volume.store.Same y.volume.store ∨ ∃ capacity r opened, fault = .tableFull capacity ∧
    s.AsksFor r ∧ r.Opened x.now x.volume.store opened ∧ opened.Same y.volume.store
  files : y.files = x.files ∨ ∃ r fd handle offset, s.AsksFor r ∧ r.moves = some fd ∧
    x.files.get? fd = some handle ∧ y.files = x.files.replace fd { handle with offset }
  dirs : y.dirs = x.dirs

theorem Session.Refused.spared {x y : Session} {r : Request} {s : Statement} {fault : Fault}
    (h : x.Refused r fault y) (hasks : s.AsksFor r) : x.Spared s fault y := by
  cases h with
  | kept hstore hfiles hdirs => exact ⟨Or.inl (hstore ▸ Store.Same.refl _), Or.inl hfiles, hdirs⟩
  | moved offset hmoves hget hstore hfiles hdirs =>
    exact ⟨Or.inl (hstore ▸ Store.Same.refl _),
      Or.inr ⟨r, _, _, offset, hasks, hmoves, hget, hfiles⟩, hdirs⟩
  | full hopened hsame hfiles hdirs =>
    exact ⟨Or.inr ⟨_, r, _, rfl, hasks, hopened, hsame⟩, Or.inl hfiles, hdirs⟩

theorem Session.Spared.refl (x : Session) (s : Statement) (fault : Fault) : x.Spared s fault x :=
  ⟨Or.inl (Store.Same.refl _), Or.inl rfl, rfl⟩

theorem execute_leads {x : Session} (hstore : x.volume.store.Consistent)
    (hcloses : x.volume.failsClose = false) {s : Statement}
    (hshell : s.command ≠ Builtin.shell.synopsis.name) :
    Action.Leads (Builtin.registry.execute s) x (fun _ _ => True) (x.Spared s) := by
  unfold Registry.execute
  split
  · exact Action.leads_throw (.refl x s _)
  · next c h =>
    obtain ⟨b, hname, rfl⟩ := Builtin.exists_of_get? h
    split
    · refine Action.leads_bind (Action.leads_ofExcept (fun r hr => ?_) fun _ _ => .refl x s _)
      refine (Request.perform_leads hstore hcloses ?_).mono (fun _ _ h => h)
        fun _ _ h => h.spared ⟨b, hname, hr⟩
      rintro command rfl
      rw [← Request.builtin_of_ofArgs hr] at hname
      exact hshell hname.symm
    · exact Action.leads_throw (.refl x s _)

/-- **A statement that fails spares the session**, unless the closing of handles has been made to
fail. -/
theorem failed_statement_spares {f : Frame} (h : f.Reachable)
    (hcloses : f.session.volume.failsClose = false) {s : Statement}
    (hshell : s.command ≠ Builtin.shell.synopsis.name) {fault : Fault}
    (hfault : (f.run (Builtin.registry.execute s)).1 = .error fault) :
    f.session.Spared s fault (f.run (Builtin.registry.execute s)).2.session := by
  have hends := execute_leads h.consistent hcloses hshell f rfl
  unfold Ends at hends
  unfold Frame.run at hfault ⊢
  split at hends
  · next heq =>
    rw [heq] at hfault
    cases hfault
  · next e g heq =>
    rw [heq] at hfault ⊢
    cases hfault
    exact hends

/-! ## The exception -/

/-- A session with a single descriptor for files, which is taken. -/
def crowded : Frame :=
  let vacant : Frame := { session := Session.new { fileCapacity := 1 } (.new fun _ => {}) }
  (vacant.run (Builtin.registry.execute
    { line := "create /a 644", command := "create", args := ["/a", "644"] })).2

/-- A statement that makes another file. -/
def createAnother : Statement :=
  { line := "create /b 644", command := "create", args := ["/b", "644"] }

theorem crowded_reachable : crowded.Reachable :=
  .statement (.start { fileCapacity := 1 } ⟨_, _, _, [], rfl⟩ rfl) _

set_option maxRecDepth 4000 in
theorem crowded_closes : crowded.session.volume.failsClose = false := by
  cbv

set_option maxRecDepth 4000 in
theorem createAnother_fault :
    (crowded.run (Builtin.registry.execute createAnother)).1 = .error (.tableFull 1) := by
  cbv

theorem crowded_spared : crowded.session.Spared createAnother (.tableFull 1)
    (crowded.run (Builtin.registry.execute createAnother)).2.session :=
  failed_statement_spares crowded_reachable crowded_closes (by decide) createAnother_fault

set_option maxRecDepth 4000 in
/-- **A statement that fails can leave a file behind.** -/
theorem createAnother_leaves_file :
    crowded.Reachable ∧ crowded.session.volume.failsClose = false ∧
      createAnother.command ≠ Builtin.shell.synopsis.name ∧
      (crowded.run (Builtin.registry.execute createAnother)).1 = .error (.tableFull 1) ∧
      crowded.session.volume.store.names["/b"]? = none ∧
      (crowded.run (Builtin.registry.execute createAnother)).2.session.volume.store.names["/b"]? =
        some 3 := by
  refine ⟨crowded_reachable, crowded_closes, by decide, createAnother_fault, ?_, ?_⟩ <;> cbv

end FileScript
