import FileScript.Proofs.Effects
import FileScript.Proofs.FailedStatements
import FileScript.Proofs.FileArrays

/-!
# Files that statements leave alone

A file keeps its bytes as long as it exists and no request edits it (`Operation.Effect.spares`):
requests on other files, on names and on handles do not change them. A statement asks for an edit of
a file through a descriptor or by a path that names it (`Request.Edits`), and every other statement
spares the file, however it ends (`Request.perform_spares`).
-/

namespace FileScript

namespace Store

variable {s t u : Store} {now : Timespec} {ino : Nat}

/-- If the file with the number `ino` is left, it has the bytes that it had. -/
def Spares (ino : Nat) (s t : Store) : Prop :=
  ∀ ⦃a : List UInt8⦄, t.content ino = some a → s.content ino = some a

theorem Spares.refl (ino : Nat) (s : Store) : Spares ino s s := fun _ h => h

theorem Spares.trans (h : Spares ino s t) (h' : Spares ino t u) : Spares ino s u :=
  fun _ hu => h (h' hu)

theorem KeepsContents.spares (h : KeepsContents s t) (ino : Nat) : Spares ino s t :=
  fun _ ht => h ht

theorem spares_setInode {other : Nat} (i : Inode) (h : other ≠ ino) :
    Spares ino s (s.setInode other i) := fun _ ht => by
  rwa [content_setInode, if_neg h] at ht

theorem spares_link (key : String) (node : Node) (mode : UInt32) (h : ino < s.nextInode) :
    Spares ino s (s.link now key node mode) := fun _ ht => by
  rwa [content_link, if_neg h.ne'] at ht

/-- Closing a handle changes no bytes. -/
theorem close_keepsContents (handle : FileHandle) :
    Ends (close handle) s (fun _ t => KeepsContents s t) fun _ t => t = s := by
  unfold close
  simp only [Ends.bind_iff, Ends.ask_iff, Ends.modify_iff, implies_true, and_true]
  exact fun other _ => .releaseIfOrphaned { s with openFiles := s.openFiles.erase handle.id } other

theorem closeDir_keepsContents (handle : DirHandle) :
    Ends (closeDir handle) s (fun _ t => KeepsContents s t) fun _ t => t = s := by
  unfold closeDir
  rw [Ends.bind_iff, Ends.get_iff]
  split
  · rfl
  · exact .releaseIfOrphaned { s with openDirs := s.openDirs.erase handle.id } _

end Store

open Store in
/-- **What a request does not edit keeps its bytes**, whatever else the request does. -/
theorem Operation.Effect.spares {s t : Store} {now : Timespec} {op : Operation} {ino : Nat}
    (heffect : op.Effect now s t) (hlt : ino < s.nextInode) (hspared : ¬ op.Edits s ino) :
    s.Spares ino t := by
  cases heffect with
  | nothing => exact .refl ino s
  | describe hold hnode => exact (KeepsContents.setInode hold hnode).spares ino
  | edit content hold hkind hedits =>
    exact spares_setInode _ fun he => hspared (he ▸ hedits)
  | @openFile path flags mid n i hloc hi hkind =>
    have hmid : s.Spares ino mid := by
      cases hloc with
      | found => exact .refl ino s
      | made => exact spares_link _ _ _ hlt
    refine hmid.trans ?_
    -- only a file that had a name before can be emptied
    show mid.Spares ino (mid.prepared now flags n i)
    unfold prepared
    split
    · next htruncate =>
      refine spares_setInode _ fun he => ?_
      cases hloc with
      | found hino => exact hspared ⟨he ▸ hino, htruncate⟩
      | made => exact hlt.ne' he
    · exact .refl ino mid
  | create => exact spares_link _ _ _ hlt
  | mkdir => exact spares_link _ _ _ hlt
  | @close handle other =>
    have hreleased := KeepsContents.releaseIfOrphaned
      { s with openFiles := s.openFiles.erase handle.id } other
    exact hreleased.spares ino
  | openDir => exact .refl ino s
  | @closeDir handle dir =>
    have hreleased := KeepsContents.releaseIfOrphaned
      { s with openDirs := s.openDirs.erase handle.id } dir.inode
    exact hreleased.spares ino
  | remove _ _ hi => exact (Quiet.unlink hi).contents.spares ino
  | rename _ _ hmoved =>
    cases hmoved with
    | mk hvacated _ hi =>
      refine KeepsContents.spares ?_ ino
      exact (Quiet.moved hvacated).contents.trans (.setInode hi rfl)

/-! ## Statements -/

open FileScript.Action

namespace Request

/-- A statement asks to edit the bytes of the file `ino`: to write to it or to resize it through a
descriptor that was opened for writing, to resize it by its path, or to empty it when it is opened
for writing. -/
def Edits (x : Session) (ino : Nat) : Request → Prop
  | write fd _ _ _ | truncateOpen fd _ => ∃ handle, x.files.get? fd = some handle ∧
    x.volume.store.openFiles[handle.id]? = some ino ∧ handle.flags.writable = true
  | truncate path _ => x.volume.store.names[Path.normalize path]? = some ino
  | openFile path flags => x.volume.store.names[Path.normalize path]? = some ino ∧
    (OpenFlags.contains ⟨.ofNat flags⟩ .truncate && OpenFlags.writable ⟨.ofNat flags⟩) = true
  | _ => False

variable {x y : Session} {ino : Nat} {α : Type}

/-- From the session `x` on, an action spares the file `ino`, whether it fails or not. -/
def SparesAt (act : Action α) (x : Session) (ino : Nat) : Prop :=
  Leads act x (fun _ y => x.volume.store.Spares ino y.volume.store)
    fun _ y => x.volume.store.Spares ino y.volume.store

theorem request_spares (op : Operation) {update : Timespec → Store.Update α}
    (hlt : ino < x.volume.store.nextInode) (hspared : ¬ op.Edits x.volume.store ino)
    (h : Operation.Effects x.now op (update x.now) x.volume.store) :
    SparesAt (request update) x ino := by
  refine leads_request (h.mono (fun _ _ heffect => heffect.spares hlt hspared) ?_)
  rintro _ _ rfl
  exact .refl ino _

theorem silently_spares (op : Operation) {source : LogSource} {label : String}
    {update : Timespec → Store.Update Unit} (hlt : ino < x.volume.store.nextInode)
    (hspared : ¬ op.Edits x.volume.store ino)
    (h : Operation.Effects x.now op (update x.now) x.volume.store) :
    SparesAt (silently source label update) x ino :=
  leads_bind (leads_traced ((request_spares op hlt hspared h).mono
    (fun _ _ hy => leads_pure hy) fun _ _ hy => hy))

/-- What only asks leaves the store as it is. -/
theorem inquiry_leads {update : Timespec → Store.Update α}
    (h : Store.Inquires (update x.now) x.volume.store) :
    Leads (request update) x (fun _ y => y.volume.store = x.volume.store)
      fun _ y => y.volume.store = x.volume.store :=
  leads_request (h.mono (fun _ _ ht => ht) fun _ _ ht => ht)

theorem fetch_spares {label : String} {op : ByteArray → Store.Update (Nat × ByteArray)}
    (h : ∀ s buffer, Store.Inquires (op buffer) s) : SparesAt (fetch label op) x ino := by
  have hsame {y : Session} (hy : y.volume.store = x.volume.store) :
      x.volume.store.Spares ino y.volume.store := hy ▸ .refl ino _
  unfold fetch
  refine leads_bind (leads_report (leads_bind (leads_reportStatus
    ((inquiry_leads (h _ .empty)).mono ?_ fun _ _ => hsame))))
  rintro ⟨size, buffer⟩ y hy
  dsimp only
  split
  · exact leads_pure (hsame hy)
  · refine leads_bind (leads_reportStatus ((inquiry_leads (h _ _)).mono ?_ fun _ z hz => ?_))
    · exact fun _ z hz => leads_pure (hsame (hz.trans hy))
    · exact hsame (hz.trans hy)

theorem closeHandle_spares (handle : FileHandle) : SparesAt (closeHandle handle) x ino := by
  refine leads_requestClose (fun _ => .refl ino _) fun _ => (Store.close_keepsContents handle).mono
    (fun _ _ ht => ht.spares ino) ?_
  rintro _ _ rfl
  exact .refl ino _

theorem closeDirHandle_spares (handle : DirHandle) : SparesAt (closeDirHandle handle) x ino := by
  refine leads_requestClose (fun _ => .refl ino _) fun _ =>
    (Store.closeDir_keepsContents handle).mono (fun _ _ ht => ht.spares ino) ?_
  rintro _ _ rfl
  exact .refl ino _

theorem installFile_spares (handle : FileHandle) : SparesAt (installFile handle) x ino :=
  leads_installFile (fun _ _ _ => .refl ino _) fun _ => closeHandle_spares handle

theorem installDir_spares (handle : DirHandle) : SparesAt (installDir handle) x ino :=
  leads_installDir (fun _ _ _ => .refl ino _) fun _ => closeDirHandle_spares handle

/-- A file is opened and gets a descriptor. -/
theorem opening_spares (op : Operation) {source : LogSource} {label : String}
    {update : Timespec → Store.Update FileHandle} (hlt : ino < x.volume.store.nextInode)
    (hspared : ¬ op.Edits x.volume.store ino)
    (h : Operation.Effects x.now op (update x.now) x.volume.store) :
    SparesAt (do
      let handle ← traced source label (request update)
      return .descriptor (← installFile handle) : Action Output) x ino := by
  refine leads_bind (leads_traced ((request_spares op hlt hspared h).mono ?_ fun _ _ hy => hy))
  intro handle y hy
  exact leads_bind ((installFile_spares handle).mono (fun _ _ hz => leads_pure (hy.trans hz))
    fun _ _ hz => hy.trans hz)

/-- A handle is put at an offset, and then a request is made with it. -/
theorem seeking_spares {fd offset : Nat} {handle : FileHandle}
    {update : FileHandle → Timespec → Store.Update α} {moved : α → FileHandle} (out : α → Output)
    (h : ∀ now, Ends (update { handle with offset } now) x.volume.store
      (fun _ t => x.volume.store.Spares ino t) fun _ t => t = x.volume.store) :
    SparesAt (do
      let handle ← request fun _ => Store.seek handle offset
      putFile fd handle
      let a ← request (update handle)
      putFile fd (moved a)
      return out a) x ino := by
  refine leads_bind (leads_request ((Store.seek_ends handle offset).mono ?_ ?_))
  · rintro _ t ⟨rfl, rfl⟩
    refine leads_bind (leads_putFile (leads_bind (leads_request ((h _).mono ?_ ?_))))
    · exact fun _ _ ht => leads_bind (leads_putFile (leads_pure ht))
    · rintro _ _ rfl
      exact .refl ino _
  · rintro _ _ rfl
    exact .refl ino _

/-- **A statement that does not ask to edit a file spares it**, however it ends. -/
theorem perform_spares (hstore : x.volume.store.Consistent) (hlt : ino < x.volume.store.nextInode)
    (r : Request) (hspared : ¬ r.Edits x ino) : SparesAt r.perform x ino := by
  have hkept : x.volume.store.Spares ino x.volume.store := .refl ino _
  cases r with
  | create path mode =>
    exact opening_spares (.create path (.ofNat mode)) hlt id (Store.create_effects path _)
  | openFile path flags =>
    exact opening_spares (.openFile path ⟨.ofNat flags⟩) hlt hspared
      (Store.openFile_effects hstore path _)
  | close fd =>
    refine leads_bind (leads_traced (leads_closeFile (fun handle _ => ?_) hkept))
    refine (closeHandle_spares handle).mono (fun result y hy => ?_) fun _ _ hy => hy
    cases result with
    | ok => exact leads_pure hy
    | error e => exact hy
  | read fd offset count =>
    refine leads_bind (leads_fileAt (fun handle _ => leads_traced ?_) hkept)
    refine seeking_spares (fun a : ByteArray × FileHandle => .data a.1) fun now =>
      (Store.read_inquires _ count).mono ?_ fun _ _ ht => ht
    rintro _ _ rfl
    exact hkept
  | write fd offset count text =>
    refine leads_bind (leads_fileAt (fun handle hget => leads_traced ?_) hkept)
    refine seeking_spares (fun _ => .count count) fun now => (Store.write_effects _ _).mono
      (fun _ _ heffect => heffect.spares hlt ?_) fun _ _ ht => ht
    exact fun hedits => hspared ⟨handle, hget, hedits⟩
  | sync fd =>
    exact leads_bind (leads_fileAt (fun handle _ => silently_spares (.sync handle) hlt id
      (Store.sync_inquires handle).effects) hkept)
  | truncateOpen fd size =>
    refine leads_bind (leads_fileAt (fun handle hget => ?_) hkept)
    refine silently_spares (.truncateOpen handle size) hlt ?_
      (Store.truncateOpen_effects handle size)
    exact fun hedits => hspared ⟨handle, hget, hedits⟩
  | openDir path =>
    refine leads_bind (leads_traced ((request_spares (.openDir path) hlt id
      (Store.openDir_effects path)).mono ?_ fun _ _ hy => hy))
    exact fun handle y hy => leads_bind ((installDir_spares handle).mono
      (fun _ _ hz => leads_pure (hy.trans hz)) fun _ _ hz => hy.trans hz)
  | readDir fd count =>
    refine leads_bind (leads_dirAt (fun handle _ => leads_traced (leads_bind
      ((request_spares (.readDir handle count) hlt id
        (Store.readDir_inquires handle count).effects).mono ?_ fun _ _ hy => hy))) hkept)
    exact fun _ _ hy => leads_bind (leads_putDir (leads_pure hy))
  | closeDir fd =>
    refine leads_bind (leads_traced (leads_closeDir (fun handle _ => ?_) hkept))
    refine (closeDirHandle_spares handle).mono (fun result y hy => ?_) fun _ _ hy => hy
    cases result with
    | ok => exact leads_pure hy
    | error e => exact hy
  | mkdir path mode =>
    exact silently_spares (.mkdir path (.ofNat mode)) hlt id (Store.mkdir_effects path _)
  | rmdir path => exact silently_spares (.rmdir path) hlt id (Store.rmdir_effects path)
  | access path mode =>
    exact silently_spares (.access path (.ofNat mode)) hlt id
      (Store.access_inquires path _).effects
  | chmod path mode =>
    exact silently_spares (.chmod path (.ofNat mode)) hlt id (Store.chmod_effects path _)
  | chown path uid => exact silently_spares (.chown path uid) hlt id (Store.chown_effects path uid)
  | stat path =>
    exact leads_bind (leads_traced ((request_spares (.stat path) hlt id
      (Store.stat_inquires path).effects).mono (fun _ _ hy => leads_pure hy) fun _ _ hy => hy))
  | truncate path size =>
    exact silently_spares (.truncate path size) hlt hspared (Store.truncate_effects path size)
  | unlink path => exact silently_spares (.unlink path) hlt id (Store.unlink_effects path)
  | rename source target =>
    exact silently_spares (.rename source target) hlt id
      (Store.rename_effects hstore source target)
  | utime path accessed modified =>
    exact silently_spares (.utime path { seconds := accessed } { seconds := modified }) hlt id
      (Store.utime_effects path _ _)
  | getXattr path name =>
    exact leads_bind ((fetch_spares fun _ buffer => Store.getXattr_inquires path name buffer).mono
      (fun _ _ hy => leads_pure hy) fun _ _ hy => hy)
  | setXattr path name flags value =>
    exact silently_spares (.setXattr path name value.toUTF8 ⟨.ofNat flags⟩) hlt id
      (Store.setXattr_effects path name _ _)
  | removeXattr path name =>
    exact silently_spares (.removeXattr path name) hlt id
      (Store.removeXattr_effects path name)
  | listXattr path =>
    exact leads_bind ((fetch_spares fun _ buffer => Store.listXattr_inquires path buffer).mono
      (fun _ _ hy => leads_pure hy) fun _ _ hy => hy)
  | shell command =>
    refine (leads_runShell command).mono ?_ ?_
    · rintro _ _ rfl
      exact hkept
    · rintro _ _ ⟨-, rfl⟩
      exact hkept

end Request

end FileScript
