import FileScript.Proofs.Contents
import FileScript.Proofs.Lifetimes

/-!
# What requests leave alone

Most requests have nothing to do with the bytes of files and with what is open
(`Store.perform_quiet`). The others change the bytes of one file, or one handle, and leave the rest
alone.
-/

namespace FileScript

/-- The bytes of a file. -/
def Node.content : Node → Option (List UInt8)
  | .file content => some (Content.bytes content)
  | .directory => none

namespace Store

variable {s t u : Store} {now : Timespec}

/-! ## Changes of inodes alone -/

/-- Nothing but the inodes differs. -/
structure SameFrame (s t : Store) : Prop where
  names : t.names = s.names
  openFiles : t.openFiles = s.openFiles
  openDirs : t.openDirs = s.openDirs
  nextInode : t.nextInode = s.nextInode
  nextHandle : t.nextHandle = s.nextHandle

namespace SameFrame

theorem trans (h : SameFrame s t) (h' : SameFrame t u) : SameFrame s u where
  names := h'.names.trans h.names
  openFiles := h'.openFiles.trans h.openFiles
  openDirs := h'.openDirs.trans h.openDirs
  nextInode := h'.nextInode.trans h.nextInode
  nextHandle := h'.nextHandle.trans h.nextHandle

theorem setInode (s : Store) (ino : Nat) (i : Inode) : SameFrame s (s.setInode ino i) :=
  ⟨rfl, rfl, rfl, rfl, rfl⟩

theorem touchParent (s : Store) (now : Timespec) (key : String) :
    SameFrame s (s.touchParent now key) := by
  unfold Store.touchParent
  split <;> exact ⟨rfl, rfl, rfl, rfl, rfl⟩

theorem releaseIfOrphaned (s : Store) (ino : Nat) : SameFrame s (s.releaseIfOrphaned ino) := by
  unfold Store.releaseIfOrphaned
  split <;> exact ⟨rfl, rfl, rfl, rfl, rfl⟩

theorem dropLink (s : Store) (now : Timespec) (key : String) (ino : Nat) (i : Inode) :
    SameFrame s (s.dropLink now key ino i) :=
  ((setInode s ino _).trans (touchParent _ now key)).trans (releaseIfOrphaned _ ino)

theorem named_iff (h : SameFrame s t) {ino : Nat} : t.Named ino ↔ s.Named ino := by
  unfold Named
  rw [h.names]

end SameFrame

/-! ## The bytes of files -/

/-- The bytes of the file with a number. -/
def content (s : Store) (ino : Nat) : Option (List UInt8) := s.inodes[ino]?.bind (·.node.content)

theorem content_of_inode {ino : Nat} {i : Inode} (h : s.inodes[ino]? = some i) :
    s.content ino = i.node.content := by
  rw [content, h, Option.bind_some]

theorem content_setInode (ino : Nat) (i : Inode) (other : Nat) :
    (s.setInode ino i).content other = if ino = other then i.node.content else s.content other := by
  unfold content setInode
  simp only [Std.TreeMap.getElem?_insert, compare_eq_iff_eq]
  split <;> rfl

@[simp] theorem content_touchParent (key : String) (ino : Nat) :
    (s.touchParent now key).content ino = s.content ino := by
  unfold content
  rw [getElem?_inodes_touchParent]
  split
  · cases s.inodes[ino]? <;> rfl
  · rfl

theorem content_link (key : String) (node : Node) (mode : UInt32) (ino : Nat) :
    (s.link now key node mode).content ino =
      if s.nextInode = ino then node.content else s.content ino := by
  rw [link, content_touchParent]
  exact content_setInode (s := s) s.nextInode (Inode.new now node mode s.uid s.gid) ino

/-- The files that are left have the bytes that they had. -/
def KeepsContents (s t : Store) : Prop :=
  ∀ ⦃ino : Nat⦄ ⦃a : List UInt8⦄, t.content ino = some a → s.content ino = some a

namespace KeepsContents

theorem refl (s : Store) : KeepsContents s s := fun _ _ h => h

theorem trans (h : KeepsContents s t) (h' : KeepsContents t u) : KeepsContents s u :=
  fun _ _ hu => h (h' hu)

theorem setInode {ino : Nat} {old new : Inode} (h : s.inodes[ino]? = some old)
    (hnode : new.node = old.node) : KeepsContents s (s.setInode ino new) := by
  intro other a ha
  rw [content_setInode] at ha
  split at ha
  · next he => rw [← he, content_of_inode h, ← hnode, ha]
  · exact ha

theorem touchParent (s : Store) (now : Timespec) (key : String) :
    KeepsContents s (s.touchParent now key) := fun _ _ ha => by rwa [content_touchParent] at ha

theorem releaseIfOrphaned (s : Store) (ino : Nat) :
    KeepsContents s (s.releaseIfOrphaned ino) := by
  intro other a ha
  unfold Store.releaseIfOrphaned at ha
  split at ha
  · exact ha
  · unfold content at ha ⊢
    rw [Std.TreeMap.getElem?_erase] at ha
    split at ha
    · cases ha
    · exact ha

theorem dropLink {ino : Nat} {i : Inode} (h : s.inodes[ino]? = some i) (now : Timespec)
    (key : String) : KeepsContents s (s.dropLink now key ino i) := by
  have hmarked : KeepsContents s (s.setInode ino { i with linked := false }) := setInode h rfl
  exact (hmarked.trans (touchParent _ now key)).trans (releaseIfOrphaned _ ino)

end KeepsContents

/-! ## What is open -/

/-- The same handles are open, and the same handle is the next. -/
structure KeepsHandles (s t : Store) : Prop where
  openFiles : t.openFiles = s.openFiles
  openDirs : t.openDirs.keys = s.openDirs.keys
  nextHandle : t.nextHandle = s.nextHandle

theorem SameFrame.keepsHandles (h : SameFrame s t) : KeepsHandles s t :=
  ⟨h.openFiles, by rw [h.openDirs], h.nextHandle⟩

theorem Alike.keepsHandles (h : Alike s t) : KeepsHandles s t :=
  ⟨h.openFiles, by rw [h.openDirs], h.nextHandle⟩

namespace KeepsHandles

theorem refl (s : Store) : KeepsHandles s s := ⟨rfl, rfl, rfl⟩

theorem trans (h : KeepsHandles s t) (h' : KeepsHandles t u) : KeepsHandles s u :=
  ⟨h'.openFiles.trans h.openFiles, h'.openDirs.trans h.openDirs,
    h'.nextHandle.trans h.nextHandle⟩

theorem moveTree (s : Store) (source target : String) : KeepsHandles s (s.moveTree source target) :=
  ⟨rfl, Std.TreeMap.keys_map, rfl⟩

theorem link (s : Store) (now : Timespec) (key : String) (node : Node) (mode : UInt32) :
    KeepsHandles s (s.link now key node mode) :=
  have hframe : SameFrame _ (s.link now key node mode) := .touchParent _ now key
  ⟨hframe.openFiles, by rw [hframe.openDirs], hframe.nextHandle⟩

end KeepsHandles

theorem Located.keepsHandles {key : String} {flags : OpenFlags} {ino : Nat}
    (hloc : Located now key flags s t ino) : KeepsHandles s t := by
  cases hloc with
  | found => exact .refl s
  | made => exact .link s now key (.file .empty) 0o644

/-! ## Requests that leave both alone -/

/-- Neither the bytes of files nor what is open changed, except that files may be gone. -/
structure Quiet (s t : Store) : Prop where
  contents : KeepsContents s t
  handles : KeepsHandles s t

namespace Quiet

theorem refl (s : Store) : Quiet s s := ⟨.refl s, .refl s⟩

theorem trans (h : Quiet s t) (h' : Quiet t u) : Quiet s u :=
  ⟨h.contents.trans h'.contents, h.handles.trans h'.handles⟩

theorem setInode {ino : Nat} {old new : Inode} (h : s.inodes[ino]? = some old)
    (hnode : new.node = old.node) : Quiet s (s.setInode ino new) :=
  ⟨.setInode h hnode, (SameFrame.setInode s ino new).keepsHandles⟩

theorem unlink {key : String} {ino : Nat} {i : Inode} (h : s.inodes[ino]? = some i) :
    Quiet s ({ s with names := s.names.erase key }.dropLink now key ino i) where
  contents := KeepsContents.dropLink (s := { s with names := s.names.erase key }) h now key
  handles :=
    have hframe := SameFrame.dropLink { s with names := s.names.erase key } now key ino i
    ⟨hframe.openFiles, by rw [hframe.openDirs], hframe.nextHandle⟩

theorem link_directory (s : Store) (now : Timespec) (key : String) (mode : UInt32) :
    Quiet s (s.link now key .directory mode) where
  contents ino a ha := by
    rw [content_link] at ha
    split at ha
    · cases ha
    · exact ha
  handles := .link s now key .directory mode

theorem moved {source target : String} {mid : Store} (hvacated : Vacated now target s mid) :
    Quiet s (mid.moved now source target) := by
  have hroom : Quiet s mid := by
    cases hvacated with
    | free => exact .refl s
    | taken _ hj => exact .unlink hj
  refine hroom.trans ⟨?_, ?_⟩
  · have htimes : KeepsContents (mid.moveTree source target) (mid.moved now source target) :=
      (KeepsContents.touchParent _ now source).trans (.touchParent _ now target)
    exact htimes
  · exact (KeepsHandles.moveTree mid source target).trans
      ((SameFrame.touchParent _ now source).trans (.touchParent _ now target)).keepsHandles

end Quiet

/-- A request is quiet if it is carried out, and changes nothing if it is refused. -/
def IsQuiet {α : Type} (act : Update α) (s : Store) : Prop :=
  Ends act s (fun _ t => Quiet s t) fun _ t => t = s

theorem Inquires.isQuiet {α : Type} {act : Update α} (h : Inquires act s) : IsQuiet act s :=
  h.mono (fun _ _ ht => ht ▸ .refl s) fun _ _ ht => ht

theorem changeInode_isQuiet (path : String) {f : Inode → Inode} (hnode : ∀ i, (f i).node = i.node) :
    IsQuiet (changeInode now path f) s := by
  unfold changeInode IsQuiet
  simp only [Ends.bind_iff, Ends.ask_iff, Ends.modify_iff, implies_true, and_true, inode_eq_ok_iff]
  intro place _ i hi
  exact .setInode hi (hnode i)

theorem chmod_isQuiet (path : String) (mode : UInt32) : IsQuiet (chmod now path mode) s :=
  changeInode_isQuiet path fun _ => rfl

theorem chown_isQuiet (path : String) (uid : Nat) : IsQuiet (chown now path uid) s :=
  changeInode_isQuiet path fun _ => rfl

theorem utime_isQuiet (path : String) (accessed modified : Timespec) :
    IsQuiet (utime now path accessed modified) s :=
  changeInode_isQuiet path fun _ => rfl

theorem setXattr_isQuiet (path name : String) (value : ByteArray) (flags : XattrFlags) :
    IsQuiet (setXattr now path name value flags) s := by
  unfold setXattr IsQuiet
  simp only [Ends.bind_iff, Ends.ite_iff, Ends.throw_iff, Ends.ask_iff, Ends.modify_iff,
    implies_true, and_true, true_and, inode_eq_ok_iff]
  intro _ _ _ place _ i hi _ _
  exact .setInode hi rfl

theorem removeXattr_isQuiet (path name : String) : IsQuiet (removeXattr now path name) s := by
  unfold removeXattr IsQuiet
  simp only [Ends.bind_iff, Ends.ite_iff, Ends.throw_iff, Ends.ask_iff, Ends.modify_iff,
    implies_true, and_true, inode_eq_ok_iff]
  intro place _ i hi _
  exact .setInode hi rfl

theorem mkdir_isQuiet (path : String) (mode : UInt32) : IsQuiet (mkdir now path mode) s := by
  refine Ends.bind_iff.mpr ((insertNode_ends _ _ _).mono ?_ fun _ _ h => h)
  rintro ino t ⟨-, rfl, -⟩
  exact .link_directory s now _ mode

theorem unlinkName_isQuiet {key : String} {ino : Nat} {i : Inode}
    (hino : s.names[key]? = some ino) (hi : s.inodes[ino]? = some i) :
    IsQuiet (unlinkName now key) s := by
  refine (unlinkName_ends hino hi).mono ?_ fun _ _ h => h.elim
  rintro _ t rfl
  exact .unlink hi

theorem rmdir_isQuiet (path : String) : IsQuiet (rmdir now path) s := by
  unfold rmdir IsQuiet
  simp only [Ends.bind_iff, Ends.ite_iff, Ends.throw_iff, Ends.ask_iff, Ends.get_iff, implies_true,
    and_true, true_and, inode_eq_ok_iff]
  rintro ⟨key, ino⟩ hplace _ i hi _ _
  obtain ⟨rfl, hino⟩ := resolve_eq_ok_iff.mp hplace
  exact unlinkName_isQuiet hino hi

theorem unlink_isQuiet (path : String) : IsQuiet (unlink now path) s := by
  unfold unlink IsQuiet
  simp only [Ends.bind_iff, Ends.ite_iff, Ends.throw_iff, Ends.ask_iff, implies_true, and_true,
    true_and, inode_eq_ok_iff]
  rintro ⟨key, ino⟩ hplace i hi _
  obtain ⟨rfl, hino⟩ := resolve_eq_ok_iff.mp hplace
  exact unlinkName_isQuiet hino hi

theorem rename_isQuiet (h : s.Consistent) (source target : String) :
    IsQuiet (rename now source target) s := by
  refine (rename_ends h source target).mono ?_ fun _ _ h => h.1
  rintro _ t ⟨-, ht⟩
  split at ht
  · rw [ht]
    exact .refl s
  · cases ht with
    | mk hvacated hino hi => exact (Quiet.moved hvacated).trans (.setInode hi rfl)

/-! ## Requests that leave handles alone -/

/-- A request leaves a consistent store with the same handles, and changes nothing if it is refused.
-/
def SparesHandles {α : Type} (act : Update α) (s : Store) : Prop :=
  Ends act s (fun _ t => t.Consistent ∧ KeepsHandles s t) fun _ t => t = s

section SparesHandles

variable {α : Type} {act : Update α} (h : s.Consistent)

include h

theorem Inquires.sparesHandles (hact : Inquires act s) : SparesHandles act s := by
  refine hact.mono ?_ fun _ _ ht => ht
  rintro _ _ rfl
  exact ⟨h, .refl _⟩

theorem Transacts.sparesHandles (hact : Transacts now act s)
    (hkeeps : Ends act s (fun _ t => KeepsHandles s t) fun _ t => t = s) : SparesHandles act s :=
  (hact.and hkeeps).mono (fun _ _ ht => ⟨ht.1.consistent h, ht.2⟩) fun _ _ ht => ht.1

theorem IsQuiet.sparesHandles (hact : IsQuiet act s) (htransacts : Transacts now act s) :
    SparesHandles act s :=
  htransacts.sparesHandles h (hact.mono (fun _ _ ht => ht.handles) fun _ _ ht => ht)

end SparesHandles

/-- A read moves the handle that it is given. -/
theorem read_moves (h : s.Consistent) (handle : FileHandle) (count : Nat) :
    Ends (read handle count) s
      (fun result t => result.2.id = handle.id ∧ t.Consistent ∧ KeepsHandles s t)
      fun _ t => t = s := by
  unfold read
  simp only [Ends.bind_iff, Ends.ask_iff, Ends.ite_iff, Ends.throw_iff, implies_true, and_true]
  intro ino _ _ i _
  split
  · rfl
  · exact ⟨rfl, h, .refl s⟩

/-- A listing moves the handle that it is given. -/
theorem readDir_moves (h : s.Consistent) (handle : DirHandle) (count : Nat) :
    Ends (readDir handle count) s
      (fun result t => result.2.id = handle.id ∧ t.Consistent ∧ KeepsHandles s t)
      fun _ t => t = s := by
  unfold readDir
  rw [Ends.bind_iff, Ends.get_iff]
  split
  · rfl
  · simp only [Ends.ite_iff, Ends.pure_iff, Ends.bind_iff, Ends.ask_iff, implies_true, true_and,
      and_true]
    exact ⟨fun _ => ⟨h, .refl s⟩, fun _ _ _ => ⟨h, .refl s⟩⟩

/-- A write moves the handle that it is given. -/
theorem write_moves (h : s.Consistent) (handle : FileHandle) (data : ByteArray) :
    Ends (write now handle data) s
      (fun moved t => moved.id = handle.id ∧ t.Consistent ∧ KeepsHandles s t)
      fun _ t => t = s := by
  have hkeeps : Ends (write now handle data) s
      (fun moved t => moved.id = handle.id ∧ KeepsHandles s t) fun _ t => t = s := by
    unfold write
    simp only [Ends.bind_iff, Ends.ask_iff, Ends.ite_iff, Ends.throw_iff, implies_true, and_true]
    intro ino _ _ i _
    split
    · rfl
    · simp only [Ends.ite_iff, Ends.pure_iff, Ends.bind_iff, Ends.throw_iff, Ends.modify_iff,
        implies_true, true_and]
      exact ⟨fun _ => .refl s, fun _ _ => (SameFrame.setInode s ino _).keepsHandles⟩
  refine ((write_transacts handle data).and hkeeps).mono ?_ fun _ _ ht => ht.1
  rintro moved t ⟨hchanges, hid, ht⟩
  exact ⟨hid, hchanges.consistent h, ht⟩

theorem resizeInode_keepsHandles (ino size : Nat) :
    Ends (resizeInode now ino size) s (fun _ t => KeepsHandles s t) fun _ t => t = s := by
  unfold resizeInode
  simp only [Ends.bind_iff, Ends.ask_iff, implies_true, and_true]
  intro i _
  split
  · exact (SameFrame.setInode s ino _).keepsHandles
  · rfl

theorem truncateOpen_keepsHandles (handle : FileHandle) (size : Nat) :
    Ends (truncateOpen now handle size) s (fun _ t => KeepsHandles s t) fun _ t => t = s := by
  unfold truncateOpen
  simp only [Ends.bind_iff, Ends.ask_iff, Ends.ite_iff, Ends.throw_iff, implies_true, and_true]
  exact fun ino _ _ => resizeInode_keepsHandles ino size

theorem truncate_keepsHandles (path : String) (size : Nat) :
    Ends (truncate now path size) s (fun _ t => KeepsHandles s t) fun _ t => t = s := by
  unfold truncate
  simp only [Ends.bind_iff, Ends.ask_iff, Ends.get_iff, Ends.ite_iff, Ends.throw_iff, implies_true,
    and_true, true_and]
  exact fun place _ i _ _ _ => resizeInode_keepsHandles place.2 size

end Store

/-- Whether a request has nothing to do with the bytes of files and with handles. -/
def Operation.isQuiet : Operation → Bool
  | openFile .. | create .. | close .. | write .. | truncateOpen .. | truncate .. | openDir ..
  | closeDir .. => false
  | _ => true

namespace Store

variable {s : Store}

/-- **Requests that have nothing to do with bytes and handles leave them alone.** -/
theorem perform_quiet (h : s.Consistent) (now : Timespec) {op : Operation}
    (hop : op.isQuiet = true) : IsQuiet (op.perform now) s := by
  cases op with
  | seek handle offset => exact Ends.map_iff.mpr (seek_inquires handle offset).isQuiet
  | read handle count => exact Ends.bind_iff.mpr (read_inquires handle count).isQuiet
  | sync handle => exact Ends.bind_iff.mpr (sync_inquires handle).isQuiet
  | readDir handle count => exact Ends.bind_iff.mpr (readDir_inquires handle count).isQuiet
  | mkdir path mode => exact Ends.bind_iff.mpr (mkdir_isQuiet path mode)
  | rmdir path => exact Ends.bind_iff.mpr (rmdir_isQuiet path)
  | stat path => exact Ends.map_iff.mpr (stat_inquires path).isQuiet
  | access path wanted => exact Ends.bind_iff.mpr (access_inquires path wanted).isQuiet
  | chmod path mode => exact Ends.bind_iff.mpr (chmod_isQuiet path mode)
  | chown path uid => exact Ends.bind_iff.mpr (chown_isQuiet path uid)
  | utime path accessed modified =>
    exact Ends.bind_iff.mpr (utime_isQuiet path accessed modified)
  | unlink path => exact Ends.bind_iff.mpr (unlink_isQuiet path)
  | rename source target => exact Ends.bind_iff.mpr (rename_isQuiet h source target)
  | getXattr path name buffer =>
    exact Ends.bind_iff.mpr (getXattr_inquires path name buffer).isQuiet
  | setXattr path name value flags =>
    exact Ends.bind_iff.mpr (setXattr_isQuiet path name value flags)
  | removeXattr path name => exact Ends.bind_iff.mpr (removeXattr_isQuiet path name)
  | listXattr path buffer => exact Ends.bind_iff.mpr (listXattr_inquires path buffer).isQuiet
  | openFile | create | close | write | truncateOpen | truncate | openDir | closeDir => cases hop

end Store

end FileScript
