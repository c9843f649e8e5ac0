import FileScript.Proofs.Endings
import FileScript.Proofs.NameTables
import FileScript.Store.Operation

/-!
# Consistent stores

The names, the inodes and the open handles of a store fit together (`Store.Consistent`): the names
are those of a tree, an inode is marked as linked if a name leads to it, an inode without a name is
open, and the numbers that are given out next are new. Of an inode this only takes its kind and its
mark (`Store.profile`), so whatever leaves these alone leaves a store consistent
(`Consistent.of_alike`).
-/

namespace FileScript.Store

variable {s t : Store}

/-! ## Looking at inodes -/

/-- The kind of an inode and whether it has a name. -/
def profile (s : Store) (ino : Nat) : Option (EntryKind × Bool) :=
  s.inodes[ino]?.map fun i => (i.kind, i.linked)

theorem profile_eq_some_iff {ino : Nat} {kind : EntryKind} {linked : Bool} :
    s.profile ino = some (kind, linked) ↔
      ∃ i, s.inodes[ino]? = some i ∧ i.kind = kind ∧ i.linked = linked := by
  unfold profile
  rw [Option.map_eq_some_iff]
  simp only [Prod.mk.injEq]

theorem profile_of_inode {ino : Nat} {i : Inode} (h : s.inodes[ino]? = some i) :
    s.profile ino = some (i.kind, i.linked) := by
  rw [profile, h, Option.map_some]

theorem inode_eq_ok_iff {ino : Nat} {i : Inode} :
    s.inode ino = .ok i ↔ s.inodes[ino]? = some i := by
  unfold inode
  cases s.inodes[ino]? <;> simp

/-- A normal path names a directory. -/
def NamesDirectory (s : Store) (key : String) : Prop :=
  ∃ ino i, s.names[key]? = some ino ∧ s.inodes[ino]? = some i ∧ i.kind = .directory

/-- An open handle refers to the inode. -/
def Held (s : Store) (ino : Nat) : Prop :=
  (∃ id : Nat, s.openFiles[id]? = some ino) ∨
    ∃ (id : Nat) (dir : OpenDir), s.openDirs[id]? = some dir ∧ dir.inode = ino

theorem isOpen_iff {ino : Nat} : s.isOpen ino = true ↔ s.Held ino := by
  unfold isOpen Held
  rw [Bool.or_eq_true, List.any_eq_true, List.any_eq_true]
  simp only [Prod.exists, Std.TreeMap.mem_toList_iff_getElem?_eq_some, beq_iff_eq]
  refine or_congr_left ⟨?_, ?_⟩
  · rintro ⟨id, _, h, rfl⟩
    exact ⟨id, h⟩
  · rintro ⟨id, h⟩
    exact ⟨id, ino, h, rfl⟩

/-! ## The invariant -/

/-- The names are those of a tree, and no name and no handle leads nowhere. -/
structure Sound (s : Store) : Prop where
  root_named : s.names[Path.root]? = some rootInode
  root_directory : s.profile rootInode = some (.directory, true)
  all_normal : s.names.AllNormal
  name_short : ∀ ⦃key : String⦄ ⦃ino : Nat⦄, s.names[key]? = some ino →
    (Path.baseName key).utf8ByteSize ≤ maxNameSize
  parent_named : ∀ ⦃key : String⦄ ⦃ino : Nat⦄, s.names[key]? = some ino → key ≠ Path.root →
    ∃ above : Nat, s.names[Path.parent key]? = some above ∧
      s.profile above = some (.directory, true)
  name_unique : ∀ ⦃key other : String⦄ ⦃ino : Nat⦄, s.names[key]? = some ino →
    s.names[other]? = some ino → key = other
  named_linked : ∀ ⦃key : String⦄ ⦃ino : Nat⦄, s.names[key]? = some ino →
    ∃ kind, s.profile ino = some (kind, true)
  linked_named : ∀ ⦃ino : Nat⦄ ⦃kind : EntryKind⦄, s.profile ino = some (kind, true) →
    ∃ key : String, s.names[key]? = some ino
  file_open : ∀ ⦃id ino : Nat⦄, s.openFiles[id]? = some ino →
    ∃ linked, s.profile ino = some (.file, linked)
  dir_open : ∀ ⦃id : Nat⦄ ⦃dir : OpenDir⦄, s.openDirs[id]? = some dir →
    ∃ linked, s.profile dir.inode = some (.directory, linked)
  handles_apart : ∀ ⦃id ino : Nat⦄, s.openFiles[id]? = some ino → s.openDirs[id]? = none
  inode_lt : ∀ ⦃ino : Nat⦄ ⦃p : EntryKind × Bool⦄, s.profile ino = some p → ino < s.nextInode
  file_lt : ∀ ⦃id ino : Nat⦄, s.openFiles[id]? = some ino → id < s.nextHandle
  dir_lt : ∀ ⦃id : Nat⦄ ⦃dir : OpenDir⦄, s.openDirs[id]? = some dir → id < s.nextHandle

/-- The names, inodes and handles of a store fit together: besides, every inode without a name is
open. -/
structure Consistent (s : Store) : Prop extends Sound s where
  orphan_held : ∀ ⦃ino : Nat⦄ ⦃kind : EntryKind⦄, s.profile ino = some (kind, false) → s.Held ino

/-! ## Stores that differ in nothing but the contents of inodes -/

/-- Two stores with the same names and handles, and with inodes of the same kinds and marks. -/
structure Alike (s t : Store) : Prop where
  names : t.names = s.names
  profile : ∀ ino, t.profile ino = s.profile ino
  openFiles : t.openFiles = s.openFiles
  openDirs : t.openDirs = s.openDirs
  nextInode : t.nextInode = s.nextInode
  nextHandle : t.nextHandle = s.nextHandle

namespace Alike

theorem refl (s : Store) : Alike s s := ⟨rfl, fun _ => rfl, rfl, rfl, rfl, rfl⟩

theorem trans {u : Store} (h : Alike s t) (h' : Alike t u) : Alike s u where
  names := h'.names.trans h.names
  profile ino := (h'.profile ino).trans (h.profile ino)
  openFiles := h'.openFiles.trans h.openFiles
  openDirs := h'.openDirs.trans h.openDirs
  nextInode := h'.nextInode.trans h.nextInode
  nextHandle := h'.nextHandle.trans h.nextHandle

theorem held_iff (h : Alike s t) {ino : Nat} : t.Held ino ↔ s.Held ino := by
  unfold Held
  rw [h.openFiles, h.openDirs]

end Alike

theorem Sound.of_alike (h : s.Sound) (hst : Alike s t) : t.Sound where
  root_named := by rw [hst.names]; exact h.root_named
  root_directory := by rw [hst.profile]; exact h.root_directory
  all_normal := by rw [hst.names]; exact h.all_normal
  name_short := by rw [hst.names]; exact h.name_short
  parent_named := by simp only [hst.names, hst.profile]; exact h.parent_named
  name_unique := by rw [hst.names]; exact h.name_unique
  named_linked := by simp only [hst.names, hst.profile]; exact h.named_linked
  linked_named := by simp only [hst.names, hst.profile]; exact h.linked_named
  file_open := by simp only [hst.openFiles, hst.profile]; exact h.file_open
  dir_open := by simp only [hst.openDirs, hst.profile]; exact h.dir_open
  handles_apart := by rw [hst.openFiles, hst.openDirs]; exact h.handles_apart
  inode_lt := by simp only [hst.nextInode, hst.profile]; exact h.inode_lt
  file_lt := by rw [hst.openFiles, hst.nextHandle]; exact h.file_lt
  dir_lt := by rw [hst.openDirs, hst.nextHandle]; exact h.dir_lt

theorem Consistent.of_alike (h : s.Consistent) (hst : Alike s t) : t.Consistent where
  toSound := h.toSound.of_alike hst
  orphan_held ino kind hino := hst.held_iff.mpr (h.orphan_held (by rwa [← hst.profile]))

theorem profile_setInode (ino : Nat) (i : Inode) (other : Nat) :
    (s.setInode ino i).profile other =
      if ino = other then some (i.kind, i.linked) else s.profile other := by
  unfold profile setInode
  simp only [Std.TreeMap.getElem?_insert, compare_eq_iff_eq]
  split <;> rfl

theorem alike_setInode {ino : Nat} {old new : Inode} (h : s.inodes[ino]? = some old)
    (hkind : new.kind = old.kind) (hlinked : new.linked = old.linked) :
    Alike s (s.setInode ino new) where
  names := rfl
  profile other := by
    rw [profile_setInode]
    split
    · next heq => rw [← heq, profile_of_inode h, hkind, hlinked]
    · rfl
  openFiles := rfl
  openDirs := rfl
  nextInode := rfl
  nextHandle := rfl

/-- A change in a directory is noted in the directory above and nowhere else. -/
theorem getElem?_inodes_touchParent (s : Store) (now : Timespec) (key : String) (ino : Nat) :
    (s.touchParent now key).inodes[ino]? =
      if s.names[Path.parent key]? = some ino then s.inodes[ino]?.map (·.touch now)
      else s.inodes[ino]? := by
  unfold touchParent
  split
  · next above habove =>
    rw [habove]
    simp only [modifyInode, Std.TreeMap.getElem?_modify, compare_eq_iff_eq, Option.some.injEq]
    split
    · next he => rw [he]
    · rfl
  · next hnone => rw [hnone, if_neg (fun he => by cases he)]

theorem alike_touchParent (s : Store) (now : Timespec) (key : String) :
    Alike s (s.touchParent now key) := by
  have hinodes := getElem?_inodes_touchParent s now key
  unfold touchParent at hinodes ⊢
  split
  · next above habove =>
    rw [habove] at hinodes
    refine ⟨rfl, fun ino => ?_, rfl, rfl, rfl, rfl⟩
    unfold profile
    rw [hinodes]
    split
    · rw [Option.map_map]
      rfl
    · rfl
  · exact Alike.refl s

/-! ## A new store -/

/-- A new store is consistent. -/
theorem consistent_new (now : Timespec) (uid gid : Nat) : (Store.new now uid gid).Consistent := by
  have hnames : ∀ key ino, (Store.new now uid gid).names[key]? = some ino ↔
      key = Path.root ∧ ino = rootInode := fun key ino => by
    simp only [Store.new, Std.TreeMap.getElem?_insert, compare_eq_iff_eq]
    split
    · next h => simp [← h, eq_comm]
    · next h => exact iff_of_false (by simp) fun h' => h h'.1.symm
  have hprofile : ∀ ino p, (Store.new now uid gid).profile ino = some p ↔
      ino = rootInode ∧ p = (.directory, true) := fun ino p => by
    simp only [profile, Store.new, Std.TreeMap.getElem?_insert, compare_eq_iff_eq]
    split
    · next h => simp [← h, eq_comm, Inode.new, Inode.kind, Node.kind]
    · next h => exact iff_of_false (by simp) fun h' => h h'.1.symm
  have hfiles : ∀ id : Nat, (Store.new now uid gid).openFiles[id]? = none := fun id => by
    simp [Store.new]
  have hdirs : ∀ id : Nat, (Store.new now uid gid).openDirs[id]? = none := fun id => by
    simp [Store.new]
  refine {
    root_named := (hnames _ _).mpr ⟨rfl, rfl⟩
    root_directory := (hprofile _ _).mpr ⟨rfl, rfl⟩
    all_normal := ?_, name_short := ?_, parent_named := ?_, name_unique := ?_, named_linked := ?_
    linked_named := ?_, orphan_held := ?_, inode_lt := ?_
    file_open := fun id ino h => ?_, dir_open := fun id dir h => ?_
    handles_apart := fun id ino h => ?_, file_lt := fun id ino h => ?_
    dir_lt := fun id dir h => ?_ }
  all_goals try simp only [hfiles, hdirs, reduceCtorEq] at h
  · intro key ino h
    rw [((hnames _ _).mp h).1]
    exact Path.isNormal_root
  · intro key ino h
    rw [((hnames _ _).mp h).1]
    decide
  · intro key ino h hne
    exact absurd ((hnames _ _).mp h).1 hne
  · intro key other ino h h'
    rw [((hnames _ _).mp h).1, ((hnames _ _).mp h').1]
  · intro key ino h
    exact ⟨.directory, (hprofile _ _).mpr ⟨((hnames _ _).mp h).2, rfl⟩⟩
  · intro ino kind h
    exact ⟨Path.root, (hnames _ _).mpr ⟨rfl, ((hprofile _ _).mp h).1⟩⟩
  · intro ino p h
    rw [((hprofile _ _).mp h).1]
    exact Nat.lt_succ_self _
  · intro ino kind h
    cases ((hprofile _ _).mp h).2

/-! ## The tree -/

namespace Sound

variable (h : s.Sound) {above rest : List String} {name : String} {ino : Nat}

include h

/-- Above every name there is a directory. -/
theorem above_named (habove : Path.AreNames above) (hname : Path.IsName name)
    (hino : s.names[Path.ofComponents (above ++ [name])]? = some ino) :
    ∃ up, s.names[Path.ofComponents above]? = some up ∧
      s.profile up = some (.directory, true) := by
  have hroot : Path.ofComponents (above ++ [name]) ≠ Path.root := fun he => by
    have hnil :=
      (Path.ofComponents_eq_root_iff (Path.areNames_concat.mpr ⟨habove, hname⟩)).mp he
    exact List.cons_ne_nil _ _ (List.append_eq_nil_iff.mp hnil).2
  have hup := h.parent_named hino hroot
  rwa [Path.parent_ofComponents_concat habove hname] at hup

/-- Where nothing is one step below, nothing is further down. -/
theorem free_below (habove : Path.AreNames above)
    (hfree : ∀ name, Path.IsName name → s.names[Path.ofComponents (above ++ [name])]? = none)
    (hrest : Path.AreNames rest) (hne : rest ≠ []) :
    s.names[Path.ofComponents (above ++ rest)]? = none := by
  induction rest using List.reverseRecOn with
  | nil => exact absurd rfl hne
  | append_singleton rest last ih =>
    obtain ⟨hrest, hlast⟩ := Path.areNames_concat.mp hrest
    by_cases hnil : rest = []
    · rw [hnil]
      exact hfree last hlast
    · rw [← List.append_assoc, Option.eq_none_iff_forall_ne_some]
      intro ino hino
      obtain ⟨up, hup, -⟩ :=
        h.above_named (Path.areNames_append.mpr ⟨habove, hrest⟩) hlast hino
      rw [ih hrest hnil] at hup
      cases hup

/-- Below a name that leads to no directory, nothing has a name. -/
theorem free_below_of_not_directory (habove : Path.AreNames above)
    (hdir : ∀ up, s.names[Path.ofComponents above]? = some up →
      s.profile up ≠ some (.directory, true))
    (hrest : Path.AreNames rest) (hne : rest ≠ []) :
    s.names[Path.ofComponents (above ++ rest)]? = none := by
  refine h.free_below habove (fun name hname => ?_) hrest hne
  rw [Option.eq_none_iff_forall_ne_some]
  intro ino hino
  obtain ⟨up, hup, hprofile⟩ := h.above_named habove hname hino
  exact hdir up hup hprofile

/-- At and below a path that names nothing, nothing has a name. -/
theorem free_of_free (habove : Path.AreNames above)
    (hfree : s.names[Path.ofComponents above]? = none) :
    ∀ rest, Path.AreNames rest → s.names[Path.ofComponents (above ++ rest)]? = none := by
  intro rest hrest
  by_cases hne : rest = []
  · rw [hne, List.append_nil, hfree]
  · refine h.free_below_of_not_directory habove (fun up hup => ?_) hrest hne
    rw [hfree] at hup
    cases hup

end Sound

end FileScript.Store
