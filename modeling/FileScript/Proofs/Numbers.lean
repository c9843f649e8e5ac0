import FileScript.Proofs.Histories

/-!
# Numbers are given out once

The numbers of inodes and handles that were given out are not given out again, so whatever bears an
old number later is what bore it before (`Store.Descends`): an inode of the same kind, a file handle
on the same inode. Each of the small changes has this (`Change.descends`), and it composes.
-/

namespace FileScript.Store

variable {s t u : Store} {now : Timespec}

/-- In `t`, the numbers that `s` has given out stand for what they stood for in `s`, if for
anything. -/
structure Descends (s t : Store) : Prop where
  nextInode_le : s.nextInode ≤ t.nextInode
  nextHandle_le : s.nextHandle ≤ t.nextHandle
  kind_eq : ∀ ⦃ino : Nat⦄ ⦃kind : EntryKind⦄ ⦃linked : Bool⦄, ino < s.nextInode →
    t.profile ino = some (kind, linked) → ∃ before, s.profile ino = some (kind, before)
  file_eq : ∀ ⦃id ino : Nat⦄, id < s.nextHandle → t.openFiles[id]? = some ino →
    s.openFiles[id]? = some ino

namespace Descends

theorem refl (s : Store) : Descends s s where
  nextInode_le := le_refl _
  nextHandle_le := le_refl _
  kind_eq _ _ linked _ hp := ⟨linked, hp⟩
  file_eq _ _ _ hino := hino

theorem trans (h : Descends s t) (h' : Descends t u) : Descends s u where
  nextInode_le := h.nextInode_le.trans h'.nextInode_le
  nextHandle_le := h.nextHandle_le.trans h'.nextHandle_le
  kind_eq ino kind linked hlt hp := by
    obtain ⟨between, hbetween⟩ := h'.kind_eq (hlt.trans_le h.nextInode_le) hp
    exact h.kind_eq hlt hbetween
  file_eq id ino hlt hino :=
    h.file_eq hlt (h'.file_eq (hlt.trans_le h.nextHandle_le) hino)

theorem of_alike (h : Alike s t) : Descends s t where
  nextInode_le := h.nextInode.ge
  nextHandle_le := h.nextHandle.ge
  kind_eq ino _ linked _ hp := ⟨linked, by rwa [h.profile] at hp⟩
  file_eq _ _ _ hino := by rwa [h.openFiles] at hino

theorem link (s : Store) (now : Timespec) (key : String) (node : Node) (mode : UInt32) :
    Descends s (s.link now key node mode) := by
  have hfresh : Descends s { s with
      names := s.names.insert key s.nextInode
      inodes := s.inodes.insert s.nextInode (Inode.new now node mode s.uid s.gid)
      nextInode := s.nextInode + 1 } := by
    refine ⟨Nat.le_succ _, le_refl _, fun ino kind linked hlt hp => ⟨linked, ?_⟩, fun _ _ _ h => h⟩
    have hprofile := profile_setInode (s := s) s.nextInode
      (Inode.new now node mode s.uid s.gid) ino
    rw [if_neg hlt.ne'] at hprofile
    rw [← hprofile]
    exact hp
  exact hfresh.trans (.of_alike (alike_touchParent _ now key))

theorem releaseIfOrphaned (s : Store) (ino : Nat) : Descends s (s.releaseIfOrphaned ino) := by
  unfold Store.releaseIfOrphaned
  split
  · exact .refl s
  · refine ⟨le_refl _, le_refl _, fun other kind linked _ hp => ⟨linked, ?_⟩, fun _ _ _ h => h⟩
    obtain ⟨i, hi, hkind, hlinked⟩ := profile_eq_some_iff.mp hp
    rw [Std.TreeMap.getElem?_erase] at hi
    split at hi
    · cases hi
    · exact profile_eq_some_iff.mpr ⟨i, hi, hkind, hlinked⟩

theorem unlink {key : String} {ino : Nat} {i : Inode} (hi : s.inodes[ino]? = some i) :
    Descends s ({ s with names := s.names.erase key }.dropLink now key ino i) := by
  have hmarked : Descends s (({ s with names := s.names.erase key } : Store).setInode ino
      { i with linked := false }) := by
    refine ⟨le_refl _, le_refl _, fun other kind linked _ hp => ?_, fun _ _ _ h => h⟩
    rw [profile_setInode] at hp
    split at hp
    · next he =>
      cases hp
      exact ⟨i.linked, he ▸ profile_of_inode hi⟩
    · exact ⟨linked, hp⟩
  exact (hmarked.trans (.of_alike (alike_touchParent _ now key))).trans (.releaseIfOrphaned _ ino)

theorem registerFile (s : Store) (ino : Nat) (flags : OpenFlags) :
    Descends s (s.registerFile ino flags).2 := by
  refine ⟨le_refl _, Nat.le_succ _, fun _ _ linked _ hp => ⟨linked, hp⟩,
    fun id other hlt hino => ?_⟩
  simp only [Store.registerFile, Std.TreeMap.getElem?_insert, compare_eq_iff_eq] at hino
  rwa [if_neg hlt.ne'] at hino

theorem eraseFile (s : Store) (id : Nat) :
    Descends s { s with openFiles := s.openFiles.erase id } := by
  refine ⟨le_refl _, le_refl _, fun _ _ linked _ hp => ⟨linked, hp⟩, fun other ino _ hino => ?_⟩
  rw [Std.TreeMap.getElem?_erase] at hino
  split at hino
  · cases hino
  · exact hino

end Descends

theorem Change.descends (hchange : Change now s t) : Descends s t := by
  cases hchange with
  | revise hold hkind hlinked => exact .of_alike (alike_setInode hold hkind hlinked)
  | touchParent key => exact .of_alike (alike_touchParent s now key)
  | link => exact .link s now _ _ _
  | unlink _ hi => exact .unlink hi
  | openFile flags => exact .registerFile s _ flags
  | openDir =>
    exact ⟨le_refl _, Nat.le_succ _, fun _ _ linked _ hp => ⟨linked, hp⟩, fun _ _ _ h => h⟩
  | closeFile => exact (Descends.eraseFile s _).trans (.releaseIfOrphaned _ _)
  | @closeDir id dir hdir =>
    have herased : Descends s { s with openDirs := s.openDirs.erase id } :=
      ⟨le_refl _, le_refl _, fun _ _ linked _ hp => ⟨linked, hp⟩, fun _ _ _ h => h⟩
    exact herased.trans (.releaseIfOrphaned _ _)
  | move => exact ⟨le_refl _, le_refl _, fun _ _ linked _ hp => ⟨linked, hp⟩, fun _ _ _ h => h⟩

theorem Changes.descends (hchanges : Changes now s t) : Descends s t := by
  induction hchanges with
  | refl => exact .refl s
  | tail _ hchange ih => exact ih.trans hchange.descends

/-- **What an old number stands for after a request is what it stood for before.** -/
theorem Consistent.request_descends (h : s.Consistent) (now : Timespec) (op : Operation) :
    Descends s (s.request now op).2 :=
  (request_changes h now op).descends

/-- What an old number stands for after a history is what it stood for before. -/
theorem Consistent.after_descends (h : s.Consistent) (history : List (Timespec × Operation)) :
    Descends s (s.after history) := by
  induction history generalizing s with
  | nil => exact .refl s
  | cons step history ih =>
    exact (h.request_descends step.1 step.2).trans (ih (h.request step.1 step.2))

/-- An inode keeps its kind as long as it exists. -/
theorem Descends.kind_of_inode (h : Descends s t) (hs : s.Sound) {ino : Nat} {i j : Inode}
    (hi : s.inodes[ino]? = some i) (hj : t.inodes[ino]? = some j) : j.kind = i.kind := by
  obtain ⟨before, hp⟩ := h.kind_eq (hs.inode_lt (profile_of_inode hi)) (profile_of_inode hj)
  exact (Prod.mk.inj (Option.some.inj (hp.symm.trans (profile_of_inode hi)))).1

end FileScript.Store
