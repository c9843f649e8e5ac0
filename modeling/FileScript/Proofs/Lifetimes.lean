import FileScript.Proofs.Histories

/-!
# How long inodes live

An inode is kept exactly as long as a name or an open handle leads to it (`Store.KeepsInUse`). It is
dropped by the request that takes away the last of these, whichever that is.
-/

namespace FileScript.Store

variable {s : Store}

/-- A name leads to the inode. -/
def Named (s : Store) (ino : Nat) : Prop := ∃ key : String, s.names[key]? = some ino

/-- The inodes are those to which names and open handles lead. -/
structure KeepsInUse (s : Store) : Prop where
  kept_iff : ∀ ino : Nat, (∃ i, s.inodes[ino]? = some i) ↔ s.Named ino ∨ s.Held ino
  linked_iff : ∀ ⦃ino : Nat⦄ ⦃i : Inode⦄, s.inodes[ino]? = some i →
    (i.linked = true ↔ s.Named ino)
  open_file : ∀ ⦃id ino : Nat⦄, s.openFiles[id]? = some ino →
    ∃ i, s.inodes[ino]? = some i ∧ i.kind = .file
  open_dir : ∀ ⦃id : Nat⦄ ⦃dir : OpenDir⦄, s.openDirs[id]? = some dir →
    ∃ i, s.inodes[dir.inode]? = some i ∧ i.kind = .directory
  apart : ∀ id : Nat, s.openFiles[id]? = none ∨ s.openDirs[id]? = none

namespace Sound

variable (h : s.Sound) {ino : Nat}

include h

theorem inode_of_held (hheld : s.Held ino) : ∃ i, s.inodes[ino]? = some i := by
  rcases hheld with ⟨id, hid⟩ | ⟨id, dir, hid, rfl⟩
  · obtain ⟨linked, hp⟩ := h.file_open hid
    exact (profile_eq_some_iff.mp hp).imp fun _ hi => hi.1
  · obtain ⟨linked, hp⟩ := h.dir_open hid
    exact (profile_eq_some_iff.mp hp).imp fun _ hi => hi.1

/-- The mark of an inode tells whether a name leads to it. -/
theorem linked_iff_named {i : Inode} (hi : s.inodes[ino]? = some i) :
    i.linked = true ↔ s.Named ino := by
  have hp := profile_of_inode hi
  constructor
  · intro hlinked
    rw [hlinked] at hp
    exact h.linked_named hp
  · rintro ⟨key, hino⟩
    obtain ⟨kind, hp'⟩ := h.named_linked hino
    rw [hp] at hp'
    exact (Prod.mk.inj (Option.some.inj hp')).2

end Sound

/-- An inode is there as long as something leads to it, and no longer. -/
theorem Consistent.kept_iff (h : s.Consistent) (ino : Nat) :
    (∃ i, s.inodes[ino]? = some i) ↔ s.Named ino ∨ s.Held ino := by
  constructor
  · rintro ⟨i, hi⟩
    by_cases hlinked : i.linked = true
    · exact Or.inl ((h.linked_iff_named hi).mp hlinked)
    · have hp := profile_of_inode hi
      rw [Bool.eq_false_iff.mpr hlinked] at hp
      exact Or.inr (h.orphan_held hp)
  · rintro (⟨key, hino⟩ | hheld)
    · exact (h.inode_of_named hino).imp fun _ hi => hi.1
    · exact h.inode_of_held hheld

theorem Consistent.keepsInUse (h : s.Consistent) : s.KeepsInUse where
  kept_iff := h.kept_iff
  linked_iff _ _ hi := h.linked_iff_named hi
  open_file id ino hid := by
    obtain ⟨linked, hp⟩ := h.file_open hid
    exact (profile_eq_some_iff.mp hp).imp fun _ hi => ⟨hi.1, hi.2.1⟩
  open_dir id dir hid := by
    obtain ⟨linked, hp⟩ := h.dir_open hid
    exact (profile_eq_some_iff.mp hp).imp fun _ hi => ⟨hi.1, hi.2.1⟩
  apart id := by
    cases hid : s.openFiles[id]? with
    | none => exact Or.inl rfl
    | some ino => exact Or.inr (h.handles_apart hid)

/-- **After every history exactly the inodes in use are kept.** -/
theorem keepsInUse_after_new (now : Timespec) (uid gid : Nat)
    (history : List (Timespec × Operation)) :
    ((Store.new now uid gid).after history).KeepsInUse :=
  (Reachable.consistent ⟨now, uid, gid, history, rfl⟩).keepsInUse

end FileScript.Store
