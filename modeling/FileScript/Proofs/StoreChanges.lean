import FileScript.Proofs.Consistency

/-!
# The changes of which requests are composed

Each request changes a store by a few small changes (`Store.Change`), and each of them keeps it
consistent (`Change.consistent`). A new name stands below a directory; a name that goes has nothing
below it; and a name that moves takes all that is below it to a place that is free. An inode that
loses a name or a handle is dropped if that was the last thing that held it
(`Sound.releaseIfOrphaned`).
-/

namespace FileScript.Store

variable {s t : Store} {now : Timespec}

theorem checkParent_eq_ok_iff {key : String} :
    s.checkParent key = .ok () ↔ (Path.baseName key).utf8ByteSize ≤ maxNameSize ∧
      s.NamesDirectory (Path.parent key) := by
  unfold checkParent NamesDirectory
  by_cases hlong : (Path.baseName key).utf8ByteSize > maxNameSize
  · rw [if_pos hlong]
    exact iff_of_false (by simp) fun h => absurd h.1 (not_le.mpr hlong)
  · rw [if_neg hlong]
    cases habove : s.names[Path.parent key]? with
    | none => simp
    | some above =>
      cases hi : s.inodes[above]? with
      | none => simp [hi]
      | some i => by_cases hkind : i.kind = .directory <;> simp [hi, hkind, not_lt.mp hlong]

/-- The small changes of which requests are composed, each with what has been checked before it. -/
inductive Change (now : Timespec) (s : Store) : Store → Prop
  | revise {ino : Nat} {old new : Inode} (hold : s.inodes[ino]? = some old)
      (hkind : new.kind = old.kind) (hlinked : new.linked = old.linked) :
      Change now s (s.setInode ino new)
  | touchParent (key : String) : Change now s (s.touchParent now key)
  | link {key : String} {node : Node} {mode : UInt32} (hnormal : Path.isNormal key = true)
      (hfree : s.names[key]? = none) (hparent : s.checkParent key = .ok ()) :
      Change now s (s.link now key node mode)
  | unlink {key : String} {ino : Nat} {i : Inode} (hino : s.names[key]? = some ino)
      (hi : s.inodes[ino]? = some i) (hroot : key ≠ Path.root)
      (hempty : ∀ name, Path.IsName name → s.names[Path.stem key ++ name]? = none) :
      Change now s ({ s with names := s.names.erase key }.dropLink now key ino i)
  | openFile {ino : Nat} {i : Inode} (flags : OpenFlags) (hi : s.inodes[ino]? = some i)
      (hkind : i.kind = .file) : Change now s (s.registerFile ino flags).2
  | openDir {key : String} {ino : Nat} {i : Inode} (hino : s.names[key]? = some ino)
      (hi : s.inodes[ino]? = some i) (hkind : i.kind = .directory) :
      Change now s (s.registerDir ino key).2
  | closeFile {id ino : Nat} (hino : s.openFiles[id]? = some ino) :
      Change now s ({ s with openFiles := s.openFiles.erase id }.releaseIfOrphaned ino)
  | closeDir {id : Nat} {dir : OpenDir} (hdir : s.openDirs[id]? = some dir) :
      Change now s ({ s with openDirs := s.openDirs.erase id }.releaseIfOrphaned dir.inode)
  | move {source target : String} {ino : Nat} (hino : s.names[source]? = some ino)
      (hsource : source ≠ Path.root) (htarget : target ≠ Path.root)
      (hnormal : Path.isNormal target = true) (hfree : s.names[target]? = none)
      (hapart : Path.isWithin source target = false) (hparent : s.checkParent target = .ok ()) :
      Change now s (s.moveTree source target)

/-! ## A new name -/

theorem Sound.parent_of_checkParent (h : s.Sound) {key : String}
    (hparent : s.checkParent key = .ok ()) :
    ∃ above, s.names[Path.parent key]? = some above ∧
      s.profile above = some (.directory, true) := by
  obtain ⟨-, above, i, habove, hi, hkind⟩ := checkParent_eq_ok_iff.mp hparent
  obtain ⟨kind, hprofile⟩ := h.named_linked habove
  have hkind' := profile_of_inode hi
  rw [hkind, hprofile] at hkind'
  exact ⟨above, habove, by rw [hprofile, (Prod.mk.inj (Option.some.inj hkind')).1]⟩

theorem Consistent.link (h : s.Consistent) {key : String} (node : Node) (mode : UInt32)
    (hnormal : Path.isNormal key = true) (hfree : s.names[key]? = none)
    (hparent : s.checkParent key = .ok ()) : (s.link now key node mode).Consistent := by
  refine Consistent.of_alike ?_ (alike_touchParent _ now key)
  generalize hmid : ({ s with
    names := s.names.insert key s.nextInode
    inodes := s.inodes.insert s.nextInode (Inode.new now node mode s.uid s.gid)
    nextInode := s.nextInode + 1 } : Store) = mid
  have hnames : ∀ other, mid.names[other]? =
      if key = other then some s.nextInode else s.names[other]? := fun other => by
    rw [← hmid]
    simp only [Std.TreeMap.getElem?_insert, compare_eq_iff_eq]
  have hprofile : ∀ ino, mid.profile ino =
      if s.nextInode = ino then some (node.kind, true) else s.profile ino := fun ino => by
    rw [← hmid]
    exact profile_setInode (s := s) s.nextInode (Inode.new now node mode s.uid s.gid) ino
  have hfresh : ∀ ⦃ino p⦄, s.profile ino = some p → mid.profile ino = some p := fun ino p hp => by
    rw [hprofile, if_neg (h.inode_lt hp).ne', hp]
  have hkeep : ∀ ⦃other ino⦄, s.names[other]? = some ino → mid.names[other]? = some ino :=
    fun other ino hino => by
      have hother : key ≠ other := fun he => by
        rw [← he, hfree] at hino
        cases hino
      rw [hnames, if_neg hother, hino]
  have hcases : ∀ ⦃other ino⦄, mid.names[other]? = some ino →
      other = key ∧ ino = s.nextInode ∨ other ≠ key ∧ s.names[other]? = some ino :=
    fun other ino hino => by
      rw [hnames] at hino
      split at hino
      · next he => exact Or.inl ⟨he.symm, (Option.some.inj hino).symm⟩
      · next he => exact Or.inr ⟨fun he' => he he'.symm, hino⟩
  have hnew : ∀ ⦃other : String⦄ ⦃ino : Nat⦄, s.names[other]? = some ino → ino ≠ s.nextInode := by
    intro other ino hino
    obtain ⟨kind, hp⟩ := h.named_linked hino
    exact (h.inode_lt hp).ne
  obtain ⟨above, habove, hdir⟩ := h.parent_of_checkParent hparent
  subst hmid
  exact {
    root_named := hkeep h.root_named
    root_directory := hfresh h.root_directory
    all_normal other ino hino := by
      rcases hcases hino with ⟨rfl, -⟩ | ⟨-, hino⟩
      · exact hnormal
      · exact h.all_normal hino
    name_short other ino hino := by
      rcases hcases hino with ⟨rfl, -⟩ | ⟨-, hino⟩
      · exact (checkParent_eq_ok_iff.mp hparent).1
      · exact h.name_short hino
    parent_named other ino hino hroot := by
      rcases hcases hino with ⟨rfl, -⟩ | ⟨-, hino⟩
      · exact ⟨above, hkeep habove, hfresh hdir⟩
      · obtain ⟨up, hup, hdir⟩ := h.parent_named hino hroot
        exact ⟨up, hkeep hup, hfresh hdir⟩
    name_unique other third ino hino hino' := by
      rcases hcases hino with ⟨he, hn⟩ | ⟨-, hold⟩ <;>
        rcases hcases hino' with ⟨he', hn'⟩ | ⟨-, hold'⟩
      · rw [he, he']
      · exact absurd hn (hnew hold')
      · exact absurd hn' (hnew hold)
      · exact h.name_unique hold hold'
    named_linked other ino hino := by
      rcases hcases hino with ⟨-, rfl⟩ | ⟨-, hino⟩
      · exact ⟨node.kind, by rw [hprofile, if_pos rfl]⟩
      · obtain ⟨kind, hp⟩ := h.named_linked hino
        exact ⟨kind, hfresh hp⟩
    linked_named ino kind hp := by
      rw [hprofile] at hp
      split at hp
      · next he => exact ⟨key, by rw [hnames, if_pos rfl, he]⟩
      · obtain ⟨other, hino⟩ := h.linked_named hp
        exact ⟨other, hkeep hino⟩
    orphan_held ino kind hp := by
      rw [hprofile] at hp
      split at hp
      · cases hp
      · exact h.orphan_held hp
    file_open id ino hid := (h.file_open hid).imp fun _ hp => hfresh hp
    dir_open id dir hid := (h.dir_open hid).imp fun _ hp => hfresh hp
    handles_apart := h.handles_apart
    inode_lt ino p hp := by
      rw [hprofile] at hp
      split at hp
      · next he => exact he ▸ Nat.lt_succ_self _
      · exact Nat.lt_succ_of_lt (h.inode_lt hp)
    file_lt := h.file_lt
    dir_lt := h.dir_lt }

/-- The inodes with a new name: the new one, and the others as if only the directory had changed. -/
theorem Sound.getElem?_inodes_link (h : s.Sound) {key : String} (node : Node) (mode : UInt32)
    (hfree : s.names[key]? = none) (hparent : s.checkParent key = .ok ()) (ino : Nat) :
    (s.link now key node mode).inodes[ino]? =
      if s.nextInode = ino then some (Inode.new now node mode s.uid s.gid)
      else (s.touchParent now key).inodes[ino]? := by
  obtain ⟨above, habove, hdir⟩ := h.parent_of_checkParent hparent
  have hne : key ≠ Path.parent key := fun he => by
    rw [← he, hfree] at habove
    cases habove
  unfold link
  simp only [getElem?_inodes_touchParent, Std.TreeMap.getElem?_insert, compare_eq_iff_eq,
    if_neg hne, habove, Option.some.injEq]
  by_cases he : s.nextInode = ino
  · rw [if_pos he, if_pos he, if_neg (fun ha => (h.inode_lt hdir).ne (ha.trans he.symm))]
  · rw [if_neg he, if_neg he]

theorem Sound.inode_link (h : s.Sound) (now : Timespec) {key : String} (node : Node) (mode : UInt32)
    (hfree : s.names[key]? = none) (hparent : s.checkParent key = .ok ()) :
    (s.link now key node mode).inodes[s.nextInode]? =
      some (Inode.new now node mode s.uid s.gid) := by
  rw [h.getElem?_inodes_link node mode hfree hparent, if_pos rfl]

/-! ## Inodes that nothing holds -/

theorem any_linked_iff {ino : Nat} :
    s.inodes[ino]?.any (·.linked) = true ↔ ∃ kind, s.profile ino = some (kind, true) := by
  unfold profile
  cases s.inodes[ino]? with
  | none => simp
  | some i => simp

/-- An inode stays if a name or a handle leads to it. -/
theorem releaseIfOrphaned_eq_self {ino : Nat}
    (h : (∃ kind, s.profile ino = some (kind, true)) ∨ s.Held ino) :
    s.releaseIfOrphaned ino = s := by
  unfold releaseIfOrphaned
  rw [if_pos (by rw [Bool.or_eq_true, any_linked_iff, isOpen_iff]; exact h)]

theorem releaseIfOrphaned_eq_erase {ino : Nat}
    (h : ¬ ((∃ kind, s.profile ino = some (kind, true)) ∨ s.Held ino)) :
    s.releaseIfOrphaned ino = { s with inodes := s.inodes.erase ino } := by
  unfold releaseIfOrphaned
  rw [if_neg (by rw [Bool.or_eq_true, any_linked_iff, isOpen_iff]; exact h)]

theorem profile_erase (ino other : Nat) :
    ({ s with inodes := s.inodes.erase ino } : Store).profile other =
      if ino = other then none else s.profile other := by
  unfold profile
  rw [Std.TreeMap.getElem?_erase]
  simp only [compare_eq_iff_eq]
  split <;> rfl

/-- Dropping the one inode that may have lost what held it makes a sound store consistent. -/
theorem Sound.releaseIfOrphaned (h : s.Sound) {ino : Nat}
    (hheld : ∀ ⦃other kind⦄, other ≠ ino → s.profile other = some (kind, false) → s.Held other) :
    (s.releaseIfOrphaned ino).Consistent := by
  by_cases hkeep : (∃ kind, s.profile ino = some (kind, true)) ∨ s.Held ino
  · rw [releaseIfOrphaned_eq_self hkeep]
    refine { h with orphan_held := fun other kind hp => ?_ }
    by_cases he : other = ino
    · subst he
      refine hkeep.resolve_left ?_
      rintro ⟨kind', hp'⟩
      rw [hp] at hp'
      cases hp'
    · exact hheld he hp
  · rw [releaseIfOrphaned_eq_erase hkeep]
    rw [not_or] at hkeep
    have hlinked : ∀ ⦃other kind⦄, s.profile other = some (kind, true) →
        ({ s with inodes := s.inodes.erase ino } : Store).profile other = some (kind, true) :=
      fun other kind hp => by
        rw [profile_erase, if_neg (fun he : ino = other => hkeep.1 ⟨kind, he ▸ hp⟩), hp]
    have hopen : ∀ ⦃other p⦄, s.Held other → s.profile other = some p →
        ({ s with inodes := s.inodes.erase ino } : Store).profile other = some p :=
      fun other p ho hp => by
        rw [profile_erase, if_neg (fun he : ino = other => hkeep.2 (he ▸ ho)), hp]
    have hcases : ∀ ⦃other p⦄,
        ({ s with inodes := s.inodes.erase ino } : Store).profile other = some p →
          other ≠ ino ∧ s.profile other = some p := fun other p hp => by
      rw [profile_erase] at hp
      split at hp
      · cases hp
      · next he => exact ⟨fun he' => he he'.symm, hp⟩
    exact {
      root_named := h.root_named
      root_directory := hlinked h.root_directory
      all_normal := h.all_normal
      name_short := h.name_short
      parent_named key i hi hroot := by
        obtain ⟨up, hup, hdir⟩ := h.parent_named hi hroot
        exact ⟨up, hup, hlinked hdir⟩
      name_unique := h.name_unique
      named_linked key i hi := (h.named_linked hi).imp fun _ hp => hlinked hp
      linked_named i kind hp := h.linked_named (hcases hp).2
      orphan_held i kind hp := hheld (hcases hp).1 (hcases hp).2
      file_open id i hid := (h.file_open hid).imp fun _ hp => hopen (Or.inl ⟨id, hid⟩) hp
      dir_open id dir hid := (h.dir_open hid).imp fun _ hp => hopen (Or.inr ⟨id, dir, hid, rfl⟩) hp
      handles_apart := h.handles_apart
      inode_lt i p hp := h.inode_lt (hcases hp).2
      file_lt := h.file_lt
      dir_lt := h.dir_lt }

/-! ## A name that goes -/

/-- A path whose parent is `key` is a child of `key`. -/
theorem Sound.parent_ne (h : s.Sound) {key other : String} {ino : Nat}
    (hempty : ∀ name, Path.IsName name → s.names[Path.stem key ++ name]? = none)
    (hino : s.names[other]? = some ino) (hroot : other ≠ Path.root) : Path.parent other ≠ key := by
  intro he
  obtain ⟨names, name, hnames, hname, rfl⟩ := Path.exists_names_concat (h.all_normal hino) hroot
  rw [Path.parent_ofComponents_concat hnames hname] at he
  rw [Path.ofComponents_concat hnames, he, hempty name hname] at hino
  cases hino

theorem Consistent.unlink (h : s.Consistent) {key : String} {ino : Nat} {i : Inode}
    (hino : s.names[key]? = some ino) (hi : s.inodes[ino]? = some i) (hroot : key ≠ Path.root)
    (hempty : ∀ name, Path.IsName name → s.names[Path.stem key ++ name]? = none) :
    ({ s with names := s.names.erase key }.dropLink now key ino i).Consistent := by
  unfold dropLink
  generalize hmid : ({ s with names := s.names.erase key } : Store).setInode ino
    { i with linked := false } = mid
  have hprofile : ∀ other, mid.profile other =
      if ino = other then some (i.kind, false) else s.profile other := fun other => by
    rw [← hmid]
    exact profile_setInode (s := { s with names := s.names.erase key }) ino _ other
  have hcases : ∀ ⦃other n⦄, mid.names[other]? = some n → other ≠ key ∧ s.names[other]? = some n :=
    fun other n hn => by
      rw [← hmid, show (setInode _ _ _).names = s.names.erase key from rfl,
        Std.TreeMap.getElem?_erase] at hn
      split at hn
      · cases hn
      · next he => exact ⟨fun he' => he (compare_eq_iff_eq.mpr he'.symm), hn⟩
  have hkeep : ∀ ⦃other n⦄, other ≠ key → s.names[other]? = some n → mid.names[other]? = some n :=
    fun other n hne hn => by
      rw [← hmid, show (setInode _ _ _).names = s.names.erase key from rfl,
        Std.TreeMap.getElem?_erase, if_neg (fun he => hne (compare_eq_iff_eq.mp he).symm), hn]
  -- the inode has no name besides the one that goes
  have hne : ∀ ⦃other n⦄, other ≠ key → s.names[other]? = some n → ino ≠ n :=
    fun other n hne hn he => hne (h.name_unique hn (he ▸ hino))
  have hsame : ∀ ⦃n p⦄, ino ≠ n → s.profile n = some p → mid.profile n = some p :=
    fun n p hn hp => by rw [hprofile, if_neg hn, hp]
  have hkind : ∀ ⦃n kind⦄, (∃ linked, s.profile n = some (kind, linked)) →
      ∃ linked, mid.profile n = some (kind, linked) := by
    rintro n kind ⟨linked, hp⟩
    rw [hprofile]
    split
    · next he =>
      rw [← he, profile_of_inode hi] at hp
      exact ⟨false, by rw [(Prod.mk.inj (Option.some.inj hp)).1]⟩
    · exact ⟨linked, hp⟩
  have hsound : mid.Sound := by
    subst hmid
    exact {
      root_named := hkeep hroot.symm h.root_named
      root_directory := hsame (hne hroot.symm h.root_named) h.root_directory
      all_normal other n hn := h.all_normal (hcases hn).2
      name_short other n hn := h.name_short (hcases hn).2
      parent_named other n hn hother := by
        obtain ⟨-, hn⟩ := hcases hn
        obtain ⟨up, hup, hdir⟩ := h.parent_named hn hother
        have hparent := h.parent_ne hempty hn hother
        exact ⟨up, hkeep hparent hup, hsame (hne hparent hup) hdir⟩
      name_unique other third n hn hn' := h.name_unique (hcases hn).2 (hcases hn').2
      named_linked other n hn := by
        obtain ⟨hother, hn⟩ := hcases hn
        exact (h.named_linked hn).imp fun _ hp => hsame (hne hother hn) hp
      linked_named n kind hp := by
        rw [hprofile] at hp
        split at hp
        · cases hp
        · next he =>
          obtain ⟨other, hn⟩ := h.linked_named hp
          exact ⟨other, hkeep (fun hk => he (by rw [hk, hino] at hn; exact Option.some.inj hn)) hn⟩
      file_open id n hid := hkind (h.file_open hid)
      dir_open id dir hid := hkind (h.dir_open hid)
      handles_apart := h.handles_apart
      inode_lt n p hp := by
        rw [hprofile] at hp
        split at hp
        · next he => exact he ▸ h.inode_lt (profile_of_inode hi)
        · exact h.inode_lt hp
      file_lt := h.file_lt
      dir_lt := h.dir_lt }
  have halike := alike_touchParent mid now key
  refine (hsound.of_alike halike).releaseIfOrphaned fun other kind hother hp => ?_
  rw [halike.profile, hprofile, if_neg hother.symm] at hp
  rw [halike.held_iff, ← hmid]
  exact h.orphan_held hp

/-! ## Handles that come and go -/

theorem getElem?_openFiles_registerFile (ino : Nat) (flags : OpenFlags) (id : Nat) :
    (s.registerFile ino flags).2.openFiles[id]? =
      if s.nextHandle = id then some ino else s.openFiles[id]? := by
  unfold registerFile
  simp only [Std.TreeMap.getElem?_insert, compare_eq_iff_eq]

theorem getElem?_openDirs_registerDir (ino : Nat) (key : String) (id : Nat) :
    (s.registerDir ino key).2.openDirs[id]? =
      if s.nextHandle = id then some { inode := ino, path := key } else s.openDirs[id]? := by
  unfold registerDir
  simp only [Std.TreeMap.getElem?_insert, compare_eq_iff_eq]

theorem Consistent.registerFile (h : s.Consistent) {ino : Nat} {i : Inode} (flags : OpenFlags)
    (hi : s.inodes[ino]? = some i) (hkind : i.kind = .file) :
    (s.registerFile ino flags).2.Consistent := by
  have hcases : ∀ ⦃id n : Nat⦄, (s.registerFile ino flags).2.openFiles[id]? = some n →
      id = s.nextHandle ∧ n = ino ∨ s.openFiles[id]? = some n := fun id n hid => by
    rw [getElem?_openFiles_registerFile] at hid
    split at hid
    · next he => exact Or.inl ⟨he.symm, (Option.some.inj hid).symm⟩
    · exact Or.inr hid
  exact { h with
    orphan_held n kind hp := by
      rcases h.orphan_held hp with ⟨id, hid⟩ | hdir
      · refine Or.inl ⟨id, ?_⟩
        rw [getElem?_openFiles_registerFile, if_neg (h.file_lt hid).ne', hid]
      · exact Or.inr hdir
    file_open id n hid := by
      rcases hcases hid with ⟨-, rfl⟩ | hid
      · exact ⟨i.linked, hkind ▸ profile_of_inode hi⟩
      · exact h.file_open hid
    handles_apart id n hid := by
      rcases hcases hid with ⟨rfl, -⟩ | hid
      · exact Option.eq_none_iff_forall_ne_some.mpr fun dir hdir => lt_irrefl _ (h.dir_lt hdir)
      · exact h.handles_apart hid
    file_lt id n hid := by
      rcases hcases hid with ⟨rfl, -⟩ | hid
      · exact Nat.lt_succ_self _
      · exact Nat.lt_succ_of_lt (h.file_lt hid)
    dir_lt id dir hid := Nat.lt_succ_of_lt (h.dir_lt hid) }

theorem Consistent.registerDir (h : s.Consistent) {ino : Nat} {i : Inode} (key : String)
    (hi : s.inodes[ino]? = some i) (hkind : i.kind = .directory) :
    (s.registerDir ino key).2.Consistent := by
  have hcases : ∀ ⦃id : Nat⦄ ⦃dir : OpenDir⦄, (s.registerDir ino key).2.openDirs[id]? = some dir →
      id = s.nextHandle ∧ dir.inode = ino ∨ s.openDirs[id]? = some dir := fun id dir hid => by
    rw [getElem?_openDirs_registerDir] at hid
    split at hid
    · next he => exact Or.inl ⟨he.symm, by rw [← Option.some.inj hid]⟩
    · exact Or.inr hid
  exact { h with
    orphan_held n kind hp := by
      rcases h.orphan_held hp with hfile | ⟨id, dir, hid, hn⟩
      · exact Or.inl hfile
      · refine Or.inr ⟨id, dir, ?_, hn⟩
        rw [getElem?_openDirs_registerDir, if_neg (h.dir_lt hid).ne', hid]
    dir_open id dir hid := by
      rcases hcases hid with ⟨-, he⟩ | hid
      · exact ⟨i.linked, by rw [he, ← hkind]; exact profile_of_inode hi⟩
      · exact h.dir_open hid
    handles_apart id n hid := by
      rw [getElem?_openDirs_registerDir, if_neg (h.file_lt hid).ne', h.handles_apart hid]
    file_lt id n hid := Nat.lt_succ_of_lt (h.file_lt hid)
    dir_lt id dir hid := by
      rcases hcases hid with ⟨rfl, -⟩ | hid
      · exact Nat.lt_succ_self _
      · exact Nat.lt_succ_of_lt (h.dir_lt hid) }

theorem Consistent.closeFile (h : s.Consistent) {id ino : Nat}
    (hino : s.openFiles[id]? = some ino) :
    ({ s with openFiles := s.openFiles.erase id }.releaseIfOrphaned ino).Consistent := by
  have hfiles : ∀ other : Nat, (s.openFiles.erase id)[other]? =
      if id = other then none else s.openFiles[other]? := fun other => by
    simp only [Std.TreeMap.getElem?_erase, compare_eq_iff_eq]
  have hcases : ∀ ⦃other n : Nat⦄, (s.openFiles.erase id)[other]? = some n →
      s.openFiles[other]? = some n := fun other n hn => by
    rw [hfiles] at hn
    split at hn
    · cases hn
    · exact hn
  have hsound : ({ s with openFiles := s.openFiles.erase id } : Store).Sound := { h.toSound with
    file_open := fun other n hn => h.file_open (hcases hn)
    handles_apart := fun other n hn => h.handles_apart (hcases hn)
    file_lt := fun other n hn => h.file_lt (hcases hn) }
  refine hsound.releaseIfOrphaned fun n kind hne hp => ?_
  rcases h.orphan_held hp with ⟨other, hn⟩ | hdir
  · have hother : id ≠ other := fun he => hne (by
      rw [← he, hino] at hn
      exact (Option.some.inj hn).symm)
    exact Or.inl ⟨other, by rw [hfiles, if_neg hother, hn]⟩
  · exact Or.inr hdir

theorem Consistent.closeDir (h : s.Consistent) {id : Nat} {dir : OpenDir}
    (hdir : s.openDirs[id]? = some dir) :
    ({ s with openDirs := s.openDirs.erase id }.releaseIfOrphaned dir.inode).Consistent := by
  have hdirs : ∀ other : Nat, (s.openDirs.erase id)[other]? =
      if id = other then none else s.openDirs[other]? := fun other => by
    simp only [Std.TreeMap.getElem?_erase, compare_eq_iff_eq]
  have hcases : ∀ ⦃other : Nat⦄ ⦃d : OpenDir⦄, (s.openDirs.erase id)[other]? = some d →
      s.openDirs[other]? = some d := fun other d hd => by
    rw [hdirs] at hd
    split at hd
    · cases hd
    · exact hd
  have hsound : ({ s with openDirs := s.openDirs.erase id } : Store).Sound := { h.toSound with
    dir_open := fun other d hd => h.dir_open (hcases hd)
    handles_apart := fun other n hn => by
      rw [show ({ s with openDirs := s.openDirs.erase id } : Store).openDirs[other]? =
        (s.openDirs.erase id)[other]? from rfl, hdirs, h.handles_apart hn, ite_self]
    dir_lt := fun other d hd => h.dir_lt (hcases hd) }
  refine hsound.releaseIfOrphaned fun n kind hne hp => ?_
  rcases h.orphan_held hp with hfile | ⟨other, d, hd, hn⟩
  · exact Or.inl hfile
  · refine Or.inr ⟨other, d, ?_, hn⟩
    rw [show ({ s with openDirs := s.openDirs.erase id } : Store).openDirs[other]? =
      (s.openDirs.erase id)[other]? from rfl, hdirs, if_neg, hd]
    intro he
    rw [← he, hdir] at hd
    exact hne (hn ▸ Option.some.inj hd ▸ rfl)

/-! ## A tree that moves -/

theorem getElem?_openDirs_moveTree (source target : String) (id : Nat) :
    (s.moveTree source target).openDirs[id]? = s.openDirs[id]?.map fun dir =>
      if Path.isWithin source dir.path then
        { dir with path := Path.rebase source target dir.path }
      else dir := by
  unfold moveTree
  rw [Std.TreeMap.getElem?_map]

/-- Open directories are listed elsewhere after a move, but remain the same directories. -/
theorem openDirs_moveTree_cases {source target : String} {id : Nat} {dir : OpenDir}
    (hdir : (s.moveTree source target).openDirs[id]? = some dir) :
    ∃ old, s.openDirs[id]? = some old ∧ dir.inode = old.inode := by
  rw [getElem?_openDirs_moveTree, Option.map_eq_some_iff] at hdir
  obtain ⟨old, hold, rfl⟩ := hdir
  refine ⟨old, hold, ?_⟩
  split <;> rfl

theorem held_moveTree_iff {source target : String} {ino : Nat} :
    (s.moveTree source target).Held ino ↔ s.Held ino := by
  refine or_congr_right ⟨?_, ?_⟩
  · rintro ⟨id, dir, hdir, rfl⟩
    obtain ⟨old, hold, he⟩ := openDirs_moveTree_cases hdir
    exact ⟨id, old, hold, he.symm⟩
  · rintro ⟨id, dir, hdir, rfl⟩
    refine ⟨id, _, by rw [getElem?_openDirs_moveTree, hdir, Option.map_some], ?_⟩
    split <;> rfl

section Move

variable {source target : List String} (hmove : s.names.Movable source target)

include hmove

/-- Every inode that had a name before the move has one after it. -/
theorem Sound.exists_name_moveTree (h : s.Sound) {key : String} {ino : Nat}
    (hino : s.names[key]? = some ino) :
    ∃ key' : String, (s.names.move (Path.ofComponents source) (Path.ofComponents target))[key']? =
      some ino := by
  obtain ⟨more, hmore, rfl⟩ := Path.exists_names (h.all_normal hino)
  by_cases hs : source <+: more
  · obtain ⟨rest, rfl⟩ := hs
    refine ⟨Path.ofComponents (target ++ rest), ?_⟩
    rw [hmove.getElem?_move_target (Path.areNames_append.mp hmore).2, hino]
  · have ht : ¬ target <+: more := by
      rintro ⟨rest, rfl⟩
      rw [hmove.free rest (Path.areNames_append.mp hmore).2] at hino
      cases hino
    refine ⟨Path.ofComponents more, ?_⟩
    rw [hmove.getElem?_move_other hmore hs ht, hino]

/-- No inode gets a second name by the move. -/
theorem Sound.name_unique_moveTree (h : s.Sound) {more other : List String}
    (hmore : Path.AreNames more) (hother : Path.AreNames other) {ino : Nat}
    (hino : (s.names.move (Path.ofComponents source) (Path.ofComponents target))[
      Path.ofComponents more]? = some ino)
    (hino' : (s.names.move (Path.ofComponents source) (Path.ofComponents target))[
      Path.ofComponents other]? = some ino) : more = other := by
  rcases hmove.getElem?_move_cases hmore hino with ⟨rest, hrest, rfl, hold⟩ | ⟨hs, -, hold⟩ <;>
    rcases hmove.getElem?_move_cases hother hino' with ⟨rest', hrest', rfl, hold'⟩ | ⟨hs', -, hold'⟩
  · have heq := hmove.source_injective hrest
      (Path.areNames_append.mpr ⟨hmove.source_names, hrest'⟩) (h.name_unique hold hold')
    rw [List.append_cancel_left heq]
  · have heq := hmove.source_injective hrest hother (h.name_unique hold hold')
    exact absurd (heq ▸ List.prefix_append _ _) hs'
  · have heq := hmove.source_injective hrest' hmore (h.name_unique hold' hold)
    exact absurd (heq ▸ List.prefix_append _ _) hs
  · exact Path.ofComponents_injective hmore hother (h.name_unique hold hold')

variable (hparent : s.checkParent (Path.ofComponents target) = .ok ())

include hparent

/-- Every name but the root has its directory above it after the move: the one of the target, one
that moved along, or one that stayed. -/
theorem Sound.parent_named_moveTree (h : s.Sound) {more : List String} (hmore : Path.AreNames more)
    {ino : Nat} (hne : more ≠ [])
    (hino : (s.names.move (Path.ofComponents source) (Path.ofComponents target))[
      Path.ofComponents more]? = some ino) :
    ∃ above : Nat, (s.names.move (Path.ofComponents source) (Path.ofComponents target))[
        Path.parent (Path.ofComponents more)]? = some above ∧
      s.profile above = some (.directory, true) := by
  rcases hmove.getElem?_move_cases hmore hino with ⟨rest, hrest, rfl, hold⟩ | ⟨hs, ht, hold⟩
  · rcases List.eq_nil_or_concat' rest with rfl | ⟨rest, name, rfl⟩
    · obtain ⟨up, hup, hdir⟩ := h.parent_of_checkParent hparent
      rw [List.append_nil]
      obtain ⟨top, name, rfl⟩ := (List.eq_nil_or_concat' target).resolve_left hmove.target_ne
      obtain ⟨htop, hname⟩ := Path.areNames_concat.mp hmove.target_names
      rw [Path.parent_ofComponents_concat htop hname] at hup ⊢
      refine ⟨up, ?_, hdir⟩
      rw [hmove.getElem?_move_other htop
        (fun hp => hmove.apart (hp.trans (List.prefix_append _ _)))
        (fun hp => by simpa using hp.length_le), hup]
    · obtain ⟨hrest, hname⟩ := Path.areNames_concat.mp hrest
      rw [← List.append_assoc] at hold ⊢
      obtain ⟨up, hup, hdir⟩ :=
        h.above_named (Path.areNames_append.mpr ⟨hmove.source_names, hrest⟩) hname hold
      refine ⟨up, ?_, hdir⟩
      rw [Path.parent_ofComponents_concat
        (Path.areNames_append.mpr ⟨hmove.target_names, hrest⟩) hname,
        hmove.getElem?_move_target hrest, hup]
  · obtain ⟨top, name, rfl⟩ := (List.eq_nil_or_concat' more).resolve_left hne
    obtain ⟨htop, hname⟩ := Path.areNames_concat.mp hmore
    obtain ⟨up, hup, hdir⟩ := h.above_named htop hname hold
    refine ⟨up, ?_, hdir⟩
    rw [Path.parent_ofComponents_concat htop hname, hmove.getElem?_move_other htop
      (fun hp => hs (hp.trans (List.prefix_append _ _)))
      (fun hp => ht (hp.trans (List.prefix_append _ _))), hup]

/-- A name that moves keeps its last component, unless it is the one that is replaced. -/
theorem Sound.name_short_moveTree (h : s.Sound) {more : List String} (hmore : Path.AreNames more)
    {ino : Nat} (hino : (s.names.move (Path.ofComponents source) (Path.ofComponents target))[
      Path.ofComponents more]? = some ino) :
    (Path.baseName (Path.ofComponents more)).utf8ByteSize ≤ maxNameSize := by
  rcases hmove.getElem?_move_cases hmore hino with ⟨rest, hrest, rfl, hold⟩ | ⟨-, -, hold⟩
  · rcases List.eq_nil_or_concat' rest with rfl | ⟨rest, name, rfl⟩
    · rw [List.append_nil]
      exact (checkParent_eq_ok_iff.mp hparent).1
    · obtain ⟨hrest, hname⟩ := Path.areNames_concat.mp hrest
      have hold' := Path.areNames_append.mpr ⟨hmove.source_names, hrest⟩
      have hnew := Path.areNames_append.mpr ⟨hmove.target_names, hrest⟩
      have hshort := h.name_short hold
      rw [← List.append_assoc, Path.baseName_ofComponents_concat hold' hname] at hshort
      rwa [← List.append_assoc, Path.baseName_ofComponents_concat hnew hname]
  · exact h.name_short hold

theorem Consistent.moveTree_ofComponents (h : s.Consistent) :
    (s.moveTree (Path.ofComponents source) (Path.ofComponents target)).Consistent := by
  have hnormal := hmove.allNormal_move
  exact {
    root_named := by
      have hstay := hmove.getElem?_move_other Path.areNames_nil
        (fun hp => hmove.source_ne (List.prefix_nil.mp hp))
        (fun hp => hmove.target_ne (List.prefix_nil.mp hp))
      rw [Path.ofComponents_nil] at hstay
      exact hstay.trans h.root_named
    root_directory := h.root_directory
    all_normal := hnormal
    name_short key ino hino := by
      obtain ⟨more, hmore, rfl⟩ := Path.exists_names (hnormal hino)
      exact h.name_short_moveTree hmove hparent hmore hino
    parent_named key ino hino hroot := by
      obtain ⟨more, hmore, rfl⟩ := Path.exists_names (hnormal hino)
      have hne : more ≠ [] := fun he => hroot ((Path.ofComponents_eq_root_iff hmore).mpr he)
      exact h.parent_named_moveTree hmove hparent hmore hne hino
    name_unique key other ino hino hino' := by
      obtain ⟨more, hmore, rfl⟩ := Path.exists_names (hnormal hino)
      obtain ⟨more', hmore', rfl⟩ := Path.exists_names (hnormal hino')
      rw [h.name_unique_moveTree hmove hmore hmore' hino hino']
    named_linked key ino hino := by
      obtain ⟨more, hmore, rfl⟩ := Path.exists_names (hnormal hino)
      rcases hmove.getElem?_move_cases hmore hino with ⟨_, -, -, hold⟩ | ⟨-, -, hold⟩
      · exact h.named_linked hold
      · exact h.named_linked hold
    linked_named ino kind hp := by
      obtain ⟨key, hino⟩ := h.linked_named hp
      exact h.exists_name_moveTree hmove hino
    orphan_held ino kind hp := held_moveTree_iff.mpr (h.orphan_held hp)
    file_open := h.file_open
    dir_open id dir hid := by
      obtain ⟨old, hold, he⟩ := openDirs_moveTree_cases hid
      rw [he]
      exact h.dir_open hold
    handles_apart id ino hid := by
      rw [getElem?_openDirs_moveTree, h.handles_apart hid, Option.map_none]
    inode_lt := h.inode_lt
    file_lt := h.file_lt
    dir_lt id dir hid := by
      obtain ⟨old, hold, -⟩ := openDirs_moveTree_cases hid
      exact h.dir_lt hold }

end Move

/-- What a rename checks is what makes the names of a sound store movable. -/
theorem Sound.movable (h : s.Sound) {source target : String} {ino : Nat}
    (hino : s.names[source]? = some ino) (hsource : source ≠ Path.root)
    (htarget : target ≠ Path.root) (hnormal : Path.isNormal target = true)
    (hfree : s.names[target]? = none) (hapart : Path.isWithin source target = false) :
    ∃ names more, source = Path.ofComponents names ∧ target = Path.ofComponents more ∧
      s.names.Movable names more := by
  obtain ⟨names, hnames, rfl⟩ := Path.exists_names (h.all_normal hino)
  obtain ⟨more, hmore, rfl⟩ := Path.exists_names hnormal
  have hne : names ≠ [] := fun he => hsource ((Path.ofComponents_eq_root_iff hnames).mpr he)
  refine ⟨names, more, rfl, rfl, ?_⟩
  exact {
    all_normal := h.all_normal
    source_names := hnames
    source_ne := hne
    target_names := hmore
    target_ne := fun he => htarget ((Path.ofComponents_eq_root_iff hmore).mpr he)
    apart := fun hp => by
      rw [(Path.isWithin_iff hnames hne hmore).mpr hp] at hapart
      cases hapart
    free := h.free_of_free hmore hfree }

theorem Consistent.moveTree (h : s.Consistent) {source target : String} {ino : Nat}
    (hino : s.names[source]? = some ino) (hsource : source ≠ Path.root)
    (htarget : target ≠ Path.root) (hnormal : Path.isNormal target = true)
    (hfree : s.names[target]? = none) (hapart : Path.isWithin source target = false)
    (hparent : s.checkParent target = .ok ()) : (s.moveTree source target).Consistent := by
  obtain ⟨names, more, rfl, rfl, hmove⟩ := h.movable hino hsource htarget hnormal hfree hapart
  exact h.moveTree_ofComponents hmove hparent

/-! ## All changes -/

/-- Each change keeps a store consistent. -/
theorem Change.consistent (hchange : Change now s t) (h : s.Consistent) : t.Consistent := by
  cases hchange with
  | revise hold hkind hlinked => exact h.of_alike (alike_setInode hold hkind hlinked)
  | touchParent key => exact h.of_alike (alike_touchParent s now key)
  | link hnormal hfree hparent => exact h.link _ _ hnormal hfree hparent
  | unlink hino hi hroot hempty => exact h.unlink hino hi hroot hempty
  | openFile flags hi hkind => exact h.registerFile flags hi hkind
  | openDir _ hi hkind => exact h.registerDir _ hi hkind
  | closeFile hino => exact h.closeFile hino
  | closeDir hdir => exact h.closeDir hdir
  | move hino hsource htarget hnormal hfree hapart hparent =>
    exact h.moveTree hino hsource htarget hnormal hfree hapart hparent

/-- Any number of changes at one time. -/
def Changes (now : Timespec) : Store → Store → Prop := Relation.ReflTransGen (Change now)

theorem Changes.consistent (hchanges : Changes now s t) (h : s.Consistent) : t.Consistent := by
  induction hchanges with
  | refl => exact h
  | tail _ hchange ih => exact hchange.consistent ih

end FileScript.Store
