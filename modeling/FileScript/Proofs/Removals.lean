import FileScript.Proofs.StoreRequests

/-!
# Removing and renaming

The requests that take a name away are refused before they begin: the inode behind the name is
there, so what follows the check succeeds. A rename that has to free its target first
(`Store.Vacated`) keeps all on which the check of the target relied.
-/

namespace FileScript.Store

variable {s t : Store} {now : Timespec}

/-! ## A name that goes -/

@[simp] theorem names_touchParent (key : String) : (s.touchParent now key).names = s.names :=
  (alike_touchParent s now key).names

@[simp] theorem names_releaseIfOrphaned (ino : Nat) :
    (s.releaseIfOrphaned ino).names = s.names := by
  unfold releaseIfOrphaned
  split <;> rfl

@[simp] theorem names_dropLink (key : String) (ino : Nat) (i : Inode) :
    (s.dropLink now key ino i).names = s.names := by
  rw [dropLink, names_releaseIfOrphaned, names_touchParent, setInode]

theorem profile_releaseIfOrphaned_of_ne {ino other : Nat} (h : other ≠ ino) :
    (s.releaseIfOrphaned ino).profile other = s.profile other := by
  unfold releaseIfOrphaned
  split
  · rfl
  · rw [profile_erase, if_neg h.symm]

/-- An inode that loses its name takes no other with it. -/
theorem profile_dropLink_of_ne {key : String} {ino other : Nat} {i : Inode} (h : other ≠ ino) :
    (s.dropLink now key ino i).profile other = s.profile other := by
  rw [dropLink, profile_releaseIfOrphaned_of_ne h, (alike_touchParent _ now key).profile,
    profile_setInode, if_neg h.symm]

theorem unlinkName_ends {key : String} {ino : Nat} {i : Inode} (hino : s.names[key]? = some ino)
    (hi : s.inodes[ino]? = some i) :
    Ends (unlinkName now key) s
      (fun _ t => t = { s with names := s.names.erase key }.dropLink now key ino i)
      fun _ _ => False := by
  unfold unlinkName
  simp only [Ends.bind_iff, Ends.get_iff, hino, Ends.modify_iff]
  exact (ends_ask_inode (s := { s with names := s.names.erase key }) hi).mpr rfl

theorem rmdir_transacts (path : String) : Transacts now (rmdir now path) s := by
  unfold rmdir
  simp only [transacts_ask_bind, transacts_get_bind, transacts_ite, transacts_throw_bind,
    implies_true, true_and, and_true, ne_eq, not_not]
  intro place hplace hroot i hi _ hempty
  obtain ⟨hkey, hino⟩ := resolve_eq_ok_iff.mp hplace
  rw [← hkey] at hino
  rw [inode_eq_ok_iff] at hi
  refine transacts_of_ends ((unlinkName_ends hino hi).mono (fun _ _ h => h) fun _ _ h => h.elim) ?_
  rintro _ t rfl
  exact Changes.one (.unlink hino hi hroot (children_isEmpty_iff.mp hempty))

theorem unlink_transacts (h : s.Consistent) (path : String) :
    Transacts now (unlink now path) s := by
  unfold unlink
  simp only [transacts_ask_bind, transacts_ite, transacts_throw_bind, implies_true, true_and]
  intro place hplace i hi hkind
  obtain ⟨hkey, hino⟩ := resolve_eq_ok_iff.mp hplace
  rw [← hkey] at hino
  rw [inode_eq_ok_iff] at hi
  refine transacts_of_ends ((unlinkName_ends hino hi).mono (fun _ _ h => h) fun _ _ h => h.elim) ?_
  rintro _ t rfl
  exact Changes.one
    (.unlink hino hi (h.ne_root_of_file hino hi hkind) (h.free_below_file hino hi hkind))

/-! ## Making room -/

/-- What is at the normal path `key` may not be replaced by the inode `source`. -/
def Occupied (s : Store) (source : Nat) (key : String) : Prop :=
  ∃ (target : Nat) (i j : Inode), s.names[key]? = some target ∧ s.inodes[source]? = some i ∧
    s.inodes[target]? = some j ∧
    (i.kind ≠ j.kind ∨ j.kind = .directory ∧ ¬ (s.children key).isEmpty)

/-- What was at the normal path `key`, if anything, was removed. -/
inductive Vacated (now : Timespec) (key : String) (s : Store) : Store → Prop
  | free (hfree : s.names[key]? = none) : Vacated now key s s
  | taken {target : Nat} {j : Inode} (htarget : s.names[key]? = some target)
      (hj : s.inodes[target]? = some j)
      (hempty : ∀ name, Path.IsName name → s.names[Path.stem key ++ name]? = none) :
      Vacated now key s ({ s with names := s.names.erase key }.dropLink now key target j)

theorem checkReplace_eq_ok_iff {source target : Nat} {key : String} {i j : Inode}
    (hi : s.inodes[source]? = some i) (hj : s.inodes[target]? = some j) :
    s.checkReplace source target key = .ok () ↔
      i.kind = j.kind ∧ (j.kind = .directory → (s.children key).isEmpty = true) := by
  have hsource := inode_eq_ok_iff.mpr hi
  have htarget := inode_eq_ok_iff.mpr hj
  cases hik : i.kind <;> cases hjk : j.kind <;>
    simp [checkReplace, hsource, htarget, hik, hjk, bind, Except.bind]

theorem occupied_iff {source target : Nat} {key : String} {i : Inode}
    (htarget : s.names[key]? = some target) (hi : s.inodes[source]? = some i) {j : Inode}
    (hj : s.inodes[target]? = some j) :
    s.Occupied source key ↔ s.checkReplace source target key ≠ .ok () := by
  rw [Ne, checkReplace_eq_ok_iff hi hj, not_and_or, Classical.not_imp]
  constructor
  · rintro ⟨_, _, _, htarget', hi', hj', h⟩
    cases htarget.symm.trans htarget'
    cases hi.symm.trans hi'
    cases hj.symm.trans hj'
    exact h
  · exact fun h => ⟨target, i, j, htarget, hi, hj, h⟩

/-- A place is made free if what is there may be replaced. -/
theorem vacate_ends (h : s.Consistent) {source : Nat} {i : Inode} {key : String}
    (hi : s.inodes[source]? = some i) :
    Ends (vacate now source key) s
      (fun _ t => ¬ s.Occupied source key ∧ Vacated now key s t)
      fun _ t => t = s ∧ s.Occupied source key := by
  unfold vacate
  rw [Ends.bind_iff, Ends.get_iff]
  split
  · next hfree =>
    refine ⟨?_, .free hfree⟩
    rintro ⟨target, _, _, htarget, -⟩
    rw [hfree] at htarget
    cases htarget
  · next target htarget =>
    obtain ⟨j, hj, -⟩ := h.inode_of_named htarget
    have hiff := occupied_iff htarget hi hj
    rw [Ends.bind_iff, Ends.ask_iff]
    refine ⟨fun _ hok => ?_, fun e he => ⟨rfl, hiff.mpr fun hok => ?_⟩⟩
    swap
    · rw [hok] at he
      cases he
    refine (unlinkName_ends htarget hj).mono ?_ fun _ _ h => h.elim
    rintro _ t rfl
    refine ⟨fun hoccupied => hiff.mp hoccupied hok, .taken htarget hj ?_⟩
    obtain ⟨-, hempty⟩ := (checkReplace_eq_ok_iff hi hj).mp hok
    by_cases hkind : j.kind = .directory
    · exact children_isEmpty_iff.mp (hempty hkind)
    · exact h.free_below_file htarget hj hkind

namespace Vacated

variable {key : String} (hvacated : Vacated now key s t)

include hvacated

theorem changes (hroot : key ≠ Path.root) : Changes now s t := by
  cases hvacated with
  | free => exact Relation.ReflTransGen.refl
  | taken htarget hj hempty => exact Changes.one (.unlink htarget hj hroot hempty)

theorem names_eq (other : String) :
    t.names[other]? = if other = key then none else s.names[other]? := by
  cases hvacated with
  | free hfree =>
    split
    · next he => rw [he, hfree]
    · rfl
  | taken =>
    rw [names_dropLink, Std.TreeMap.getElem?_erase]
    simp only [compare_eq_iff_eq, eq_comm (a := key)]

/-- Nothing with another name is affected. -/
theorem profile_eq (h : s.Consistent) {other : String} {ino : Nat}
    (hino : s.names[other]? = some ino) (hne : other ≠ key) : t.profile ino = s.profile ino := by
  cases hvacated with
  | free => rfl
  | taken htarget =>
    refine profile_dropLink_of_ne fun he => hne ?_
    rw [← he] at htarget
    exact h.name_unique hino htarget

theorem checkParent_eq (h : s.Consistent) (hroot : key ≠ Path.root)
    (hnormal : Path.isNormal key = true) (hparent : s.checkParent key = .ok ()) :
    t.checkParent key = .ok () := by
  obtain ⟨hshort, -⟩ := checkParent_eq_ok_iff.mp hparent
  obtain ⟨above, habove, hdir⟩ := h.parent_of_checkParent hparent
  have hne : Path.parent key ≠ key := by
    obtain ⟨names, name, hnames, hname, rfl⟩ := Path.exists_names_concat hnormal hroot
    rw [Path.parent_ofComponents_concat hnames hname]
    intro he
    have heq := Path.ofComponents_injective hnames (Path.areNames_concat.mpr ⟨hnames, hname⟩) he
    simp at heq
  rw [← hvacated.profile_eq h habove hne] at hdir
  obtain ⟨i, hi, hkind, -⟩ := profile_eq_some_iff.mp hdir
  exact checkParent_eq_ok_iff.mpr ⟨hshort, above, i,
    by rw [hvacated.names_eq, if_neg hne, habove], hi, hkind⟩

end Vacated

/-! ## Renaming -/

/-- Nothing may be moved from the normal path `source` to the normal path `target`: it would lie
below itself, have too long a name, hang from no directory or replace what it may not. -/
def Obstructed (s : Store) (source target : String) : Prop :=
  target.startsWith (source ++ "/") = true ∨
    maxNameSize < (Path.baseName target).utf8ByteSize ∨
    ¬ s.NamesDirectory (Path.parent target) ∨
    ∃ ino : Nat, s.names[source]? = some ino ∧ s.Occupied ino target

/-- A rename between normal paths is refused. -/
def Immovable (s : Store) (source target : String) : Prop :=
  s.names[source]? = none ∨ source = Path.root ∨ target = Path.root ∨
    source ≠ target ∧ s.Obstructed source target

/-- The checks of a rename, in their order. -/
theorem immovable_iff {source target : String} {ino : Nat} (hino : s.names[source]? = some ino) :
    s.Immovable source target ↔ (source = Path.root ∨ target = Path.root) ∨
      source ≠ target ∧ (target.startsWith (source ++ "/") = true ∨
        s.checkParent target ≠ .ok () ∨ s.Occupied ino target) := by
  unfold Immovable Obstructed
  rw [ne_eq (s.checkParent target), checkParent_eq_ok_iff, not_and_or, not_le, or_assoc, or_assoc,
    hino]
  simp

/-- What is known of two different places between which something may move. -/
theorem checks_of_movable {source target : String} (hmovable : ¬ s.Immovable source target)
    (hne : source ≠ target) : source ≠ Path.root ∧ target ≠ Path.root ∧
      Path.isWithin source target = false ∧ s.checkParent target = .ok () := by
  unfold Immovable Obstructed at hmovable
  push Not at hmovable
  obtain ⟨-, hsource, htarget, hchecks⟩ := hmovable
  obtain ⟨hwithin, hshort, habove, -⟩ := hchecks hne
  refine ⟨hsource, htarget, ?_, checkParent_eq_ok_iff.mpr ⟨hshort, habove⟩⟩
  rw [Path.isWithin, Bool.or_eq_false_iff, beq_eq_false_iff_ne]
  exact ⟨hne.symm, Bool.eq_false_of_not_eq_true hwithin⟩

/-- The store after a move between normal paths, when the place of the target is free. -/
def moved (s : Store) (now : Timespec) (source target : String) : Store :=
  ((s.moveTree source target).touchParent now source).touchParent now target

theorem names_moved (source target : String) :
    (s.moved now source target).names = s.names.move source target := by
  rw [moved, names_touchParent, names_touchParent, moveTree]

theorem profile_moved (source target : String) (ino : Nat) :
    (s.moved now source target).profile ino = s.profile ino := by
  rw [moved, (alike_touchParent _ now target).profile, (alike_touchParent _ now source).profile]
  rfl

/-- What a rename does when it moves something. -/
inductive Moved (now : Timespec) (source target : String) (s : Store) : Store → Prop
  | mk {mid : Store} {ino : Nat} {i : Inode} (hvacated : Vacated now target s mid)
      (hino : s.names[source]? = some ino)
      (hi : (mid.moved now source target).inodes[ino]? = some i) :
      Moved now source target s
        ((mid.moved now source target).setInode ino { i with changed := now })

/-- What moves is still there after the move, so its time can be set. -/
theorem Vacated.inode_moved {source target : String} {mid : Store}
    (hvacated : Vacated now target s mid) (h : s.Consistent) {ino : Nat} {i : Inode}
    (hino : s.names[source]? = some ino) (hi : s.inodes[ino]? = some i) (hne : source ≠ target) :
    ∃ j, (mid.moved now source target).inodes[ino]? = some j := by
  have hprofile : (mid.moved now source target).profile ino = some (i.kind, i.linked) := by
    rw [profile_moved, hvacated.profile_eq h hino hne, profile_of_inode hi]
  obtain ⟨j, hj, -⟩ := profile_eq_some_iff.mp hprofile
  exact ⟨j, hj⟩

/-- **A rename is refused before it begins or not at all.** -/
theorem rename_ends (h : s.Consistent) (source target : String) :
    Ends (rename now source target) s
      (fun _ t => ¬ s.Immovable (Path.normalize source) (Path.normalize target) ∧
        if Path.normalize source = Path.normalize target then t = s
        else Moved now (Path.normalize source) (Path.normalize target) s t)
      fun _ t => t = s ∧ s.Immovable (Path.normalize source) (Path.normalize target) := by
  unfold rename
  generalize Path.normalize target = key
  rw [Ends.bind_iff, Ends.ask_iff]
  refine ⟨?_, fun e he => ⟨rfl, Or.inl (names_of_resolve_eq_error he)⟩⟩
  rintro ⟨old, ino⟩ hplace
  obtain ⟨hold, hino⟩ := resolve_eq_ok_iff.mp hplace
  dsimp only at hold hino ⊢
  rw [← hold] at hino ⊢
  obtain ⟨i, hi, -⟩ := h.inode_of_named hino
  simp only [Ends.bind_iff, Ends.ite_iff, Ends.throw_iff, Ends.pure_iff, Ends.ask_iff,
    Ends.modify_iff, immovable_iff hino, true_and]
  -- one goal for each way out, in the order of the checks
  refine ⟨Or.inl, fun hroot => ⟨fun heq => ?same, fun hne =>
    ⟨fun hwithin => Or.inr ⟨hne, Or.inl hwithin⟩, fun hwithin =>
      ⟨fun _ hparent => (vacate_ends h hi).mono ?moves ?occupied, fun e he => ?orphan⟩⟩⟩⟩
  case same =>
    simp [heq, (not_or.mp hroot).2]
  case moves =>
    rintro _ mid ⟨hfree, hvacated⟩
    obtain ⟨j, hj⟩ := hvacated.inode_moved h hino hi hne
    constructor
    · intro i' hi'
      rw [if_neg hne]
      exact ⟨by simp [hroot, hwithin, hparent, hfree], .mk hvacated hino (inode_eq_ok_iff.mp hi')⟩
    · intro e he
      replace he : (mid.moved now old key).inode ino = .error e := he
      rw [inode_eq_ok_iff.mpr hj] at he
      cases he
  case occupied =>
    rintro e t ⟨rfl, hoccupied⟩
    exact ⟨rfl, Or.inr ⟨hne, Or.inr (Or.inr hoccupied)⟩⟩
  case orphan =>
    refine Or.inr ⟨hne, Or.inr (Or.inl ?_)⟩
    rw [he]
    simp

/-- A rename makes room, moves the tree and notes the times. -/
theorem Moved.changes {source target : String} (hmoved : Moved now source target s t)
    (h : s.Consistent) (hmovable : ¬ s.Immovable source target) (hne : source ≠ target)
    (hnormal : Path.isNormal target = true) : Changes now s t := by
  cases hmoved with
  | @mk mid ino i hvacated hino hi =>
    obtain ⟨hsource, htarget, hapart, hparent⟩ := checks_of_movable hmovable hne
    have hmid := hvacated.names_eq
    have hmove : Change now mid (mid.moveTree source target) :=
      .move (by rw [hmid, if_neg hne, hino]) hsource htarget hnormal (by rw [hmid, if_pos rfl])
        hapart (hvacated.checkParent_eq h htarget hnormal hparent)
    exact (((hvacated.changes htarget).tail hmove).tail (.touchParent source)).tail
      (.touchParent target) |>.tail (.revise hi rfl rfl)

theorem rename_transacts (h : s.Consistent) (source target : String) :
    Transacts now (rename now source target) s := by
  refine (rename_ends h source target).mono ?_ fun _ _ h => h.1
  rintro _ t ⟨hmovable, ht⟩
  split at ht
  · rw [ht]
    exact Relation.ReflTransGen.refl
  · next hne => exact ht.changes h hmovable hne (Path.isNormal_normalize target)

end FileScript.Store
