import FileScript.Proofs.Effects
import FileScript.Proofs.OpenDirectories

/-!
# The entries of a directory

Which entries a directory has, told of its inode and not of its path (`Store.HasEntry`): they stay
when the directory or one above it is renamed. A request changes the entries of those directories
only in which it makes, removes or moves a name (`Operation.places`); every other directory has the
same entries afterwards (`Store.hasEntry_request_iff`).
-/

namespace FileScript

/-- The normal paths at which a request may make, remove or move a name. -/
def Operation.places : Operation → List String
  | openFile path flags => if flags.contains .create then [Path.normalize path] else []
  | create path _ | mkdir path _ | rmdir path | unlink path => [Path.normalize path]
  | rename source target => [Path.normalize source, Path.normalize target]
  | _ => []

theorem Operation.places_of_removes? {op : Operation} {path : String}
    (h : op.removes? = some path) : op.places = [Path.normalize path] := by
  unfold removes? at h
  split at h <;> cases h <;> rfl

namespace Store

variable {s t : Store} {now : Timespec} {dir : Nat} {name : String} {ino : Nat}

/-- The directory with the number `dir` has an entry of this name for the inode `ino`. -/
def HasEntry (s : Store) (dir : Nat) (name : String) (ino : Nat) : Prop :=
  ∃ key : String, s.names[key]? = some dir ∧ Path.IsName name ∧
    s.names[Path.stem key ++ name]? = some ino

theorem hasEntry_congr (h : t.names = s.names) :
    t.HasEntry dir name ino ↔ s.HasEntry dir name ino := by
  unfold HasEntry
  rw [h]

/-- The entries of a directory are those of which its path is the place. -/
theorem Sound.hasEntry_iff (h : s.Sound) {key : String} (hkey : s.names[key]? = some dir) :
    s.HasEntry dir name ino ↔
      Path.IsName name ∧ s.names[Path.stem key ++ name]? = some ino := by
  constructor
  · rintro ⟨other, hother, hname, hino⟩
    rw [← h.name_unique hother hkey]
    exact ⟨hname, hino⟩
  · rintro ⟨hname, hino⟩
    exact ⟨key, hkey, hname, hino⟩

theorem hasEntry_iff_components (h : s.names.AllNormal) :
    s.HasEntry dir name ino ↔ ∃ above, Path.AreNames above ∧ Path.IsName name ∧
      s.names[Path.ofComponents above]? = some dir ∧
      s.names[Path.ofComponents (above ++ [name])]? = some ino := by
  constructor
  · rintro ⟨key, hkey, hname, hino⟩
    obtain ⟨above, habove, rfl⟩ := Path.exists_names (h hkey)
    exact ⟨above, habove, hname, hkey, by rwa [Path.ofComponents_concat habove]⟩
  · rintro ⟨above, habove, hname, hkey, hino⟩
    exact ⟨Path.ofComponents above, hkey, hname, by rwa [← Path.ofComponents_concat habove]⟩

/-! ## Names that come, go and move elsewhere -/

/-- The place above an entry is the path of the directory. -/
theorem Sound.parent_of_entry (h : s.Sound) {above : String} (habove : s.names[above]? = some dir)
    (hname : Path.IsName name) : Path.parent (Path.stem above ++ name) = above := by
  obtain ⟨names, -, rfl⟩ := Path.exists_names (h.all_normal habove)
  exact Path.parent_child hname (Path.ofComponents_ne_empty names)

/-- An entry is not the root. -/
theorem stem_append_ne_root (above : String) (hname : Path.IsName name) :
    Path.stem above ++ name ≠ Path.root := fun he => by
  have hbase : Path.baseName Path.root = name := by rw [← he, Path.baseName_child hname]
  exact hname.1 (hbase.symm.trans (by decide))

/-- A new name that is not in the directory is none of its entries. -/
theorem Sound.hasEntry_link_iff (h : s.Sound) {key : String} (node : Node) (mode : UInt32)
    (hfree : s.names[key]? = none) (hdir : dir < s.nextInode)
    (hapart : s.names[Path.parent key]? ≠ some dir) :
    (s.link now key node mode).HasEntry dir name ino ↔ s.HasEntry dir name ino := by
  have hold : ∀ {other : String} {n : Nat}, s.names[other]? = some n →
      (s.link now key node mode).names[other]? = some n := fun {other n} hother => by
    rw [getElem?_names_link, if_neg, hother]
    rintro rfl
    rw [hfree] at hother
    cases hother
  constructor
  · rintro ⟨above, habove, hname, hino⟩
    rw [getElem?_names_link] at habove hino
    split at habove
    · exact absurd (Option.some.inj habove) hdir.ne'
    split at hino
    · next he =>
      rw [he, h.parent_of_entry habove hname] at hapart
      exact absurd habove hapart
    · exact ⟨above, habove, hname, hino⟩
  · rintro ⟨above, habove, hname, hino⟩
    exact ⟨above, hold habove, hname, hold hino⟩

/-- A name that goes was none of the entries if it was elsewhere. The directory itself does not lose
its name as long as it has entries. -/
theorem Sound.hasEntry_erase_iff (h : s.Sound) (ht : t.Sound) {key : String}
    (hnames : ∀ other : String, t.names[other]? = if other = key then none else s.names[other]?)
    (hapart : s.names[Path.parent key]? ≠ some dir) :
    t.HasEntry dir name ino ↔ s.HasEntry dir name ino := by
  have hold : ∀ {other : String} {n : Nat}, t.names[other]? = some n → s.names[other]? = some n :=
    fun {other n} hother => by
      rw [hnames] at hother
      split at hother
      · cases hother
      · exact hother
  constructor
  · rintro ⟨above, habove, hname, hino⟩
    exact ⟨above, hold habove, hname, hold hino⟩
  · rintro ⟨above, habove, hname, hino⟩
    have hparent := h.parent_of_entry habove hname
    have hchild : t.names[Path.stem above ++ name]? = some ino := by
      rw [hnames, if_neg, hino]
      rintro rfl
      rw [hparent] at hapart
      exact hapart habove
    obtain ⟨up, hup, -⟩ := ht.parent_named hchild (stem_append_ne_root above hname)
    rw [hparent] at hup
    have hsame : up = dir := Option.some.inj ((hold hup).symm.trans habove)
    exact ⟨above, hsame ▸ hup, hname, hchild⟩

section Moves

variable {source target : List String}

/-- What moves, and where to, is none of the entries if it is elsewhere. The directory itself may
move with all of its entries. -/
theorem hasEntry_move_iff (hmove : s.names.Movable source target)
    (hnames : t.names = s.names.move (Path.ofComponents source) (Path.ofComponents target))
    (hsource : s.names[Path.parent (Path.ofComponents source)]? ≠ some dir)
    (htarget : s.names[Path.parent (Path.ofComponents target)]? ≠ some dir) :
    t.HasEntry dir name ino ↔ s.HasEntry dir name ino := by
  have hall : t.names.AllNormal := hnames ▸ hmove.allNormal_move
  rw [hasEntry_iff_components hall, hasEntry_iff_components hmove.all_normal, hnames]
  -- a place that is reached from outside, one step further down, is the top of what moves
  have hsourceTop : ∀ {above : List String}, Path.AreNames above → Path.IsName name →
      s.names[Path.ofComponents above]? = some dir → ¬ source <+: above →
      ¬ source <+: above ++ [name] := fun {above} habove hname hdir hout hin => by
    rcases List.prefix_concat_iff.mp hin with rfl | hin
    · rw [Path.parent_ofComponents_concat habove hname] at hsource
      exact hsource hdir
    · exact hout hin
  have htargetTop : ∀ {above : List String}, Path.AreNames above → Path.IsName name →
      s.names[Path.ofComponents above]? = some dir → ¬ target <+: above →
      ¬ target <+: above ++ [name] := fun {above} habove hname hdir hout hin => by
    rcases List.prefix_concat_iff.mp hin with rfl | hin
    · rw [Path.parent_ofComponents_concat habove hname] at htarget
      exact htarget hdir
    · exact hout hin
  constructor
  · rintro ⟨above, habove, hname, hdir, hino⟩
    have hchild := Path.areNames_concat.mpr ⟨habove, hname⟩
    rcases hmove.getElem?_move_cases habove hdir with ⟨rest, hrest, rfl, hold⟩ | ⟨hs, ht, hold⟩
    · rw [List.append_assoc,
        hmove.getElem?_move_target (Path.areNames_concat.mpr ⟨hrest, hname⟩)] at hino
      exact ⟨source ++ rest, Path.areNames_append.mpr ⟨hmove.source_names, hrest⟩, hname, hold,
        by rwa [List.append_assoc]⟩
    · rw [hmove.getElem?_move_other hchild (hsourceTop habove hname hold hs)
        (htargetTop habove hname hold ht)] at hino
      exact ⟨above, habove, hname, hold, hino⟩
  · rintro ⟨above, habove, hname, hdir, hino⟩
    have hchild := Path.areNames_concat.mpr ⟨habove, hname⟩
    by_cases hs : source <+: above
    · obtain ⟨rest, rfl⟩ := hs
      have hrest := (Path.areNames_append.mp habove).2
      refine ⟨target ++ rest, Path.areNames_append.mpr ⟨hmove.target_names, hrest⟩, hname, ?_, ?_⟩
      · rwa [hmove.getElem?_move_target hrest]
      · rwa [List.append_assoc,
          hmove.getElem?_move_target (Path.areNames_concat.mpr ⟨hrest, hname⟩),
          ← List.append_assoc]
    have ht : ¬ target <+: above := by
      rintro ⟨rest, rfl⟩
      rw [hmove.free rest (Path.areNames_append.mp habove).2] at hdir
      cases hdir
    refine ⟨above, habove, hname, ?_, ?_⟩
    · rwa [hmove.getElem?_move_other habove hs ht]
    · rwa [hmove.getElem?_move_other hchild (hsourceTop habove hname hdir hs)
        (htargetTop habove hname hdir ht)]

end Moves

/-- Removing a name elsewhere leaves the entries of a directory as they are. -/
theorem Consistent.hasEntry_dropLink_iff (h : s.Consistent) {key : String} {n : Nat} (i : Inode)
    (ht : ({ s with names := s.names.erase key }.dropLink now key n i).Consistent)
    (hapart : s.names[Path.parent key]? ≠ some dir) :
    ({ s with names := s.names.erase key }.dropLink now key n i).HasEntry dir name ino ↔
      s.HasEntry dir name ino := by
  refine h.toSound.hasEntry_erase_iff ht.toSound (fun other => ?_) hapart
  rw [names_dropLink, Std.TreeMap.getElem?_erase]
  simp only [compare_eq_iff_eq, eq_comm (a := key)]

/-- A rename elsewhere leaves the entries of a directory as they are, also if it moves the directory
or one above it. -/
theorem Consistent.hasEntry_moved_iff (h : s.Consistent) {source target : String}
    (hmoved : Moved now source target s t) (hmovable : ¬ s.Immovable source target)
    (hne : source ≠ target) (hnormal : Path.isNormal target = true)
    (hsource : s.names[Path.parent source]? ≠ some dir)
    (htarget : s.names[Path.parent target]? ≠ some dir) :
    t.HasEntry dir name ino ↔ s.HasEntry dir name ino := by
  cases hmoved with
  | @mk mid n i hvacated hn hi =>
    obtain ⟨hsroot, htroot, hapart, -⟩ := checks_of_movable hmovable hne
    have hmid := (hvacated.changes htroot).consistent h
    have hmidnames := hvacated.names_eq
    -- first the target is freed, then the tree moves
    rw [← h.toSound.hasEntry_erase_iff hmid.toSound hmidnames htarget]
    have hkept : ∀ {key : String}, s.names[key]? ≠ some dir → mid.names[key]? ≠ some dir :=
      fun {key} hkey hdir => by
        rw [hmidnames] at hdir
        split at hdir
        · cases hdir
        · exact hkey hdir
    obtain ⟨names, more, rfl, rfl, hmove⟩ := hmid.movable (by rw [hmidnames, if_neg hne, hn])
      hsroot htroot hnormal (by rw [hmidnames, if_pos rfl]) hapart
    exact hasEntry_move_iff hmove (names_moved _ _) (hkept hsource) (hkept htarget)

/-- What a request does elsewhere leaves the entries of a directory as they are. -/
theorem Consistent.hasEntry_effect_iff (h : s.Consistent) (ht : t.Consistent) {op : Operation}
    (heffect : op.Effect now s t) (hdir : dir < s.nextInode)
    (hapart : ∀ place ∈ op.places, s.names[Path.parent place]? ≠ some dir) :
    t.HasEntry dir name ino ↔ s.HasEntry dir name ino := by
  cases heffect with
  | nothing => exact Iff.rfl
  | describe => exact Iff.rfl
  | edit => exact Iff.rfl
  | @openFile path flags mid n i hloc hi hkind =>
    have hprepared : (mid.prepared now flags n i).names = mid.names := names_prepared flags n i
    have hmid : mid.HasEntry dir name ino ↔ s.HasEntry dir name ino := by
      cases hloc with
      | found => exact Iff.rfl
      | made hfree hparent hcreate =>
        refine h.toSound.hasEntry_link_iff _ _ hfree hdir (hapart _ ?_)
        rw [Operation.places, if_pos hcreate]
        exact List.mem_singleton_self _
    exact (hasEntry_congr hprepared).trans hmid
  | create hfree =>
    exact h.toSound.hasEntry_link_iff _ _ hfree hdir (hapart _ (List.mem_singleton_self _))
  | mkdir hfree =>
    exact h.toSound.hasEntry_link_iff _ _ hfree hdir (hapart _ (List.mem_singleton_self _))
  | close => exact hasEntry_congr (names_releaseIfOrphaned _)
  | openDir => exact Iff.rfl
  | closeDir => exact hasEntry_congr (names_releaseIfOrphaned _)
  | remove hop _ hi =>
    rw [Operation.places_of_removes? hop] at hapart
    exact h.hasEntry_dropLink_iff _ ht (hapart _ (List.mem_singleton_self _))
  | rename hmovable hne hmoved =>
    exact h.hasEntry_moved_iff hmoved hmovable hne (Path.isNormal_normalize _)
      (hapart _ List.mem_cons_self) (hapart _ (List.mem_cons_of_mem _ (List.mem_singleton_self _)))

/-- **A request changes the entries only of directories in which it makes, removes or moves a
name.** -/
theorem Consistent.hasEntry_request_iff (h : s.Consistent) (now : Timespec) (op : Operation)
    (hdir : dir < s.nextInode)
    (hapart : ∀ place ∈ op.places, s.names[Path.parent place]? ≠ some dir) :
    (s.request now op).2.HasEntry dir name ino ↔ s.HasEntry dir name ino :=
  h.hasEntry_effect_iff (h.request now op) (request_effect h now op) hdir hapart

/-! ## Listing through a handle -/

/-- The entries that are listed through an open handle. -/
def listed (s : Store) (id : Nat) : List (String × Nat) :=
  match s.openDirs[id]? with
  | some dir => if s.names[dir.path]? = some dir.inode then s.children dir.path else []
  | none => []

theorem sorted_listed (s : Store) (id : Nat) : (s.listed id).Pairwise fun a b => a.1 < b.1 := by
  unfold listed
  split
  · split
    · exact Names.sorted_children s.names _
    · exact .nil
  · exact .nil

/-- What is listed through a handle are the entries of the directory on which it is open. -/
theorem Sound.mem_listed_iff (h : s.Sound) (htracked : s.Tracked) {id : Nat} {opened : OpenDir}
    (hopened : s.openDirs[id]? = some opened) :
    (name, ino) ∈ s.listed id ↔ s.HasEntry opened.inode name ino := by
  unfold listed
  rw [hopened]
  dsimp only
  split
  · next hnamed => rw [h.hasEntry_iff hnamed]; exact Names.mem_children
  · next hnamed =>
    refine iff_of_false List.not_mem_nil ?_
    rintro ⟨key, hkey, -⟩
    exact hnamed (htracked hopened ⟨key, hkey⟩)

/-- A listing goes on behind the entries that it has counted. -/
theorem Sound.request_readDir (h : s.Sound) (htracked : s.Tracked) {handle : DirHandle}
    {opened : OpenDir} (hopened : s.openDirs[handle.id]? = some opened) (now : Timespec)
    (count : Nat) :
    ∃ entries, s.request now (.readDir handle count) =
        (.ok (.entries entries { handle with cursor := handle.cursor + entries.length }), s) ∧
      s.Describes entries (((s.listed handle.id).drop handle.cursor).take count) := by
  unfold listed
  rw [hopened]
  dsimp only
  split
  · next hnamed => exact request_readDir_of_recorded h hopened hnamed now handle.cursor count
  · next hnamed =>
    have hgone : ¬ s.Named opened.inode := fun hname => hnamed (htracked hopened hname)
    exact ⟨[], request_readDir_of_not_named h hopened hgone now handle.cursor count, by simp,
      fun e he => absurd he List.not_mem_nil⟩

end Store

end FileScript
