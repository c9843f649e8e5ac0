import FileScript.Proofs.Frames

/-!
# Open directories

An open directory stays the directory on which it was opened. The store records a path for it, and
every rename that moves the directory, or one above it, moves this path along, so that the path
names the directory as long as anything does (`Store.Tracked`). A directory that has lost its name
never gets one again, as the numbers of inodes are not used twice (`Store.Later`), so its listing
remains empty, whatever has its old path by then.
-/

namespace FileScript.Store

variable {s t : Store} {now : Timespec}

/-! ## The recorded path -/

/-- The path that is recorded for an open directory names it, if it has a name. -/
def Tracked (s : Store) : Prop :=
  ∀ ⦃id : Nat⦄ ⦃dir : OpenDir⦄, s.openDirs[id]? = some dir → s.Named dir.inode →
    s.names[dir.path]? = some dir.inode

theorem Tracked.of_sameFrame (h : s.Tracked) (hst : SameFrame s t) : t.Tracked := by
  intro id dir hdir hnamed
  rw [hst.openDirs] at hdir
  rw [hst.names]
  exact h hdir (hst.named_iff.mp hnamed)

theorem tracked_new (now : Timespec) (uid gid : Nat) : (Store.new now uid gid).Tracked := by
  intro id dir hdir
  simp [Store.new] at hdir

/-! ## Stores that come later -/

/-- No number of a handle or an inode comes back: what is open under an old number has been open
under it before, on the same inode, and an old inode that has a name has had one before. -/
structure Later (s t : Store) : Prop where
  nextHandle_le : s.nextHandle ≤ t.nextHandle
  nextInode_le : s.nextInode ≤ t.nextInode
  bound : ∀ ⦃id : Nat⦄ ⦃dir : OpenDir⦄, id < s.nextHandle → t.openDirs[id]? = some dir →
    ∃ old, s.openDirs[id]? = some old ∧ dir.inode = old.inode
  named : ∀ ⦃ino : Nat⦄, ino < s.nextInode → t.Named ino → s.Named ino

namespace Later

theorem refl (s : Store) : Later s s where
  nextHandle_le := le_refl _
  nextInode_le := le_refl _
  bound _ dir _ hdir := ⟨dir, hdir, rfl⟩
  named _ _ hnamed := hnamed

theorem trans {u : Store} (h : Later s t) (h' : Later t u) : Later s u where
  nextHandle_le := h.nextHandle_le.trans h'.nextHandle_le
  nextInode_le := h.nextInode_le.trans h'.nextInode_le
  bound id dir hid hdir := by
    obtain ⟨mid, hmid, he⟩ := h'.bound (hid.trans_le h.nextHandle_le) hdir
    obtain ⟨old, hold, he'⟩ := h.bound hid hmid
    exact ⟨old, hold, he.trans he'⟩
  named ino hino hnamed := h.named hino (h'.named (hino.trans_le h.nextInode_le) hnamed)

theorem of_sameFrame (hst : SameFrame s t) : Later s t where
  nextHandle_le := hst.nextHandle.ge
  nextInode_le := hst.nextInode.ge
  bound _ dir _ hdir := ⟨dir, hst.openDirs ▸ hdir, rfl⟩
  named _ _ hnamed := hst.named_iff.mp hnamed

end Later

/-! ## Each change -/

theorem getElem?_names_link (key : String) (node : Node) (mode : UInt32) (other : String) :
    (s.link now key node mode).names[other]? =
      if key = other then some s.nextInode else s.names[other]? := by
  unfold link
  simp only [names_touchParent, Std.TreeMap.getElem?_insert, compare_eq_iff_eq]

/-- A new name leads to a new inode; no directory is open on it. -/
theorem Sound.link_follows (h : s.Sound) (htracked : s.Tracked) {key : String} (node : Node)
    (mode : UInt32) (hfree : s.names[key]? = none) :
    Later s (s.link now key node mode) ∧ (s.link now key node mode).Tracked := by
  have hframe : SameFrame _ (s.link now key node mode) := .touchParent _ now key
  have hnamed : ∀ ⦃ino : Nat⦄, ino < s.nextInode → (s.link now key node mode).Named ino →
      s.Named ino := by
    rintro ino hino ⟨other, hother⟩
    rw [getElem?_names_link] at hother
    split at hother
    · exact absurd (Option.some.inj hother) hino.ne'
    · exact ⟨other, hother⟩
  refine ⟨?_, fun id dir hdir hdirNamed => ?_⟩
  · exact {
      nextHandle_le := hframe.nextHandle.ge
      nextInode_le := hframe.nextInode.ge.trans' (Nat.le_succ _)
      bound := fun _ dir _ hdir => ⟨dir, hframe.openDirs ▸ hdir, rfl⟩
      named := hnamed }
  · rw [hframe.openDirs] at hdir
    obtain ⟨linked, hp⟩ := h.dir_open hdir
    have hold := htracked hdir (hnamed (h.inode_lt hp) hdirNamed)
    rw [getElem?_names_link, if_neg, hold]
    rintro rfl
    rw [hfree] at hold
    cases hold

/-- The inode that loses its name has no other, so no open directory on it is tracked any more. -/
theorem Sound.unlink_follows (h : s.Sound) (htracked : s.Tracked) {key : String} {ino : Nat}
    (i : Inode) (hino : s.names[key]? = some ino) :
    Later s ({ s with names := s.names.erase key }.dropLink now key ino i) ∧
      ({ s with names := s.names.erase key }.dropLink now key ino i).Tracked := by
  have hframe := SameFrame.dropLink { s with names := s.names.erase key } now key ino i
  have hnames : ∀ ⦃other : String⦄ ⦃n : Nat⦄, (s.names.erase key)[other]? = some n ↔
      key ≠ other ∧ s.names[other]? = some n := fun other n => by
    rw [Std.TreeMap.getElem?_erase]
    simp only [compare_eq_iff_eq]
    split <;> simp [*]
  have hnamed : ∀ ⦃n : Nat⦄,
      ({ s with names := s.names.erase key }.dropLink now key ino i).Named n →
        s.Named n ∧ n ≠ ino := by
    intro n hn
    obtain ⟨other, hother⟩ := hframe.named_iff.mp hn
    obtain ⟨hne, hother⟩ := hnames.mp hother
    exact ⟨⟨other, hother⟩, fun he => hne (h.name_unique hino (he ▸ hother))⟩
  refine ⟨?_, fun id dir hdir hdirNamed => ?_⟩
  · exact {
      nextHandle_le := hframe.nextHandle.ge
      nextInode_le := hframe.nextInode.ge
      bound := fun _ dir _ hdir => ⟨dir, hframe.openDirs ▸ hdir, rfl⟩
      named := fun _ _ hn => (hnamed hn).1 }
  · rw [hframe.openDirs] at hdir
    obtain ⟨hdirNamed, hne⟩ := hnamed hdirNamed
    have hold := htracked hdir hdirNamed
    rw [hframe.names, hnames]
    refine ⟨?_, hold⟩
    rintro rfl
    exact hne (Option.some.inj (hold.symm.trans hino))

/-- An open directory that moves, or whose ancestor moves, is listed at its new place. -/
theorem Sound.moveTree_follows (h : s.Sound) (htracked : s.Tracked) {source target : List String}
    (hmove : s.names.Movable source target) :
    Later s (s.moveTree (Path.ofComponents source) (Path.ofComponents target)) ∧
      (s.moveTree (Path.ofComponents source) (Path.ofComponents target)).Tracked := by
  have hnamed : ∀ ⦃ino : Nat⦄,
      (s.moveTree (Path.ofComponents source) (Path.ofComponents target)).Named ino →
        s.Named ino := by
    rintro ino ⟨key, hino⟩
    obtain ⟨more, hmore, rfl⟩ := Path.exists_names (hmove.allNormal_move hino)
    rcases hmove.getElem?_move_cases hmore hino with ⟨_, -, -, hold⟩ | ⟨-, -, hold⟩
    · exact ⟨_, hold⟩
    · exact ⟨_, hold⟩
  refine ⟨?_, fun id dir hdir hdirNamed => ?_⟩
  · exact {
      nextHandle_le := le_refl _
      nextInode_le := le_refl _
      bound := fun _ _ _ hdir => openDirs_moveTree_cases hdir
      named := fun _ _ hn => hnamed hn }
  · rw [getElem?_openDirs_moveTree, Option.map_eq_some_iff] at hdir
    obtain ⟨old, hold, rfl⟩ := hdir
    have hino := htracked hold (hnamed (by split at hdirNamed <;> exact hdirNamed))
    obtain ⟨more, hmore, hpath⟩ := Path.exists_names (h.all_normal hino)
    rw [hpath] at hino ⊢
    by_cases hs : source <+: more
    · obtain ⟨rest, rfl⟩ := hs
      rw [if_pos ((Path.isWithin_iff hmove.source_names hmove.source_ne hmore).mpr
        (List.prefix_append _ _))]
      dsimp only
      rw [hmove.rebase rest]
      exact (hmove.getElem?_move_target (Path.areNames_append.mp hmore).2).trans hino
    · have ht : ¬ target <+: more := by
        rintro ⟨rest, rfl⟩
        rw [hmove.free rest (Path.areNames_append.mp hmore).2] at hino
        cases hino
      rw [if_neg fun hw => hs
        ((Path.isWithin_iff hmove.source_names hmove.source_ne hmore).mp hw), hpath]
      exact (hmove.getElem?_move_other hmore hs ht).trans hino

/-- A new handle has a new number and is listed under the name of its directory. -/
theorem registerDir_follows (htracked : s.Tracked) {key : String} {ino : Nat}
    (hino : s.names[key]? = some ino) :
    Later s (s.registerDir ino key).2 ∧ (s.registerDir ino key).2.Tracked := by
  refine ⟨?_, fun id dir hdir hdirNamed => ?_⟩
  · exact {
      nextHandle_le := Nat.le_succ _
      nextInode_le := le_refl _
      bound := fun id dir hid hdir => by
        rw [getElem?_openDirs_registerDir, if_neg hid.ne'] at hdir
        exact ⟨dir, hdir, rfl⟩
      named := fun _ _ hn => hn }
  · rw [getElem?_openDirs_registerDir] at hdir
    split at hdir
    · rw [← Option.some.inj hdir]
      exact hino
    · exact htracked hdir hdirNamed

theorem closeDir_follows (htracked : s.Tracked) (id ino : Nat) :
    Later s ({ s with openDirs := s.openDirs.erase id }.releaseIfOrphaned ino) ∧
      ({ s with openDirs := s.openDirs.erase id }.releaseIfOrphaned ino).Tracked := by
  have hframe := SameFrame.releaseIfOrphaned { s with openDirs := s.openDirs.erase id } ino
  have hcases : ∀ ⦃other : Nat⦄ ⦃dir : OpenDir⦄, (s.openDirs.erase id)[other]? = some dir →
      s.openDirs[other]? = some dir := fun other dir hdir => by
    rw [Std.TreeMap.getElem?_erase] at hdir
    split at hdir
    · cases hdir
    · exact hdir
  refine ⟨Later.trans ?_ (.of_sameFrame hframe), Tracked.of_sameFrame ?_ hframe⟩
  · exact {
      nextHandle_le := le_refl _
      nextInode_le := le_refl _
      bound := fun _ dir _ hdir => ⟨dir, hcases hdir, rfl⟩
      named := fun _ _ hn => hn }
  · exact fun _ _ hdir hn => htracked (hcases hdir) hn

/-- A change of the table of open files is none of the names and the open directories. -/
theorem later_openFiles (s : Store) (files : Std.TreeMap Nat Nat) {next : Nat}
    (hnext : s.nextHandle ≤ next) :
    Later s { s with openFiles := files, nextHandle := next } where
  nextHandle_le := hnext
  nextInode_le := le_refl _
  bound _ dir _ hdir := ⟨dir, hdir, rfl⟩
  named _ _ hn := hn

theorem closeFile_follows (htracked : s.Tracked) (id ino : Nat) :
    Later s ({ s with openFiles := s.openFiles.erase id }.releaseIfOrphaned ino) ∧
      ({ s with openFiles := s.openFiles.erase id }.releaseIfOrphaned ino).Tracked := by
  have hframe := SameFrame.releaseIfOrphaned { s with openFiles := s.openFiles.erase id } ino
  have hmid : ({ s with openFiles := s.openFiles.erase id } : Store).Tracked := htracked
  exact ⟨(later_openFiles s _ (le_refl _)).trans (.of_sameFrame hframe), hmid.of_sameFrame hframe⟩

/-- **Open directories are followed by every change.** -/
theorem Change.follows (hchange : Change now s t) (h : s.Consistent) (htracked : s.Tracked) :
    Later s t ∧ t.Tracked := by
  have hframed : SameFrame s t → Later s t ∧ t.Tracked := fun hst =>
    ⟨.of_sameFrame hst, htracked.of_sameFrame hst⟩
  cases hchange with
  | revise => exact hframed (.setInode s _ _)
  | touchParent key => exact hframed (.touchParent s now key)
  | link hnormal hfree hparent => exact h.link_follows htracked _ _ hfree
  | unlink hino => exact h.unlink_follows htracked _ hino
  | openFile flags => exact ⟨later_openFiles s _ (Nat.le_succ _), htracked⟩
  | openDir hino => exact registerDir_follows htracked hino
  | closeFile => exact closeFile_follows htracked _ _
  | closeDir => exact closeDir_follows htracked _ _
  | move hino hsource htarget hnormal hfree hapart =>
    obtain ⟨names, more, rfl, rfl, hmove⟩ := h.movable hino hsource htarget hnormal hfree hapart
    exact h.moveTree_follows htracked hmove

theorem Changes.follows (hchanges : Changes now s t) (h : s.Consistent) (htracked : s.Tracked) :
    Later s t ∧ t.Tracked := by
  induction hchanges with
  | refl => exact ⟨.refl s, htracked⟩
  | tail hchanges hchange ih =>
    obtain ⟨hlater, htracked⟩ := ih
    obtain ⟨hlater', htracked'⟩ := hchange.follows (Changes.consistent hchanges h) htracked
    exact ⟨hlater.trans hlater', htracked'⟩

/-! ## Histories -/

theorem after_follows (h : s.Consistent) (htracked : s.Tracked)
    (history : List (Timespec × Operation)) :
    Later s (s.after history) ∧ (s.after history).Tracked := by
  induction history generalizing s with
  | nil => exact ⟨.refl s, htracked⟩
  | cons step history ih =>
    obtain ⟨hlater, htracked'⟩ := (request_changes h step.1 step.2).follows h htracked
    obtain ⟨hlater', hafter⟩ := ih (h.request step.1 step.2) htracked'
    exact ⟨hlater.trans hlater', hafter⟩

theorem Reachable.tracked (h : s.Reachable) : s.Tracked := by
  obtain ⟨now, uid, gid, history, rfl⟩ := h
  exact (after_follows (consistent_new now uid gid) (tracked_new now uid gid) history).2

/-- What has lost its name does not get one again. -/
theorem Consistent.not_named_after (h : s.Consistent) (htracked : s.Tracked) {ino : Nat}
    {i : Inode} (hi : s.inodes[ino]? = some i) (hunlinked : i.linked = false)
    (history : List (Timespec × Operation)) : ¬ (s.after history).Named ino := by
  intro hnamed
  have hold := (after_follows h htracked history).1.named (h.inode_lt (profile_of_inode hi)) hnamed
  rw [(h.linked_iff_named hi).mpr hold] at hunlinked
  cases hunlinked

/-! ## Listings -/

/-- The entries of a listing are these names with their inodes, and each has the kind of its
inode. -/
def Describes (s : Store) (entries : List DirEntry) (listed : List (String × Nat)) : Prop :=
  entries.map (fun e => (e.name, e.inode)) = listed ∧
    ∀ e ∈ entries, ∃ i, s.inodes[e.inode]? = some i ∧ i.kind = e.kind

theorem mapM_entry {listed : List (String × Nat)}
    (h : ∀ p ∈ listed, ∃ i, s.inodes[p.2]? = some i) :
    ∃ entries, listed.mapM s.entry = .ok entries ∧ s.Describes entries listed := by
  induction listed with
  | nil => exact ⟨[], rfl, rfl, fun e he => absurd he List.not_mem_nil⟩
  | cons p listed ih =>
    obtain ⟨name, ino⟩ := p
    obtain ⟨i, hi⟩ := h _ List.mem_cons_self
    obtain ⟨entries, hentries, hnames, hkinds⟩ := ih fun p hp => h p (List.mem_cons_of_mem _ hp)
    refine ⟨{ kind := i.kind, inode := ino, name } :: entries, ?_, ?_, ?_⟩
    · have hentry : s.entry (name, ino) = .ok { kind := i.kind, inode := ino, name } := by
        rw [entry, inode_eq_ok_iff.mpr hi]
        rfl
      rw [List.mapM_cons, hentry, hentries]
      rfl
    · rw [List.map_cons, hnames]
    · exact List.forall_mem_cons.mpr ⟨⟨i, hi, rfl⟩, hkinds⟩

/-- Every entry of a directory can be described. -/
theorem Sound.mapM_entry_children (h : s.Sound) (key : String) (cursor count : Nat) :
    ∃ entries, (((s.children key).drop cursor).take count).mapM s.entry = .ok entries ∧
      s.Describes entries (((s.children key).drop cursor).take count) := by
  refine mapM_entry ?_
  rintro ⟨name, ino⟩ hp
  have hmem := List.mem_of_mem_drop (List.mem_of_mem_take hp)
  exact (h.inode_of_named (Names.mem_children.mp hmem).2).imp fun _ hi => hi.1

theorem readDir_ends (h : s.Sound) {handle : DirHandle} {dir : OpenDir}
    (hdir : s.openDirs[handle.id]? = some dir) (count : Nat) :
    Ends (readDir handle count) s
      (fun result t => t = s ∧
        if s.names[dir.path]? = some dir.inode then
          s.Describes result.1 (((s.children dir.path).drop handle.cursor).take count) ∧
            result.2 = { handle with cursor := handle.cursor + result.1.length }
        else result = ([], handle))
      fun _ _ => False := by
  unfold readDir
  simp only [Ends.bind_iff, Ends.get_iff, hdir, Ends.ite_iff, Ends.pure_iff, Ends.ask_iff, true_and]
  refine ⟨fun hne => by rw [if_neg hne]; trivial, fun hnamed => ?_⟩
  rw [not_not] at hnamed
  obtain ⟨entries, hentries, hdescribes⟩ := h.mapM_entry_children dir.path handle.cursor count
  constructor
  · rintro _ he
    cases hentries.symm.trans he
    rw [if_pos hnamed]
    exact ⟨hdescribes, trivial⟩
  · rintro e he
    rw [hentries] at he
    cases he

/-- The listing of a directory that has no name is empty. -/
theorem request_readDir_of_not_named (h : s.Sound) {id : Nat} {dir : OpenDir}
    (hdir : s.openDirs[id]? = some dir) (hgone : ¬ s.Named dir.inode) (now : Timespec)
    (cursor count : Nat) :
    s.request now (.readDir { id, cursor } count) = (.ok (.entries [] { id, cursor }), s) := by
  have hends : Ends ((Operation.readDir { id, cursor } count).perform now) s
      (fun answer t => t = s ∧ answer = .entries [] { id, cursor }) fun _ _ => False := by
    refine Ends.bind_iff.mpr ((readDir_ends h hdir count).mono ?_ fun _ _ h => h)
    rintro result t ⟨rfl, hresult⟩
    rw [if_neg fun hnamed => hgone ⟨_, hnamed⟩] at hresult
    subst hresult
    exact ⟨rfl, rfl⟩
  have hrequest := request_of_ends hends
  split at hrequest
  · next heq => rw [heq, hrequest.1, hrequest.2]
  · exact hrequest.elim

theorem request_readDir_of_recorded (h : s.Sound) {id : Nat} {dir : OpenDir}
    (hdir : s.openDirs[id]? = some dir) (hnamed : s.names[dir.path]? = some dir.inode)
    (now : Timespec) (cursor count : Nat) :
    ∃ entries, s.request now (.readDir { id, cursor } count) =
        (.ok (.entries entries { id, cursor := cursor + entries.length }), s) ∧
      s.Describes entries (((s.children dir.path).drop cursor).take count) := by
  have hends : Ends ((Operation.readDir { id, cursor } count).perform now) s
      (fun answer t => t = s ∧ ∃ entries,
        answer = .entries entries { id, cursor := cursor + entries.length } ∧
          s.Describes entries (((s.children dir.path).drop cursor).take count))
      fun _ _ => False := by
    refine Ends.bind_iff.mpr ((readDir_ends h hdir count).mono ?_ fun _ _ h => h)
    rintro ⟨entries, moved⟩ t ⟨rfl, hresult⟩
    rw [if_pos hnamed] at hresult
    obtain ⟨hdescribes, hmoved⟩ := hresult
    dsimp only at hdescribes hmoved
    subst hmoved
    exact ⟨rfl, entries, rfl, hdescribes⟩
  have hrequest := request_of_ends hends
  split at hrequest
  · next heq =>
    obtain ⟨rfl, entries, rfl, hdescribes⟩ := hrequest
    exact ⟨entries, heq, hdescribes⟩
  · exact hrequest.elim

/-! ## Open directories over whole histories -/

/-- Open directories remain what they were opened on, and are listed as what they are: with their
present entries in order while they have a name, and without any from then on. -/
structure FollowsDirectories (s : Store) : Prop where
  opened : ∀ ⦃now : Timespec⦄ ⦃path : String⦄ ⦃handle : DirHandle⦄ ⦃t : Store⦄,
    s.request now (.openDir path) = (.ok (.dir handle), t) →
      handle.cursor = 0 ∧ s.openDirs[handle.id]? = none ∧
        ∃ ino, s.names[Path.normalize path]? = some ino ∧
          t.openDirs[handle.id]? = some { inode := ino, path := Path.normalize path }
  bound : ∀ ⦃id : Nat⦄ ⦃dir : OpenDir⦄, s.openDirs[id]? = some dir →
    ∀ history dir', (s.after history).openDirs[id]? = some dir' → dir'.inode = dir.inode
  kept : ∀ ⦃id : Nat⦄ ⦃dir : OpenDir⦄, s.openDirs[id]? = some dir →
    ∃ i, s.inodes[dir.inode]? = some i ∧ i.kind = .directory
  recorded : ∀ ⦃id : Nat⦄ ⦃dir : OpenDir⦄ ⦃i : Inode⦄, s.openDirs[id]? = some dir →
    s.inodes[dir.inode]? = some i → i.linked = true →
      ∀ key : String, s.names[key]? = some dir.inode ↔ key = dir.path
  children : ∀ key : String, (s.children key).Pairwise (fun a b => a.1 < b.1) ∧
    ∀ name ino, (name, ino) ∈ s.children key ↔
      Path.IsName name ∧ s.names[Path.stem key ++ name]? = some ino
  listed : ∀ ⦃id : Nat⦄ ⦃dir : OpenDir⦄ ⦃i : Inode⦄, s.openDirs[id]? = some dir →
    s.inodes[dir.inode]? = some i → i.linked = true → ∀ now cursor count,
      ∃ entries, s.request now (.readDir { id, cursor } count) =
          (.ok (.entries entries { id, cursor := cursor + entries.length }), s) ∧
        s.Describes entries (((s.children dir.path).drop cursor).take count)
  empty : ∀ ⦃id : Nat⦄ ⦃dir : OpenDir⦄ ⦃i : Inode⦄, s.openDirs[id]? = some dir →
    s.inodes[dir.inode]? = some i → i.linked = false →
      ∀ history, (∃ dir', (s.after history).openDirs[id]? = some dir') → ∀ now cursor count,
        (s.after history).request now (.readDir { id, cursor } count) =
          (.ok (.entries [] { id, cursor }), s.after history)

theorem Consistent.followsDirectories (h : s.Consistent) (htracked : s.Tracked) :
    s.FollowsDirectories where
  opened now path handle t heq := by
    have hends : Ends ((Operation.openDir path).perform now) s (fun answer t => ∃ ino,
        s.names[Path.normalize path]? = some ino ∧
          answer = .dir { id := s.nextHandle } ∧ t = (s.registerDir ino (Path.normalize path)).2)
        fun _ t => t = s := by
      refine Ends.map_iff.mpr ((openDir_ends path).mono ?_ fun _ _ h => h)
      rintro opened t ⟨ino, i, hino, -, -, hopened⟩
      have hhandle : { id := s.nextHandle } = opened := congrArg Prod.fst hopened
      exact ⟨ino, hino, by rw [hhandle], (congrArg Prod.snd hopened).symm⟩
    obtain ⟨ino, hino, he, rfl⟩ := good_of_request hends heq
    cases he
    refine ⟨rfl, ?_, ino, hino, by rw [getElem?_openDirs_registerDir, if_pos rfl]⟩
    exact Option.eq_none_iff_forall_ne_some.mpr fun dir hdir => lt_irrefl _ (h.dir_lt hdir)
  bound id dir hdir history dir' hdir' := by
    obtain ⟨old, hold, he⟩ := (after_follows h htracked history).1.bound (h.dir_lt hdir) hdir'
    rw [hdir] at hold
    rw [he, ← Option.some.inj hold]
  kept := h.keepsInUse.open_dir
  recorded id dir i hdir hi hlinked key := by
    have hrecorded := htracked hdir ((h.linked_iff_named hi).mp hlinked)
    exact ⟨fun hkey => h.name_unique hkey hrecorded, fun he => he ▸ hrecorded⟩
  children key := ⟨Names.sorted_children s.names key, fun _ _ => Names.mem_children⟩
  listed id dir i hdir hi hlinked now cursor count :=
    request_readDir_of_recorded h.toSound hdir (htracked hdir ((h.linked_iff_named hi).mp hlinked))
      now cursor count
  empty id dir i hdir hi hunlinked history := by
    rintro ⟨dir', hdir'⟩ now cursor count
    obtain ⟨old, hold, he⟩ := (after_follows h htracked history).1.bound (h.dir_lt hdir) hdir'
    cases hdir.symm.trans hold
    refine request_readDir_of_not_named (h.after history).toSound hdir' ?_ now cursor count
    rw [he]
    exact h.not_named_after htracked hi hunlinked history

/-- **After every history the open directories are followed for all that comes.** -/
theorem followsDirectories_after_new (now : Timespec) (uid gid : Nat)
    (history : List (Timespec × Operation)) :
    ((Store.new now uid gid).after history).FollowsDirectories :=
  let hreachable : Reachable _ := ⟨now, uid, gid, history, rfl⟩
  hreachable.consistent.followsDirectories hreachable.tracked

end FileScript.Store
