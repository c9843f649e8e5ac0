import FileScript.Proofs.Entries
import FileScript.Proofs.Resolution
import FileScript.Proofs.Tree

/-!
# Counts of links

The number of links of a directory is found by looking at what stands below it in the table of
names. It is two more than the number of directories of which it is the parent, and so the numbers
of links of all directories add up as they do in a tree (`Store.CountsLinks`).

1. The directories that are found among the entries of a directory are those whose parent it is,
   each once (`Store.Sound.subdirectoryCount_eq`).
2. A listing that comes to its end shows the same ones (`Store.Sound.countP_listed`).
3. Every directory but the root is counted in its parent and nowhere else
   (`Store.Sound.sum_card_directoriesIn`).
-/

namespace FileScript.Store

variable {s : Store} {key path : String} {ino : Nat} {i : Inode}

/-! ## Directories -/

/-- The normal paths of all directories. -/
def directories (s : Store) : Finset String :=
  {key ∈ s.names.keys.toFinset |
    (s.names[key]?.bind (s.inodes[·]?)).map Inode.kind = some .directory}

/-- The directories of which a normal path is the parent. -/
def directoriesIn (s : Store) (above : String) : Finset String :=
  {key ∈ s.directories | key ≠ Path.root ∧ Path.parent key = above}

theorem mem_directories : key ∈ s.directories ↔ s.NamesDirectory key := by
  unfold directories NamesDirectory
  rw [Finset.mem_filter, List.mem_toFinset, Std.TreeMap.mem_keys,
    Std.TreeMap.mem_iff_isSome_getElem?]
  simp only [Option.map_eq_some_iff, Option.bind_eq_some_iff]
  constructor
  · rintro ⟨-, i, ⟨ino, hino, hi⟩, hkind⟩
    exact ⟨ino, i, hino, hi, hkind⟩
  · rintro ⟨ino, i, hino, hi, hkind⟩
    exact ⟨Option.isSome_of_mem hino, i, ⟨ino, hino, hi⟩, hkind⟩

/-- The entries of a directory that are directories. -/
def subdirectories (s : Store) (key : String) : List (String × Nat) :=
  (s.children key).filter fun (_, ino) => (s.inodes[ino]?.map Inode.kind) = some .directory

theorem subdirectoryCount_eq_length (s : Store) (key : String) :
    s.subdirectoryCount key = (s.subdirectories key).length :=
  List.countP_eq_length_filter

theorem mem_subdirectories {name : String} :
    (name, ino) ∈ s.subdirectories key ↔
      (name, ino) ∈ s.children key ∧ ∃ i, s.inodes[ino]? = some i ∧ i.kind = .directory := by
  unfold subdirectories
  rw [List.mem_filter, decide_eq_true_iff, Option.map_eq_some_iff]

/-- Entries of one directory have different paths. -/
theorem nodup_paths_subdirectories (s : Store) (key : String) :
    ((s.subdirectories key).map fun e => Path.stem key ++ e.1).Nodup := by
  refine List.pairwise_map.mpr (((Names.sorted_children s.names key).filter _).imp ?_)
  intro a b hlt he
  rw [(String.append_right_inj _).mp he] at hlt
  exact lt_irrefl _ hlt

namespace Sound

variable (h : s.Sound)

include h

/-- The directories among the entries of a directory are those whose parent it is. -/
theorem paths_subdirectories (hdir : s.NamesDirectory key) :
    ((s.subdirectories key).map fun e => Path.stem key ++ e.1).toFinset = s.directoriesIn key := by
  ext path
  unfold directoriesIn
  rw [List.mem_toFinset, List.mem_map, Finset.mem_filter, mem_directories]
  constructor
  · rintro ⟨⟨name, ino⟩, hmem, rfl⟩
    obtain ⟨hchild, i, hi, hkind⟩ := mem_subdirectories.mp hmem
    obtain ⟨hname, hino⟩ := Names.mem_children.mp hchild
    obtain ⟨_, _, habove, -⟩ := hdir
    exact ⟨⟨ino, i, hino, hi, hkind⟩, stem_append_ne_root key hname, h.parent_of_entry habove hname⟩
  · rintro ⟨⟨ino, i, hino, hi, hkind⟩, hroot, hparent⟩
    obtain ⟨above, name, habove, hname, rfl⟩ := Path.exists_names_concat (h.all_normal hino) hroot
    rw [Path.parent_ofComponents_concat habove hname] at hparent
    rw [Path.ofComponents_concat habove, hparent] at hino ⊢
    exact ⟨(name, ino), mem_subdirectories.mpr ⟨Names.mem_children.mpr ⟨hname, hino⟩, i, hi, hkind⟩,
      rfl⟩

/-- Among the entries of a directory, the directories whose parent it is are counted. -/
theorem subdirectoryCount_eq (hdir : s.NamesDirectory key) :
    s.subdirectoryCount key = (s.directoriesIn key).card := by
  rw [subdirectoryCount_eq_length, ← h.paths_subdirectories hdir,
    List.toFinset_card_of_nodup (s.nodup_paths_subdirectories key), List.length_map]

/-- The root is a directory. -/
theorem root_mem_directories : Path.root ∈ s.directories :=
  mem_directories.mpr h.namesDirectory_root

/-- Every directory but the root is in one directory, and in no other. -/
theorem sum_card_directoriesIn :
    ∑ key ∈ s.directories, (s.directoriesIn key).card + 1 = s.directories.card := by
  have hparent : Set.MapsTo Path.parent (s.directories.erase Path.root) s.directories := by
    intro key hkey
    obtain ⟨hroot, hkey⟩ := Finset.mem_erase.mp hkey
    obtain ⟨ino, _, hino, -⟩ := mem_directories.mp hkey
    exact mem_directories.mpr (h.isTree.parent hino hroot)
  have hin : ∀ above, s.directoriesIn above =
      {key ∈ s.directories.erase Path.root | Path.parent key = above} := fun above => by
    ext key
    simp only [directoriesIn, Finset.mem_filter, Finset.mem_erase]
    tauto
  rw [← Finset.card_erase_add_one h.root_mem_directories,
    Finset.card_eq_sum_card_fiberwise hparent]
  simp only [hin]

end Sound

/-! ## Listings -/

/-- A listing is determined by the entries that it describes. -/
theorem Describes.unique {entries entries' : List DirEntry} {listed : List (String × Nat)}
    (h : s.Describes entries listed) (h' : s.Describes entries' listed) : entries = entries' := by
  obtain ⟨rfl, hkinds⟩ := h
  obtain ⟨hmap, hkinds'⟩ := h'
  induction entries generalizing entries' with
  | nil => exact (List.map_eq_nil_iff.mp hmap).symm
  | cons e entries ih =>
    obtain ⟨e', entries', rfl⟩ : ∃ e' rest, entries' = e' :: rest :=
      List.exists_cons_of_ne_nil fun hnil => by rw [hnil] at hmap; cases hmap
    rw [List.map_cons, List.map_cons, List.cons.injEq, Prod.mk.injEq] at hmap
    obtain ⟨kind, ino, name⟩ := e
    obtain ⟨kind', ino', name'⟩ := e'
    obtain ⟨⟨rfl, rfl⟩, hmap⟩ := hmap
    obtain ⟨⟨i, hi, rfl⟩, hrest⟩ := List.forall_mem_cons.mp hkinds
    obtain ⟨⟨i', hi', rfl⟩, hrest'⟩ := List.forall_mem_cons.mp hkinds'
    cases hi.symm.trans hi'
    rw [ih hrest hmap hrest']

/-- A listing shows as many directories as there are among the entries that it describes. -/
theorem Describes.countP_directory {entries : List DirEntry}
    (hdescribes : s.Describes entries (s.children key)) :
    entries.countP (·.kind = .directory) = s.subdirectoryCount key := by
  obtain ⟨hmap, hkinds⟩ := hdescribes
  unfold subdirectoryCount
  rw [← hmap, List.countP_map]
  refine List.countP_congr fun e he => ?_
  obtain ⟨i, hi, hkind⟩ := hkinds e he
  simp only [Function.comp_apply, hi, Option.map_some, Option.some.injEq, hkind]

/-- A handle at the beginning of a directory lists all of its entries, if so many are asked for. -/
theorem Sound.exists_listing (h : s.Sound) {id : Nat} {opened : OpenDir}
    (hopened : s.openDirs[id]? = some opened) (hnamed : s.names[opened.path]? = some opened.inode) :
    ∃ entries, s.Describes entries (s.children opened.path) ∧
      ∀ now count, entries.length ≤ count → s.request now (.readDir { id, cursor := 0 } count) =
        (.ok (.entries entries { id, cursor := entries.length }), s) := by
  have hanswer := fun now count => request_readDir_of_recorded h hopened hnamed now 0 count
  simp only [List.drop_zero, Nat.zero_add] at hanswer
  obtain ⟨entries, -, hdescribes⟩ := hanswer {} (s.children opened.path).length
  rw [List.take_length] at hdescribes
  refine ⟨entries, hdescribes, fun now count hcount => ?_⟩
  obtain ⟨entries', hrequest, hdescribes'⟩ := hanswer now count
  rw [← hdescribes.1, List.take_of_length_le (by rwa [List.length_map]), hdescribes.1]
    at hdescribes'
  rwa [← hdescribes.unique hdescribes'] at hrequest

/-! ## Numbers of links -/

/-- A request for the attributes at a path is answered, and reports this number of links. -/
def ReportsLinks (s : Store) (path : String) (links : Nat) : Prop :=
  ∀ now, ∃ a, s.request now (.stat path) = (.ok (.attributes a), s) ∧ a.links = links

/-- What has a name reports the number of links of its kind. -/
theorem reportsLinks_of_inode (hino : s.names[Path.normalize path]? = some ino)
    (hi : s.inodes[ino]? = some i) :
    s.ReportsLinks path (if i.kind = .directory then 2 + s.subdirectoryCount (Path.normalize path)
      else if i.linked then 1 else 0) := by
  intro now
  obtain ⟨a, ha, hlinks⟩ : ∃ a, s.attributes (Path.normalize path) ino = .ok a ∧ a.links =
      if i.kind = .directory then 2 + s.subdirectoryCount (Path.normalize path)
      else if i.linked then 1 else 0 := by
    unfold attributes
    rw [inode_eq_ok_iff.mpr hi]
    cases hnode : i.node <;> exact ⟨_, rfl, by simp [Inode.kind, Node.kind, hnode]⟩
  have hends : Ends ((Operation.stat path).perform now) s
      (fun answer t => answer = .attributes a ∧ t = s) fun _ _ => False := by
    refine Ends.map_iff.mpr ?_
    unfold stat
    rw [Ends.bind_iff, ends_ask_resolve hino, Ends.ask_iff, ha]
    exact ⟨fun _ he => ⟨congrArg _ (Except.ok.inj he).symm, rfl⟩, fun _ he => by cases he⟩
  rcases request_cases hends with ⟨_, _, heq, rfl, rfl⟩ | ⟨_, _, -, hfalse⟩
  · exact ⟨a, heq, hlinks⟩
  · exact hfalse.elim

theorem ReportsLinks.eq {links links' : Nat} (h : s.ReportsLinks path links)
    (h' : s.ReportsLinks path links') : links = links' := by
  obtain ⟨a, ha, rfl⟩ := h {}
  obtain ⟨a', ha', rfl⟩ := h' {}
  cases ha.symm.trans ha'
  rfl

theorem Sound.reportsLinks_directory (h : s.Sound) (hdir : s.NamesDirectory (Path.normalize path)) :
    s.ReportsLinks path (2 + (s.directoriesIn (Path.normalize path)).card) := by
  rw [← h.subdirectoryCount_eq hdir]
  obtain ⟨ino, i, hino, hi, hkind⟩ := hdir
  have hlinks := reportsLinks_of_inode hino hi
  rwa [if_pos hkind] at hlinks

theorem Sound.reportsLinks_file (h : s.Sound) (hfile : s.NamesFile (Path.normalize path)) :
    s.ReportsLinks path 1 := by
  obtain ⟨ino, i, hino, hi, hkind⟩ := hfile
  obtain ⟨i', hi', hlinked⟩ := h.inode_of_named hino
  cases hi.symm.trans hi'
  have hlinks := reportsLinks_of_inode hino hi
  rwa [hkind, if_neg (by decide), if_pos hlinked] at hlinks

/-! ## All stores -/

/-- The numbers of links are those of a tree: a directory has two, and one more for each directory
whose parent it is; these are the directories that its whole listing shows. A file has one. What the
directories have beyond two counts all directories but the root. -/
structure CountsLinks (s : Store) : Prop where
  directory : ∀ ⦃path : String⦄, s.NamesDirectory (Path.normalize path) →
    s.ReportsLinks path (2 + (s.directoriesIn (Path.normalize path)).card)
  listing : ∀ ⦃key : String⦄ ⦃id : Nat⦄ ⦃opened : OpenDir⦄, s.openDirs[id]? = some opened →
    s.names[key]? = some opened.inode → ∃ entries : List DirEntry,
      (∀ now count, entries.length ≤ count → s.request now (.readDir { id, cursor := 0 } count) =
        (.ok (.entries entries { id, cursor := entries.length }), s)) ∧
      entries.countP (·.kind = .directory) = (s.directoriesIn key).card
  file : ∀ ⦃path : String⦄, s.NamesFile (Path.normalize path) → s.ReportsLinks path 1
  total : ∀ ⦃links : String → Nat⦄, (∀ key ∈ s.directories, s.ReportsLinks key (links key)) →
    ∑ key ∈ s.directories, ((links key : ℤ) - 2) = (s.directories.card : ℤ) - 1

/-- Beyond two links for each, the directories are linked as often as there are others than the
root. -/
theorem Sound.sum_links (h : s.Sound) {links : String → Nat}
    (hlinks : ∀ key ∈ s.directories, s.ReportsLinks key (links key)) :
    ∑ key ∈ s.directories, ((links key : ℤ) - 2) = (s.directories.card : ℤ) - 1 := by
  have hextra : ∀ key ∈ s.directories, (links key : ℤ) - 2 = (s.directoriesIn key).card := by
    intro key hkey
    have hdir := mem_directories.mp hkey
    obtain ⟨ino, _, hino, -⟩ := id hdir
    have hnormal : Path.normalize key = key := if_pos (h.all_normal hino)
    rw [← hnormal] at hdir
    rw [(hlinks key hkey).eq (h.reportsLinks_directory hdir), hnormal]
    push_cast
    ring
  rw [Finset.sum_congr rfl hextra, ← h.sum_card_directoriesIn]
  push_cast
  ring

/-- **In every store that can be reached, the numbers of links are those of a tree.** -/
theorem countsLinks_after_new (now : Timespec) (uid gid : Nat)
    (history : List (Timespec × Operation)) :
    ((Store.new now uid gid).after history).CountsLinks := by
  have hreachable : ((Store.new now uid gid).after history).Reachable :=
    ⟨now, uid, gid, history, rfl⟩
  have h := hreachable.consistent.toSound
  refine ⟨fun _ => h.reportsLinks_directory, ?_, fun _ => h.reportsLinks_file, fun _ => h.sum_links⟩
  intro key id opened hopened hkey
  have hrecorded := hreachable.tracked hopened ⟨key, hkey⟩
  obtain rfl := h.name_unique hkey hrecorded
  obtain ⟨entries, hdescribes, hlists⟩ := h.exists_listing hopened hrecorded
  obtain ⟨linked, hprofile⟩ := h.dir_open hopened
  obtain ⟨i, hi, hkind, -⟩ := profile_eq_some_iff.mp hprofile
  refine ⟨entries, hlists, ?_⟩
  rw [hdescribes.countP_directory, h.subdirectoryCount_eq ⟨_, i, hrecorded, hi, hkind⟩]

end FileScript.Store
