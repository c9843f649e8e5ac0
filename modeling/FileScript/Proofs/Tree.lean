import FileScript.Proofs.Histories

/-!
# The names of a store form a tree

A store keeps whole paths and no list of entries for a directory, so nothing but its requests makes
its names those of a tree (`Store.IsTree`): every name hangs from exactly one directory, and steps
from a directory to its children lead from the root to every name.
-/

namespace FileScript.Store

variable {s : Store}

/-- A step down from a directory to one of its entries. -/
def IsChild (s : Store) (above key : String) : Prop :=
  s.NamesDirectory above ∧
    ∃ name ino, (name, ino) ∈ s.children above ∧ key = Path.stem above ++ name

/-- The names are those of a tree of directories. -/
structure IsTree (s : Store) : Prop where
  root : s.names[Path.root]? = some rootInode ∧ s.NamesDirectory Path.root
  normal : ∀ ⦃key : String⦄ ⦃ino : Nat⦄, s.names[key]? = some ino → Path.isNormal key = true
  short : ∀ ⦃key : String⦄ ⦃ino : Nat⦄, s.names[key]? = some ino →
    ∀ name ∈ Path.components key, name.utf8ByteSize ≤ maxNameSize
  parent : ∀ ⦃key : String⦄ ⦃ino : Nat⦄, s.names[key]? = some ino → key ≠ Path.root →
    s.NamesDirectory (Path.parent key)
  inode : ∀ ⦃key : String⦄ ⦃ino : Nat⦄, s.names[key]? = some ino → ∃ i, s.inodes[ino]? = some i
  unique : ∀ ⦃key other : String⦄ ⦃ino : Nat⦄, s.names[key]? = some ino →
    s.names[other]? = some ino → key = other
  child : ∀ ⦃key : String⦄ ⦃ino : Nat⦄, s.names[key]? = some ino → key ≠ Path.root →
    ∃! above, s.IsChild above key
  reached : ∀ ⦃key : String⦄ ⦃ino : Nat⦄, s.names[key]? = some ino →
    Relation.ReflTransGen s.IsChild Path.root key

namespace Sound

variable (h : s.Sound) {key : String} {ino : Nat}

include h

theorem namesDirectory_root : s.NamesDirectory Path.root := by
  obtain ⟨i, hi, hkind, -⟩ := profile_eq_some_iff.mp h.root_directory
  exact ⟨rootInode, i, h.root_named, hi, hkind⟩

/-- A name is a child of the directory above it. -/
theorem isChild_of_named {above : List String} {name : String} (habove : Path.AreNames above)
    (hname : Path.IsName name) (hino : s.names[Path.ofComponents (above ++ [name])]? = some ino) :
    s.IsChild (Path.ofComponents above) (Path.ofComponents (above ++ [name])) := by
  obtain ⟨up, hup, hdir⟩ := h.above_named habove hname hino
  obtain ⟨i, hi, hkind, -⟩ := profile_eq_some_iff.mp hdir
  rw [Path.ofComponents_concat habove] at hino ⊢
  exact ⟨⟨up, i, hup, hi, hkind⟩, name, ino, Names.mem_children.mpr ⟨hname, hino⟩, rfl⟩

/-- The directory of which something is a child is its parent. -/
theorem eq_parent_of_isChild {above : String} (hchild : s.IsChild above key) :
    above = Path.parent key := by
  obtain ⟨⟨up, -, hup, -⟩, name, n, hmem, rfl⟩ := hchild
  obtain ⟨names, -, rfl⟩ := Path.exists_names (h.all_normal hup)
  exact (Path.parent_child (Names.mem_children.mp hmem).1 (Path.ofComponents_ne_empty names)).symm

theorem reached_of_named {names : List String} (hnames : Path.AreNames names)
    (hino : s.names[Path.ofComponents names]? = some ino) :
    Relation.ReflTransGen s.IsChild Path.root (Path.ofComponents names) := by
  induction names using List.reverseRecOn generalizing ino with
  | nil => exact Relation.ReflTransGen.refl
  | append_singleton above name ih =>
    obtain ⟨habove, hname⟩ := Path.areNames_concat.mp hnames
    obtain ⟨up, hup, -⟩ := h.above_named habove hname hino
    exact (ih habove hup).tail (h.isChild_of_named habove hname hino)

/-- Every component was the last one of a name on the way down, so none is too long. -/
theorem short_of_named {names : List String} (hnames : Path.AreNames names)
    (hino : s.names[Path.ofComponents names]? = some ino) :
    ∀ name ∈ names, name.utf8ByteSize ≤ maxNameSize := by
  induction names using List.reverseRecOn generalizing ino with
  | nil => exact fun name hmem => absurd hmem List.not_mem_nil
  | append_singleton above last ih =>
    obtain ⟨habove, hlast⟩ := Path.areNames_concat.mp hnames
    obtain ⟨up, hup, -⟩ := h.above_named habove hlast hino
    intro name hmem
    rcases List.mem_append.mp hmem with hmem | hmem
    · exact ih habove hup name hmem
    · have hshort := h.name_short hino
      rw [Path.baseName_ofComponents_concat habove hlast] at hshort
      rw [List.mem_singleton.mp hmem]
      exact hshort

theorem isTree : s.IsTree where
  root := ⟨h.root_named, h.namesDirectory_root⟩
  normal := h.all_normal
  short key ino hino := by
    obtain ⟨names, hnames, rfl⟩ := Path.exists_names (h.all_normal hino)
    rw [Path.components_ofComponents hnames]
    exact h.short_of_named hnames hino
  parent key ino hino hroot := by
    obtain ⟨up, hup, hdir⟩ := h.parent_named hino hroot
    obtain ⟨i, hi, hkind, -⟩ := profile_eq_some_iff.mp hdir
    exact ⟨up, i, hup, hi, hkind⟩
  inode key ino hino := (h.inode_of_named hino).imp fun _ hi => hi.1
  unique := h.name_unique
  child key ino hino hroot := by
    obtain ⟨above, name, habove, hname, rfl⟩ :=
      Path.exists_names_concat (h.all_normal hino) hroot
    refine ⟨_, h.isChild_of_named habove hname hino, fun other hother => ?_⟩
    rw [h.eq_parent_of_isChild hother, Path.parent_ofComponents_concat habove hname]
  reached key ino hino := by
    obtain ⟨names, hnames, rfl⟩ := Path.exists_names (h.all_normal hino)
    exact h.reached_of_named hnames hino

end Sound

/-- **After every history the names form a tree**, whatever was requested and refused. -/
theorem isTree_after_new (now : Timespec) (uid gid : Nat) (history : List (Timespec × Operation)) :
    ((Store.new now uid gid).after history).IsTree :=
  (Reachable.consistent ⟨now, uid, gid, history, rfl⟩).isTree

end FileScript.Store
