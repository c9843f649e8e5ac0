import FileScript.Names
import FileScript.Proofs.ByteOrder
import FileScript.Proofs.Paths

/-!
# What the functions on name tables look up

A stretch of a name table is found by looking for its first name and going on while the stem fits,
by the bytes of the names (`scan_eq_of_bytes`). Since the names that begin with a stem stand side by
side in the order of the table, the stretch holds all of them (`scan_eq_filter`), so the children of
a directory are the names one step below it (`mem_children`), and what moves with a name are the
names at and below it (`mem_subtree`). A move takes the entries one after the other;
`getElem?_move_target`, `getElem?_move_source` and `getElem?_move_other` are the table after the
last of them.
-/

namespace FileScript

namespace Path

/-- The name of the entry of a directory to which a path leads, if it leads to one. -/
def entryName? (directory path : String) : Option String :=
  let name := String.ofList (path.toList.drop (stem directory).length)
  if path.startsWith (stem directory) ∧ IsName name then some name else none

theorem isName_ofList {text : List Char} :
    IsName (String.ofList text) ↔ text ≠ [] ∧ '/' ∉ text := by
  rw [IsName, String.toList_ofList, Ne, ← String.toList_eq_nil_iff, String.toList_ofList]

/-- The path is the stem of the directory with a name after it. -/
theorem entryName?_eq_some_iff {directory path name : String} :
    entryName? directory path = some name ↔ IsName name ∧ path = stem directory ++ name := by
  unfold entryName?
  dsimp only
  rw [Option.ite_none_right_eq_some, Option.some.injEq, String.startsWith_string_iff]
  constructor
  · rintro ⟨⟨⟨rest, hrest⟩, hname⟩, rfl⟩
    refine ⟨hname, ?_⟩
    rw [← String.toList_inj, String.toList_append, String.toList_ofList, ← hrest,
      ← String.length_toList, List.drop_left]
  · rintro ⟨hname, rfl⟩
    rw [String.toList_append, ← String.length_toList, List.drop_left, String.ofList_toList]
    exact ⟨⟨List.prefix_append _ _, hname⟩, rfl⟩

end Path

namespace Names

variable {names : Names}

/-! ## Stretches of a sorted list -/

theorem not_lt_of_prefix {stem a : List Char} (h : stem <+: a) : ¬ a < stem := by
  induction stem generalizing a with
  | nil => exact List.not_lt_nil a
  | cons c stem ih =>
    obtain ⟨tail, rfl⟩ := h
    rw [List.cons_append, List.cons_lt_cons_iff, not_or, not_and]
    exact ⟨lt_irrefl c, fun _ => ih (List.prefix_append _ _)⟩

/-- Between a stem and a text that begins with it, every text begins with it. -/
theorem prefix_of_between {stem a b : List Char} (hstem : ¬ a < stem) (hab : a < b)
    (hb : stem <+: b) : stem <+: a := by
  induction stem generalizing a b with
  | nil => exact List.nil_prefix
  | cons c stem ih =>
    obtain ⟨tail, rfl⟩ := hb
    cases a with
    | nil => exact absurd (List.nil_lt_cons c stem) hstem
    | cons d a =>
      rw [List.cons_append, List.cons_lt_cons_iff] at hab
      rw [List.cons_lt_cons_iff, not_or, not_and] at hstem
      rcases hab with hlt | ⟨rfl, hab⟩
      · exact absurd hlt hstem.1
      · exact List.cons_prefix_cons.mpr ⟨rfl, ih (hstem.2 rfl) hab (List.prefix_append _ _)⟩

/-- In a sorted list, what stands inside a stretch is found by passing over what comes before it and
going on to its end. -/
theorem takeWhile_dropWhile_eq_filter {α : Type} {r : α → α → Prop} {before inside : α → Bool}
    {l : List α} (hsorted : l.Pairwise r) (hbefore : ∀ a b, r a b → before b → before a)
    (hinside : ∀ a b, r a b → inside b → ¬ before a → inside a)
    (hdisjoint : ∀ a, inside a → ¬ before a) :
    (l.dropWhile before).takeWhile inside = l.filter inside := by
  induction l with
  | nil => rfl
  | cons a l ih =>
    obtain ⟨ha, hsorted⟩ := List.pairwise_cons.mp hsorted
    replace ih := ih hsorted
    by_cases hb : before a = true
    · rw [List.dropWhile_cons_of_pos hb, ih, List.filter_cons_of_neg fun h => hdisjoint a h hb]
    · rw [List.dropWhile_cons_of_neg hb]
      by_cases hi : inside a = true
      · have hrest : l.dropWhile before = l := by
          cases l with
          | nil => rfl
          | cons b l =>
            exact List.dropWhile_cons_of_neg fun h => hb (hbefore a b (ha b List.mem_cons_self) h)
        rw [List.takeWhile_cons_of_pos hi, List.filter_cons_of_pos hi, ← ih, hrest]
      · rw [List.takeWhile_cons_of_neg hi, eq_comm, List.filter_eq_nil_iff]
        intro b hmem h
        rcases List.mem_cons.mp hmem with rfl | hmem
        · exact hi h
        · exact hi (hinside a b (ha b hmem) h hb)

/-! ## Scans -/

theorem sorted_toList (names : Names) : names.toList.Pairwise fun a b => a.1 < b.1 :=
  Std.TreeMap.ordered_keys_toList.imp fun h => compare_lt_iff_lt.mp h

theorem scan_eq_filter (stem : String) :
    names.scan stem = names.toList.filter (·.1.startsWith stem) := by
  refine takeWhile_dropWhile_eq_filter names.sorted_toList ?_ ?_ ?_
  · intro a b hab hb
    exact decide_eq_true (lt_trans hab (of_decide_eq_true hb))
  · intro a b hab hb ha
    rw [String.startsWith_string_iff] at hb ⊢
    exact prefix_of_between (fun h => ha (decide_eq_true (String.lt_iff_toList_lt.mpr h)))
      (String.lt_iff_toList_lt.mp hab) hb
  · intro a ha hb
    rw [String.startsWith_string_iff] at ha
    exact not_lt_of_prefix ha (String.lt_iff_toList_lt.mp (of_decide_eq_true hb))

theorem mem_scan {stem key : String} {ino : Nat} :
    (key, ino) ∈ names.scan stem ↔ names[key]? = some ino ∧ key.startsWith stem = true := by
  rw [scan_eq_filter, List.mem_filter, Std.TreeMap.mem_toList_iff_getElem?_eq_some]

/-- A scan finds each name once. -/
theorem nodup_scan (names : Names) (stem : String) :
    ((names.scan stem).map Prod.fst).Nodup := by
  rw [scan_eq_filter]
  exact List.pairwise_map.mpr ((names.sorted_toList.filter _).imp fun h => h.ne)

theorem startsWith_iff_bytes {path stem : String} :
    path.startsWith stem = true ↔ Content.bytes stem.toUTF8 <+: Content.bytes path.toUTF8 := by
  rw [String.startsWith_string_iff, Text.prefix_iff_bytes_prefix]

/-- What a scan is by the bytes of the paths. -/
theorem scan_eq_of_bytes (names : Names) (stem : String) :
    names.scan stem =
      (names.toList.dropWhile fun e =>
        Content.bytes e.1.toUTF8 < Content.bytes stem.toUTF8).takeWhile fun e =>
          (Content.bytes stem.toUTF8).isPrefixOf (Content.bytes e.1.toUTF8) := by
  have hstarts : ∀ path : String, path.startsWith stem =
      (Content.bytes stem.toUTF8).isPrefixOf (Content.bytes path.toUTF8) := fun path => by
    rw [Bool.eq_iff_iff, startsWith_iff_bytes, List.isPrefixOf_iff_prefix]
  simp only [scan, Text.lt_iff_bytes_lt, hstarts]

/-! ## Children -/

/-- The children of a directory are what a look at every path finds. -/
theorem children_eq_filterMap (names : Names) (directory : String) :
    names.children directory =
      names.toList.filterMap fun e => (Path.entryName? directory e.1).map (·, e.2) := by
  unfold children
  dsimp only
  rw [scan_eq_filter, List.filterMap_filter]
  refine List.filterMap_congr fun e _ => ?_
  by_cases hstem : e.1.startsWith (Path.stem directory) = true
  · simp only [Path.entryName?, hstem, Path.isName_ofList, true_and, if_true]
    split <;> rfl
  · simp [Path.entryName?, hstem]

/-- They are the names one step below it. -/
theorem mem_children {directory name : String} {ino : Nat} :
    (name, ino) ∈ names.children directory ↔
      Path.IsName name ∧ names[Path.stem directory ++ name]? = some ino := by
  rw [children_eq_filterMap, List.mem_filterMap]
  simp only [Option.map_eq_some_iff, Path.entryName?_eq_some_iff, Prod.mk.injEq]
  constructor
  · rintro ⟨⟨key, ino⟩, hmem, name, ⟨hname, rfl⟩, rfl, rfl⟩
    exact ⟨hname, Std.TreeMap.mem_toList_iff_getElem?_eq_some.mp hmem⟩
  · rintro ⟨hname, hino⟩
    exact ⟨_, Std.TreeMap.mem_toList_iff_getElem?_eq_some.mpr hino, name, ⟨hname, rfl⟩, rfl, rfl⟩

theorem lt_of_append_lt {stem a b : List Char} (h : stem ++ a < stem ++ b) : a < b := by
  rcases lt_trichotomy a b with hab | rfl | hba
  · exact hab
  · exact absurd h (lt_irrefl _)
  · exact absurd h (lt_asymm (List.append_left_lt hba))

/-- The children of a directory stand in the order of their names. -/
theorem sorted_children (names : Names) (directory : String) :
    (names.children directory).Pairwise fun a b => a.1 < b.1 := by
  rw [children_eq_filterMap, List.pairwise_filterMap]
  refine names.sorted_toList.imp fun {e e'} hlt child hchild child' hchild' => ?_
  obtain ⟨name, hname, rfl⟩ := Option.map_eq_some_iff.mp hchild
  obtain ⟨name', hname', rfl⟩ := Option.map_eq_some_iff.mp hchild'
  rw [(Path.entryName?_eq_some_iff.mp hname).2, (Path.entryName?_eq_some_iff.mp hname').2,
    String.lt_iff_toList_lt, String.toList_append, String.toList_append] at hlt
  exact String.lt_iff_toList_lt.mpr (lt_of_append_lt hlt)

/-! ## What moves -/

/-- What moves with a name are the names at and below it. -/
theorem mem_subtree {top key : String} {ino : Nat} :
    (key, ino) ∈ names.subtree top ↔ names[key]? = some ino ∧ Path.isWithin top key = true := by
  unfold subtree Path.isWithin
  rw [List.mem_append, mem_scan, Bool.or_eq_true, beq_iff_eq, and_or_left]
  refine or_congr_left ?_
  rw [Option.mem_toList, Option.map_eq_some_iff]
  constructor
  · rintro ⟨_, h, he⟩
    obtain ⟨rfl, rfl⟩ := Prod.mk.inj he
    exact ⟨h, rfl⟩
  · rintro ⟨h, rfl⟩
    exact ⟨ino, h, rfl⟩

/-- Each of them is found once. -/
theorem nodup_subtree (names : Names) (top : String) :
    ((names.subtree top).map Prod.fst).Nodup := by
  unfold subtree
  cases names[top]? with
  | none => exact names.nodup_scan _
  | some ino =>
    refine List.nodup_cons.mpr ⟨fun hmem => ?_, names.nodup_scan _⟩
    obtain ⟨⟨key, ino'⟩, hmem, rfl⟩ := List.mem_map.mp hmem
    have hlength := (String.startsWith_string_iff.mp (mem_scan.mp hmem).2).length_le
    simp at hlength

/-! ## What scans find -/

/-- What the scans of a table find. The children of a directory are found by a scan for its stem:
one entry for each path that is the stem and a name, in the order of the bytes of the names. What
moves with a place is found by a scan for what lies below it: each path there, once. -/
structure ScansFully (names : Names) : Prop where
  table : names.toList.Pairwise fun a b => Content.bytes a.1.toUTF8 < Content.bytes b.1.toUTF8
  scans : ∀ stem, names.scan stem =
    (names.toList.dropWhile fun e =>
      Content.bytes e.1.toUTF8 < Content.bytes stem.toUTF8).takeWhile fun e =>
        (Content.bytes stem.toUTF8).isPrefixOf (Content.bytes e.1.toUTF8)
  children : ∀ directory, names.children directory =
    names.toList.filterMap fun e => (Path.entryName? directory e.1).map (·, e.2)
  child : ∀ directory name ino, (name, ino) ∈ names.children directory ↔
    Path.IsName name ∧ names[Path.stem directory ++ name]? = some ino
  ascending : ∀ directory, (names.children directory).Pairwise fun a b =>
    Content.bytes a.1.toUTF8 < Content.bytes b.1.toUTF8
  once : ∀ directory, ((names.children directory).map Prod.fst).Nodup
  below : ∀ top, names.scan (top ++ "/") =
    names.toList.filter fun e =>
      (Content.bytes (top ++ "/").toUTF8).isPrefixOf (Content.bytes e.1.toUTF8)
  below_once : ∀ top, ((names.scan (top ++ "/")).map Prod.fst).Nodup
  moving : ∀ top key ino, (key, ino) ∈ names.subtree top ↔
    names[key]? = some ino ∧ (key = top ∨ (top ++ "/").toList <+: key.toList)
  moving_once : ∀ top, ((names.subtree top).map Prod.fst).Nodup

/-- **Scans find what a look at every path finds**, in every table and for every place. -/
theorem scansFully (names : Names) : names.ScansFully where
  table := names.sorted_toList.imp Text.lt_iff_bytes_lt.mp
  scans := names.scan_eq_of_bytes
  children := names.children_eq_filterMap
  child _ _ _ := mem_children
  ascending directory := (names.sorted_children directory).imp Text.lt_iff_bytes_lt.mp
  once directory := List.pairwise_map.mpr ((names.sorted_children directory).imp fun h => h.ne)
  below top := by
    rw [scan_eq_filter]
    refine List.filter_congr fun e _ => ?_
    rw [Bool.eq_iff_iff, startsWith_iff_bytes, List.isPrefixOf_iff_prefix]
  below_once _ := names.nodup_scan _
  moving top key ino := by
    rw [mem_subtree, Path.isWithin, Bool.or_eq_true, beq_iff_eq, String.startsWith_string_iff]
  moving_once := names.nodup_subtree

/-! ## Moves -/

section Moves

variable {source target : String} {entries : List (String × Nat)}

theorem getElem?_moveEntry {entry : String × Nat} {key : String} :
    (moveEntry source target names entry)[key]? =
      if Path.rebase source target entry.1 = key then some entry.2
      else if entry.1 = key then none else names[key]? := by
  unfold moveEntry
  rw [Std.TreeMap.getElem?_insert, Std.TreeMap.getElem?_erase]
  simp only [compare_eq_iff_eq]

theorem getElem?_foldl_moveEntry_other {key : String}
    (h : ∀ e ∈ entries, e.1 ≠ key ∧ Path.rebase source target e.1 ≠ key) :
    (entries.foldl (moveEntry source target) names)[key]? = names[key]? := by
  induction entries generalizing names with
  | nil => rfl
  | cons e entries ih =>
    obtain ⟨he, hrest⟩ := List.forall_mem_cons.mp h
    rw [List.foldl_cons, ih hrest, getElem?_moveEntry, if_neg he.2, if_neg he.1]

/-- An entry keeps its new name while the others go, since none of them has or gets that name. -/
theorem getElem?_foldl_moveEntry_target
    (hnew : ∀ e ∈ entries, ∀ e' ∈ entries, Path.rebase source target e.1 ≠ e'.1)
    (hinj : ∀ e ∈ entries, ∀ e' ∈ entries,
      Path.rebase source target e.1 = Path.rebase source target e'.1 → e = e')
    {key : String} {ino : Nat} (hmem : (key, ino) ∈ entries) :
    (entries.foldl (moveEntry source target) names)[Path.rebase source target key]? =
      some ino := by
  induction entries using List.reverseRecOn with
  | nil => exact absurd hmem List.not_mem_nil
  | append_singleton entries last ih =>
    have hlast : last ∈ entries ++ [last] := List.mem_append_right _ List.mem_cons_self
    have hsub : ∀ e ∈ entries, e ∈ entries ++ [last] := fun e he => List.mem_append_left _ he
    rw [List.foldl_append, List.foldl_cons, List.foldl_nil, getElem?_moveEntry]
    split
    · next he => rw [hinj _ hlast _ hmem he]
    · next hne =>
      rw [if_neg fun he => hnew _ hmem _ hlast he.symm]
      refine ih (fun e he e' he' => hnew e (hsub e he) e' (hsub e' he'))
        (fun e he e' he' => hinj e (hsub e he) e' (hsub e' he')) ?_
      rcases List.mem_append.mp hmem with hmem | hmem
      · exact hmem
      · exact absurd (by rw [← List.mem_singleton.mp hmem]) hne

theorem getElem?_foldl_moveEntry_source
    (hnew : ∀ e ∈ entries, ∀ e' ∈ entries, Path.rebase source target e.1 ≠ e'.1)
    {key : String} {ino : Nat} (hmem : (key, ino) ∈ entries) :
    (entries.foldl (moveEntry source target) names)[key]? = none := by
  induction entries using List.reverseRecOn with
  | nil => exact absurd hmem List.not_mem_nil
  | append_singleton entries last ih =>
    have hlast : last ∈ entries ++ [last] := List.mem_append_right _ List.mem_cons_self
    have hsub : ∀ e ∈ entries, e ∈ entries ++ [last] := fun e he => List.mem_append_left _ he
    rw [List.foldl_append, List.foldl_cons, List.foldl_nil, getElem?_moveEntry,
      if_neg (hnew _ hlast _ hmem)]
    split
    · rfl
    · next hne =>
      refine ih (fun e he e' he' => hnew e (hsub e he) e' (hsub e' he')) ?_
      rcases List.mem_append.mp hmem with hmem | hmem
      · exact hmem
      · exact absurd (by rw [← List.mem_singleton.mp hmem]) hne

/-- Every name in the table is a normal path. -/
def AllNormal (names : Names) : Prop :=
  ∀ ⦃key ino⦄, names[key]? = some ino → Path.isNormal key = true

end Moves

section Trees

variable {source target : List String}

/-- What is checked before a tree of names moves: neither end is the root, the target is not inside
the tree, and nothing is left at or below it. -/
structure Movable (names : Names) (source target : List String) : Prop where
  all_normal : names.AllNormal
  source_names : Path.AreNames source
  source_ne : source ≠ []
  target_names : Path.AreNames target
  target_ne : target ≠ []
  apart : ¬ source <+: target
  free : ∀ rest, Path.AreNames rest → names[Path.ofComponents (target ++ rest)]? = none

namespace Movable

variable (h : names.Movable source target) {rest more : List String}

include h

theorem mem_subtree_iff {key : String} {ino : Nat} :
    (key, ino) ∈ names.subtree (Path.ofComponents source) ↔
      ∃ rest, Path.AreNames rest ∧ key = Path.ofComponents (source ++ rest) ∧
        names[key]? = some ino := by
  rw [Names.mem_subtree]
  constructor
  · rintro ⟨hino, hwithin⟩
    obtain ⟨more, hmore, rfl⟩ := Path.exists_names (h.all_normal hino)
    obtain ⟨rest, rfl⟩ := (Path.isWithin_iff h.source_names h.source_ne hmore).mp hwithin
    exact ⟨rest, (Path.areNames_append.mp hmore).2, rfl, hino⟩
  · rintro ⟨rest, hrest, rfl, hino⟩
    have hnames := Path.areNames_append.mpr ⟨h.source_names, hrest⟩
    exact ⟨hino, (Path.isWithin_iff h.source_names h.source_ne hnames).mpr
      (List.prefix_append _ _)⟩

theorem rebase (rest : List String) :
    Path.rebase (Path.ofComponents source) (Path.ofComponents target)
      (Path.ofComponents (source ++ rest)) = Path.ofComponents (target ++ rest) :=
  Path.rebase_ofComponents h.source_names h.source_ne h.target_names h.target_ne rest

theorem source_injective (hrest : Path.AreNames rest) (hmore : Path.AreNames more)
    (he : Path.ofComponents (source ++ rest) = Path.ofComponents more) : source ++ rest = more :=
  Path.ofComponents_injective (Path.areNames_append.mpr ⟨h.source_names, hrest⟩) hmore he

theorem target_injective (hrest : Path.AreNames rest) (hmore : Path.AreNames more)
    (he : Path.ofComponents (target ++ rest) = Path.ofComponents more) : target ++ rest = more :=
  Path.ofComponents_injective (Path.areNames_append.mpr ⟨h.target_names, hrest⟩) hmore he

theorem allNormal_move :
    (names.move (Path.ofComponents source) (Path.ofComponents target)).AllNormal := by
  unfold move
  have hrebase : ∀ e ∈ names.subtree (Path.ofComponents source), Path.isNormal
      (Path.rebase (Path.ofComponents source) (Path.ofComponents target) e.1) = true := by
    rintro ⟨key, ino⟩ he
    obtain ⟨rest, hrest, rfl, -⟩ := h.mem_subtree_iff.mp he
    rw [h.rebase]
    exact Path.isNormal_ofComponents (Path.areNames_append.mpr ⟨h.target_names, hrest⟩)
  have hall := h.all_normal
  clear h
  generalize names.subtree (Path.ofComponents source) = entries at hrebase
  induction entries generalizing names with
  | nil => exact hall
  | cons e entries ih =>
    obtain ⟨he, hrest⟩ := List.forall_mem_cons.mp hrebase
    refine ih (fun key ino hino => ?_) hrest
    rw [getElem?_moveEntry] at hino
    split at hino
    · next heq => rwa [← heq]
    · split at hino
      · cases hino
      · exact hall hino

/-- Different entries that move get different names. -/
theorem eq_of_rebase_eq :
    ∀ e ∈ names.subtree (Path.ofComponents source), ∀ e' ∈ names.subtree (Path.ofComponents source),
      Path.rebase (Path.ofComponents source) (Path.ofComponents target) e.1 =
        Path.rebase (Path.ofComponents source) (Path.ofComponents target) e'.1 → e = e' := by
  rintro ⟨key, i⟩ he ⟨key', i'⟩ he' heq
  obtain ⟨r, hr, rfl, hi⟩ := h.mem_subtree_iff.mp he
  obtain ⟨r', hr', rfl, hi'⟩ := h.mem_subtree_iff.mp he'
  rw [h.rebase, h.rebase] at heq
  have hlists := h.target_injective hr (Path.areNames_append.mpr ⟨h.target_names, hr'⟩) heq
  obtain rfl := List.append_cancel_left hlists
  rw [hi] at hi'
  rw [Option.some.inj hi']

/-- A new name is not the old one of anything that moves. -/
theorem rebase_ne {e : String × Nat} (he : e ∈ names.subtree (Path.ofComponents source))
    (hrest : Path.AreNames rest) {old : String} (hold : old = Path.ofComponents (source ++ rest)) :
    Path.rebase (Path.ofComponents source) (Path.ofComponents target) e.1 ≠ old := by
  obtain ⟨key, ino⟩ := e
  obtain ⟨more, hmore, rfl, hino⟩ := h.mem_subtree_iff.mp he
  rw [h.rebase, hold]
  intro heq
  have hlists :=
    h.target_injective hmore (Path.areNames_append.mpr ⟨h.source_names, hrest⟩) heq
  rcases List.append_eq_append_iff.mp hlists with ⟨between, rfl, -⟩ | ⟨between, htarget, -⟩
  · -- the target would lie above the source, where nothing has a name
    have hbetween := (Path.areNames_append.mp h.source_names).2
    rw [List.append_assoc, h.free _ (Path.areNames_append.mpr ⟨hbetween, hmore⟩)] at hino
    cases hino
  · exact h.apart (htarget ▸ List.prefix_append _ _)

theorem getElem?_move_target (hrest : Path.AreNames rest) :
    (names.move (Path.ofComponents source) (Path.ofComponents target))[
      Path.ofComponents (target ++ rest)]? = names[Path.ofComponents (source ++ rest)]? := by
  unfold move
  cases hino : names[Path.ofComponents (source ++ rest)]? with
  | some ino =>
    have hmem := h.mem_subtree_iff.mpr ⟨rest, hrest, rfl, hino⟩
    rw [← h.rebase rest]
    refine getElem?_foldl_moveEntry_target (fun e he e' he' => ?_) h.eq_of_rebase_eq hmem
    obtain ⟨rest', hrest', heq, -⟩ := h.mem_subtree_iff.mp he'
    exact h.rebase_ne he hrest' heq
  | none =>
    rw [getElem?_foldl_moveEntry_other, h.free rest hrest]
    rintro ⟨key, i⟩ he
    obtain ⟨r, hr, rfl, hi⟩ := h.mem_subtree_iff.mp he
    have hnew := Path.areNames_append.mpr ⟨h.target_names, hrest⟩
    constructor
    · intro heq
      dsimp only at heq
      rw [heq, h.free rest hrest] at hi
      cases hi
    · intro heq
      rw [h.rebase] at heq
      obtain rfl := List.append_cancel_left (h.target_injective hr hnew heq)
      rw [hino] at hi
      cases hi

theorem getElem?_move_source (hrest : Path.AreNames rest) :
    (names.move (Path.ofComponents source) (Path.ofComponents target))[
      Path.ofComponents (source ++ rest)]? = none := by
  unfold move
  cases hino : names[Path.ofComponents (source ++ rest)]? with
  | some ino =>
    have hmem := h.mem_subtree_iff.mpr ⟨rest, hrest, rfl, hino⟩
    refine getElem?_foldl_moveEntry_source (fun e he e' he' => ?_) hmem
    obtain ⟨rest', hrest', heq, -⟩ := h.mem_subtree_iff.mp he'
    exact h.rebase_ne he hrest' heq
  | none =>
    rw [getElem?_foldl_moveEntry_other, hino]
    rintro ⟨key, i⟩ he
    refine ⟨fun heq => ?_, h.rebase_ne he hrest rfl⟩
    obtain ⟨-, -, -, hi⟩ := h.mem_subtree_iff.mp he
    dsimp only at heq
    rw [heq, hino] at hi
    cases hi

theorem getElem?_move_other (hmore : Path.AreNames more) (hsource : ¬ source <+: more)
    (htarget : ¬ target <+: more) :
    (names.move (Path.ofComponents source) (Path.ofComponents target))[
      Path.ofComponents more]? = names[Path.ofComponents more]? := by
  unfold move
  refine getElem?_foldl_moveEntry_other ?_
  rintro ⟨key, i⟩ he
  obtain ⟨r, hr, rfl, -⟩ := h.mem_subtree_iff.mp he
  rw [h.rebase]
  constructor
  · intro heq
    exact hsource (h.source_injective hr hmore heq ▸ List.prefix_append _ _)
  · intro heq
    exact htarget (h.target_injective hr hmore heq ▸ List.prefix_append _ _)

/-- Where a name after the move was before. -/
theorem getElem?_move_cases (hmore : Path.AreNames more) {ino : Nat}
    (hino : (names.move (Path.ofComponents source) (Path.ofComponents target))[
      Path.ofComponents more]? = some ino) :
    (∃ rest, Path.AreNames rest ∧ more = target ++ rest ∧
        names[Path.ofComponents (source ++ rest)]? = some ino) ∨
      ¬ source <+: more ∧ ¬ target <+: more ∧ names[Path.ofComponents more]? = some ino := by
  by_cases ht : target <+: more
  · obtain ⟨rest, rfl⟩ := ht
    have hrest := (Path.areNames_append.mp hmore).2
    rw [h.getElem?_move_target hrest] at hino
    exact Or.inl ⟨rest, hrest, rfl, hino⟩
  by_cases hs : source <+: more
  · obtain ⟨rest, rfl⟩ := hs
    rw [h.getElem?_move_source (Path.areNames_append.mp hmore).2] at hino
    cases hino
  · rw [h.getElem?_move_other hmore hs ht] at hino
    exact Or.inr ⟨hs, ht, hino⟩

end Movable

end Trees

end Names

end FileScript
