import FileScript.Proofs.ByteOrder
import FileScript.Proofs.Entries
import FileScript.Proofs.Modes
import FileScript.Proofs.Numbers

/-!
# Listings of a directory

A directory is opened and then listed batch by batch, while other requests go on (`Listing`).

1. `Listing.Begins`, `Listing.Step`: a handle was just opened; a batch is read, or the store is
   asked for something else.
2. `Listing.UnderWay`: the handle is open on the directory throughout, and counts the entries of the
   batches.
3. `Listing.Progress.step`: as long as the directory has the same entries, each batch goes on in
   their order where the last one has ended.
4. `Listing.agrees_of_same_entries`: so the batches agree with the entries in order, and these with
   what can be found by path.
-/

namespace FileScript

/-- A directory that is listed through a handle, with the sizes that were asked for so far and the
batches that were answered. -/
structure Listing where
  store : Store
  handle : DirHandle
  counts : List Nat := []
  batches : List (List DirEntry) := []

/-- The name of an entry and the number of its inode. -/
def DirEntry.link (e : DirEntry) : String × Nat := (e.name, e.inode)

namespace Listing

/-- A handle on the directory with the number `dir` was just opened. -/
inductive Begins (dir : Nat) : Listing → Prop
  | opened {s t : Store} {now : Timespec} {path : String} {handle : DirHandle} (hs : s.Reachable)
      (hdir : s.names[Path.normalize path]? = some dir)
      (hopen : s.request now (.openDir path) = (.ok (.dir handle), t)) :
      Begins dir { store := t, handle }

/-- A batch is read, or the store is asked for something else that leaves the handle open. -/
inductive Step (l : Listing) : Listing → Prop
  | next {now : Timespec} {count : Nat} {batch : List DirEntry} {moved : DirHandle} {t : Store}
      (hread : l.store.request now (.readDir l.handle count) = (.ok (.entries batch moved), t)) :
      Step l ⟨t, moved, l.counts ++ [count], l.batches ++ [batch]⟩
  | other (now : Timespec) (op : Operation)
      (hopen : (l.store.request now op).2.openDirs[l.handle.id]? ≠ none) :
      Step l { l with store := (l.store.request now op).2 }

variable {dir : Nat} {l l' : Listing}

/-- The handle is open on the directory, and counts the entries of the batches. -/
structure UnderWay (dir : Nat) (l : Listing) : Prop where
  reachable : l.store.Reachable
  opened : ∃ path, l.store.openDirs[l.handle.id]? = some { inode := dir, path }
  cursor_eq : l.handle.cursor = l.batches.flatten.length

theorem Begins.underWay (h : l.Begins dir) : l.UnderWay dir := by
  cases h with
  | @opened s t now path handle hs hdir hopen =>
    have hfollows := (hs.consistent.followsDirectories hs.tracked).opened hopen
    obtain ⟨hcursor, -, ino, hino, hopened⟩ := hfollows
    cases hdir.symm.trans hino
    have ht : t = (s.request now (.openDir path)).2 := by rw [hopen]
    exact ⟨ht ▸ hs.request now (.openDir path), ⟨_, hopened⟩, hcursor⟩

namespace UnderWay

theorem mem_listed_iff (h : l.UnderWay dir) {name : String} {ino : Nat} :
    (name, ino) ∈ l.store.listed l.handle.id ↔ l.store.HasEntry dir name ino := by
  obtain ⟨path, hopened⟩ := h.opened
  exact h.reachable.consistent.mem_listed_iff h.reachable.tracked hopened

/-- The next batch goes on where the last one has ended. -/
theorem request_readDir (h : l.UnderWay dir) (now : Timespec) (count : Nat) :
    ∃ batch, l.store.request now (.readDir l.handle count) =
        (.ok (.entries batch { l.handle with cursor := l.handle.cursor + batch.length }),
          l.store) ∧
      l.store.Describes batch (((l.store.listed l.handle.id).drop l.handle.cursor).take count) := by
  obtain ⟨path, hopened⟩ := h.opened
  exact h.reachable.consistent.request_readDir h.reachable.tracked hopened now count

/-- What a step does to a listing: a batch moves the handle and leaves the store as it is. -/
theorem step_cases (h : l.UnderWay dir) (hstep : l.Step l') :
    (∃ count batch, l.store.Describes batch
        (((l.store.listed l.handle.id).drop l.handle.cursor).take count) ∧
      l' = ⟨l.store, { l.handle with cursor := l.handle.cursor + batch.length },
        l.counts ++ [count], l.batches ++ [batch]⟩) ∨
    ∃ now op, (l.store.request now op).2.openDirs[l.handle.id]? ≠ none ∧
      l' = { l with store := (l.store.request now op).2 } := by
  cases hstep with
  | @next now count batch moved t hread =>
    obtain ⟨answered, hanswer, hdescribes⟩ := h.request_readDir now count
    cases hread.symm.trans hanswer
    exact .inl ⟨count, batch, hdescribes, rfl⟩
  | other now op hopen => exact .inr ⟨now, op, hopen, rfl⟩

theorem step (h : l.UnderWay dir) (hstep : l.Step l') : l'.UnderWay dir := by
  obtain ⟨count, batch, -, rfl⟩ | ⟨now, op, hopen, rfl⟩ := h.step_cases hstep
  · refine ⟨h.reachable, h.opened, ?_⟩
    show l.handle.cursor + batch.length = (l.batches ++ [batch]).flatten.length
    rw [h.cursor_eq, List.flatten_concat, List.length_append]
  · obtain ⟨path, hopened⟩ := h.opened
    obtain ⟨⟨inode, place⟩, hafter⟩ := Option.ne_none_iff_exists'.mp hopen
    have hconsistent := h.reachable.consistent
    have hlater := ((Store.request_changes hconsistent now op).follows hconsistent
      h.reachable.tracked).1
    obtain ⟨old, hold, hsame⟩ := hlater.bound (hconsistent.dir_lt hopened) hafter
    cases hopened.symm.trans hold
    cases hsame
    exact ⟨h.reachable.request now op, ⟨place, hafter⟩, h.cursor_eq⟩

end UnderWay

/-! ## Directories that keep their entries -/

/-- The list of what is in a directory depends on its entries alone. -/
theorem UnderWay.listed_eq (h : l.UnderWay dir) (h' : l'.UnderWay dir)
    (hsame : ∀ name ino, l'.store.HasEntry dir name ino ↔ l.store.HasEntry dir name ino) :
    l'.store.listed l'.handle.id = l.store.listed l.handle.id :=
  (l'.store.sorted_listed _).eq_of_mem_iff (l.store.sorted_listed _) fun (name, ino) => by
    rw [h'.mem_listed_iff, hsame, h.mem_listed_iff]

/-- The batches so far are the first entries of `c`, cut to the sizes that were asked for. -/
structure Progress (dir : Nat) (c : List (String × Nat)) (l : Listing) : Prop
    extends UnderWay dir l where
  listed_eq : l.store.listed l.handle.id = c
  links : l.batches.flatten.map DirEntry.link = c.take l.counts.sum
  length_batches : l.batches.length = l.counts.length
  length_batch : ∀ ⦃k count : Nat⦄ ⦃batch : List DirEntry⦄, l.counts[k]? = some count →
    l.batches[k]? = some batch → batch.length = min count (c.length - (l.counts.take k).sum)
  kinds : ∀ e ∈ l.batches.flatten, ∃ i, l.store.inodes[e.inode]? = some i ∧ i.kind = e.kind

variable {c : List (String × Nat)}

theorem Begins.progress (h : l.Begins dir) : l.Progress dir (l.store.listed l.handle.id) := by
  refine ⟨h.underWay, rfl, ?_, ?_, ?_, ?_⟩ <;> cases h <;> simp

namespace Progress

theorem cursor_eq_min (h : l.Progress dir c) : l.handle.cursor = min l.counts.sum c.length := by
  rw [h.cursor_eq, ← List.length_map DirEntry.link, h.links, List.length_take]

theorem drop_cursor (h : l.Progress dir c) : c.drop l.handle.cursor = c.drop l.counts.sum := by
  rw [h.cursor_eq_min]
  rcases le_total l.counts.sum c.length with hle | hle
  · rw [min_eq_left hle]
  · rw [min_eq_right hle, List.drop_length, List.drop_of_length_le hle]

/-- A batch goes on where the last one has ended. -/
theorem next (h : l.Progress dir c) {count : Nat} {batch : List DirEntry} (handle : DirHandle)
    (hdescribes : l.store.Describes batch ((c.drop l.counts.sum).take count))
    (hunder : UnderWay dir ⟨l.store, handle, l.counts ++ [count], l.batches ++ [batch]⟩)
    (hid : handle.id = l.handle.id) :
    Progress dir c ⟨l.store, handle, l.counts ++ [count], l.batches ++ [batch]⟩ where
  toUnderWay := hunder
  listed_eq := by rw [hid, h.listed_eq]
  links := by
    have hbatch : batch.map DirEntry.link = (c.drop l.counts.sum).take count := hdescribes.1
    rw [List.flatten_concat, List.map_append, h.links, hbatch, List.sum_append, List.sum_singleton,
      List.take_add]
  length_batches := by rw [List.length_append, List.length_append, h.length_batches]; rfl
  length_batch k asked answered hasked hanswered := by
    rcases lt_or_ge k l.counts.length with hk | hk
    · rw [List.getElem?_append_left hk] at hasked
      rw [List.getElem?_append_left (h.length_batches ▸ hk)] at hanswered
      rw [List.take_append_of_le_length hk.le, h.length_batch hasked hanswered]
    · have hlast : k = l.counts.length := by
        have hlt := (List.getElem?_eq_some_iff.mp hasked).1
        rw [List.length_append, List.length_singleton] at hlt
        omega
      rw [hlast, List.getElem?_concat_length] at hasked
      rw [hlast, ← h.length_batches, List.getElem?_concat_length] at hanswered
      cases hasked
      cases hanswered
      have hlength := congrArg List.length hdescribes.1
      rw [List.length_map, List.length_take, List.length_drop] at hlength
      rw [hlast, List.take_left, hlength]
  kinds e he := by
    rw [List.flatten_concat, List.mem_append] at he
    exact he.elim (h.kinds e) (hdescribes.2 e)

theorem link_mem (h : l.Progress dir c) {e : DirEntry} (he : e ∈ l.batches.flatten) :
    (e.name, e.inode) ∈ c := by
  have hmem : e.link ∈ l.batches.flatten.map DirEntry.link := List.mem_map_of_mem he
  rw [h.links] at hmem
  exact List.mem_of_mem_take hmem

theorem mem_iff (h : l.Progress dir c) {name : String} {ino : Nat} :
    (name, ino) ∈ c ↔ l.store.HasEntry dir name ino := by
  rw [← h.listed_eq, h.mem_listed_iff]

/-- As long as the directory keeps its entries, the batches go on along them. -/
theorem step (h : l.Progress dir c) (hstep : l.Step l')
    (hsame : ∀ name ino, l'.store.HasEntry dir name ino ↔ l.store.HasEntry dir name ino) :
    l'.Progress dir c := by
  have hunder := h.toUnderWay.step hstep
  have hlisted := h.toUnderWay.listed_eq hunder hsame
  obtain ⟨count, batch, hdescribes, rfl⟩ | ⟨now, op, -, rfl⟩ := h.toUnderWay.step_cases hstep
  · rw [h.listed_eq, h.drop_cursor] at hdescribes
    exact h.next _ hdescribes hunder rfl
  · refine ⟨hunder, hlisted.trans h.listed_eq, h.links, h.length_batches, h.length_batch, ?_⟩
    intro e he
    obtain ⟨i, hi, hkind⟩ := h.kinds e he
    have hconsistent := h.reachable.consistent
    -- the entry is still there, so its inode is
    obtain ⟨key, -, -, hino⟩ := (hsame _ _).mpr (h.mem_iff.mp (h.link_mem he))
    obtain ⟨j, hj, -⟩ := hunder.reachable.consistent.inode_of_named hino
    have hkept := (hconsistent.request_descends now op).kind_of_inode hconsistent.toSound hi hj
    exact ⟨j, hj, hkept.trans hkind⟩

end Progress

/-! ## Listings and paths -/

/-- The batches agree with the entries `c` of the directory `dir`, and these with what is found
through the path of the directory, as long as it has one. -/
structure Agrees (dir : Nat) (c : List (String × Nat)) (l : Listing) : Prop where
  links : l.batches.flatten.map DirEntry.link = c.take l.counts.sum
  length_batches : l.batches.length = l.counts.length
  length_batch : ∀ ⦃k count : Nat⦄ ⦃batch : List DirEntry⦄, l.counts[k]? = some count →
    l.batches[k]? = some batch → batch.length = min count (c.length - (l.counts.take k).sum)
  answers : ∀ now count, ∃ batch moved,
    l.store.request now (.readDir l.handle count) = (.ok (.entries batch moved), l.store)
  described : ∀ now path, l.store.names[Path.normalize path]? = some dir →
    ∀ e ∈ l.batches.flatten, ∃ a,
      l.store.request now (.stat (path ++ "/" ++ e.name)) = (.ok (.attributes a), l.store) ∧
        a.inode = e.inode ∧ a.kind = e.kind
  found_iff : ∀ now path, l.store.names[Path.normalize path]? = some dir →
    ∀ name, Path.IsName name →
      ((∃ a, l.store.request now (.stat (path ++ "/" ++ name)) = (.ok (.attributes a), l.store)) ↔
        name ∈ c.map Prod.fst)
  spared : ∀ now op, (∀ place ∈ op.places, l.store.names[Path.parent place]? ≠ some dir) →
    ∀ name ino, (l.store.request now op).2.HasEntry dir name ino ↔ l.store.HasEntry dir name ino

namespace Progress

theorem described (h : l.Progress dir c) (now : Timespec) {path : String}
    (hpath : l.store.names[Path.normalize path]? = some dir) {e : DirEntry}
    (he : e ∈ l.batches.flatten) :
    ∃ a, l.store.request now (.stat (path ++ "/" ++ e.name)) = (.ok (.attributes a), l.store) ∧
      a.inode = e.inode ∧ a.kind = e.kind := by
  obtain ⟨hname, hino⟩ :=
    (h.reachable.consistent.hasEntry_iff hpath).mp (h.mem_iff.mp (h.link_mem he))
  rw [← Path.normalize_join path hname] at hino
  obtain ⟨i, hi, hkind⟩ := h.kinds e he
  obtain ⟨a, j, heq, hnumber, hj, htold⟩ | ⟨_, -, hnone⟩ :=
    h.reachable.request_stat now (path ++ "/" ++ e.name)
  · have hsame : a.inode = e.inode := Option.some.inj (hnumber.symm.trans hino)
    rw [hsame, hi] at hj
    cases hj
    exact ⟨a, heq, hsame, htold.trans hkind⟩
  · rw [hino] at hnone
    cases hnone

theorem found_iff (h : l.Progress dir c) (now : Timespec) {path name : String}
    (hpath : l.store.names[Path.normalize path]? = some dir) (hname : Path.IsName name) :
    (∃ a, l.store.request now (.stat (path ++ "/" ++ name)) = (.ok (.attributes a), l.store)) ↔
      name ∈ c.map Prod.fst := by
  have hentries : ∀ {ino : Nat}, l.store.HasEntry dir name ino ↔
      Path.IsName name ∧ l.store.names[Path.stem (Path.normalize path) ++ name]? = some ino :=
    h.reachable.consistent.hasEntry_iff hpath
  have hplace : name ∈ c.map Prod.fst ↔
      ∃ ino, l.store.names[Path.normalize (path ++ "/" ++ name)]? = some ino := by
    rw [List.mem_map, Path.normalize_join path hname]
    constructor
    · rintro ⟨⟨_, ino⟩, hmem, rfl⟩
      exact ⟨ino, (hentries.mp (h.mem_iff.mp hmem)).2⟩
    · rintro ⟨ino, hino⟩
      exact ⟨(name, ino), h.mem_iff.mpr (hentries.mpr ⟨hname, hino⟩), rfl⟩
  rw [hplace]
  obtain ⟨a, i, heq, hnumber, -, -⟩ | ⟨e, heq, hnone⟩ :=
    h.reachable.request_stat now (path ++ "/" ++ name)
  · exact iff_of_true ⟨a, heq⟩ ⟨a.inode, hnumber⟩
  · rw [heq, hnone]
    exact iff_of_false (by rintro ⟨a, ha⟩; cases ha) (by rintro ⟨ino, hino⟩; cases hino)

theorem agrees (h : l.Progress dir c) : l.Agrees dir c where
  links := h.links
  length_batches := h.length_batches
  length_batch := h.length_batch
  answers now count := by
    obtain ⟨batch, heq, -⟩ := h.request_readDir now count
    exact ⟨batch, _, heq⟩
  described now _ hpath _ he := h.described now hpath he
  found_iff now _ hpath _ hname := h.found_iff now hpath hname
  spared now op hapart name ino := by
    obtain ⟨path, hopened⟩ := h.opened
    obtain ⟨linked, hprofile⟩ := h.reachable.consistent.dir_open hopened
    exact h.reachable.consistent.hasEntry_request_iff now op
      (h.reachable.consistent.inode_lt hprofile) hapart

/-- A run of steps that keep the entries keeps to them. -/
theorem run {first : Listing} {rest : List Listing} (h : first.Progress dir c)
    (hsteps : (first :: rest).IsChain Step)
    (hsame : ∀ l ∈ rest, ∀ name ino,
      l.store.HasEntry dir name ino ↔ first.store.HasEntry dir name ino) :
    ∀ l ∈ first :: rest, l.Progress dir c := by
  induction rest generalizing first with
  | nil => simpa using h
  | cons second rest ih =>
    obtain ⟨hstep, hsteps⟩ := List.isChain_cons_cons.mp hsteps
    have hsecond := hsame second List.mem_cons_self
    refine List.forall_mem_cons.mpr ⟨h, ih (h.step hstep hsecond) hsteps fun l hl name ino => ?_⟩
    rw [hsame l (List.mem_cons_of_mem _ hl), hsecond]

end Progress

/-- **Batches are consecutive pieces of the sorted list of entries**, as long as the directory keeps
its entries: whatever else is requested meanwhile, they agree with the list and with the paths. -/
theorem agrees_of_same_entries {first : Listing} {rest : List Listing} (hbegins : first.Begins dir)
    (hsteps : (first :: rest).IsChain Step)
    (hsame : ∀ l ∈ rest, ∀ name ino,
      l.store.HasEntry dir name ino ↔ first.store.HasEntry dir name ino) :
    ∃ c, c.Pairwise (fun a b => Content.bytes a.1.toUTF8 < Content.bytes b.1.toUTF8) ∧
      (∀ name ino, (name, ino) ∈ c ↔ first.store.HasEntry dir name ino) ∧
        ∀ l ∈ first :: rest, l.Agrees dir c := by
  have hfirst := hbegins.progress
  exact ⟨_, (first.store.sorted_listed _).imp Text.lt_iff_bytes_lt.mp, fun _ _ => hfirst.mem_iff,
    fun l hl => (hfirst.run hsteps hsame l hl).agrees⟩

/-! ## A directory that is moved while it is listed -/

deriving instance DecidableEq for Answer

/-- A store with a directory of a file and a directory. -/
def shelves : Store :=
  (Store.new {}).after [({}, .mkdir "/shelf" 0o755), ({}, .create "/shelf/b" 0o644),
    ({}, .mkdir "/shelf/a" 0o755), ({}, .mkdir "/shelf/a/c" 0o755)]

/-- The directory was just opened. -/
def shelf : Listing :=
  { store := (shelves.request {} (.openDir "/shelf")).2, handle := { id := 2 } }

/-- The first entry was listed. -/
def shelfBegun : Listing :=
  ⟨(shelf.store.request {} (.readDir shelf.handle 1)).2, { id := 2, cursor := 1 }, [1],
    [[⟨.directory, 4, "a"⟩]]⟩

/-- Then the directory was moved. -/
def shelfMoved : Listing :=
  { shelfBegun with store := (shelfBegun.store.request {} (.rename "/shelf" "/board")).2 }

/-- Then the other entry was listed. -/
def shelfListed : Listing :=
  ⟨(shelfMoved.store.request {} (.readDir shelfMoved.handle 9)).2, { id := 2, cursor := 2 }, [1, 9],
    [[⟨.directory, 4, "a"⟩], [⟨.file, 3, "b"⟩]]⟩

theorem shelf_begins : shelf.Begins 2 := by
  have hopened : (shelves.request {} (.openDir "/shelf")).1 = .ok (.dir shelf.handle) := by
    decide +kernel
  exact .opened (s := shelves) ⟨_, _, _, _, rfl⟩ (by decide +kernel) (Prod.ext hopened rfl)

theorem shelf_steps : [shelf, shelfBegun, shelfMoved, shelfListed].IsChain Step := by
  have hfirst : (shelf.store.request {} (.readDir shelf.handle 1)).1 =
      .ok (.entries [⟨.directory, 4, "a"⟩] shelfBegun.handle) := by decide +kernel
  have hopen : shelfMoved.store.openDirs[shelfBegun.handle.id]? ≠ none := by decide +kernel
  have hsecond : (shelfMoved.store.request {} (.readDir shelfMoved.handle 9)).1 =
      .ok (.entries [⟨.file, 3, "b"⟩] shelfListed.handle) := by decide +kernel
  exact .cons_cons (.next (Prod.ext hfirst rfl)) <|
    .cons_cons (.other {} (.rename "/shelf" "/board") hopen) <|
    .cons_cons (.next (Prod.ext hsecond rfl)) (.singleton _)

theorem shelf_keeps : ∀ l ∈ [shelfBegun, shelfMoved, shelfListed], ∀ name ino,
    l.store.HasEntry 2 name ino ↔ shelf.store.HasEntry 2 name ino := by
  have hshelf : shelf.store.Consistent := shelf_begins.underWay.reachable.consistent
  have hbegun : shelfBegun.store.Consistent := hshelf.request {} _
  have hmoved : shelfMoved.store.Consistent := hbegun.request {} _
  have hfirst (name : String) (ino : Nat) :
      shelfBegun.store.HasEntry 2 name ino ↔ shelf.store.HasEntry 2 name ino :=
    hshelf.hasEntry_request_iff {} (.readDir shelf.handle 1) (by decide +kernel) (by decide +kernel)
  have hrename (name : String) (ino : Nat) :
      shelfMoved.store.HasEntry 2 name ino ↔ shelfBegun.store.HasEntry 2 name ino :=
    hbegun.hasEntry_request_iff {} (.rename "/shelf" "/board") (by decide +kernel)
      (by decide +kernel)
  have hsecond (name : String) (ino : Nat) :
      shelfListed.store.HasEntry 2 name ino ↔ shelfMoved.store.HasEntry 2 name ino :=
    hmoved.hasEntry_request_iff {} (.readDir shelfMoved.handle 9) (by decide +kernel)
      (by decide +kernel)
  simp only [List.forall_mem_cons, hsecond, hrename, hfirst, implies_true, List.not_mem_nil,
    false_implies, and_self]

/-- The two batches are the two entries, although the directory has another path at the second. -/
theorem shelf_agrees : ∃ c, c.Pairwise
      (fun a b => Content.bytes a.1.toUTF8 < Content.bytes b.1.toUTF8) ∧
    (∀ name ino, (name, ino) ∈ c ↔ shelf.store.HasEntry 2 name ino) ∧
      ∀ l ∈ [shelf, shelfBegun, shelfMoved, shelfListed], l.Agrees 2 c :=
  agrees_of_same_entries shelf_begins shelf_steps shelf_keeps

end Listing

end FileScript
