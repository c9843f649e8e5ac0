import FileScript.Proofs.Listings

/-!
# Listings of a directory that changes

A handle counts the entries that were listed through it, and the next batch leaves out as many as
it has counted. So an entry is passed over when names before it go and it comes to be one of those
that are left out (`Listing.Skips`), and it comes again when names before it are added and it is no
longer one of them (`Listing.Regains`). How often an entry is listed until nothing is left follows
from how often that happens (`Listing.times_of_exhausted`); an empty batch does not mean that every
entry was listed (`Listing.twin_passed_over`).

1. `Listing.place`: how many names stand before a name, so where its entry is in the list.
2. `Listing.UnderWay.step_times`: an entry is in a batch exactly when the handle moves past it.
3. `Listing.UnderWay.run_times`: the same over a whole run.
-/

namespace FileScript

/-! ## Sorted lists of names -/

section Sorted

variable {listed : List (String × Nat)} (hsorted : listed.Pairwise fun a b => a.1 < b.1)
  {e : String × Nat}

include hsorted

/-- In a sorted list, an entry stands behind those whose names are smaller. -/
theorem getElem?_countP_lt (he : e ∈ listed) :
    listed[listed.countP fun d => decide (d.1 < e.1)]? = some e := by
  induction listed with
  | nil => cases he
  | cons d listed ih =>
    obtain ⟨hfirst, hsorted⟩ := List.pairwise_cons.mp hsorted
    rcases List.mem_cons.mp he with rfl | he
    · have hnone : listed.countP (fun d => decide (d.1 < e.1)) = 0 :=
        List.countP_eq_zero.mpr fun d hd => by
          rw [decide_eq_true_eq]
          exact lt_asymm (hfirst d hd)
      rw [List.countP_cons, hnone, if_neg (by simp), List.getElem?_cons_zero]
    · rw [List.countP_cons, if_pos (decide_eq_true (hfirst e he)), List.getElem?_cons_succ,
        ih hsorted he]

/-- An entry of a sorted list is in the piece of it that covers its place, once, and in no other. -/
theorem count_take_drop {place : Nat} (hplace : listed[place]? = some e) (start count : Nat) :
    ((listed.drop start).take count).count e =
      if start ≤ place ∧ place < start + count then 1 else 0 := by
  have hnodup : listed.Nodup := by
    refine hsorted.imp ?_
    rintro a _ hlt rfl
    exact lt_irrefl _ hlt
  have hpiece : ((listed.drop start).take count).Nodup :=
    hnodup.sublist ((List.take_sublist _ _).trans (List.drop_sublist _ _))
  have hmem : e ∈ (listed.drop start).take count ↔ start ≤ place ∧ place < start + count := by
    rw [List.mem_iff_getElem?]
    simp only [List.getElem?_take, List.getElem?_drop]
    constructor
    · rintro ⟨i, hi⟩
      split at hi
      · next hlt =>
        have hsame : start + i = place := (List.getElem?_inj
          (List.getElem?_eq_some_iff.mp hi).1 hnodup).mp (hi.trans hplace.symm)
        omega
      · cases hi
    · rintro ⟨hle, hlt⟩
      refine ⟨place - start, ?_⟩
      rw [if_pos (by omega), Nat.add_sub_cancel' hle, hplace]
  split
  · next h => exact List.count_eq_one_of_mem hpiece (hmem.mpr h)
  · next h => exact List.count_eq_zero.mpr (mt hmem.mp h)

end Sorted

/-- Names that are kept are counted in the longer list too. -/
theorem countP_lt_le {before after : List (String × Nat)} {name : String}
    (hsorted : before.Pairwise fun a b => a.1 < b.1)
    (hkept : ∀ e ∈ before, e.1 < name → ∃ n, (e.1, n) ∈ after) :
    before.countP (fun d => decide (d.1 < name)) ≤
      after.countP fun d => decide (d.1 < name) := by
  have hnodup : ((before.filter fun d => decide (d.1 < name)).map Prod.fst).Nodup :=
    List.pairwise_map.mpr ((hsorted.filter _).imp fun hlt => hlt.ne)
  have hsubset : (before.filter fun d => decide (d.1 < name)).map Prod.fst ⊆
      (after.filter fun d => decide (d.1 < name)).map Prod.fst := by
    intro earlier hearlier
    obtain ⟨e, he, rfl⟩ := List.mem_map.mp hearlier
    obtain ⟨hmem, hlt⟩ := List.mem_filter.mp he
    obtain ⟨n, hn⟩ := hkept e hmem (of_decide_eq_true hlt)
    exact List.mem_map.mpr ⟨(e.1, n), List.mem_filter.mpr ⟨hn, hlt⟩, rfl⟩
  have hlength := (List.subperm_of_subset hnodup hsubset).length_le
  rwa [List.length_map, List.length_map, ← List.countP_eq_length_filter,
    ← List.countP_eq_length_filter] at hlength

namespace Listing

/-! ## Places -/

/-- How many entries of the directory have names before this one. -/
def place (l : Listing) (name : String) : Nat :=
  (l.store.listed l.handle.id).countP fun e => decide (e.1 < name)

/-- How often an entry was listed. -/
def times (l : Listing) (link : String × Nat) : Nat :=
  (l.batches.flatten.map DirEntry.link).count link

/-- The next batch leaves the place of a name out, as it does with as many as the handle has
counted. -/
def IsPast (name : String) (l : Listing) : Prop := l.place name < l.handle.cursor

/-- The place of a name comes to be left out without a batch. -/
def Skips (name : String) (l l' : Listing) : Prop :=
  ¬ l.IsPast name ∧ l'.place name < l.handle.cursor

/-- The place of a name is no longer left out, so that a batch will have it again. -/
def Regains (name : String) (l l' : Listing) : Prop :=
  l.IsPast name ∧ ¬ l'.place name < l.handle.cursor

instance (name : String) : DecidablePred (IsPast name) := fun l =>
  inferInstanceAs (Decidable (l.place name < l.handle.cursor))

instance (name : String) : DecidableRel (Skips name) := fun l l' =>
  inferInstanceAs (Decidable (¬ l.IsPast name ∧ l'.place name < l.handle.cursor))

instance (name : String) : DecidableRel (Regains name) := fun l l' =>
  inferInstanceAs (Decidable (l.IsPast name ∧ ¬ l'.place name < l.handle.cursor))

/-- In how many steps of a run something happens. -/
def steps (happens : Listing → Listing → Prop) [DecidableRel happens] (run : List Listing) : Nat :=
  (run.zip run.tail).countP fun p => decide (happens p.1 p.2)

theorem steps_cons_cons (happens : Listing → Listing → Prop) [DecidableRel happens]
    (l l' : Listing) (rest : List Listing) :
    steps happens (l :: l' :: rest) =
      steps happens (l' :: rest) + if happens l l' then 1 else 0 := by
  simp only [steps, List.tail_cons, List.zip_cons_cons, List.countP_cons, decide_eq_true_eq]

variable {dir ino : Nat} {name : String} {l l' : Listing}

namespace UnderWay

/-- An entry stands in the list at the place of its name. -/
theorem getElem?_place (h : l.UnderWay dir) (hentry : l.store.HasEntry dir name ino) :
    (l.store.listed l.handle.id)[l.place name]? = some (name, ino) :=
  getElem?_countP_lt (l.store.sorted_listed _) (h.mem_listed_iff.mpr hentry)

/-- The next batch has an entry exactly when the handle moves past the place of its name. -/
theorem times_next (h : l.UnderWay dir) (hentry : l.store.HasEntry dir name ino) {count : Nat}
    {batch : List DirEntry} (hdescribes : l.store.Describes batch
      (((l.store.listed l.handle.id).drop l.handle.cursor).take count)) :
    ((l.batches ++ [batch]).flatten.map DirEntry.link).count (name, ino) = l.times (name, ino) +
      if l.handle.cursor ≤ l.place name ∧ l.place name < l.handle.cursor + batch.length then 1
      else 0 := by
  have hplace := h.getElem?_place hentry
  have hshort := (List.getElem?_eq_some_iff.mp hplace).1
  have hbatch : batch.map DirEntry.link = _ := hdescribes.1
  have hlength := congrArg List.length hbatch
  rw [List.length_map, List.length_take, List.length_drop] at hlength
  rw [List.flatten_concat, List.map_append, List.count_append, hbatch,
    count_take_drop (l.store.sorted_listed _) hplace, times]
  congr 2
  rw [eq_iff_iff]
  omega

/-- **An entry that stays is listed exactly when the handle moves past it.** It may also come to be
left out, or no longer be, when its place changes. -/
theorem step_times (h : l.UnderWay dir) (hstep : l.Step l')
    (hentry : l.store.HasEntry dir name ino) :
    l'.times (name, ino) + (if l.IsPast name then 1 else 0) + (if Skips name l l' then 1 else 0) =
      l.times (name, ino) + (if l'.IsPast name then 1 else 0) +
        if Regains name l l' then 1 else 0 := by
  show l'.times (name, ino) + (if l.place name < l.handle.cursor then 1 else 0) +
      (if ¬ l.place name < l.handle.cursor ∧ l'.place name < l.handle.cursor then 1 else 0) =
    l.times (name, ino) + (if l'.place name < l'.handle.cursor then 1 else 0) +
      if l.place name < l.handle.cursor ∧ ¬ l'.place name < l.handle.cursor then 1 else 0
  obtain ⟨count, batch, hdescribes, hnext⟩ | ⟨now, op, -, hother⟩ := h.step_cases hstep
  · have htimes : l'.times (name, ino) =
        ((l.batches ++ [batch]).flatten.map DirEntry.link).count (name, ino) := by rw [hnext]; rfl
    have hplace : l'.place name = l.place name := by rw [hnext]; rfl
    have hcursor : l'.handle.cursor = l.handle.cursor + batch.length := by rw [hnext]
    rw [htimes, h.times_next hentry hdescribes, hplace, hcursor]
    split_ifs <;> omega
  · have htimes : l'.times (name, ino) = l.times (name, ino) := by rw [hother]; rfl
    have hcursor : l'.handle.cursor = l.handle.cursor := by rw [hother]
    rw [htimes, hcursor]
    split_ifs <;> omega

/-- What happens to an entry over a run in which it stays. -/
theorem run_times {first : Listing} {rest : List Listing} (h : first.UnderWay dir)
    (hsteps : (first :: rest).IsChain Step)
    (hstays : ∀ l ∈ first :: rest, l.store.HasEntry dir name ino) :
    ∃ last, (first :: rest).getLast? = some last ∧ last.UnderWay dir ∧
      last.times (name, ino) + (if first.IsPast name then 1 else 0) +
          steps (Skips name) (first :: rest) =
        first.times (name, ino) + (if last.IsPast name then 1 else 0) +
          steps (Regains name) (first :: rest) := by
  induction rest generalizing first with
  | nil => exact ⟨first, rfl, h, rfl⟩
  | cons second rest ih =>
    obtain ⟨hstep, hsteps⟩ := List.isChain_cons_cons.mp hsteps
    obtain ⟨hentry, hstays⟩ := List.forall_mem_cons.mp hstays
    obtain ⟨last, hlast, hunder, htimes⟩ := ih (h.step hstep) hsteps hstays
    have hfirst := h.step_times hstep hentry
    refine ⟨last, ?_, hunder, ?_⟩
    · rw [List.getLast?_cons_cons, hlast]
    · rw [steps_cons_cons, steps_cons_cons]
      omega

/-- What is exhausted has counted past every entry. -/
theorem isPast_of_exhausted (h : l.UnderWay dir) (hentry : l.store.HasEntry dir name ino)
    {now : Timespec} {count : Nat} {moved : DirHandle} {t : Store} (hcount : 0 < count)
    (hend : l.store.request now (.readDir l.handle count) = (.ok (.entries [] moved), t)) :
    l.IsPast name := by
  obtain ⟨batch, hanswer, hdescribes⟩ := h.request_readDir now count
  cases hend.symm.trans hanswer
  have hlength := congrArg List.length hdescribes.1
  rw [List.length_map, List.length_take, List.length_drop, List.length_nil] at hlength
  have hshort := (List.getElem?_eq_some_iff.mp (h.getElem?_place hentry)).1
  show l.place name < l.handle.cursor
  omega

/-- A place stays or grows as long as the names before it are kept. -/
theorem place_le (h : l.UnderWay dir) (h' : l'.UnderWay dir)
    (hkept : ∀ earlier < name, (∃ n, l.store.HasEntry dir earlier n) →
      ∃ n, l'.store.HasEntry dir earlier n) : l.place name ≤ l'.place name := by
  refine countP_lt_le (l.store.sorted_listed _) fun e he hlt => ?_
  obtain ⟨n, hn⟩ := hkept e.1 hlt ⟨e.2, h.mem_listed_iff.mp he⟩
  exact ⟨n, h'.mem_listed_iff.mpr hn⟩

end UnderWay

/-- The directory has the same names before this one. -/
def SameBefore (dir : Nat) (name : String) (l l' : Listing) : Prop :=
  ∀ earlier < name, (∃ n, l'.store.HasEntry dir earlier n) ↔ ∃ n, l.store.HasEntry dir earlier n

/-- As long as the names before an entry are the same, its place is. -/
theorem UnderWay.steps_eq_zero {first : Listing} {rest : List Listing} (h : first.UnderWay dir)
    (hsteps : (first :: rest).IsChain Step) (hsame : ∀ l ∈ rest, SameBefore dir name first l) :
    steps (Skips name) (first :: rest) = 0 ∧ steps (Regains name) (first :: rest) = 0 := by
  induction rest generalizing first with
  | nil => exact ⟨rfl, rfl⟩
  | cons second rest ih =>
    obtain ⟨hstep, hsteps⟩ := List.isChain_cons_cons.mp hsteps
    obtain ⟨hsecond, hsame⟩ := List.forall_mem_cons.mp hsame
    have h' := h.step hstep
    have hplace : second.place name = first.place name := le_antisymm
      (h'.place_le h fun earlier hlt => (hsecond earlier hlt).mp)
      (h.place_le h' fun earlier hlt => (hsecond earlier hlt).mpr)
    obtain ⟨hskips, hregains⟩ := ih h' hsteps fun l hl earlier hlt =>
      (hsame l hl earlier hlt).trans (hsecond earlier hlt).symm
    rw [steps_cons_cons, steps_cons_cons, hskips, hregains, if_neg, if_neg]
    · exact ⟨rfl, rfl⟩
    · rintro ⟨hpast, hbefore⟩
      rw [hplace] at hbefore
      exact hbefore hpast
    · rintro ⟨hbefore, hpast⟩
      rw [hplace] at hpast
      exact hbefore hpast

/-- **How often an entry that stays is listed** until nothing is left: once, once more for each time
that it is no longer left out, and once less for each time that it is passed over. So it is listed
exactly once if no names before it come or go. -/
theorem times_of_exhausted {first last : Listing} {rest : List Listing} (hbegins : first.Begins dir)
    (hsteps : (first :: rest).IsChain Step) (hlast : (first :: rest).getLast? = some last)
    (hstays : ∀ l ∈ first :: rest, l.store.HasEntry dir name ino) {now : Timespec} {count : Nat}
    {moved : DirHandle} {t : Store} (hcount : 0 < count)
    (hend : last.store.request now (.readDir last.handle count) = (.ok (.entries [] moved), t)) :
    last.times (name, ino) + steps (Skips name) (first :: rest) =
        1 + steps (Regains name) (first :: rest) ∧
      ((∀ l ∈ rest, SameBefore dir name first l) → last.times (name, ino) = 1) := by
  have hunder := hbegins.underWay
  obtain ⟨final, hfinal, hfinally, htimes⟩ := hunder.run_times hsteps hstays
  cases hlast.symm.trans hfinal
  have hpast := hfinally.isPast_of_exhausted
    (hstays last (List.mem_of_getLast? hlast)) hcount hend
  have hnone : first.batches = [] := by cases hbegins; rfl
  have hfirst : first.times (name, ino) = 0 := by rw [times, hnone]; rfl
  have hbefore : ¬ first.IsPast name := by
    rw [IsPast, hunder.cursor_eq, hnone]
    exact Nat.not_lt_zero _
  rw [hfirst, if_neg hbefore, if_pos hpast] at htimes
  refine ⟨by omega, fun hsame => ?_⟩
  obtain ⟨hskips, hregains⟩ := hunder.steps_eq_zero hsteps hsame
  omega

/-! ## An entry that is passed over -/

/-- A store with two directories. -/
def twins : Store := (Store.new {}).after [({}, .mkdir "/a" 0o755), ({}, .mkdir "/b" 0o755)]

/-- The root was just opened. -/
def twinsOpened : Listing := { store := (twins.request {} (.openDir "/")).2, handle := { id := 1 } }

/-- The first entry was listed. -/
def twinsBegun : Listing :=
  ⟨(twinsOpened.store.request {} (.readDir twinsOpened.handle 1)).2, { id := 1, cursor := 1 }, [1],
    [[⟨.directory, 2, "a"⟩]]⟩

/-- What was listed was removed. -/
def twinsParted : Listing :=
  { twinsBegun with store := (twinsBegun.store.request {} (.rmdir "/a")).2 }

theorem twins_begins : twinsOpened.Begins 1 := by
  have hopened : (twins.request {} (.openDir "/")).1 = .ok (.dir twinsOpened.handle) := by
    decide +kernel
  exact .opened (s := twins) ⟨_, _, _, _, rfl⟩ (by decide +kernel) (Prod.ext hopened rfl)

theorem twins_steps : [twinsOpened, twinsBegun, twinsParted].IsChain Step := by
  have hfirst : (twinsOpened.store.request {} (.readDir twinsOpened.handle 1)).1 =
      .ok (.entries [⟨.directory, 2, "a"⟩] twinsBegun.handle) := by decide +kernel
  have hopen : twinsParted.store.openDirs[twinsBegun.handle.id]? ≠ none := by decide +kernel
  exact .cons_cons (.next (Prod.ext hfirst rfl)) <|
    .cons_cons (.other {} (.rmdir "/a") hopen) (.singleton _)

theorem twin_stays : ∀ l ∈ [twinsOpened, twinsBegun, twinsParted], l.store.HasEntry 1 "b" 3 := by
  have hroot : ∀ l ∈ [twinsOpened, twinsBegun, twinsParted],
      l.store.names[Path.root]? = some 1 ∧ l.store.names[Path.stem Path.root ++ "b"]? = some 3 := by
    decide +kernel
  exact fun l hl => ⟨Path.root, (hroot l hl).1, by decide +kernel, (hroot l hl).2⟩

theorem twins_exhausted :
    twinsParted.store.request {} (.readDir twinsParted.handle 1) =
      (.ok (.entries [] twinsParted.handle),
        (twinsParted.store.request {} (.readDir twinsParted.handle 1)).2) :=
  Prod.ext (by decide +kernel) rfl

/-- The second directory was there all the time, is not in any batch, and the next batch is
empty. -/
theorem twin_passed_over : twinsOpened.Begins 1 ∧
    [twinsOpened, twinsBegun, twinsParted].IsChain Step ∧
      (∀ l ∈ [twinsOpened, twinsBegun, twinsParted], l.store.HasEntry 1 "b" 3) ∧
        (twinsParted.store.request {} (.readDir twinsParted.handle 1)).1 =
            .ok (.entries [] twinsParted.handle) ∧
          twinsParted.times ("b", 3) = 0 :=
  ⟨twins_begins, twins_steps, twin_stays, by decide +kernel, by decide +kernel⟩

theorem shelved_stays : ∀ l ∈ [shelf, shelfBegun, shelfMoved, shelfListed],
    l.store.HasEntry 2 "b" 3 := by
  have hshelf : shelf.store.HasEntry 2 "b" 3 :=
    ⟨"/shelf", by decide +kernel, by decide +kernel, by decide +kernel⟩
  exact List.forall_mem_cons.mpr ⟨hshelf, fun l hl => (shelf_keeps l hl "b" 3).mpr hshelf⟩

theorem shelf_exhausted :
    shelfListed.store.request {} (.readDir shelfListed.handle 1) =
      (.ok (.entries [] shelfListed.handle),
        (shelfListed.store.request {} (.readDir shelfListed.handle 1)).2) :=
  Prod.ext (by decide +kernel) rfl

/-- What is passed over once and never comes again is not listed. What stands behind names that stay
is listed once, although its directory was moved meanwhile. -/
theorem twin_and_shelved_times : (twinsParted.times ("b", 3) +
        steps (Skips "b") [twinsOpened, twinsBegun, twinsParted] =
      1 + steps (Regains "b") [twinsOpened, twinsBegun, twinsParted]) ∧
    shelfListed.times ("b", 3) = 1 :=
  ⟨(times_of_exhausted twins_begins twins_steps rfl twin_stays (by decide) twins_exhausted).1,
    (times_of_exhausted shelf_begins shelf_steps rfl shelved_stays (by decide) shelf_exhausted).2
      fun l hl earlier _ => exists_congr (shelf_keeps l hl earlier)⟩

end Listing

end FileScript
