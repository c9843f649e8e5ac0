import FileScript.DescriptorTable
import Mathlib

/-!
# The handles in a descriptor table

Which handles a table holds, whatever their descriptors are: what is put in, taken out or replaced
is the one handle in question, and no other comes or goes.
-/

namespace FileScript.DescriptorTable

variable {H : Type} {t u : DescriptorTable H}

/-- The handles in a table, in the order of their descriptors. -/
def handles (t : DescriptorTable H) : List H := t.slots.toList.filterMap id

/-- The numbers in the free set are those of the slots without a handle, each of them once. -/
theorem toList_free_perm (t : DescriptorTable H) :
    t.free.toList.Perm
      ((List.range t.slots.size).filter fun index => t.slots[index]?.any Option.isNone) := by
  have hnodup : t.free.toList.Nodup :=
    Std.TreeSet.distinct_toList.imp fun h => by rwa [compare_eq_iff_eq] at h
  refine (List.perm_ext_iff_of_nodup hnodup (List.nodup_range.filter _)).mpr fun index => ?_
  rw [Std.TreeSet.mem_toList, t.mem_free_iff, List.mem_filter, List.mem_range]
  constructor
  · intro h
    exact ⟨(Array.getElem?_eq_some_iff.mp h).1, by rw [h]; rfl⟩
  · rintro ⟨hlt, h⟩
    rw [Array.getElem?_eq_getElem hlt, Option.any_some, Option.isNone_iff_eq_none] at h
    rw [Array.getElem?_eq_getElem hlt, h]

theorem size_free (t : DescriptorTable H) : t.free.size = t.slots.toList.countP Option.isNone := by
  have hslots : t.slots.toList.map some = (List.range t.slots.size).map (t.slots[·]?) :=
    List.ext_getElem (by simp) fun index _ _ => by simp_all
  calc t.free.size
      = (List.range t.slots.size).countP fun index => t.slots[index]?.any Option.isNone := by
        rw [← Std.TreeSet.length_toList, t.toList_free_perm.length_eq,
          List.countP_eq_length_filter]
    _ = (t.slots.toList.map some).countP (Option.any Option.isNone) := by
        rw [hslots, List.countP_map]
        rfl
    _ = t.slots.toList.countP Option.isNone := by
        rw [List.countP_map]
        rfl

/-- The size of a table is the number of handles in it. -/
@[simp] theorem length_handles (t : DescriptorTable H) : t.handles.length = t.size := by
  have hslots : t.slots.size =
      t.slots.toList.countP Option.isSome + t.slots.toList.countP Option.isNone := by
    rw [← Array.length_toList, List.length_eq_countP_add_countP Option.isSome]
    congr 1
    exact List.countP_congr fun slot _ => by simp
  calc t.handles.length
      = t.slots.toList.countP Option.isSome := List.length_filterMap_eq_countP
    _ = t.slots.size - t.free.size := by rw [t.size_free, hslots, Nat.add_sub_cancel]

/-- No more slots are free than there are, so that the difference is the size of the table. -/
theorem size_add_size_free (t : DescriptorTable H) : t.size + t.free.size = t.slots.size := by
  have hle : t.free.size ≤ t.slots.size := by
    rw [t.size_free, ← Array.length_toList]
    exact List.countP_le_length
  exact Nat.sub_add_cancel hle

theorem map_snd_entries (t : DescriptorTable H) : t.entries.map Prod.snd = t.handles := by
  unfold entries handles
  generalize t.slots.toList = slots
  suffices h : ∀ first, ((slots.zipIdx first).filterMap fun entry =>
      entry.1.map (entry.2, ·)).map Prod.snd = slots.filterMap id from h 0
  induction slots with
  | nil => exact fun _ => rfl
  | cons slot slots ih =>
    intro first
    cases slot with
    | none => simpa using ih (first + 1)
    | some handle => simpa using ih (first + 1)

/-! ## One slot changes -/

theorem filterMap_id_cons (slot : Option H) (slots : List (Option H)) :
    (slot :: slots).filterMap id = slot.toList ++ slots.filterMap id := by
  cases slot <;> rfl

/-- A slot that is set gives up what was in it for what is put into it. -/
theorem filterMap_set_perm {slots : List (Option H)} {index : Nat} {old : Option H}
    (h : slots[index]? = some old) (new : Option H) :
    ((slots.set index new).filterMap id ++ old.toList).Perm
      (slots.filterMap id ++ new.toList) := by
  induction slots generalizing index with
  | nil => cases h
  | cons slot slots ih =>
    cases index with
    | zero =>
      cases h
      rw [List.set_cons_zero, filterMap_id_cons, filterMap_id_cons, List.append_assoc]
      exact List.perm_append_comm.trans (List.perm_append_comm.append_right _)
    | succ index =>
      rw [List.getElem?_cons_succ] at h
      rw [List.set_cons_succ, filterMap_id_cons, filterMap_id_cons, List.append_assoc,
        List.append_assoc]
      exact (ih h).append_left _

theorem handles_perm_of_set {index : Nat} {old new : Option H} (h : t.slots[index]? = some old)
    (hu : u.slots.toList = t.slots.toList.set index new) :
    (u.handles ++ old.toList).Perm (t.handles ++ new.toList) := by
  rw [handles, hu]
  exact filterMap_set_perm (by rw [Array.getElem?_toList, h]) new

theorem handles_fill {index : Nat} {old : Option H} (h : t.slots[index]? = some old) (new : H) :
    ((t.fill index new).handles ++ old.toList).Perm (new :: t.handles) :=
  (handles_perm_of_set h Array.toList_setIfInBounds).trans (List.perm_append_singleton new _)

/-- A new handle joins those in the table. -/
theorem handles_of_insert? {handle : H} {index : Nat} (h : t.insert? handle = some (index, u)) :
    u.handles.Perm (handle :: t.handles) := by
  obtain ⟨hmin, rfl⟩ | ⟨-, -, hroom, rfl⟩ := insert?_cases h
  · simpa using handles_fill ((t.mem_free_iff index).mp (mem_free_of_min? hmin)) handle
  · rw [handles, grow, Array.toList_push, List.filterMap_append]
    exact List.perm_append_singleton handle _

/-- The handle of a descriptor that is freed leaves the table. -/
theorem handles_erase {index : Nat} {handle : H} (h : t.get? index = some handle) :
    t.handles.Perm (handle :: (t.erase index).handles) := by
  have hslot := get?_eq_some_iff.mp h
  obtain ⟨hindex, -⟩ := Array.getElem?_eq_some_iff.mp hslot
  have hslots : (t.erase index).slots.toList = t.slots.toList.set index none := by
    rw [erase, dif_pos hindex, vacate, Array.toList_set]
  have hperm := handles_perm_of_set hslot hslots
  rw [Option.toList_none, List.append_nil, Option.toList_some] at hperm
  exact hperm.symm.trans (List.perm_append_singleton handle _)

/-- A handle that is replaced by another with the same tag leaves the tags as they are. -/
theorem map_handles_replace {L : Type} {f : H → L} {index : Nat} {old new : H}
    (h : t.get? index = some old) (hf : f new = f old) :
    ((t.replace index new).handles.map f).Perm (t.handles.map f) := by
  have hperm := (handles_fill (get?_eq_some_iff.mp h) new).map f
  rw [List.map_append, Option.toList_some, List.map_singleton, List.map_cons, hf] at hperm
  rw [replace, if_pos (by rw [h]; rfl)]
  exact (List.perm_append_right_iff [f old]).mp
    (hperm.trans (List.perm_append_singleton (f old) _).symm)

/-! ## Tables that look alike -/

/-- Two tables cannot be told apart, if not more is seen of a handle than a view of it. -/
structure LooksLike {K : Type} (view : H → K) (t u : DescriptorTable H) : Prop where
  capacity : t.capacity = u.capacity
  slots : t.slots.map (Option.map view) = u.slots.map (Option.map view)

namespace LooksLike

variable {K : Type} {view : H → K}

theorem refl (t : DescriptorTable H) : LooksLike view t t := ⟨rfl, rfl⟩

theorem symm (h : LooksLike view t u) : LooksLike view u t := ⟨h.capacity.symm, h.slots.symm⟩

theorem trans {v : DescriptorTable H} (h : LooksLike view t u) (h' : LooksLike view u v) :
    LooksLike view t v := ⟨h.capacity.trans h'.capacity, h.slots.trans h'.slots⟩

theorem size_slots (h : LooksLike view t u) : t.slots.size = u.slots.size := by
  simpa using congrArg Array.size h.slots

theorem map_getElem? (h : LooksLike view t u) (index : Nat) :
    t.slots[index]?.map (Option.map view) = u.slots[index]?.map (Option.map view) := by
  rw [← Array.getElem?_map, ← Array.getElem?_map, h.slots]

theorem map_get? (h : LooksLike view t u) (index : Nat) :
    (t.get? index).map view = (u.get? index).map view := by
  have hslot := h.map_getElem? index
  unfold DescriptorTable.get?
  generalize t.slots[index]? = slot at hslot ⊢
  generalize u.slots[index]? = slot' at hslot ⊢
  obtain _ | _ | a := slot <;> obtain _ | _ | b := slot' <;> simp_all

/-- The same numbers are free, since a slot looks free if it is. -/
theorem mem_free_iff (h : LooksLike view t u) (index : Nat) : index ∈ t.free ↔ index ∈ u.free := by
  have hslot := h.map_getElem? index
  rw [t.mem_free_iff, u.mem_free_iff]
  generalize t.slots[index]? = slot at hslot ⊢
  generalize u.slots[index]? = slot' at hslot ⊢
  obtain _ | _ | a := slot <;> obtain _ | _ | b := slot' <;> simp_all

theorem min?_free (h : LooksLike view t u) : t.free.min? = u.free.min? := by
  refine Option.ext fun index => ?_
  rw [Std.TreeSet.min?_eq_some_iff_mem_and_forall, Std.TreeSet.min?_eq_some_iff_mem_and_forall]
  simp only [h.mem_free_iff]

theorem fill (h : LooksLike view t u) (index : Nat) {a b : H} (hview : view a = view b) :
    LooksLike view (t.fill index a) (u.fill index b) where
  capacity := h.capacity
  slots := by
    simp only [DescriptorTable.fill, Array.map_setIfInBounds, h.slots, Option.map_some, hview]

theorem replace (h : LooksLike view t u) (index : Nat) {a b : H} (hview : view a = view b) :
    LooksLike view (t.replace index a) (u.replace index b) := by
  have hsome : (t.get? index).isSome = (u.get? index).isSome := by
    rw [← Option.isSome_map (f := view), h.map_get?, Option.isSome_map]
  unfold DescriptorTable.replace
  rw [hsome]
  split
  · exact h.fill index hview
  · exact h

/-- A handle may be replaced by another with the same view. -/
theorem replace_left {index : Nat} {old new : H} (hget : t.get? index = some old)
    (hview : view new = view old) : LooksLike view (t.replace index new) t := by
  have hslot := get?_eq_some_iff.mp hget
  obtain ⟨hindex, -⟩ := Array.getElem?_eq_some_iff.mp hslot
  rw [DescriptorTable.replace, if_pos (by rw [hget]; rfl)]
  refine ⟨rfl, Array.ext_getElem? fun other => ?_⟩
  rw [DescriptorTable.fill, Array.getElem?_map, Array.getElem?_map, Array.getElem?_setIfInBounds]
  by_cases hother : index = other
  · subst hother
    rw [if_pos rfl, if_pos hindex, hslot]
    exact congrArg (some ∘ some) hview
  · rw [if_neg hother]

theorem erase (h : LooksLike view t u) (index : Nat) :
    LooksLike view (t.erase index) (u.erase index) := by
  unfold DescriptorTable.erase
  by_cases hindex : index < t.slots.size
  · rw [dif_pos hindex, dif_pos (by rwa [← h.size_slots])]
    refine ⟨h.capacity, ?_⟩
    simp only [vacate, Array.map_set, h.slots]
  · rw [dif_neg hindex, dif_neg (by rwa [← h.size_slots])]
    exact h

/-- A new handle gets the same descriptor in both tables, or in none. -/
theorem insert? (h : LooksLike view t u) (handle : H) :
    Option.Rel (fun x y => x.1 = y.1 ∧ LooksLike view x.2 y.2) (t.insert? handle)
      (u.insert? handle) := by
  unfold DescriptorTable.insert?
  rw [h.min?_free]
  cases u.free.min? with
  | some index => exact .some ⟨rfl, h.fill index rfl⟩
  | none =>
    dsimp only
    by_cases hroom : t.slots.size < t.capacity
    · rw [dif_pos hroom, dif_pos (by rwa [← h.size_slots, ← h.capacity])]
      refine .some ⟨h.size_slots, h.capacity, ?_⟩
      simp only [grow, Array.map_push, h.slots]
    · rw [dif_neg hroom, dif_neg (by rwa [← h.size_slots, ← h.capacity])]
      exact .none

end LooksLike

end FileScript.DescriptorTable
