import FileScript.Fault
import FileScript.Log
import Std.Data.TreeSet

/-!
# Descriptor tables

A table gives each handle that it holds a small number, its descriptor. A new handle gets the least
number that is free, and no number reaches the capacity of the table.

The slots of a table grow up to its capacity, and the numbers of those that were freed are kept in
order, so that the least of them is at hand. `get?` is the view of a table as a map from descriptors
to handles; the lemma beside each change says what the change does to that map.
-/

namespace FileScript

/-- Handles by descriptor, up to a capacity. -/
structure DescriptorTable (H : Type) where
  capacity : Nat
  slots : Array (Option H) := #[]
  /-- The numbers of the slots that hold no handle. -/
  free : Std.TreeSet Nat := ∅
  mem_free_iff (index : Nat) : index ∈ free ↔ slots[index]? = some none := by simp
  size_slots_le : slots.size ≤ capacity := by simp

namespace DescriptorTable

variable {H : Type}

/-- A table that holds no handle. -/
def empty (capacity : Nat) : DescriptorTable H := { capacity }

/-- The handles in the table with their descriptors, in ascending order. -/
def entries (t : DescriptorTable H) : List (Nat × H) :=
  t.slots.toList.zipIdx.filterMap fun (slot, index) => slot.map (index, ·)

/-- The number of handles in the table. -/
def size (t : DescriptorTable H) : Nat := t.slots.size - t.free.size

/-- Whether the table holds no handle. -/
def isEmpty (t : DescriptorTable H) : Bool := t.size == 0

/-- The handle of a descriptor. -/
def get? (t : DescriptorTable H) (index : Nat) : Option H := t.slots[index]?.join

/-- The handle of a descriptor, or the fault of naming a free one. -/
def lookup (t : DescriptorTable H) (index : Nat) : Except Fault H :=
  match t.get? index with
  | some handle => .ok handle
  | none => .error (.badDescriptor index)

theorem get?_eq_some_iff {t : DescriptorTable H} {index : Nat} {handle : H} :
    t.get? index = some handle ↔ t.slots[index]? = some (some handle) := Option.join_eq_some_iff

@[simp] theorem get?_empty (capacity index : Nat) :
    (empty capacity : DescriptorTable H).get? index = none := by
  simp [get?, empty]

/-- The slot of a number that was freed holds no handle. -/
theorem get?_of_mem_free {t : DescriptorTable H} {index : Nat} (h : index ∈ t.free) :
    t.get? index = none := by
  rw [get?, (t.mem_free_iff index).mp h, Option.join_some]

/-! ## One slot changes -/

/-- Puts a handle into a slot. -/
def fill (t : DescriptorTable H) (index : Nat) (handle : H) : DescriptorTable H where
  capacity := t.capacity
  slots := t.slots.setIfInBounds index (some handle)
  free := t.free.erase index
  mem_free_iff other := by
    rw [Std.TreeSet.mem_erase, t.mem_free_iff, Array.getElem?_setIfInBounds, ne_eq,
      Std.LawfulEqCmp.compare_eq_iff_eq]
    grind
  size_slots_le := by simpa using t.size_slots_le

theorem get?_fill {t : DescriptorTable H} {index : Nat} (hindex : index < t.slots.size) (handle : H)
    (other : Nat) :
    (t.fill index handle).get? other = if other = index then some handle else t.get? other := by
  simp only [get?, fill, Array.getElem?_setIfInBounds]
  grind

/-- Takes the handle out of a slot. -/
def vacate (t : DescriptorTable H) (index : Nat) (hindex : index < t.slots.size) :
    DescriptorTable H where
  capacity := t.capacity
  slots := t.slots.set index none
  free := t.free.insert index
  mem_free_iff other := by
    rw [Std.TreeSet.mem_insert, t.mem_free_iff, Array.getElem?_set,
      Std.LawfulEqCmp.compare_eq_iff_eq]
    grind
  size_slots_le := by simpa using t.size_slots_le

/-- Puts a handle into a new slot. -/
def grow (t : DescriptorTable H) (handle : H) (hroom : t.slots.size < t.capacity) :
    DescriptorTable H where
  capacity := t.capacity
  slots := t.slots.push (some handle)
  free := t.free
  mem_free_iff index := by
    rw [t.mem_free_iff, Array.getElem?_push]
    grind
  size_slots_le := by rwa [Array.size_push]

theorem get?_grow {t : DescriptorTable H} {handle : H} (hroom : t.slots.size < t.capacity)
    (other : Nat) :
    (t.grow handle hroom).get? other =
      if other = t.slots.size then some handle else t.get? other := by
  simp only [get?, grow, Array.getElem?_push]
  grind

/-! ## Changes -/

/-- Stores a handle under the least free descriptor and returns that. A full table takes no handle.
-/
def insert? (t : DescriptorTable H) (handle : H) : Option (Nat × DescriptorTable H) :=
  match t.free.min? with
  | some index => some (index, t.fill index handle)
  | none =>
    if hroom : t.slots.size < t.capacity then some (t.slots.size, t.grow handle hroom) else none

/-- A new handle gets the least number that was freed, or a new slot if there is none. -/
theorem insert?_cases {t u : DescriptorTable H} {handle : H} {index : Nat}
    (h : t.insert? handle = some (index, u)) :
    (t.free.min? = some index ∧ u = t.fill index handle) ∨
      (t.free.min? = none ∧ index = t.slots.size ∧ ∃ hroom, u = t.grow handle hroom) := by
  unfold insert? at h
  split at h
  · next least hmin =>
    obtain ⟨rfl, rfl⟩ := Prod.mk.inj (Option.some.inj h)
    exact .inl ⟨hmin, rfl⟩
  · next hmin =>
    split at h
    · next hroom =>
      obtain ⟨rfl, rfl⟩ := Prod.mk.inj (Option.some.inj h)
      exact .inr ⟨hmin, rfl, hroom, rfl⟩
    · cases h

/-- A handle is not taken if no slot was freed and none can be added. -/
theorem insert?_eq_none_iff {t : DescriptorTable H} {handle : H} :
    t.insert? handle = none ↔ t.free.min? = none ∧ t.slots.size = t.capacity := by
  have hle := t.size_slots_le
  unfold insert?
  cases t.free.min? with
  | some least => simp
  | none =>
    by_cases hroom : t.slots.size < t.capacity
    · simpa [hroom] using Nat.ne_of_lt hroom
    · simpa [hroom] using Nat.le_antisymm hle (Nat.le_of_not_lt hroom)

theorem mem_free_of_min? {t : DescriptorTable H} {index : Nat} (h : t.free.min? = some index) :
    index ∈ t.free := (Std.TreeSet.min?_eq_some_iff_mem_and_forall.mp h).1

theorem lt_size_of_min? {t : DescriptorTable H} {index : Nat} (h : t.free.min? = some index) :
    index < t.slots.size := by
  obtain ⟨hlt, -⟩ := Array.getElem?_eq_some_iff.mp ((t.mem_free_iff index).mp (mem_free_of_min? h))
  exact hlt

theorem get?_eq_none_of_insert? {t u : DescriptorTable H} {handle : H} {index : Nat}
    (h : t.insert? handle = some (index, u)) : t.get? index = none := by
  obtain ⟨hmin, -⟩ | ⟨-, rfl, -⟩ := insert?_cases h
  · exact get?_of_mem_free (mem_free_of_min? hmin)
  · simp [get?]

theorem get?_of_insert? {t u : DescriptorTable H} {handle : H} {index : Nat}
    (h : t.insert? handle = some (index, u)) (other : Nat) :
    u.get? other = if other = index then some handle else t.get? other := by
  obtain ⟨hmin, rfl⟩ | ⟨-, rfl, hroom, rfl⟩ := insert?_cases h
  · exact get?_fill (lt_size_of_min? hmin) handle other
  · exact get?_grow hroom other

/-- Puts another handle under a descriptor that is taken. -/
def replace (t : DescriptorTable H) (index : Nat) (handle : H) : DescriptorTable H :=
  if (t.get? index).isSome then t.fill index handle else t

theorem get?_replace (t : DescriptorTable H) (index other : Nat) (handle : H) :
    (t.replace index handle).get? other =
      if other = index then (t.get? index).map fun _ => handle else t.get? other := by
  unfold replace
  split
  · next h =>
    obtain ⟨old, h⟩ := Option.isSome_iff_exists.mp h
    obtain ⟨hindex, -⟩ := Array.getElem?_eq_some_iff.mp (get?_eq_some_iff.mp h)
    rw [get?_fill hindex, h, Option.map_some]
  · next h =>
    simp only [Bool.not_eq_true, Option.isSome_eq_false_iff, Option.isNone_iff_eq_none] at h
    split
    · next heq => rw [heq, h, Option.map_none]
    · rfl

/-- Frees a descriptor. -/
def erase (t : DescriptorTable H) (index : Nat) : DescriptorTable H :=
  if hindex : index < t.slots.size then t.vacate index hindex else t

@[simp] theorem get?_erase (t : DescriptorTable H) (index other : Nat) :
    (t.erase index).get? other = if other = index then none else t.get? other := by
  unfold erase
  split
  · simp only [get?, vacate, Array.getElem?_set]
    grind
  · simp only [get?]
    grind

/-- Frees every descriptor. -/
def clear (t : DescriptorTable H) : DescriptorTable H := .empty t.capacity

@[simp] theorem get?_clear (t : DescriptorTable H) (index : Nat) : t.clear.get? index = none :=
  get?_empty t.capacity index

/-- Closes the handle of a descriptor and frees the descriptor. If the close fails, the handle stays
in the table. -/
def release {m : Type → Type} [Monad m] (t : DescriptorTable H) (index : Nat)
    (close : H → m (Except Errno Unit)) : m (Except Fault (DescriptorTable H)) :=
  match t.lookup index with
  | .error fault => return .error fault
  | .ok handle => do
    match ← close handle with
    | .ok () => return .ok (t.erase index)
    | .error e => return .error (.refused e)

/-- Closes every handle in ascending order, reports the closes that fail and counts them. -/
def closeAll {m : Type → Type} [Monad m] [MonadLog m] (t : DescriptorTable H)
    (close : H → m (Except Errno Unit)) : m Nat :=
  t.entries.foldlM (fun failures (index, handle) => do
    match ← close handle with
    | .ok () => return failures
    | .error e =>
      report .table .warn s!"close({index}) during teardown failed: {e.message}"
      return failures + 1) 0

end DescriptorTable

end FileScript
