import FileScript.Proofs.DescriptorTables

/-!
# Descriptor tables as maps

What a descriptor table does, told of nothing but a map from descriptors to handles.

1. `TableRequest` and `DescriptorTable.answer`: what a table can be asked for, with a close that may
   end in any way and notes which handles it was given.
2. `HandleMap.Step`: what the map must do in each case, with the least free descriptor for a new
   handle and the handles in ascending order when all of them are closed.
3. `DescriptorTable.answer_step` and `HandleMap.Step.unique`: the step of a table is a step of its
   map, and the map has no other.
4. `DescriptorTable.run_map`: so the runs of an empty table are the runs of the empty map.
-/

namespace FileScript

variable {H : Type}

/-- What a table of descriptors is asked for. -/
inductive TableRequest (H : Type) where
  /-- To store a handle. -/
  | insert (handle : H)
  /-- To look up a handle, which is changed then. -/
  | lookup (index : Nat) (change : H → H)
  /-- To close a handle and to free its descriptor. -/
  | release (index : Nat)
  /-- To close all handles and to free their descriptors. -/
  | drain

/-- What a table of descriptors answers. -/
inductive TableReply (H : Type) where
  | stored (index : Nat)
  /-- The handle did not get a descriptor. -/
  | rejected (handle : H)
  | found (handle : H)
  | released
  | drained (failures : Nat)
  | failed (fault : Fault)

/-- The handles that a table had closed, in order, and what it has reported. -/
structure Closings (H : Type) where
  handles : List H := []
  log : Log := #[]

instance : MonadLog (StateM (Closings H)) where
  report entry := modify fun r => { r with log := r.log.push entry }

namespace Closings

variable (outcome : List H → H → Except Errno Unit)

/-- Closes a handle. How that ends may depend on the handle and on what was closed before. -/
def close (handle : H) : StateM (Closings H) (Except Errno Unit) := fun r =>
  (outcome r.handles handle, { r with handles := r.handles ++ [handle] })

theorem close_bind {α : Type} (handle : H) (next : Except Errno Unit → StateM (Closings H) α)
    (r : Closings H) :
    (close outcome handle >>= next) r =
      next (outcome r.handles handle) { r with handles := r.handles ++ [handle] } := rfl

theorem report_bind {α : Type} (source : LogSource) (level : LogLevel) (text : String)
    (next : Unit → StateM (Closings H) α) (r : Closings H) :
    (report source level text >>= next) r =
      next () { r with log := r.log.push { level, source, text } } := rfl

/-- The line about a handle that could not be closed. -/
def refusal (index : Nat) (e : Errno) : LogEntry where
  level := .warn
  source := .table
  text := s!"close({index}) during teardown failed: {e.message}"

/-- The lines about those of the handles that cannot be closed, if they are closed one after the
other. -/
def refusals : List H → List (Nat × H) → List LogEntry
  | _, [] => []
  | closed, (index, handle) :: held =>
    match outcome closed handle with
    | .ok () => refusals (closed ++ [handle]) held
    | .error e => refusal index e :: refusals (closed ++ [handle]) held

end Closings

namespace DescriptorTable

variable (outcome : List H → H → Except Errno Unit) (t : DescriptorTable H)

/-- The answer of a table, and the table after it. -/
def answer : TableRequest H → StateM (Closings H) (TableReply H × DescriptorTable H)
  | .insert handle =>
    return match t.insert? handle with
      | some (index, u) => (.stored index, u)
      | none => (.rejected handle, t)
  | .lookup index change =>
    return match t.lookup index with
      | .ok handle => (.found handle, t.replace index (change handle))
      | .error fault => (.failed fault, t)
  | .release index => do
    match ← t.release index (Closings.close outcome) with
    | .ok u => return (.released, u)
    | .error fault => return (.failed fault, t)
  | .drain => do
    let failures ← t.closeAll (Closings.close outcome)
    return (.drained failures, t.clear)

/-- The answers of a table to one request after the other, and the table after them. -/
def run : DescriptorTable H → List (TableRequest H) →
    StateM (Closings H) (List (TableReply H) × DescriptorTable H)
  | t, [] => return ([], t)
  | t, request :: rest => do
    let (reply, t) ← t.answer outcome request
    let (replies, t) ← t.run rest
    return (reply :: replies, t)

end DescriptorTable

/-! ## The map -/

/-- Handles by descriptor. -/
abbrev HandleMap (H : Type) := Nat → Option H

namespace HandleMap

/-- What a map of at most `capacity` handles does when it is asked for something. -/
inductive Step (capacity : Nat) (outcome : List H → H → Except Errno Unit) :
    HandleMap H → Closings H → TableRequest H → TableReply H → HandleMap H → Closings H → Prop
  /-- A new handle gets the least free descriptor. -/
  | stored {m : HandleMap H} {r : Closings H} {handle : H} {index : Nat}
      (hleast : IsLeast {free | free < capacity ∧ m free = none} index) :
      Step capacity outcome m r (.insert handle) (.stored index)
        (Function.update m index (some handle)) r
  /-- A handle is rejected if all descriptors are taken. -/
  | rejected {m : HandleMap H} {r : Closings H} {handle : H}
      (hfull : ∀ index < capacity, m index ≠ none) :
      Step capacity outcome m r (.insert handle) (.rejected handle) m r
  | found {m : HandleMap H} {r : Closings H} {index : Nat} {handle : H} {change : H → H}
      (hget : m index = some handle) :
      Step capacity outcome m r (.lookup index change) (.found handle)
        (Function.update m index (some (change handle))) r
  | missing {m : HandleMap H} {r : Closings H} {index : Nat} {change : H → H}
      (hget : m index = none) :
      Step capacity outcome m r (.lookup index change) (.failed (.badDescriptor index)) m r
  /-- A descriptor is free once its handle is closed. -/
  | released {m : HandleMap H} {r : Closings H} {index : Nat} {handle : H}
      (hget : m index = some handle) (hclose : outcome r.handles handle = .ok ()) :
      Step capacity outcome m r (.release index) .released (Function.update m index none)
        { r with handles := r.handles ++ [handle] }
  /-- A handle that cannot be closed stays. -/
  | refused {m : HandleMap H} {r : Closings H} {index : Nat} {handle : H} {e : Errno}
      (hget : m index = some handle) (hclose : outcome r.handles handle = .error e) :
      Step capacity outcome m r (.release index) (.failed (.refused e)) m
        { r with handles := r.handles ++ [handle] }
  | vacant {m : HandleMap H} {r : Closings H} {index : Nat} (hget : m index = none) :
      Step capacity outcome m r (.release index) (.failed (.badDescriptor index)) m r
  /-- All handles are closed in ascending order, and are gone whether that fails or not. -/
  | drained {m : HandleMap H} {r : Closings H} {held : List (Nat × H)}
      (hsorted : held.Pairwise (·.1 < ·.1))
      (hheld : ∀ index handle, (index, handle) ∈ held ↔ m index = some handle) :
      Step capacity outcome m r .drain
        (.drained (Closings.refusals outcome r.handles held).length) (fun _ => none)
        { handles := r.handles ++ held.map Prod.snd
          log := r.log ++ (Closings.refusals outcome r.handles held).toArray }

/-- What a map does when it is asked for one thing after the other. -/
inductive Run (capacity : Nat) (outcome : List H → H → Except Errno Unit) :
    HandleMap H → Closings H → List (TableRequest H) → List (TableReply H) → HandleMap H →
      Closings H → Prop
  | nil {m : HandleMap H} {r : Closings H} : Run capacity outcome m r [] [] m r
  | cons {m m' m'' : HandleMap H} {r r' r'' : Closings H} {request : TableRequest H}
      {reply : TableReply H} {rest : List (TableRequest H)} {replies : List (TableReply H)}
      (hstep : Step capacity outcome m r request reply m' r')
      (hrun : Run capacity outcome m' r' rest replies m'' r'') :
      Run capacity outcome m r (request :: rest) (reply :: replies) m'' r''

variable {capacity : Nat} {outcome : List H → H → Except Errno Unit} {m m₁ m₂ : HandleMap H}
  {r r₁ r₂ : Closings H}

/-- What a map does is determined by what it is asked for. -/
theorem Step.unique {request : TableRequest H} {reply₁ reply₂ : TableReply H}
    (h₁ : Step capacity outcome m r request reply₁ m₁ r₁)
    (h₂ : Step capacity outcome m r request reply₂ m₂ r₂) :
    reply₁ = reply₂ ∧ m₁ = m₂ ∧ r₁ = r₂ := by
  cases h₁ with
  | stored hleast =>
    cases h₂ with
    | stored hleast' =>
      obtain rfl := hleast.unique hleast'
      exact ⟨rfl, rfl, rfl⟩
    | rejected hfull => exact absurd hleast.1.2 (hfull _ hleast.1.1)
  | rejected hfull =>
    cases h₂ with
    | stored hleast => exact absurd hleast.1.2 (hfull _ hleast.1.1)
    | rejected => exact ⟨rfl, rfl, rfl⟩
  | drained hsorted hheld =>
    cases h₂ with
    | drained hsorted' hheld' =>
      -- the handles in ascending order are determined by the map
      obtain rfl := hsorted.eq_of_mem_iff hsorted' fun (index, handle) =>
        (hheld index handle).trans (hheld' index handle).symm
      exact ⟨rfl, rfl, rfl⟩
  -- in the other cases, the map and the outcome at the descriptor tell them apart
  | _ => cases h₂ <;> simp_all

theorem Run.unique {requests : List (TableRequest H)} {replies₁ replies₂ : List (TableReply H)}
    (h₁ : Run capacity outcome m r requests replies₁ m₁ r₁)
    (h₂ : Run capacity outcome m r requests replies₂ m₂ r₂) :
    replies₁ = replies₂ ∧ m₁ = m₂ ∧ r₁ = r₂ := by
  induction h₁ generalizing replies₂ with
  | nil =>
    cases h₂
    exact ⟨rfl, rfl, rfl⟩
  | cons hstep _ ih =>
    cases h₂ with
    | cons hstep' hrun' =>
      obtain ⟨rfl, rfl, rfl⟩ := hstep.unique hstep'
      obtain ⟨rfl, rfl, rfl⟩ := ih hrun'
      exact ⟨rfl, rfl, rfl⟩

end HandleMap

/-! ## The table -/

namespace DescriptorTable

variable {outcome : List H → H → Except Errno Unit} {t u : DescriptorTable H}

theorem mem_free_iff_get? {index : Nat} :
    index ∈ t.free ↔ index < t.slots.size ∧ t.get? index = none := by
  constructor
  · intro h
    exact ⟨(Array.getElem?_eq_some_iff.mp ((t.mem_free_iff index).mp h)).1, get?_of_mem_free h⟩
  · rintro ⟨hlt, hget⟩
    rw [get?, Array.getElem?_eq_getElem hlt, Option.join_some] at hget
    rw [t.mem_free_iff, Array.getElem?_eq_getElem hlt, hget]

theorem lt_size_of_get? {index : Nat} (h : t.get? index ≠ none) : index < t.slots.size := by
  by_contra hle
  exact h (by simp [get?, hle])

/-- No descriptor reaches the capacity. -/
theorem lt_capacity_of_get? {index : Nat} (h : t.get? index ≠ none) : index < t.capacity :=
  (lt_size_of_get? h).trans_le t.size_slots_le

theorem get?_ne_none_of_min? (hmin : t.free.min? = none) {index : Nat} (h : index < t.slots.size) :
    t.get? index ≠ none := fun hget =>
  Std.TreeSet.isEmpty_iff_forall_not_mem.mp (Std.TreeSet.min?_eq_none_iff.mp hmin) index
    (mem_free_iff_get?.mpr ⟨h, hget⟩)

theorem capacity_of_insert? {handle : H} {index : Nat} (h : t.insert? handle = some (index, u)) :
    u.capacity = t.capacity := by
  obtain ⟨-, rfl⟩ | ⟨-, -, -, rfl⟩ := insert?_cases h <;> rfl

theorem capacity_replace (t : DescriptorTable H) (index : Nat) (handle : H) :
    (t.replace index handle).capacity = t.capacity := by
  unfold replace
  split <;> rfl

theorem capacity_erase (t : DescriptorTable H) (index : Nat) :
    (t.erase index).capacity = t.capacity := by
  unfold erase
  split <;> rfl

/-- A new handle gets the least free descriptor: the least number that was freed, or else the number
of the next slot. -/
theorem isLeast_of_insert? {handle : H} {index : Nat} (h : t.insert? handle = some (index, u)) :
    IsLeast {free | free < t.capacity ∧ t.get? free = none} index := by
  have hfree := get?_eq_none_of_insert? h
  obtain ⟨hmin, -⟩ | ⟨hmin, rfl, hroom, -⟩ := insert?_cases h
  · have hindex : index < t.slots.size := lt_size_of_min? hmin
    refine ⟨⟨hindex.trans_le t.size_slots_le, hfree⟩, fun other ⟨_, hother⟩ => ?_⟩
    rcases lt_or_ge other t.slots.size with hlt | hge
    · have hle := (Std.TreeSet.min?_eq_some_iff_mem_and_forall.mp hmin).2 other
        (mem_free_iff_get?.mpr ⟨hlt, hother⟩)
      rwa [Nat.isLE_compare] at hle
    · exact hindex.le.trans hge
  · refine ⟨⟨hroom, hfree⟩, fun other ⟨_, hother⟩ => ?_⟩
    by_contra hlt
    exact get?_ne_none_of_min? hmin (not_le.mp hlt) hother

/-- A table is full if all its descriptors are taken. -/
theorem get?_ne_none_of_full {handle : H} (h : t.insert? handle = none) {index : Nat}
    (hindex : index < t.capacity) : t.get? index ≠ none := by
  obtain ⟨hmin, hsize⟩ := insert?_eq_none_iff.mp h
  exact get?_ne_none_of_min? hmin (by rwa [hsize])

theorem mem_entries_iff (index : Nat) (handle : H) :
    (index, handle) ∈ t.entries ↔ t.get? index = some handle := by
  rw [entries, List.mem_filterMap, get?_eq_some_iff, ← Array.getElem?_toList]
  constructor
  · rintro ⟨⟨slot, other⟩, hmem, heq⟩
    obtain ⟨old, rfl, heq⟩ := Option.map_eq_some_iff.mp heq
    cases heq
    exact List.mem_zipIdx_iff_getElem?.mp hmem
  · exact fun h => ⟨(some handle, index), List.mem_zipIdx_iff_getElem?.mpr h, rfl⟩

theorem entries_sorted : t.entries.Pairwise (·.1 < ·.1) := by
  have hsorted : t.slots.toList.zipIdx.Pairwise (·.2 < ·.2) := by
    rw [← List.pairwise_map (f := Prod.snd), List.zipIdx_map_snd]
    exact List.pairwise_lt_range' 1
  refine hsorted.filterMap _ ?_
  rintro ⟨slot, index⟩ ⟨slot', index'⟩ hlt entry hentry entry' hentry'
  obtain ⟨_, -, rfl⟩ := Option.map_eq_some_iff.mp hentry
  obtain ⟨_, -, rfl⟩ := Option.map_eq_some_iff.mp hentry'
  exact hlt

/-- The number of handles is the number of descriptors that are taken. -/
theorem size_eq_countP :
    t.size = (List.range t.capacity).countP fun index => (t.get? index).isSome := by
  have hnodup : (t.entries.map Prod.fst).Nodup :=
    (List.pairwise_map.mpr t.entries_sorted).imp fun h => h.ne
  have hperm : (t.entries.map Prod.fst).Perm
      ((List.range t.capacity).filter fun index => (t.get? index).isSome) := by
    refine (List.perm_ext_iff_of_nodup hnodup (List.nodup_range.filter _)).mpr fun index => ?_
    rw [List.mem_filter, List.mem_range, Option.isSome_iff_exists]
    constructor
    · intro h
      obtain ⟨⟨_, handle⟩, hmem, rfl⟩ := List.mem_map.mp h
      have hget := (mem_entries_iff _ handle).mp hmem
      exact ⟨lt_capacity_of_get? (by rw [hget]; exact Option.some_ne_none handle), handle, hget⟩
    · rintro ⟨-, handle, hget⟩
      exact List.mem_map.mpr ⟨(index, handle), (mem_entries_iff index handle).mpr hget, rfl⟩
  calc t.size
      = t.entries.length := by rw [← length_handles, ← map_snd_entries, List.length_map]
    _ = _ := by rw [← List.length_map Prod.fst, hperm.length_eq, ← List.countP_eq_length_filter]

theorem size_le_capacity : t.size ≤ t.capacity := (Nat.sub_le _ _).trans t.size_slots_le

/-! ### Closing all handles -/

/-- Each handle is closed, whether the one before it could be closed or not. -/
theorem foldlM_close (outcome : List H → H → Except Errno Unit) (held : List (Nat × H))
    (failures : Nat) (r : Closings H) :
    (held.foldlM (fun (failures : Nat) (entry : Nat × H) => do
      match ← Closings.close outcome entry.2 with
      | .ok () => return failures
      | .error e =>
        report .table .warn s!"close({entry.1}) during teardown failed: {e.message}"
        return failures + 1) failures : StateM (Closings H) Nat) r =
      (failures + (Closings.refusals outcome r.handles held).length,
        { handles := r.handles ++ held.map Prod.snd
          log := r.log ++ (Closings.refusals outcome r.handles held).toArray }) := by
  induction held generalizing failures r with
  | nil =>
    simp [Closings.refusals]
    rfl
  | cons entry held ih =>
    rw [List.foldlM_cons, bind_assoc, Closings.close_bind]
    cases hclose : outcome r.handles entry.2 with
    | ok _ =>
      dsimp only
      rw [pure_bind, ih]
      simp [Closings.refusals, hclose]
    | error e =>
      dsimp only
      rw [bind_assoc, Closings.report_bind, pure_bind, ih]
      simp [Closings.refusals, Closings.refusal, hclose, Nat.add_assoc, Nat.add_comm 1]

theorem closeAll_eq (r : Closings H) :
    t.closeAll (Closings.close outcome) r =
      ((Closings.refusals outcome r.handles t.entries).length,
        { handles := r.handles ++ t.entries.map Prod.snd
          log := r.log ++ (Closings.refusals outcome r.handles t.entries).toArray }) := by
  have h := foldlM_close outcome t.entries 0 r
  rw [Nat.zero_add] at h
  exact h

/-! ### One request -/

theorem get?_eq_update_of_insert? {handle : H} {index : Nat}
    (h : t.insert? handle = some (index, u)) :
    u.get? = Function.update t.get? index (some handle) := by
  funext other
  rw [get?_of_insert? h, Function.update_apply]

theorem get?_replace_eq_update {index : Nat} {old : H} (hget : t.get? index = some old) (new : H) :
    (t.replace index new).get? = Function.update t.get? index (some new) := by
  funext other
  rw [get?_replace, Function.update_apply, hget, Option.map_some]

theorem get?_erase_eq_update (index : Nat) :
    (t.erase index).get? = Function.update t.get? index none := by
  funext other
  rw [get?_erase, Function.update_apply]

variable (outcome t)

/-- The step of a table is a step of its map. -/
theorem answer_step (request : TableRequest H) (r : Closings H) :
    ∃ reply u r', t.answer outcome request r = ((reply, u), r') ∧ u.capacity = t.capacity ∧
      HandleMap.Step t.capacity outcome t.get? r request reply u.get? r' := by
  cases request with
  | insert handle =>
    cases hinsert : t.insert? handle with
    | some entry =>
      obtain ⟨index, u⟩ := entry
      refine ⟨.stored index, u, r, ?_, capacity_of_insert? hinsert, ?_⟩
      · rw [answer, hinsert]
        rfl
      · rw [get?_eq_update_of_insert? hinsert]
        exact .stored (isLeast_of_insert? hinsert)
    | none =>
      refine ⟨.rejected handle, t, r, ?_, rfl, .rejected fun _ => get?_ne_none_of_full hinsert⟩
      rw [answer, hinsert]
      rfl
  | lookup index change =>
    cases hget : t.get? index with
    | some handle =>
      refine ⟨.found handle, t.replace index (change handle), r, ?_, ?_, ?_⟩
      · rw [answer, lookup, hget]
        rfl
      · exact capacity_replace t index (change handle)
      · rw [get?_replace_eq_update hget]
        exact .found hget
    | none =>
      refine ⟨.failed (.badDescriptor index), t, r, ?_, rfl, .missing hget⟩
      rw [answer, lookup, hget]
      rfl
  | release index =>
    cases hget : t.get? index with
    | some handle =>
      cases hclose : outcome r.handles handle with
      | ok _ =>
        refine ⟨.released, t.erase index, { r with handles := r.handles ++ [handle] }, ?_,
          capacity_erase t index, ?_⟩
        · rw [answer, release, lookup, hget]
          dsimp only
          rw [bind_assoc, Closings.close_bind, hclose]
          rfl
        · rw [get?_erase_eq_update]
          exact .released hget hclose
      | error e =>
        refine ⟨.failed (.refused e), t, { r with handles := r.handles ++ [handle] }, ?_, rfl,
          .refused hget hclose⟩
        rw [answer, release, lookup, hget]
        dsimp only
        rw [bind_assoc, Closings.close_bind, hclose]
        rfl
    | none =>
      refine ⟨.failed (.badDescriptor index), t, r, ?_, rfl, .vacant hget⟩
      rw [answer, release, lookup, hget]
      rfl
  | drain =>
    have hclear : t.clear.get? = fun _ => none := funext t.get?_clear
    have hanswer : t.answer outcome .drain r =
        ((.drained (t.closeAll (Closings.close outcome) r).1, t.clear),
          (t.closeAll (Closings.close outcome) r).2) := rfl
    rw [closeAll_eq] at hanswer
    refine ⟨_, t.clear, _, hanswer, rfl, ?_⟩
    rw [hclear]
    exact .drained t.entries_sorted t.mem_entries_iff

theorem run_cons (request : TableRequest H) (rest : List (TableRequest H)) (r : Closings H) :
    t.run outcome (request :: rest) r =
      (((t.answer outcome request r).1.1 ::
          ((t.answer outcome request r).1.2.run outcome rest (t.answer outcome request r).2).1.1,
        ((t.answer outcome request r).1.2.run outcome rest (t.answer outcome request r).2).1.2),
        ((t.answer outcome request r).1.2.run outcome rest (t.answer outcome request r).2).2) := rfl

/-- The run of a table is a run of its map. -/
theorem run_steps (requests : List (TableRequest H)) (r : Closings H) :
    ∃ replies u r', t.run outcome requests r = ((replies, u), r') ∧ u.capacity = t.capacity ∧
      HandleMap.Run t.capacity outcome t.get? r requests replies u.get? r' := by
  induction requests generalizing t r with
  | nil => exact ⟨[], t, r, rfl, rfl, .nil⟩
  | cons request rest ih =>
    obtain ⟨reply, u, r', hanswer, hcapacity, hstep⟩ := t.answer_step outcome request r
    obtain ⟨replies, v, r'', hrest, hcapacity', hrun⟩ := ih u r'
    rw [hcapacity] at hcapacity' hrun
    refine ⟨reply :: replies, v, r'', ?_, hcapacity', .cons hstep hrun⟩
    rw [run_cons, hanswer, hrest]

/-- **A descriptor table is a map of at most `capacity` handles.** Whatever an empty table is asked
for, and however the closing of handles ends, its answers, the handles that it has closed, its log
and what it holds in the end are those of the map, and of no other run of the map. It never holds
more than the capacity, and its size, which is a difference, is the number of descriptors that are
taken. -/
theorem run_map (capacity : Nat) (requests : List (TableRequest H)) (r : Closings H) :
    ∃ replies u r', (empty capacity).run outcome requests r = ((replies, u), r') ∧
      (∀ replies' m' r₁, HandleMap.Run capacity outcome (fun _ => none) r requests replies' m' r₁ ↔
        replies' = replies ∧ m' = u.get? ∧ r₁ = r') ∧
      (∀ index, u.get? index ≠ none → index < capacity) ∧
      (u.size = (List.range capacity).countP fun index => (u.get? index).isSome) ∧
      u.size + u.free.size = u.slots.size ∧ u.size ≤ capacity := by
  obtain ⟨replies, u, r', hrun, hcapacity, hsteps⟩ := (empty capacity).run_steps outcome requests r
  have hempty : (empty capacity : DescriptorTable H).get? = fun _ => none :=
    funext (get?_empty capacity)
  rw [hempty] at hsteps
  change u.capacity = capacity at hcapacity
  subst hcapacity
  refine ⟨replies, u, r', hrun, fun replies' m' r₁ => ⟨fun h => h.unique hsteps, ?_⟩,
    fun _ => lt_capacity_of_get?, size_eq_countP, u.size_add_size_free, size_le_capacity⟩
  rintro ⟨rfl, rfl, rfl⟩
  exact hsteps

end DescriptorTable

end FileScript
