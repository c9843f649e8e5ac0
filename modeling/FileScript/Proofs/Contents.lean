import FileScript.Content
import Mathlib

/-!
# Contents as arrays of bytes

What resizing, reading and overwriting do to a content, byte by byte. A content is seen as the list
of its bytes, with zeros after its end; the operations on contents, which cut and append, are the
plain ones on such lists.
-/

namespace FileScript.Content

/-! ## Plain arrays of bytes -/

/-- The byte at a position. There are zeros after the end. -/
def byteAt (a : List UInt8) (k : Nat) : UInt8 := a.getD k 0

/-- An array of `size` bytes: the first ones of `a`, and zeros after its end. -/
def resized (a : List UInt8) (size : Nat) : List UInt8 := (List.range size).map (byteAt a)

/-- The array `a` with `data` in the places from `start` on, which may lie after its end. -/
def written (a : List UInt8) (start : Nat) (data : List UInt8) : List UInt8 :=
  (List.range (max a.length (start + data.length))).map fun k =>
    if start ≤ k ∧ k < start + data.length then byteAt data (k - start) else byteAt a k

/-- The bytes in the places from `first` on and before `past`. -/
def portion (a : List UInt8) (first past : Nat) : List UInt8 := (a.take past).drop first

theorem byteAt_of_length_le {a : List UInt8} {k : Nat} (h : a.length ≤ k) : byteAt a k = 0 := by
  rw [byteAt, List.getD_eq_default _ _ h]

/-- Arrays are equal if they have one length and the same byte in each place. -/
theorem eq_of_byteAt {a b : List UInt8} (hlength : a.length = b.length)
    (h : ∀ k, byteAt a k = byteAt b k) : a = b := by
  refine List.ext_getElem hlength fun k hk hk' => ?_
  have hbyte := h k
  rwa [byteAt, byteAt, List.getD_eq_getElem _ _ hk, List.getD_eq_getElem _ _ hk'] at hbyte

theorem byteAt_append (a b : List UInt8) (k : Nat) :
    byteAt (a ++ b) k = if k < a.length then byteAt a k else byteAt b (k - a.length) := by
  unfold byteAt
  split
  · next h => rw [List.getD_append _ _ _ _ h]
  · next h => rw [List.getD_append_right _ _ _ _ (not_lt.mp h)]

theorem byteAt_take (a : List UInt8) (n k : Nat) :
    byteAt (a.take n) k = if k < n then byteAt a k else 0 := by
  unfold byteAt
  simp only [List.getD_eq_getElem?_getD, List.getElem?_take]
  split <;> rfl

theorem byteAt_drop (a : List UInt8) (n k : Nat) : byteAt (a.drop n) k = byteAt a (n + k) := by
  unfold byteAt
  simp only [List.getD_eq_getElem?_getD, List.getElem?_drop]

theorem byteAt_replicate (n k : Nat) : byteAt (List.replicate n 0) k = 0 := by
  unfold byteAt
  simp only [List.getD_eq_getElem?_getD, List.getElem?_replicate]
  split <;> rfl

theorem byteAt_map_range (f : Nat → UInt8) (n k : Nat) :
    byteAt ((List.range n).map f) k = if k < n then f k else 0 := by
  unfold byteAt
  split
  · next h => simp [h]
  · next h => simp [h]

@[simp] theorem length_resized (a : List UInt8) (size : Nat) : (resized a size).length = size := by
  rw [resized, List.length_map, List.length_range]

theorem byteAt_resized (a : List UInt8) (size k : Nat) :
    byteAt (resized a size) k = if k < size then byteAt a k else 0 := byteAt_map_range _ _ _

@[simp] theorem length_written (a : List UInt8) (start : Nat) (data : List UInt8) :
    (written a start data).length = max a.length (start + data.length) := by
  rw [written, List.length_map, List.length_range]

theorem byteAt_written (a : List UInt8) (start : Nat) (data : List UInt8) (k : Nat) :
    byteAt (written a start data) k =
      if start ≤ k ∧ k < start + data.length then byteAt data (k - start) else byteAt a k := by
  rw [written, byteAt_map_range]
  split
  · rfl
  · next h =>
    rw [not_lt, max_le_iff] at h
    rw [if_neg (by omega), byteAt_of_length_le h.1]

/-- What is cut off does not come back: an array that is made shorter and then longer has zeros
where it was cut. -/
theorem resized_resized (a : List UInt8) {size size' : Nat} (h : size ≤ size') :
    resized (resized a size) size' = resized a size ++ List.replicate (size' - size) 0 := by
  refine eq_of_byteAt (by simp; omega) fun k => ?_
  rw [byteAt_append, byteAt_resized, byteAt_resized, byteAt_replicate, length_resized]
  split <;> split <;> first | rfl | omega

/-! ## The bytes of a content -/

/-- The bytes of a content. -/
def bytes (content : ByteArray) : List UInt8 := content.data.toList

@[simp] theorem length_bytes (content : ByteArray) : (bytes content).length = content.size := by
  rw [bytes, Array.length_toList, ByteArray.size_data]

theorem bytes_injective {a b : ByteArray} (h : bytes a = bytes b) : a = b :=
  ByteArray.ext (Array.toList_inj.mp h)

@[simp] theorem bytes_append (a b : ByteArray) : bytes (a ++ b) = bytes a ++ bytes b :=
  ByteArray.toList_data_append

theorem bytes_extract (content : ByteArray) (first past : Nat) :
    bytes (content.extract first past) = portion (bytes content) first past := by
  rw [bytes, ByteArray.data_extract, Array.toList_extract, portion, bytes, List.drop_take]

@[simp] theorem bytes_zeros (n : Nat) : bytes (zeros n) = List.replicate n 0 := by
  fun_induction zeros n with
  | case1 => rfl
  | case2 n hn half heven ih =>
    rw [bytes_append, ih, List.replicate_append_replicate]
    congr 1
    omega
  | case3 n hn half hodd ih =>
    have hpush : bytes ((half ++ half).push 0) = bytes half ++ bytes half ++ [0] := by
      rw [bytes, ByteArray.data_push, Array.toList_push, ← bytes, bytes_append]
    rw [hpush, ih, List.replicate_append_replicate, ← List.replicate_succ']
    congr 1
    omega

theorem byteAt_portion (a : List UInt8) (first past k : Nat) :
    byteAt (portion a first past) k = if first + k < past then byteAt a (first + k) else 0 := by
  rw [portion, byteAt_drop, byteAt_take]

theorem length_portion (a : List UInt8) (first past : Nat) :
    (portion a first past).length = min past a.length - first := by
  rw [portion, List.length_drop, List.length_take]

/-- Resizing cuts a content or fills it up with zeros. -/
theorem bytes_resize (content : ByteArray) (size : Nat) :
    bytes (resize content size) = resized (bytes content) size := by
  refine eq_of_byteAt (by simp) fun k => ?_
  rw [byteAt_resized]
  unfold resize
  split
  · rw [bytes_extract, byteAt_portion, zero_add]
  · next h =>
    rw [bytes_append, bytes_zeros, byteAt_append, byteAt_replicate, length_bytes]
    by_cases hk : k < content.size
    · rw [if_pos hk, if_pos (by omega)]
    · rw [if_neg hk, byteAt_of_length_le (by rw [length_bytes]; omega), ite_self]

/-- Where a content is filled up, there were no bytes before. -/
theorem byteAt_resize_of_le {content : ByteArray} {size : Nat} (h : content.size ≤ size) (k : Nat) :
    byteAt (bytes (resize content size)) k = byteAt (bytes content) k := by
  rw [bytes_resize, byteAt_resized]
  split
  · rfl
  · rw [byteAt_of_length_le (by rw [length_bytes]; omega)]

/-- Overwriting changes the bytes in the places of the data, and no others. -/
theorem bytes_overwrite (content : ByteArray) (start : Nat) (data : ByteArray) :
    bytes (overwrite content start data) = written (bytes content) start (bytes data) := by
  refine eq_of_byteAt (by simp [size_overwrite]) fun k => ?_
  rw [byteAt_written, length_bytes]
  unfold overwrite
  generalize hfilled : (if content.size < start then resize content start else content) = filled
  have hsize : filled.size = max content.size start := by
    rw [← hfilled]
    split <;> simp <;> omega
  have hbyte : ∀ k, byteAt (bytes filled) k = byteAt (bytes content) k := by
    intro k
    rw [← hfilled]
    split
    · next h => exact byteAt_resize_of_le h.le k
    · rfl
  have hfront : (portion (bytes filled) 0 start).length = start := by
    rw [length_portion, length_bytes]
    omega
  have hmiddle : (portion (bytes filled) 0 start ++ bytes data).length = start + data.size := by
    rw [List.length_append, hfront, length_bytes]
  simp only [bytes_append, bytes_extract]
  rw [byteAt_append, hmiddle, byteAt_append, hfront, byteAt_portion, byteAt_portion, hbyte, hbyte]
  -- a place before the data, in the data, or after it
  by_cases hbefore : k < start
  · rw [if_pos (by omega), if_pos hbefore, if_pos (by omega), if_neg (by omega), zero_add]
  by_cases hin : k < start + data.size
  · rw [if_pos hin, if_neg hbefore, if_pos ⟨not_lt.mp hbefore, hin⟩]
  have hoff : ¬ (start ≤ k ∧ k < start + data.size) := fun h => hin h.2
  rw [if_neg hin, if_neg hoff, Nat.add_sub_cancel' (not_lt.mp hin)]
  split
  · rfl
  · rw [byteAt_of_length_le (by rw [length_bytes]; omega)]

/-- Reading gives the bytes from the offset on, as far as the content reaches. -/
theorem bytes_slice (content : ByteArray) (start count : Nat) :
    bytes (slice content start count) = portion (bytes content) (min start content.size)
      (min (start + count) content.size) :=
  bytes_extract _ _ _

theorem front_of_size_le {content : ByteArray} {n : Nat} (h : content.size ≤ n) :
    content.extract 0 n = content := by
  refine bytes_injective ?_
  rw [bytes_extract, portion, List.drop_zero, List.take_of_length_le (by rwa [length_bytes])]

/-- The first bytes of two contents, one after the other. -/
theorem front_append (a b : ByteArray) (n : Nat) :
    (a ++ b).extract 0 n = a.extract 0 n ++ b.extract 0 (n - a.size) := by
  rw [ByteArray.extract_append, Nat.zero_sub]

theorem eq_of_size_eq_zero {a b : ByteArray} (ha : a.size = 0) (hb : b.size = 0) : a = b := by
  rw [← length_bytes, List.length_eq_zero_iff] at ha hb
  exact bytes_injective (ha.trans hb.symm)

/-- What was written at a place is read there. -/
theorem slice_overwrite (content : ByteArray) (start : Nat) (data : ByteArray) :
    slice (overwrite content start data) start data.size = data := by
  have hsize := size_overwrite content start data
  have hfirst : min start (overwrite content start data).size = start := by omega
  have hpast : min (start + data.size) (overwrite content start data).size = start + data.size := by
    omega
  refine bytes_injective (eq_of_byteAt ?_ fun k => ?_)
  · rw [length_bytes, length_bytes, size_slice]
    omega
  · rw [bytes_slice, hfirst, hpast, byteAt_portion, bytes_overwrite, byteAt_written, length_bytes,
      Nat.add_sub_cancel_left]
    by_cases hin : k < data.size
    · rw [if_pos (by omega), if_pos ⟨by omega, by omega⟩]
    · rw [if_neg (by omega), byteAt_of_length_le (by rw [length_bytes]; omega)]

end FileScript.Content
