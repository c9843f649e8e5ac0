/-!
# Contents of files

Reading, overwriting and resizing of byte arrays. Bytes between the old end of a content and a later
write are zero.
-/

namespace FileScript.Content

/-- Content of `n` zero bytes. -/
def zeros (n : Nat) : ByteArray :=
  if n = 0 then ByteArray.empty
  else
    let half := zeros (n / 2)
    if n % 2 = 0 then half ++ half else (half ++ half).push 0
termination_by n
decreasing_by omega

@[simp] theorem size_zeros (n : Nat) : (zeros n).size = n := by
  fun_induction zeros n with
  | case1 => rfl
  | case2 n hn half heven ih => simp [half]; omega
  | case3 n hn half hodd ih => simp [half, ByteArray.size_push]; omega

/-- A content cut, or filled up with zeros, to `size` bytes. -/
def resize (content : ByteArray) (size : Nat) : ByteArray :=
  if size ≤ content.size then content.extract 0 size else content ++ zeros (size - content.size)

@[simp] theorem size_resize (content : ByteArray) (size : Nat) :
    (resize content size).size = size := by
  unfold resize
  split
  · simp only [ByteArray.size_extract]; omega
  · simp only [ByteArray.size_append, size_zeros]; omega

/-- The bytes from `start` on, at most `count` of them. -/
def slice (content : ByteArray) (start count : Nat) : ByteArray :=
  content.extract (min start content.size) (min (start + count) content.size)

theorem size_slice (content : ByteArray) (start count : Nat) :
    (slice content start count).size = min count (content.size - start) := by
  simp only [slice, ByteArray.size_extract]; omega

/-- A content with `data` written at `start`. -/
def overwrite (content : ByteArray) (start : Nat) (data : ByteArray) : ByteArray :=
  let filled := if content.size < start then resize content start else content
  filled.extract 0 start ++ data ++ filled.extract (start + data.size) filled.size

theorem size_overwrite (content : ByteArray) (start : Nat) (data : ByteArray) :
    (overwrite content start data).size = max content.size (start + data.size) := by
  unfold overwrite
  split <;> simp only [ByteArray.size_append, ByteArray.size_extract, size_resize] <;> omega

end FileScript.Content
