import FileScript.Proofs.Contents

/-!
# The order of names

Texts are compared character by character, and this is the order of their bytes in UTF-8
(`Text.lt_iff_bytes_lt`): of two characters the smaller one has the smaller bytes, and they differ
before either of them ends (`Text.parts_utf8`). For the same reason a text begins with another one
if its bytes begin with those of the other (`Text.prefix_iff_bytes_prefix`).
-/

namespace FileScript.Text

/-- Two byte sequences differ before either of them ends, and the first is smaller there. -/
def Parts : List UInt8 → List UInt8 → Prop
  | a :: as, b :: bs => a.toNat < b.toNat ∨ a.toNat = b.toNat ∧ Parts as bs
  | _, _ => False

/-- What follows has no say in the order of sequences that part. -/
theorem Parts.append_lt {as bs : List UInt8} (h : Parts as bs) (rest more : List UInt8) :
    as ++ rest < bs ++ more := by
  induction as generalizing bs with
  | nil => exact h.elim
  | cons a as ih =>
    cases bs with
    | nil => exact h.elim
    | cons b bs =>
      rw [List.cons_append, List.cons_append, List.cons_lt_cons_iff]
      rcases h with hlt | ⟨heq, h⟩
      · exact .inl (UInt8.lt_iff_toNat_lt.mpr hlt)
      · exact .inr ⟨UInt8.toNat_inj.mp heq, ih h⟩

theorem toNat_lt_size (c : Char) : c.val.toNat < 1114112 := by
  rcases c.valid with h | ⟨-, h⟩
  · exact h.trans (by decide)
  · exact h

/-- The first byte tells how many follow, and together they hold the number of the character, from
its upper digits in base 64 to its lower ones. -/
theorem parts_utf8 {c d : Char} (h : c < d) :
    Parts (String.utf8EncodeChar c) (String.utf8EncodeChar d) := by
  have hlt : c.val.toNat < d.val.toNat := UInt32.lt_iff_toNat_lt.mp (Char.lt_def.mp h)
  have hd := toNat_lt_size d
  unfold String.utf8EncodeChar
  dsimp only
  generalize c.val.toNat = v at hlt
  generalize d.val.toNat = w at hlt hd
  have digits (n : Nat) : n / 4096 = n / 64 / 64 ∧ n / 262144 = n / 64 / 64 / 64 := by omega
  split_ifs <;> simp only [Parts, UInt8.toNat_ofNat', digits] <;> omega

/-- A character that is a single byte is told by that byte, wherever it stands. -/
theorem toNat_eq_iff_of_mem {c : Char} {b : UInt8} (h : b ∈ String.utf8EncodeChar c) {n : Nat}
    (hn : n < 128) : b.toNat = n ↔ c.val.toNat = n := by
  have hlt := toNat_lt_size c
  unfold String.utf8EncodeChar at h
  dsimp only at h
  generalize c.val.toNat = v at h hlt
  split_ifs at h <;> simp only [List.mem_cons, List.not_mem_nil, or_false] at h <;>
    rcases h with rfl | rfl | rfl | rfl <;> simp only [UInt8.toNat_ofNat'] <;> omega

theorem bytes_toUTF8 (text : String) :
    Content.bytes text.toUTF8 = text.toList.flatMap String.utf8EncodeChar := by
  have hencode : text.toUTF8 = (text.toList.flatMap String.utf8EncodeChar).toByteArray := by
    rw [String.toUTF8_eq_toByteArray, ← String.utf8Encode_toList, List.utf8Encode]
  rw [hencode, Content.bytes, List.data_toByteArray]

theorem flatMap_utf8_lt {a b : List Char} (h : a < b) :
    a.flatMap String.utf8EncodeChar < b.flatMap String.utf8EncodeChar := by
  induction a generalizing b with
  | nil =>
    cases b with
    | nil => cases h
    | cons d b =>
      obtain ⟨byte, more, hmore⟩ :=
        List.exists_cons_of_ne_nil (String.utf8EncodeChar_ne_nil (c := d))
      rw [List.flatMap_cons, hmore]
      exact List.nil_lt_cons _ _
  | cons c a ih =>
    cases b with
    | nil => cases h
    | cons d b =>
      rw [List.flatMap_cons, List.flatMap_cons]
      rcases List.cons_lt_cons_iff.mp h with hlt | ⟨rfl, htail⟩
      · exact (parts_utf8 hlt).append_lt _ _
      · exact List.append_left_lt (ih htail)

/-- **The order of texts is the order of their bytes.** -/
theorem lt_iff_bytes_lt {a b : String} :
    a < b ↔ Content.bytes a.toUTF8 < Content.bytes b.toUTF8 := by
  have hmono : ∀ {a b : String}, a < b → Content.bytes a.toUTF8 < Content.bytes b.toUTF8 :=
    fun {a b} h => by
      rw [bytes_toUTF8, bytes_toUTF8]
      exact flatMap_utf8_lt (String.lt_iff_toList_lt.mp h)
  refine ⟨hmono, fun h => ?_⟩
  rcases lt_trichotomy a b with hlt | rfl | hgt
  · exact hlt
  · exact absurd h (List.lt_irrefl _)
  · exact absurd (hmono hgt) (List.lt_asymm h)

/-! ## Beginnings -/

theorem Parts.append_ne {as bs : List UInt8} (h : Parts as bs) (rest more : List UInt8) :
    as ++ rest ≠ bs ++ more := fun heq =>
  List.lt_irrefl _ (heq ▸ h.append_lt rest more)

theorem prefix_of_flatMap_utf8_prefix {a b : List Char}
    (h : a.flatMap String.utf8EncodeChar <+: b.flatMap String.utf8EncodeChar) : a <+: b := by
  induction a generalizing b with
  | nil => exact List.nil_prefix
  | cons c a ih =>
    cases b with
    | nil =>
      rw [List.flatMap_cons, List.flatMap_nil, List.prefix_nil, List.append_eq_nil_iff] at h
      exact absurd h.1 String.utf8EncodeChar_ne_nil
    | cons d b =>
      rw [List.flatMap_cons, List.flatMap_cons] at h
      -- different characters differ before the bytes of either of them end
      rcases lt_trichotomy c d with hlt | rfl | hgt
      · obtain ⟨rest, hrest⟩ := h
        rw [List.append_assoc] at hrest
        exact absurd hrest ((parts_utf8 hlt).append_ne _ _)
      · exact List.cons_prefix_cons.mpr ⟨rfl, ih ((List.prefix_append_right_inj _).mp h)⟩
      · obtain ⟨rest, hrest⟩ := h
        rw [List.append_assoc] at hrest
        exact absurd hrest.symm ((parts_utf8 hgt).append_ne _ _)

/-- A text begins with another one if its bytes begin with those of the other. -/
theorem prefix_iff_bytes_prefix {a b : String} :
    a.toList <+: b.toList ↔ Content.bytes a.toUTF8 <+: Content.bytes b.toUTF8 := by
  rw [bytes_toUTF8, bytes_toUTF8]
  refine ⟨?_, prefix_of_flatMap_utf8_prefix⟩
  rintro ⟨rest, hrest⟩
  rw [← hrest, List.flatMap_append]
  exact List.prefix_append _ _

end FileScript.Text
