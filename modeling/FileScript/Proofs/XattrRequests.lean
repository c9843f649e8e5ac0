import FileScript.Proofs.Contents
import FileScript.Proofs.Effects

/-!
# Requests on extended attributes

How the requests end that read, set and remove an attribute of what is at a path. A value is read as
the buffer allows: an empty one learns its size, one that is too short is refused, and any other
takes it at its front (`Store.copyOut_of_size_le`). Of all words of flags, three allow an attribute
to be set (`XattrFlags.admits_iff`).
-/

namespace FileScript

/-- The flags allow to set an attribute that is set already, or that is not. -/
def XattrFlags.Admits (flags : XattrFlags) (isSet : Bool) : Prop :=
  flags.bits = 0 ∨ (flags.bits = 1 ∧ isSet = false) ∨ (flags.bits = 2 ∧ isSet = true)

/-- What is checked about the flags comes down to three cases of all words. -/
theorem XattrFlags.admits_iff {flags : XattrFlags} {isSet : Bool} :
    flags.Admits isSet ↔ flags.isValid = true ∧ (flags.contains .create && isSet) = false ∧
      (flags.contains .replace && !isSet) = false := by
  obtain ⟨bits⟩ := flags
  unfold Admits isValid contains create replace
  constructor
  · rintro (rfl | ⟨rfl, rfl⟩ | ⟨rfl, rfl⟩)
    · cases isSet <;> decide
    · decide
    · decide
  · simp only [Bool.or_eq_true, beq_iff_eq]
    rintro ⟨(rfl | rfl) | rfl, h⟩ <;> cases isSet <;> revert h <;> decide

namespace Store

variable {s : Store} {now : Timespec} {op : Operation}

/-- A name that an attribute can have. -/
def IsAttributeName (name : String) : Prop := name ≠ "" ∧ name.utf8ByteSize ≤ maxNameSize

/-- A buffer that has room for all of the source takes it at its front, and keeps its rest. -/
theorem copyOut_of_size_le {source buffer : ByteArray} (h : source.size ≤ buffer.size) :
    ∃ filled, copyOut source buffer = .ok (source.size, filled) ∧ filled.size = buffer.size ∧
      filled.extract 0 source.size = source ∧
      filled.extract source.size filled.size = buffer.extract source.size buffer.size := by
  unfold copyOut
  split
  · next hempty =>
    have hsource : source.size = 0 := by omega
    refine ⟨buffer, rfl, rfl, Content.eq_of_size_eq_zero ?_ hsource, rfl⟩
    rw [ByteArray.size_extract, hsource, Nat.zero_min]
  · rw [if_neg (not_lt.mpr h)]
    refine ⟨_, rfl, ?size, ?front, ?rest⟩
    case size =>
      rw [ByteArray.size_append, ByteArray.size_extract]
      omega
    case front =>
      rw [Content.front_append, Nat.sub_self, ByteArray.extract_same, ByteArray.append_empty,
        Content.front_of_size_le le_rfl]
    case rest =>
      rw [ByteArray.extract_append, Nat.sub_self, Content.front_of_size_le]
      · exact congrArg (· ++ _) (ByteArray.extract_eq_empty_iff.mpr (Nat.min_le_right _ _))
      · simp only [ByteArray.size_append, ByteArray.size_extract]
        omega

section Named

variable {path name : String} {ino : Nat} {i : Inode}
  (hino : s.names[Path.normalize path]? = some ino) (hi : s.inodes[ino]? = some i)

include hino hi

/-- An attribute of what is at a path is read as it is, or is missing. -/
theorem getXattr_ends (buffer : ByteArray) :
    Ends (getXattr path name buffer) s
      (fun result t => t = s ∧ ∃ value, i.xattrs[name]? = some value ∧
        copyOut value buffer = .ok result)
      fun e t => t = s ∧ (i.xattrs[name]? = none ∧ e = .noData ∨
        ∃ value, i.xattrs[name]? = some value ∧ copyOut value buffer = .error e) := by
  unfold getXattr
  rw [Ends.bind_iff, ends_ask_resolve hino]
  dsimp only
  rw [Ends.bind_iff, ends_ask_inode hi]
  cases hvalue : i.xattrs[name]? with
  | none => exact ⟨rfl, .inl ⟨rfl, rfl⟩⟩
  | some value =>
    exact Ends.ask_iff.mpr
      ⟨fun result h => ⟨rfl, value, rfl, h⟩, fun e h => ⟨rfl, .inr ⟨value, rfl, h⟩⟩⟩

/-- An attribute of what is at a path is set if its name is one and the flags allow it. -/
theorem setXattr_ends (value : ByteArray) (flags : XattrFlags) :
    Ends (setXattr now path name value flags) s
      (fun _ t => (IsAttributeName name ∧ flags.Admits (i.xattrs.contains name)) ∧
        t = s.setInode ino { i with xattrs := i.xattrs.insert name value, changed := now })
      fun _ t => t = s ∧ ¬ (IsAttributeName name ∧ flags.Admits (i.xattrs.contains name)) := by
  unfold setXattr
  simp only [Ends.bind_iff, Ends.ite_iff, Ends.throw_iff, ends_ask_resolve hino, ends_ask_inode hi,
    Ends.modify_iff, IsAttributeName, XattrFlags.admits_iff, not_lt, true_and, and_true]
  refine ⟨fun hempty h => h.1.1 hempty, fun hname => ⟨?long, fun hsize => ⟨?valid, ?invalid⟩⟩⟩
  case long => exact fun hlong h => absurd h.1.2 (not_le.mpr hlong)
  case invalid => exact fun hinvalid h => hinvalid h.2.1
  case valid =>
    refine fun hvalid => ⟨?old, fun hcreate => ⟨?missing, fun hreplace => ?done⟩⟩
    case old => exact fun hold h => Bool.false_ne_true (h.2.2.1.symm.trans hold)
    case missing => exact fun hnew h => Bool.false_ne_true (h.2.2.2.symm.trans hnew)
    case done =>
      exact ⟨⟨hname, hsize⟩, hvalid, Bool.eq_false_of_not_eq_true hcreate,
        Bool.eq_false_of_not_eq_true hreplace⟩

/-- An attribute of what is at a path is removed if it is set. -/
theorem removeXattr_ends :
    Ends (removeXattr now path name) s
      (fun _ t => i.xattrs.contains name = true ∧
        t = s.setInode ino { i with xattrs := i.xattrs.erase name, changed := now })
      fun _ t => t = s ∧ i.xattrs.contains name = false := by
  unfold removeXattr
  simp only [Ends.bind_iff, Ends.ite_iff, Ends.throw_iff, ends_ask_resolve hino, ends_ask_inode hi,
    Ends.modify_iff, true_and, and_true]
  exact ⟨fun hset => hset, fun hset => Bool.eq_false_of_not_eq_true hset⟩

end Named

theorem ends_done {act : Update Unit} {good : Store → Prop} {bad : Errno → Store → Prop}
    (h : Ends act s (fun _ t => good t) bad) :
    Ends (act >>= fun _ => pure Answer.done) s (fun answer t => answer = .done ∧ good t) bad :=
  Ends.bind_iff.mpr (h.mono (fun _ _ ht => ⟨rfl, ht⟩) fun _ _ ht => ht)

/-- Nothing is marked where nothing has a name. -/
theorem marks_refused {path : String} (hmarks : op.marks? = some path)
    (hnone : s.names[Path.normalize path]? = none) :
    Ends (op.perform now) s (fun _ _ => False) fun _ _ => True := by
  cases op with
  | setXattr path name value flags =>
    cases hmarks
    refine Ends.bind_iff.mpr ?_
    unfold setXattr
    simp [resolve_eq_ok_iff, hnone]
  | removeXattr path name =>
    cases hmarks
    refine Ends.bind_iff.mpr ?_
    unfold removeXattr
    simp [resolve_eq_ok_iff, hnone]
  | _ => cases hmarks

end Store

end FileScript
