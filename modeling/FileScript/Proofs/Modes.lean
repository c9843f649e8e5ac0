import FileScript.Proofs.Effects

/-!
# The modes of inodes

The mode of an inode holds permission bits and nothing else (`Store.Masked`): a new inode gets no
others, a change of permissions sets no others, and no other request touches a mode. So the type
bits that are added to it where attributes are reported can be read back, and the attributes of an
inode tell its kind (`Store.stat_ends`).
-/

namespace FileScript

/-- The type bits can be read back from a mode word. -/
theorem typeBits_or_and_typeMask (kind : EntryKind) {mode : UInt32} (h : IsPermissions mode) :
    (kind.typeBits ||| mode) &&& typeMask = kind.typeBits := by
  have hmode : mode &&& typeMask = 0 := by
    have hapart : permissionMask &&& typeMask = 0 := by decide
    rw [← h, UInt32.and_assoc, hapart, UInt32.and_zero]
  have hdistrib : (kind.typeBits ||| mode) &&& typeMask =
      kind.typeBits &&& typeMask ||| mode &&& typeMask :=
    UInt32.toBitVec_inj.mp BitVec.and_or_distrib_right
  rw [hdistrib, hmode, UInt32.or_zero]
  cases kind <;> decide

namespace Store

variable {s t : Store} {now : Timespec}

/-- The modes of all inodes hold permission bits alone. -/
def Masked (s : Store) : Prop :=
  ∀ ⦃ino : Nat⦄ ⦃i : Inode⦄, s.inodes[ino]? = some i → IsPermissions i.mode

theorem masked_new (now : Timespec) (uid gid : Nat) : (Store.new now uid gid).Masked :=
  each_new now uid gid (p := fun _ i => IsPermissions i.mode) (isPermissions_and _)

/-- Whatever a request does, modes hold permission bits alone after it. -/
theorem Masked.of_effect (h : s.Masked) {op : Operation} (heffect : op.Effect now s t) :
    t.Masked := by
  have hlasting : Lasting fun _ i => IsPermissions i.mode := by
    intro ino i j hi hmode _
    rw [hmode]
    exact hi
  refine Each.of_effect (p := fun _ i => IsPermissions i.mode) h hlasting
    (fun _ mode => isPermissions_and mode) ?_ heffect
  rintro ino old new hold (hmode | hmode) -
  · rw [hmode]
    exact h hold
  · exact hmode

/-- **In every store that can be reached, modes hold permission bits alone.** -/
theorem Reachable.masked (h : s.Reachable) : s.Masked := by
  refine h.induction masked_new ?_
  intro s hreachable hmasked now op
  exact hmasked.of_effect (request_effect hreachable.consistent now op)

/-! ## Attributes -/

theorem attributes_of_inode {ino : Nat} {i : Inode} (hi : s.inodes[ino]? = some i) (key : String) :
    ∃ a, s.attributes key ino = .ok a ∧ a.inode = ino ∧ a.mode = i.kind.typeBits ||| i.mode := by
  unfold attributes
  rw [inode_eq_ok_iff.mpr hi]
  exact ⟨_, rfl, rfl, rfl⟩

theorem kind_of_mode {a : Attributes} {kind : EntryKind} {mode : UInt32}
    (hmode : a.mode = kind.typeBits ||| mode) (h : IsPermissions mode) : a.kind = kind := by
  rw [Attributes.kind, hmode, typeBits_or_and_typeMask kind h]
  cases kind <;> decide

/-- Attributes are told of whatever has a name, and they tell its number and its kind. -/
theorem stat_ends (h : s.Consistent) (hmasked : s.Masked) (path : String) :
    Ends (stat path) s
      (fun a t => t = s ∧ s.names[Path.normalize path]? = some a.inode ∧
        ∃ i, s.inodes[a.inode]? = some i ∧ a.kind = i.kind)
      fun _ t => t = s ∧ s.names[Path.normalize path]? = none := by
  unfold stat
  rw [Ends.bind_iff, Ends.ask_iff]
  refine ⟨?_, fun e he => ⟨rfl, names_of_resolve_eq_error he⟩⟩
  rintro ⟨key, ino⟩ hplace
  obtain ⟨rfl, hino⟩ := resolve_eq_ok_iff.mp hplace
  obtain ⟨i, hi, -⟩ := h.inode_of_named hino
  obtain ⟨a, ha, hnumber, hmode⟩ := attributes_of_inode hi (Path.normalize path)
  rw [Ends.ask_iff, ha]
  refine ⟨?_, fun e he => by cases he⟩
  rintro _ ⟨⟩
  rw [hnumber]
  exact ⟨rfl, hino, i, hi, kind_of_mode hmode (hmasked hi)⟩

/-- A request for attributes is answered for exactly what has a name. -/
theorem Reachable.request_stat (h : s.Reachable) (now : Timespec) (path : String) :
    (∃ a i, s.request now (.stat path) = (.ok (.attributes a), s) ∧
      s.names[Path.normalize path]? = some a.inode ∧ s.inodes[a.inode]? = some i ∧
      a.kind = i.kind) ∨
    ∃ e, s.request now (.stat path) = (.error e, s) ∧ s.names[Path.normalize path]? = none := by
  have hends : Ends ((Operation.stat path).perform now) s
      (fun answer t => ∃ a i, answer = .attributes a ∧ t = s ∧
        s.names[Path.normalize path]? = some a.inode ∧ s.inodes[a.inode]? = some i ∧
        a.kind = i.kind)
      fun _ t => t = s ∧ s.names[Path.normalize path]? = none := by
    refine Ends.map_iff.mpr ((stat_ends h.consistent h.masked path).mono ?_ fun _ _ ht => ht)
    rintro a t ⟨rfl, hino, i, hi, hkind⟩
    exact ⟨a, i, rfl, rfl, hino, hi, hkind⟩
  obtain ⟨answer, t, heq, a, i, rfl, rfl, hino, hi, hkind⟩ | ⟨e, t, heq, rfl, hnone⟩ :=
    request_cases hends
  · exact .inl ⟨a, i, heq, hino, hi, hkind⟩
  · exact .inr ⟨e, heq, hnone⟩

end Store

end FileScript
