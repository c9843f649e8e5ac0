import FileScript.Proofs.Lifetimes

/-!
# What a rename moves

A rename takes a tree of names from one place to another and touches no other name
(`Store.RenamesExactly`). The names move one after the other within one table, so this rests on the
checks before: the target is not below the source, and nothing is left at or below the target when
the first name arrives.
-/

namespace FileScript.Store

variable {s t : Store} {now : Timespec}

/-- Everything at and below the normal path `source` is now at and below `target`, in place of what
was there, and no other name has changed. -/
structure MovesTree (s t : Store) (source target : String) : Prop where
  arrived : ∀ ⦃key : String⦄, Path.isNormal key = true → Path.isWithin target key = true →
    t.names[key]? = s.names[Path.rebase target source key]?
  gone : ∀ ⦃key : String⦄, Path.isNormal key = true → Path.isWithin source key = true →
    t.names[key]? = none
  kept : ∀ ⦃key : String⦄, Path.isNormal key = true → Path.isWithin source key = false →
    Path.isWithin target key = false → t.names[key]? = s.names[key]?
  lost_iff : ∀ ⦃ino : Nat⦄, s.Named ino → (¬ t.Named ino ↔ s.names[target]? = some ino)

section Vacated

variable {source target : List String} {mid : Store} (hmove : mid.names.Movable source target)
  (hvacated : Vacated now (Path.ofComponents target) s mid)

include hmove

theorem ofComponents_append_ne {rest : List String} (hrest : Path.AreNames rest) :
    Path.ofComponents (source ++ rest) ≠ Path.ofComponents target := fun he =>
  hmove.apart (hmove.source_injective hrest hmove.target_names he ▸ List.prefix_append _ _)

include hvacated

/-- Of the inodes that had a name, the one that was replaced has none any more. -/
theorem Vacated.lost_iff (hs : s.Consistent) (hmid : mid.Consistent)
    (hnames : t.names = mid.names.move (Path.ofComponents source) (Path.ofComponents target))
    {ino : Nat} (hnamed : s.Named ino) :
    ¬ t.Named ino ↔ s.names[Path.ofComponents target]? = some ino := by
  have hmidnames := hvacated.names_eq
  constructor
  · intro hlost
    obtain ⟨key, hino⟩ := hnamed
    by_cases hkey : key = Path.ofComponents target
    · rw [← hkey, hino]
    · have hino' : mid.names[key]? = some ino := by rw [hmidnames, if_neg hkey, hino]
      obtain ⟨key', hkey'⟩ := hmid.exists_name_moveTree hmove hino'
      exact absurd ⟨key', by rw [hnames, hkey']⟩ hlost
  · rintro hino ⟨key, hkey⟩
    rw [hnames] at hkey
    obtain ⟨more, hmore, rfl⟩ := Path.exists_names (hmove.allNormal_move hkey)
    rcases hmove.getElem?_move_cases hmore hkey with ⟨rest, hrest, -, hold⟩ | ⟨-, ht, hold⟩
    · have hne := ofComponents_append_ne hmove hrest
      rw [hmidnames, if_neg hne] at hold
      exact hne (hs.name_unique hold hino)
    · rw [hmidnames] at hold
      split at hold
      · cases hold
      · next he => exact he (hs.name_unique hold hino)

theorem Vacated.movesTree (hs : s.Consistent) (hmid : mid.Consistent)
    (hnames : t.names = mid.names.move (Path.ofComponents source) (Path.ofComponents target)) :
    s.MovesTree t (Path.ofComponents source) (Path.ofComponents target) := by
  have hmidnames := hvacated.names_eq
  refine ⟨?arrived, ?gone, ?kept, fun ino hnamed => ?lost⟩
  case arrived =>
    intro key hnormal hwithin
    obtain ⟨more, hmore, rfl⟩ := Path.exists_names hnormal
    obtain ⟨rest, rfl⟩ := (Path.isWithin_iff hmove.target_names hmove.target_ne hmore).mp hwithin
    have hrest := (Path.areNames_append.mp hmore).2
    rw [hnames, hmove.getElem?_move_target hrest, Path.rebase_ofComponents hmove.target_names
      hmove.target_ne hmove.source_names hmove.source_ne, hmidnames,
      if_neg (ofComponents_append_ne hmove hrest)]
  case gone =>
    intro key hnormal hwithin
    obtain ⟨more, hmore, rfl⟩ := Path.exists_names hnormal
    obtain ⟨rest, rfl⟩ := (Path.isWithin_iff hmove.source_names hmove.source_ne hmore).mp hwithin
    rw [hnames, hmove.getElem?_move_source (Path.areNames_append.mp hmore).2]
  case kept =>
    intro key hnormal hsout htout
    obtain ⟨more, hmore, rfl⟩ := Path.exists_names hnormal
    have hs' : ¬ source <+: more := fun hp => Bool.false_ne_true
      (hsout ▸ (Path.isWithin_iff hmove.source_names hmove.source_ne hmore).mpr hp)
    have ht' : ¬ target <+: more := fun hp => Bool.false_ne_true
      (htout ▸ (Path.isWithin_iff hmove.target_names hmove.target_ne hmore).mpr hp)
    rw [hnames, hmove.getElem?_move_other hmore hs' ht', hmidnames, if_neg]
    intro he
    exact ht' (Path.ofComponents_injective hmore hmove.target_names he ▸ List.prefix_rfl)
  case lost =>
    exact hvacated.lost_iff hmove hs hmid hnames hnamed

end Vacated

theorem Moved.movesTree {source target : String} (hmoved : Moved now source target s t)
    (h : s.Consistent) (hmovable : ¬ s.Immovable source target) (hne : source ≠ target)
    (hnormal : Path.isNormal target = true) : s.MovesTree t source target := by
  cases hmoved with
  | @mk mid ino i hvacated hino hi =>
    obtain ⟨hsroot, htroot, hapart, -⟩ := checks_of_movable hmovable hne
    have hmid := (hvacated.changes htroot).consistent h
    have hmidnames := hvacated.names_eq
    obtain ⟨names, more, rfl, rfl, hmove⟩ := hmid.movable (by rw [hmidnames, if_neg hne, hino])
      hsroot htroot hnormal (by rw [hmidnames, if_pos rfl]) hapart
    exact hvacated.movesTree hmove h hmid (names_moved _ _)

/-- A rename between two places is refused for one of the known reasons or moves the tree, and a
rename of something to its own place does nothing. -/
structure RenamesExactly (s : Store) (now : Timespec) (source target : String) : Prop where
  moves : Path.normalize source ≠ Path.normalize target → ∀ answer t,
    s.request now (.rename source target) = (.ok answer, t) →
      s.MovesTree t (Path.normalize source) (Path.normalize target)
  refused_iff : (∃ e, (s.request now (.rename source target)).1 = .error e) ↔
    s.Immovable (Path.normalize source) (Path.normalize target)
  in_place : Path.normalize source = Path.normalize target →
    Path.normalize source ≠ Path.root → (∃ ino, s.names[Path.normalize source]? = some ino) →
      s.request now (.rename source target) = (.ok .done, s)

theorem Consistent.renamesExactly (h : s.Consistent) (now : Timespec) (source target : String) :
    s.RenamesExactly now source target := by
  have hends : Ends ((Operation.rename source target).perform now) s
      (fun answer t => answer = .done ∧
        ¬ s.Immovable (Path.normalize source) (Path.normalize target) ∧
        if Path.normalize source = Path.normalize target then t = s
        else Moved now (Path.normalize source) (Path.normalize target) s t)
      fun _ t => t = s ∧ s.Immovable (Path.normalize source) (Path.normalize target) :=
    Ends.bind_iff.mpr ((rename_ends h source target).mono (fun _ _ h => ⟨rfl, h⟩) fun _ _ h => h)
  have hrequest := request_of_ends hends
  split at hrequest
  · next answer t heq =>
    obtain ⟨rfl, hmovable, ht⟩ := hrequest
    refine ⟨fun hne answer' t' heq' => ?_, ?_, fun hsame _ _ => ?_⟩
    · rw [heq] at heq'
      rw [if_neg hne] at ht
      obtain ⟨-, rfl⟩ := Prod.mk.inj heq'
      exact ht.movesTree h hmovable hne (Path.isNormal_normalize target)
    · rw [heq]
      refine iff_of_false ?_ hmovable
      rintro ⟨e, he⟩
      cases he
    · rw [if_pos hsame] at ht
      rw [heq, ht]
  · next e t heq =>
    obtain ⟨rfl, hbarred⟩ := hrequest
    refine ⟨fun _ answer t heq' => ?_, ?_, fun hsame hroot hnamed => ?_⟩
    · rw [heq] at heq'
      cases (Prod.mk.inj heq').1
    · rw [heq]
      exact iff_of_true ⟨e, rfl⟩ hbarred
    · obtain ⟨ino, hino⟩ := hnamed
      rcases hbarred with hnone | hsource | htarget | ⟨hne, -⟩
      · rw [hino] at hnone
        cases hnone
      · exact absurd hsource hroot
      · exact absurd (hsame.trans htarget) hroot
      · exact absurd hsame hne

/-- **After every history a rename moves exactly one tree or is refused.** -/
theorem renamesExactly_after_new (start : Timespec) (uid gid : Nat)
    (history : List (Timespec × Operation)) (now : Timespec) (source target : String) :
    ((Store.new start uid gid).after history).RenamesExactly now source target :=
  (Reachable.consistent ⟨start, uid, gid, history, rfl⟩).renamesExactly now source target

end FileScript.Store
