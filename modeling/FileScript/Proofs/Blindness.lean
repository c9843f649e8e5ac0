import FileScript.Proofs.SideBySide

/-!
# What statements do not see

A statement writes to the log of its frame and reads nothing of it, nor of what shell commands have
printed before. So it does the same in two frames that differ in nothing else
(`Statement.blind_execute`).
-/

namespace FileScript

/-- Two frames differ at most in what has been noted and printed. -/
structure Frame.Alike (f g : Frame) : Prop where
  session : f.session = g.session
  host : f.host = g.host

namespace Likeness

/-- The likeness of frames in which the sessions and the hosts are the same. -/
def equal : Likeness where
  volumes := Eq
  files := Eq
  hosts := Eq
  store h := h ▸ rfl
  request h _ _ := h ▸ ⟨rfl, rfl⟩
  requestClose h _ := h ▸ ⟨rfl, rfl⟩
  capacity h := h ▸ rfl
  lookup {t _} h fd := by
    subst h
    cases t.lookup fd with
    | ok handle => exact .ok ⟨_, rfl⟩
    | error fault => exact .error fault
  insert? {t _} h handle := by
    subst h
    cases t.insert? handle with
    | none => exact .none
    | some found => exact .some ⟨rfl, rfl⟩
  replace h _ _ := h ▸ rfl
  erase h _ := h ▸ rfl

theorem sessions_equal_iff {x y : Session} : equal.Sessions x y ↔ x = y := by
  constructor
  · rintro ⟨hvolume, hfiles, hdirs, hmaxArgs, hallowShell⟩
    cases x
    cases y
    cases hvolume
    cases hfiles
    simp_all
  · rintro rfl
    exact ⟨rfl, rfl, rfl, rfl, rfl⟩

end Likeness

namespace Frame

variable {f g h : Frame}

theorem Alike.refl (f : Frame) : f.Alike f := ⟨rfl, rfl⟩

theorem Alike.symm (hfg : f.Alike g) : g.Alike f := ⟨hfg.session.symm, hfg.host.symm⟩

theorem Alike.trans (hfg : f.Alike g) (hgh : g.Alike h) : f.Alike h :=
  ⟨hfg.session.trans hgh.session, hfg.host.trans hgh.host⟩

theorem frames_equal_iff : Likeness.equal.Frames f g ↔ f.Alike g :=
  ⟨fun h => ⟨Likeness.sessions_equal_iff.mp h.session, h.host⟩,
    fun h => ⟨Likeness.sessions_equal_iff.mpr h.session, h.host⟩⟩

end Frame

/-- An action does the same in frames that are alike. -/
def Action.Blind {α : Type} (act : Action α) : Prop :=
  ∀ f g : Frame, f.Alike g → (f.run act).1 = (g.run act).1 ∧ (f.run act).2.Alike (g.run act).2

/-- An action that forms a pair with itself does the same in frames that are alike. -/
theorem Action.blind_of_pairs {α : Type} {act : Action α} (h : Likeness.equal.Pairs Eq act act) :
    act.Blind := fun f g hfg => by
  obtain ⟨hresult, hframes⟩ := h f g (Frame.frames_equal_iff.mpr hfg)
  exact ⟨agree_eq_iff.mp hresult, Frame.frames_equal_iff.mp hframes⟩

/-- **A statement does the same in frames that are alike.** -/
theorem Statement.blind_execute (s : Statement) : (Builtin.registry.execute s).Blind :=
  Action.blind_of_pairs (s.pairs_execute (.inl fun _ _ => Iff.rfl))

end FileScript
