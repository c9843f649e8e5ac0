import FileScript.Proofs.FailedStatements

/-!
# What statements ask for

The built-in commands have different names, so a statement asks for one request at most
(`Statement.AsksFor.unique`). Carrying it out is performing that request
(`Statement.AsksFor.execute_eq`); a statement that asks for nothing is turned away and has no effect
(`Statement.execute_cases`).
-/

namespace FileScript

namespace Builtin

/-- No two built-in commands have the same name. -/
theorem name_injective {a b : Builtin} (h : a.synopsis.name = b.synopsis.name) : a = b := by
  have hnodup : (all.map fun b => b.synopsis.name).Nodup := by decide
  exact List.inj_on_of_nodup_map hnodup (mem_all a) (mem_all b) h

theorem get?_registry (b : Builtin) : registry.get? b.synopsis.name = some b.command := by
  obtain ⟨c, hc⟩ := Registry.exists_get?_ofList (List.mem_map_of_mem (f := command) (mem_all b))
  obtain ⟨found, hname, rfl⟩ := exists_of_get? hc
  rw [name_injective hname] at hc
  exact hc

/-- Lines are split as the commands want it. -/
theorem grammar_registry (b : Builtin) :
    registry.grammar b.synopsis.name = b.synopsis.tailPosition := by
  rw [Registry.grammar, get?_registry]
  rfl

variable {b : Builtin} {args : List String}

/-- A command is performed if its arguments can be read. -/
theorem command_run_of_ok {r : Request} (h : Request.ofArgs b args = .ok r) :
    b.command.run args = r.perform := by
  show (Action.ofExcept (Request.ofArgs b args) >>= Request.perform) = r.perform
  rw [h]
  rfl

theorem command_run_of_error {fault : Fault} (h : Request.ofArgs b args = .error fault) :
    b.command.run args = throw fault := by
  show (Action.ofExcept (Request.ofArgs b args) >>= Request.perform) = throw fault
  rw [h]
  rfl

end Builtin

/-! ## Arguments that cannot be read -/

/-- Whether a fault says that a statement was turned away, so that nothing was asked of the
store. -/
def Fault.rejects : Fault → Bool
  | invalidStatement _ | unknownCommand _ | arity .. | badNumber _ | badMode _ | badDescriptor _
  | shellDisabled => true
  | _ => false

namespace Request

theorem length_of_ofArgs {b : Builtin} {args : List String} {r : Request}
    (h : ofArgs b args = .ok r) : args.length = b.synopsis.arity := by
  unfold ofArgs at h
  split at h
  case h_26 => cases h
  all_goals rfl

variable {fault : Fault}

theorem rejects_of_number {token : String} (h : number token = .error fault) :
    fault.rejects = true := by
  unfold number at h
  split at h <;> cases h
  rfl

theorem rejects_of_mode {token : String} (h : mode token = .error fault) :
    fault.rejects = true := by
  unfold mode at h
  split at h <;> cases h
  rfl

theorem rejects_of_accessMode {token : String} (h : accessMode token = .error fault) :
    fault.rejects = true := by
  unfold accessMode at h
  rcases bind_eq_error_iff.mp h with h | ⟨n, -, h⟩
  · exact rejects_of_mode h
  · split at h <;> cases h
    rfl

theorem rejects_of_checkLength {text : String} {count : Nat}
    (h : checkLength text count = .error fault) : fault.rejects = true := by
  unfold checkLength at h
  split at h <;> cases h
  rfl

theorem rejects_of_ofArgs {b : Builtin} {args : List String} (h : ofArgs b args = .error fault) :
    fault.rejects = true := by
  unfold ofArgs at h
  split at h
  case h_26 =>
    cases h
    rfl
  all_goals simp only [bind_eq_error_iff, pure_ne_error] at h
  all_goals
    grind [rejects_of_number, rejects_of_mode, rejects_of_accessMode, rejects_of_checkLength]

end Request

namespace Statement

variable {s : Statement} {r : Request}

theorem AsksFor.unique (h : s.AsksFor r) {other : Request} (h' : s.AsksFor other) : r = other := by
  obtain ⟨b, hname, hr⟩ := h
  obtain ⟨b', hname', hother⟩ := h'
  cases Builtin.name_injective (hname.trans hname'.symm)
  exact Except.ok.inj (hr.symm.trans hother)

/-- A statement is carried out by performing what it asks for. -/
theorem AsksFor.execute_eq (h : s.AsksFor r) : Builtin.registry.execute s = r.perform := by
  obtain ⟨b, hname, hr⟩ := h
  have harity : s.args.length = b.command.arity := Request.length_of_ofArgs hr
  unfold Registry.execute
  rw [← hname, b.get?_registry]
  dsimp only
  rw [if_pos harity, Builtin.command_run_of_ok hr]

/-- A statement asks for a request, or it is turned away. -/
theorem execute_cases (s : Statement) :
    (∃ r, s.AsksFor r ∧ Builtin.registry.execute s = r.perform) ∨
      ∃ fault : Fault, fault.rejects = true ∧ Builtin.registry.execute s = throw fault := by
  unfold Registry.execute
  split
  · exact .inr ⟨_, rfl, rfl⟩
  · next c hc =>
    obtain ⟨b, hname, rfl⟩ := Builtin.exists_of_get? hc
    split
    · cases hr : Request.ofArgs b s.args with
      | ok r => exact .inl ⟨r, ⟨b, hname, hr⟩, Builtin.command_run_of_ok hr⟩
      | error fault =>
        exact .inr ⟨fault, Request.rejects_of_ofArgs hr, Builtin.command_run_of_error hr⟩
    · exact .inr ⟨_, rfl, rfl⟩

end Statement

end FileScript
