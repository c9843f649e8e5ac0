import FileScript.Store.Basic
import Mathlib

/-!
# How computations end

A computation on a state ends with a result or with a fault, and in a state either way. `Ends` says
what holds then. The lemmas go through a computation step by step, so that a statement about its
end becomes one about each of its branches.
-/

namespace FileScript

variable {ε σ α β : Type}

/-- From the state `s` on, a computation ends with a result and in a state for which `good` holds,
or with a fault and in a state for which `bad` holds. -/
def Ends (act : EStateM ε σ α) (s : σ) (good : α → σ → Prop) (bad : ε → σ → Prop) : Prop :=
  match act s with
  | .ok a t => good a t
  | .error e t => bad e t

variable {act : EStateM ε σ α} {s : σ} {good : α → σ → Prop} {bad : ε → σ → Prop}

theorem Ends.mono {good' : α → σ → Prop} {bad' : ε → σ → Prop} (h : Ends act s good bad)
    (hgood : ∀ a t, good a t → good' a t) (hbad : ∀ e t, bad e t → bad' e t) :
    Ends act s good' bad' := by
  unfold Ends at h ⊢
  split at h
  · exact hgood _ _ h
  · exact hbad _ _ h

theorem Ends.and {good' : α → σ → Prop} {bad' : ε → σ → Prop} (h : Ends act s good bad)
    (h' : Ends act s good' bad') :
    Ends act s (fun a t => good a t ∧ good' a t) fun e t => bad e t ∧ bad' e t := by
  unfold Ends at h h' ⊢
  cases hact : act s <;> rw [hact] at h h' <;> exact ⟨h, h'⟩

/-- What cannot end with a fault ends with a result. -/
theorem Ends.exists_ok (h : Ends act s good fun _ _ => False) :
    ∃ a t, act s = .ok a t ∧ good a t := by
  unfold Ends at h
  split at h
  · next heq => exact ⟨_, _, heq, h⟩
  · exact h.elim

namespace Ends

@[simp] theorem pure_iff (a : α) : Ends (pure a) s good bad ↔ good a s := Iff.rfl

@[simp] theorem throw_iff (e : ε) : Ends (throw e) s good bad ↔ bad e s := Iff.rfl

@[simp] theorem bind_iff {next : α → EStateM ε σ β} {good : β → σ → Prop} :
    Ends (act >>= next) s good bad ↔ Ends act s (fun a t => Ends (next a) t good bad) bad := by
  show (match EStateM.bind act next s with
    | .ok a t => good a t
    | .error e t => bad e t) ↔ _
  unfold EStateM.bind Ends
  cases act s <;> rfl

@[simp] theorem map_iff {f : α → β} {good : β → σ → Prop} :
    Ends (f <$> act) s good bad ↔ Ends act s (fun a t => good (f a) t) bad := by
  show (match EStateM.map f act s with
    | .ok a t => good a t
    | .error e t => bad e t) ↔ _
  unfold EStateM.map Ends
  cases act s <;> rfl

@[simp] theorem get_iff {good : σ → σ → Prop} : Ends get s good bad ↔ good s s := Iff.rfl

@[simp] theorem modify_iff {f : σ → σ} {good : PUnit → σ → Prop} :
    Ends (modify f) s good bad ↔ good ⟨⟩ (f s) := Iff.rfl

@[simp] theorem modifyGet_iff {f : σ → α × σ} :
    Ends (modifyGet f) s good bad ↔ good (f s).1 (f s).2 := Iff.rfl

@[simp] theorem ask_iff {α : Type} {question : Store → Except Errno α} {s : Store}
    {good : α → Store → Prop} {bad : Errno → Store → Prop} :
    Ends (Store.ask question) s good bad ↔
      (∀ a, question s = .ok a → good a s) ∧ ∀ e, question s = .error e → bad e s := by
  unfold Ends Store.ask
  cases question s <;> simp

@[simp] theorem ite_iff {c : Prop} [Decidable c] {other : EStateM ε σ α} :
    Ends (if c then act else other) s good bad ↔
      (c → Ends act s good bad) ∧ (¬ c → Ends other s good bad) := by
  by_cases h : c
  · simp [h]
  · simp [h]

end Ends

end FileScript
