import Mathlib.Data.Option.Basic
import ScsiCli.RunTrace

/-!
# One program simulated by another

A concrete program simulates an abstract one when the two leave the same trace,
come to their end or are ended together, and return related values. Simulations
are put together as the programs are.
-/

set_option autoImplicit false

namespace ScsiCli.Simulation
open ScsiCli.RunTrace

variable {ρ ε α β γ δ σ τ : Type}

structure Simulates (R : α → β → Prop) (r : ρ) (c : Prog ρ ε α) (a : Prog ρ ε β) : Prop where
  trace : (c r).trace = (a r).trace
  result : Option.Rel R (c r).result (a r).result

variable {R : α → β → Prop} {S : γ → δ → Prop} {r : ρ}

theorem simulates_pure {x : α} {y : β} (h : R x y) :
    Simulates R r (pure x : Prog ρ ε α) (pure y) := ⟨rfl,.some h⟩

theorem simulates_crash : Simulates R r (crash : Prog ρ ε α) (crash : Prog ρ ε β) := ⟨rfl,.none⟩

theorem simulates_refl (m : Prog ρ ε α) : Simulates (fun x y => x = y ∧ Returns m r y) r m m := by
  refine ⟨rfl,?_⟩
  cases h : (m r).result with
  | none => exact .none
  | some x => exact .some ⟨rfl,h⟩

theorem simulates_bind {c : Prog ρ ε α} {a : Prog ρ ε β} {f : α → Prog ρ ε γ}
    {g : β → Prog ρ ε δ} (h : Simulates R r c a) (hf : ∀ x y, R x y → Simulates S r (f x) (g y)) :
    Simulates S r (c >>= f) (a >>= g) := by
  obtain ⟨ht,hr⟩ := h
  cases hc : (c r).result with
  | none =>
    rw [hc] at hr
    cases ha : (a r).result with
    | none => exact ⟨by simp [bind_apply, Run.andThen, hc, ha, ht],by
        simp only [bind_apply, Run.andThen, hc, ha]; exact .none⟩
    | some y => rw [ha] at hr; cases hr
  | some x =>
    rw [hc] at hr
    cases ha : (a r).result with
    | none => rw [ha] at hr; cases hr
    | some y =>
      rw [ha] at hr
      cases hr with
      | some hxy =>
        obtain ⟨ht',hr'⟩ := hf x y hxy
        exact ⟨by simp [bind_apply, Run.andThen, hc, ha, ht, ht'],by
          simpa only [bind_apply, Run.andThen, hc, ha] using hr'⟩

theorem simulates_after (m : Prog ρ ε σ) {f : σ → Prog ρ ε γ} {g : σ → Prog ρ ε δ}
    (hf : ∀ x, Returns m r x → Simulates S r (f x) (g x)) :
    Simulates S r (m >>= f) (m >>= g) :=
  simulates_bind (simulates_refl m) fun _ y h => h.1 ▸ hf y h.2

theorem simulates_foldlM {f : α → σ → Prog ρ ε α} {g : β → σ → Prog ρ ε β} {xs : List σ}
    (hf : ∀ x y, R x y → ∀ s ∈ xs, Simulates R r (f x s) (g y s)) {x : α} {y : β} (h : R x y) :
    Simulates R r (xs.foldlM f x) (xs.foldlM g y) := by
  induction xs generalizing x y with
  | nil => exact simulates_pure h
  | cons s xs ih =>
    rw [List.foldlM_cons, List.foldlM_cons]
    exact simulates_bind (hf x y h s (by simp)) fun u v huv =>
      ih (fun p q hpq w hw => hf p q hpq w (by simp [hw])) huv

end ScsiCli.Simulation
