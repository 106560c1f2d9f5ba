import ScsiCli.RunTrace

/-!
# The footprint of a run

A run in one environment is held against the run of the same program in another:
it is the same run, it emits only what is allowed, and a monitor that follows it
is back in its first state at the end. The three are kept by every way of
putting programs together, and the last part of a sequence is asked only about
the values that the first part returns.
-/

set_option autoImplicit false

namespace ScsiCli.Footprint
open ScsiCli.RunTrace

variable {ρ ε α β σ τ : Type}

structure Orderly (Q : ε → Prop) (t : σ → ε → Option σ) (s : σ) (r r' : ρ) (m : Prog ρ ε α) :
    Prop where
  same : m r' = m r
  emits : Emits Q m r
  back : monitored t m r s = some s

variable {Q : ε → Prop} {t : σ → ε → Option σ} {s : σ} {r r' : ρ}

theorem orderly_pure (a : α) : Orderly Q t s r r' (pure a : Prog ρ ε α) :=
  ⟨rfl,by simp,by simp⟩

theorem orderly_crash : Orderly Q t s r r' (crash : Prog ρ ε α) :=
  ⟨rfl,by simp,by simp⟩

theorem orderly_emit {e : ε} (hq : Q e) (ht : t s e = some s) :
    Orderly Q t s r r' (emit e : Prog ρ ε Unit) :=
  ⟨rfl,by simpa using hq,by simpa using ht⟩

theorem orderly_bind {m : Prog ρ ε α} {f : α → Prog ρ ε β} (hm : Orderly Q t s r r' m)
    (hf : ∀ a, Returns m r a → Orderly Q t s r r' (f a)) : Orderly Q t s r r' (m >>= f) := by
  refine ⟨same_bind hm.same fun a ha => (hf a ha).same,?_,?_⟩
  · rw [emits_bind]
    exact ⟨hm.emits,fun a ha => (hf a ha).emits⟩
  · cases h : (m r).result with
    | none =>
      have hb := hm.back
      simp only [monitored, bind_apply, Run.andThen, h] at hb ⊢
      exact hb
    | some a =>
      rw [monitored_bind_of_returns t f h, hm.back]
      exact (hf a h).back

theorem orderly_ite {c : Prop} [Decidable c] {m n : Prog ρ ε α}
    (hm : c → Orderly Q t s r r' m) (hn : ¬c → Orderly Q t s r r' n) :
    Orderly Q t s r r' (if c then m else n) := by
  split
  · exact hm ‹_›
  · exact hn ‹_›

theorem orderly_foldlM {f : τ → α → Prog ρ ε τ} (I : τ → Prop) {xs : List α} {u : τ} (hu : I u)
    (hf : ∀ u, I u → ∀ a ∈ xs, Orderly Q t s r r' (f u a) ∧ ∀ v, Returns (f u a) r v → I v) :
    Orderly Q t s r r' (xs.foldlM f u) := by
  induction xs generalizing u with
  | nil => exact orderly_pure u
  | cons a xs ih =>
    rw [List.foldlM_cons]
    obtain ⟨ha,hv⟩ := hf u hu a (by simp)
    exact orderly_bind ha fun v hr => ih (hv v hr) fun w hw b hb => hf w hw b (by simp [hb])

theorem orderly_each {f : τ → α → Prog ρ ε τ} {xs : List α} {u : τ}
    (hf : ∀ u, ∀ a ∈ xs, Orderly Q t s r r' (f u a)) : Orderly Q t s r r' (xs.foldlM f u) :=
  orderly_foldlM (fun _ => True) trivial fun u _ a ha => ⟨hf u a ha,fun _ _ => trivial⟩

/-- What is asked of the environment is judged by both that may answer. -/
theorem orderly_ask {f : ρ → Prog ρ ε α} (hs : f r' r' = f r r')
    (hf : Orderly Q t s r r' (f r)) : Orderly Q t s r r' (ask >>= f) := by
  refine ⟨same_ask (hs.trans hf.same),?_,?_⟩
  · rw [emits_bind]
    exact ⟨by simp,fun a ha => (returns_ask r a).mp ha ▸ hf.emits⟩
  · rw [monitored_ask_bind]
    exact hf.back

end ScsiCli.Footprint
