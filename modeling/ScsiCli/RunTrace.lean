import Mathlib.Data.List.Basic
import Mathlib.Data.Option.Basic
import Mathlib.Tactic.Common

/-!
# Programs that leave a trace

A program reads a fixed environment, appends events to a trace and either
returns a value or is ended by a signal. Nothing here depends on what the
events are. Every property of a composite run is reduced to its parts by the
rules below: what is emitted, what is returned and what a projection sees.
-/

set_option autoImplicit false

namespace ScsiCli.RunTrace

/-- The events of a run, oldest first, and its value. A run that a signal
ended has no value; its trace is what it did before. -/
structure Run (ε α : Type) where
  trace : List ε
  result : Option α

def Prog (ρ ε α : Type) : Type := ρ → Run ε α

variable {ρ ε α β σ : Type}

def Run.andThen (x : Run ε α) (f : α → Run ε β) : Run ε β :=
  match x.result with
  | none => ⟨x.trace, none⟩
  | some a => ⟨x.trace ++ (f a).trace, (f a).result⟩

instance : Monad (Prog ρ ε) where
  pure a := fun _ => ⟨[], some a⟩
  bind m f := fun r => (m r).andThen fun a => f a r

def ask : Prog ρ ε ρ := fun r => ⟨[], some r⟩

def emit (e : ε) : Prog ρ ε Unit := fun _ => ⟨[e], some ()⟩

def crash : Prog ρ ε α := fun _ => ⟨[], none⟩

def Emits (Q : ε → Prop) (m : Prog ρ ε α) (r : ρ) : Prop := ∀ e ∈ (m r).trace, Q e

def Returns (m : Prog ρ ε α) (r : ρ) (a : α) : Prop := (m r).result = some a

def Survives (m : Prog ρ ε α) (r : ρ) : Prop := ∃ a, Returns m r a

def observed (p : ε → Option β) (m : Prog ρ ε α) (r : ρ) : List β :=
  (m r).trace.filterMap p

theorem bind_apply (m : Prog ρ ε α) (f : α → Prog ρ ε β) (r : ρ) :
    (m >>= f) r = (m r).andThen fun a => f a r := rfl

@[simp] theorem prog_pure_bind (a : α) (f : α → Prog ρ ε β) : (pure a >>= f) = f a := by
  funext r
  simp [bind, pure, Run.andThen]

@[simp] theorem prog_bind_pure (m : Prog ρ ε α) : (m >>= pure) = m := by
  funext r
  rcases h : m r with ⟨t,_ | a⟩ <;> simp [bind, pure, Run.andThen, h]

theorem prog_bind_assoc (m : Prog ρ ε α) (f : α → Prog ρ ε β) (g : β → Prog ρ ε σ) :
    (m >>= f >>= g) = m >>= fun a => f a >>= g := by
  funext r
  simp only [bind_apply, Run.andThen]
  cases (m r).result with
  | none => rfl
  | some a => cases h : (f a r).result <;> simp [h]

theorem returns_unique {m : Prog ρ ε α} {r : ρ} {a b : α}
    (ha : Returns m r a) (hb : Returns m r b) : a = b :=
  Option.some.inj (ha.symm.trans hb)

/-! ## Returning -/

@[simp] theorem returns_pure (a b : α) (r : ρ) :
    Returns (pure a : Prog ρ ε α) r b ↔ b = a := by
  change some a = some b ↔ b = a
  simp [eq_comm]

@[simp] theorem returns_ask (r r' : ρ) : Returns (ask : Prog ρ ε ρ) r r' ↔ r' = r := by
  change some r = some r' ↔ r' = r
  simp [eq_comm]

@[simp] theorem returns_emit (e : ε) (r : ρ) (u : Unit) :
    Returns (emit e : Prog ρ ε Unit) r u ↔ True := by
  change some () = some u ↔ True
  simp

@[simp] theorem returns_crash (r : ρ) (a : α) :
    Returns (crash : Prog ρ ε α) r a ↔ False := by
  change none = some a ↔ False
  simp

@[simp] theorem returns_bind (m : Prog ρ ε α) (f : α → Prog ρ ε β) (r : ρ) (b : β) :
    Returns (m >>= f) r b ↔ ∃ a, Returns m r a ∧ Returns (f a) r b := by
  simp only [Returns, bind_apply, Run.andThen]
  cases h : (m r).result <;> simp

@[simp] theorem returns_emit_bind (e : ε) (f : Unit → Prog ρ ε β) (r : ρ) (b : β) :
    Returns (emit e >>= f) r b ↔ Returns (f ()) r b := by
  rw [returns_bind]
  exact ⟨fun ⟨_,_,h⟩ => h,fun h => ⟨(),(returns_emit _ _ _).mpr trivial,h⟩⟩

@[simp] theorem returns_ite (c : Prop) [Decidable c] (m n : Prog ρ ε α) (r : ρ) (a : α) :
    Returns (if c then m else n) r a ↔ (c → Returns m r a) ∧ (¬c → Returns n r a) := by
  split <;> simp_all

@[simp] theorem survives_pure (a : α) (r : ρ) : Survives (pure a : Prog ρ ε α) r :=
  ⟨a,rfl⟩

@[simp] theorem survives_ask (r : ρ) : Survives (ask : Prog ρ ε ρ) r := ⟨r,rfl⟩

@[simp] theorem survives_emit (e : ε) (r : ρ) : Survives (emit e : Prog ρ ε Unit) r :=
  ⟨(),rfl⟩

@[simp] theorem survives_crash (r : ρ) : ¬Survives (crash : Prog ρ ε α) r := by
  simp [Survives]

@[simp] theorem survives_bind (m : Prog ρ ε α) (f : α → Prog ρ ε β) (r : ρ) :
    Survives (m >>= f) r ↔ ∃ a, Returns m r a ∧ Survives (f a) r := by
  simp only [Survives, returns_bind]
  exact ⟨fun ⟨b,a,ha,hb⟩ => ⟨a,ha,b,hb⟩, fun ⟨a,ha,b,hb⟩ => ⟨b,a,ha,hb⟩⟩

@[simp] theorem survives_ite (c : Prop) [Decidable c] (m n : Prog ρ ε α) (r : ρ) :
    Survives (if c then m else n) r ↔ (c → Survives m r) ∧ (¬c → Survives n r) := by
  split <;> simp_all

/-! ## What is emitted -/

theorem emits_mono {Q Q' : ε → Prop} {m : Prog ρ ε α} {r : ρ} (h : Emits Q m r)
    (hq : ∀ e, Q e → Q' e) : Emits Q' m r := fun e he => hq e (h e he)

@[simp] theorem emits_pure (Q : ε → Prop) (a : α) (r : ρ) :
    Emits Q (pure a : Prog ρ ε α) r := by
  intro e he
  cases he

@[simp] theorem emits_ask (Q : ε → Prop) (r : ρ) : Emits Q (ask : Prog ρ ε ρ) r := by
  intro e he
  cases he

@[simp] theorem emits_crash (Q : ε → Prop) (r : ρ) : Emits Q (crash : Prog ρ ε α) r := by
  intro e he
  cases he

@[simp] theorem emits_emit (Q : ε → Prop) (e : ε) (r : ρ) :
    Emits Q (emit e : Prog ρ ε Unit) r ↔ Q e := by
  change (∀ x ∈ [e], Q x) ↔ Q e
  simp

@[simp] theorem emits_bind (Q : ε → Prop) (m : Prog ρ ε α) (f : α → Prog ρ ε β) (r : ρ) :
    Emits Q (m >>= f) r ↔ Emits Q m r ∧ ∀ a, Returns m r a → Emits Q (f a) r := by
  simp only [Emits, Returns, bind_apply, Run.andThen]
  cases h : (m r).result with
  | none => simp
  | some a => simp [or_imp, forall_and]

@[simp] theorem emits_ite (Q : ε → Prop) (c : Prop) [Decidable c] (m n : Prog ρ ε α) (r : ρ) :
    Emits Q (if c then m else n) r ↔ (c → Emits Q m r) ∧ (¬c → Emits Q n r) := by
  split <;> simp_all

theorem emits_bind_of {Q : ε → Prop} {m : Prog ρ ε α} {f : α → Prog ρ ε β} {r : ρ} {P : Prop}
    (h : ∀ a, Returns m r a → (Emits Q (f a) r ↔ P)) :
    Emits Q (m >>= f) r ↔ Emits Q m r ∧ (Survives m r → P) := by
  rw [emits_bind]
  exact and_congr_right fun _ =>
    ⟨fun hf ⟨a,ha⟩ => (h a ha).mp (hf a ha),fun hp a ha => (h a ha).mpr (hp ⟨a,ha⟩)⟩

theorem survives_bind_of {m : Prog ρ ε α} {f : α → Prog ρ ε β} {r : ρ} {P : Prop}
    (h : ∀ a, Returns m r a → (Survives (f a) r ↔ P)) :
    Survives (m >>= f) r ↔ Survives m r ∧ P := by
  rw [survives_bind]
  exact ⟨fun ⟨a,ha,hf⟩ => ⟨⟨a,ha⟩,(h a ha).mp hf⟩,fun ⟨⟨a,ha⟩,hp⟩ => ⟨a,ha,(h a ha).mpr hp⟩⟩

theorem emits_bind_at {Q : ε → Prop} {m : Prog ρ ε α} {r : ρ} {a : α} (h : Returns m r a)
    (f : α → Prog ρ ε β) : Emits Q (m >>= f) r ↔ Emits Q m r ∧ Emits Q (f a) r := by
  rw [emits_bind]
  exact and_congr_right fun _ => ⟨fun hf => hf a h,fun hf b hb => returns_unique h hb ▸ hf⟩

theorem returns_bind_at {m : Prog ρ ε α} {r : ρ} {a : α} (h : Returns m r a)
    (f : α → Prog ρ ε β) (b : β) : Returns (m >>= f) r b ↔ Returns (f a) r b := by
  rw [returns_bind]
  exact ⟨fun ⟨c,hc,hf⟩ => returns_unique hc h ▸ hf,fun hf => ⟨a,h,hf⟩⟩

theorem survives_bind_at {m : Prog ρ ε α} {r : ρ} {a : α} (h : Returns m r a)
    (f : α → Prog ρ ε β) : Survives (m >>= f) r ↔ Survives (f a) r :=
  exists_congr fun b => returns_bind_at h f b

theorem survives_seq {m : Prog ρ ε α} {f : α → Prog ρ ε β} {r : ρ} (h : Survives m r)
    (hf : ∀ a, Returns m r a → Survives (f a) r) : Survives (m >>= f) r :=
  (survives_bind_of fun a ha => iff_true_intro (hf a ha)).mpr ⟨h,trivial⟩

/-! ## What a projection of the trace sees -/

@[simp] theorem observed_pure (p : ε → Option σ) (a : α) (r : ρ) :
    observed p (pure a : Prog ρ ε α) r = [] := rfl

@[simp] theorem observed_ask (p : ε → Option σ) (r : ρ) :
    observed p (ask : Prog ρ ε ρ) r = [] := rfl

@[simp] theorem observed_crash (p : ε → Option σ) (r : ρ) :
    observed p (crash : Prog ρ ε α) r = [] := rfl

@[simp] theorem observed_emit (p : ε → Option σ) (e : ε) (r : ρ) :
    observed p (emit e : Prog ρ ε Unit) r = (p e).toList := by
  change [e].filterMap p = (p e).toList
  cases h : p e <;> simp [h]

theorem observed_bind_of_returns (p : ε → Option σ) {m : Prog ρ ε α} {r : ρ} {a : α}
    (f : α → Prog ρ ε β) (h : Returns m r a) :
    observed p (m >>= f) r = observed p m r ++ observed p (f a) r := by
  unfold Returns at h
  simp only [observed, bind_apply, Run.andThen, h, List.filterMap_append]

theorem observed_eq_nil_iff (p : ε → Option σ) (m : Prog ρ ε α) (r : ρ) :
    observed p m r = [] ↔ Emits (fun e => p e = none) m r := by
  simp [observed, Emits, List.filterMap_eq_nil_iff]

theorem observed_of_emits (p : ε → Option σ) {Q : ε → Prop} {m : Prog ρ ε α} {r : ρ}
    (h : Emits Q m r) (hq : ∀ e, Q e → p e = none) : observed p m r = [] :=
  (observed_eq_nil_iff p m r).mpr (emits_mono h hq)

@[simp] theorem observed_emit_bind (p : ε → Option σ) (e : ε) (f : Unit → Prog ρ ε α) (r : ρ) :
    observed p (emit e >>= f) r = (p e).toList ++ observed p (f ()) r := by
  rw [observed_bind_of_returns p f ((returns_emit e r ()).mpr trivial), observed_emit]

@[simp] theorem observed_ask_bind (p : ε → Option σ) (f : ρ → Prog ρ ε α) (r : ρ) :
    observed p (ask >>= f) r = observed p (f r) r := by
  rw [observed_bind_of_returns p f ((returns_ask r r).mpr rfl), observed_ask, List.nil_append]

theorem observed_bind_eq_nil (p : ε → Option σ) {m : Prog ρ ε β} {f : β → Prog ρ ε α} {r : ρ}
    (hm : observed p m r = []) (hf : ∀ a, Returns m r a → observed p (f a) r = []) :
    observed p (m >>= f) r = [] := by
  simp only [observed_eq_nil_iff] at hm hf ⊢
  exact (emits_bind _ _ _ _).mpr ⟨hm,hf⟩

theorem observed_bind_of_silent (p : ε → Option σ) {m : Prog ρ ε β} {f : β → Prog ρ ε α} {r : ρ}
    (hf : ∀ a, Returns m r a → observed p (f a) r = []) :
    observed p (m >>= f) r = observed p m r := by
  cases hm : (m r).result with
  | none => simp [observed, bind_apply, Run.andThen, hm]
  | some a => rw [observed_bind_of_returns p f hm, hf a hm, List.append_nil]

/-! ## Two runs that look alike -/

/-- The two programs show the same through `p` and have the same value, or none. -/
def Agree (p : ε → Option σ) (m n : Prog ρ ε α) (r : ρ) : Prop :=
  observed p m r = observed p n r ∧ (m r).result = (n r).result

theorem agree_refl (p : ε → Option σ) (m : Prog ρ ε α) (r : ρ) : Agree p m m r := ⟨rfl,rfl⟩

theorem agree_emit (p : ε → Option σ) {e e' : ε} (h : p e = p e') (r : ρ) :
    Agree p (emit e : Prog ρ ε Unit) (emit e') r := by
  simp [Agree, h, emit]

theorem agree_bind (p : ε → Option σ) {m n : Prog ρ ε β} {f g : β → Prog ρ ε α} {r : ρ}
    (h : Agree p m n r) (hf : ∀ a, Agree p (f a) (g a) r) :
    Agree p (m >>= f) (n >>= g) r := by
  obtain ⟨ho,hr⟩ := h
  cases hm : (m r).result with
  | none =>
    rw [hm] at hr
    simp only [observed] at ho
    simp [Agree, observed, bind_apply, Run.andThen, hm, ← hr, ho]
  | some a =>
    have hn : Returns n r a := hr.symm.trans hm
    have hv : ∀ {m : Prog ρ ε β} {f : β → Prog ρ ε α}, Returns m r a →
        ((m >>= f) r).result = (f a r).result := fun {m f} h => by
      unfold Returns at h
      simp [bind_apply, Run.andThen, h]
    refine ⟨?_,(hv hm).trans ((hf a).2.trans (hv hn).symm)⟩
    rw [observed_bind_of_returns p f hm, observed_bind_of_returns p g hn, ho, (hf a).1]

/-! ## One program in two environments -/

theorem same_bind {m : Prog ρ ε α} {f : α → Prog ρ ε β} {r r' : ρ} (hm : m r' = m r)
    (hf : ∀ a, Returns m r a → f a r' = f a r) : (m >>= f) r' = (m >>= f) r := by
  rw [bind_apply, bind_apply, hm, Run.andThen, Run.andThen]
  cases h : (m r).result with
  | none => rfl
  | some a => simp only [hf a h]

theorem same_ask {f : ρ → Prog ρ ε α} {r r' : ρ} (hf : f r' r' = f r r) :
    (ask >>= f) r' = (ask >>= f) r := by
  rw [bind_apply, bind_apply]
  simp only [ask, Run.andThen, hf]

theorem same_foldlM {f : σ → α → Prog ρ ε σ} {r r' : ρ} {xs : List α}
    (hf : ∀ s, ∀ a ∈ xs, f s a r' = f s a r) (s : σ) : xs.foldlM f s r' = xs.foldlM f s r := by
  induction xs generalizing s with
  | nil => rfl
  | cons a xs ih =>
    rw [List.foldlM_cons]
    exact same_bind (hf s a (by simp)) fun t _ => ih (fun s b hb => hf s b (by simp [hb])) t

/-! ## A monitor of the trace -/

/-- The state of a monitor that follows the trace, where it accepts all of it. -/
def monitored (t : σ → ε → Option σ) (m : Prog ρ ε α) (r : ρ) (s : σ) : Option σ :=
  (m r).trace.foldlM t s

def Neutral (t : σ → ε → Option σ) (m : Prog ρ ε α) (r : ρ) : Prop :=
  ∀ s, monitored t m r s = some s

section
variable (t : σ → ε → Option σ)

@[simp] theorem monitored_pure (a : α) (r : ρ) (s : σ) :
    monitored t (pure a : Prog ρ ε α) r s = some s := rfl

@[simp] theorem monitored_crash (r : ρ) (s : σ) :
    monitored t (crash : Prog ρ ε α) r s = some s := rfl

@[simp] theorem monitored_emit (e : ε) (r : ρ) (s : σ) :
    monitored t (emit e : Prog ρ ε Unit) r s = t s e := by
  change [e].foldlM t s = t s e
  simp

theorem monitored_bind_of_returns {m : Prog ρ ε β} {r : ρ} {a : β} (f : β → Prog ρ ε α)
    (h : Returns m r a) (s : σ) :
    monitored t (m >>= f) r s = (monitored t m r s).bind (monitored t (f a) r) := by
  unfold Returns at h
  simp only [monitored, bind_apply, Run.andThen, h, List.foldlM_append]
  rfl

@[simp] theorem monitored_emit_bind (e : ε) (f : Unit → Prog ρ ε α) (r : ρ) (s : σ) :
    monitored t (emit e >>= f) r s = (t s e).bind (monitored t (f ()) r) := by
  rw [monitored_bind_of_returns t f ((returns_emit e r ()).mpr trivial), monitored_emit]

@[simp] theorem monitored_ask_bind (f : ρ → Prog ρ ε α) (r : ρ) (s : σ) :
    monitored t (ask >>= f) r s = monitored t (f r) r s := by
  rw [monitored_bind_of_returns t f ((returns_ask r r).mpr rfl)]
  rfl

variable {t}

theorem foldlM_of_forall {es : List ε} {s : σ} (h : ∀ e ∈ es, ∀ s, t s e = some s) :
    es.foldlM t s = some s := by
  induction es with
  | nil => rfl
  | cons e es ih =>
    rw [List.foldlM_cons, h e (by simp)]
    exact ih fun x hx => h x (by simp [hx])

theorem neutral_of_emits {Q : ε → Prop} {m : Prog ρ ε α} {r : ρ} (h : Emits Q m r)
    (hq : ∀ e, Q e → ∀ s, t s e = some s) : Neutral t m r := fun _ =>
  foldlM_of_forall fun e he => hq e (h e he)

theorem neutral_bind {m : Prog ρ ε β} {f : β → Prog ρ ε α} {r : ρ} (hm : Neutral t m r)
    (hf : ∀ a, Returns m r a → Neutral t (f a) r) : Neutral t (m >>= f) r := by
  intro s
  cases h : (m r).result with
  | none =>
    have hs := hm s
    simp only [monitored, bind_apply, Run.andThen, h] at hs ⊢
    exact hs
  | some a =>
    rw [monitored_bind_of_returns t f h, hm s]
    exact hf a h s

theorem monitored_bind_neutral {m : Prog ρ ε β} {r : ρ} {a : β} (f : β → Prog ρ ε α)
    (hm : Neutral t m r) (h : Returns m r a) (s : σ) :
    monitored t (m >>= f) r s = monitored t (f a) r s := by
  rw [monitored_bind_of_returns t f h, hm s]
  rfl

theorem neutral_foldlM (f : β → α → Prog ρ ε β) (r : ρ) (xs : List α) (b : β)
    (h : ∀ b, ∀ x ∈ xs, Neutral t (f b x) r) : Neutral t (xs.foldlM f b) r := by
  induction xs generalizing b with
  | nil => exact fun _ => rfl
  | cons x xs ih =>
    rw [List.foldlM_cons]
    exact neutral_bind (h b x (by simp)) fun c _ => ih c fun b y hy => h b y (by simp [hy])

end

/-! ## Loops -/

theorem emits_foldlM (Q : ε → Prop) (f : σ → α → Prog ρ ε σ) (r : ρ) (xs : List α) (s : σ)
    (h : ∀ s, ∀ x ∈ xs, Emits Q (f s x) r) : Emits Q (xs.foldlM f s) r := by
  induction xs generalizing s with
  | nil => simp
  | cons x xs ih =>
    rw [List.foldlM_cons, emits_bind]
    exact ⟨h s x (by simp), fun t _ => ih t fun s y hy => h s y (by simp [hy])⟩

/-- What a loop asks of its entries: `C` of each one it comes to, where `L` says
whether it comes to the next. -/
def Staged (C L : α → Prop) : List α → Prop
  | [] => True
  | x :: xs => C x ∧ (L x → Staged C L xs)

theorem staged_forall {C L : α → Prop} {xs : List α} (h : ∀ x ∈ xs, C x → L x) :
    Staged C L xs ↔ ∀ x ∈ xs, C x := by
  induction xs with
  | nil => simp [Staged]
  | cons x xs ih =>
    rw [Staged, ih fun y hy => h y (by simp [hy]), List.forall_mem_cons]
    exact and_congr_right fun hx => ⟨fun hl => hl (h x (by simp) hx),fun hl _ => hl⟩

/-- A body whose events and whose survival do not depend on the carried value is judged
entry by entry. -/
theorem emits_foldlM_iff (Q : ε → Prop) (f : σ → α → Prog ρ ε σ) (r : ρ) {C L : α → Prop}
    (xs : List α) (s : σ) (hc : ∀ s, ∀ x ∈ xs, (Emits Q (f s x) r ↔ C x))
    (hl : ∀ s, ∀ x ∈ xs, (Survives (f s x) r ↔ L x)) :
    Emits Q (xs.foldlM f s) r ↔ Staged C L xs := by
  induction xs generalizing s with
  | nil => simp [Staged]
  | cons x xs ih =>
    have hi := fun t => ih t (fun s y hy => hc s y (by simp [hy]))
      (fun s y hy => hl s y (by simp [hy]))
    rw [List.foldlM_cons, emits_bind_of fun t _ => hi t, hc s x (by simp), hl s x (by simp)]
    rfl

theorem survives_foldlM_iff (f : σ → α → Prog ρ ε σ) (r : ρ) (C : α → Prop)
    (xs : List α) (s : σ) (hc : ∀ s, ∀ x ∈ xs, (Survives (f s x) r ↔ C x)) :
    Survives (xs.foldlM f s) r ↔ ∀ x ∈ xs, C x := by
  induction xs generalizing s with
  | nil => simp
  | cons x xs ih =>
    have hi := fun t => ih t (fun s y hy => hc s y (by simp [hy]))
    rw [List.foldlM_cons, survives_bind, List.forall_mem_cons, ← hc s x (by simp)]
    constructor
    · rintro ⟨t,ht,h⟩
      exact ⟨⟨t,ht⟩,(hi t).mp h⟩
    · rintro ⟨⟨t,ht⟩,h⟩
      exact ⟨t,ht,(hi t).mpr h⟩

theorem survives_foldlM (f : σ → α → Prog ρ ε σ) (r : ρ) (xs : List α) (s : σ)
    (h : ∀ s, ∀ x ∈ xs, Survives (f s x) r) : Survives (xs.foldlM f s) r := by
  rw [survives_foldlM_iff f r (fun _ => True) xs s fun s x hx => iff_true_intro (h s x hx)]
  exact fun _ _ => trivial

theorem emits_foldlM_each (Q : ε → Prop) (f : σ → α → Prog ρ ε σ) (r : ρ) {C : α → Prop}
    (xs : List α) (s : σ) (hc : ∀ s, ∀ x ∈ xs, (Emits Q (f s x) r ↔ C x))
    (hs : ∀ s, ∀ x ∈ xs, Survives (f s x) r) :
    Emits Q (xs.foldlM f s) r ↔ ∀ x ∈ xs, C x := by
  rw [emits_foldlM_iff Q f r xs s hc fun s x hx => iff_true_intro (hs s x hx),
    staged_forall fun _ _ _ => trivial]

theorem returns_foldlM (f : σ → α → Prog ρ ε σ) (g : σ → α → σ) (r : ρ) (xs : List α) (s : σ)
    (h : ∀ s, ∀ x ∈ xs, Returns (f s x) r (g s x)) :
    Returns (xs.foldlM f s) r (xs.foldl g s) := by
  induction xs generalizing s with
  | nil => simp
  | cons x xs ih =>
    rw [List.foldlM_cons, returns_bind]
    exact ⟨g s x,h s x (by simp),ih _ fun s y hy => h s y (by simp [hy])⟩

theorem returns_foldlM_append (f : σ → α → Prog ρ ε σ) (r : ρ) (xs ys : List α) (s t : σ) :
    Returns ((xs ++ ys).foldlM f s) r t ↔
      ∃ u, Returns (xs.foldlM f s) r u ∧ Returns (ys.foldlM f u) r t := by
  induction xs generalizing s with
  | nil => simp
  | cons x xs ih =>
    simp only [List.cons_append, List.foldlM_cons, returns_bind, ih]
    constructor
    · rintro ⟨v,hv,u,hu,ht⟩
      exact ⟨u,⟨v,hv,hu⟩,ht⟩
    · rintro ⟨u,⟨v,hv,hu⟩,ht⟩
      exact ⟨v,hv,u,hu,ht⟩

theorem observed_foldlM (p : ε → Option β) (f : σ → α → Prog ρ ε σ) (o : α → List β) (r : ρ)
    (xs : List α) (s : σ) (hs : ∀ s, ∀ x ∈ xs, Survives (f s x) r)
    (ho : ∀ s, ∀ x ∈ xs, observed p (f s x) r = o x) :
    observed p (xs.foldlM f s) r = xs.flatMap o := by
  induction xs generalizing s with
  | nil => rfl
  | cons x xs ih =>
    obtain ⟨t,ht⟩ := hs s x (by simp)
    rw [List.foldlM_cons, observed_bind_of_returns p _ ht, ho s x (by simp),
      ih t (fun s y hy => hs s y (by simp [hy])) (fun s y hy => ho s y (by simp [hy]))]
    rfl

theorem flatMap_ite (c : α → Bool) (f : α → List β) (xs : List α) :
    (xs.flatMap fun x => if c x then f x else []) = (xs.filter c).flatMap f := by
  induction xs with
  | nil => rfl
  | cons x xs ih =>
    rw [List.flatMap_cons, ih]
    cases hx : c x with
    | false => simp [hx]
    | true => simp [hx]

end ScsiCli.RunTrace
