import Mathlib.Data.List.Nodup
import Mathlib.Logic.Function.Basic
import Mathlib.Tactic.Common

/-!
# Rings of pointers

Every node of a store has a pointer forward and a pointer back. A path is a
run of nodes linked both ways from one node to another; a ring is a path from
a node to itself. What an edit does to a ring is reduced to what it does to
the two ends of a path, for any store that agrees with the old one elsewhere.
-/

set_option autoImplicit false

namespace ScsiCli.PointerRing

structure Links (α : Type) where
  next : α → α
  prev : α → α

variable {α : Type} {m m' : Links α} {a b c : α} {xs : List α}

section
variable [DecidableEq α]

def Links.setNext (m : Links α) (p v : α) : Links α :=
  { m with next := Function.update m.next p v }

def Links.setPrev (m : Links α) (p v : α) : Links α :=
  { m with prev := Function.update m.prev p v }

@[simp] theorem setNext_next (m : Links α) (p v q : α) :
    (m.setNext p v).next q = if q = p then v else m.next q :=
  Function.update_apply _ _ _ _

@[simp] theorem setNext_prev (m : Links α) (p v : α) : (m.setNext p v).prev = m.prev := rfl

@[simp] theorem setPrev_prev (m : Links α) (p v q : α) :
    (m.setPrev p v).prev q = if q = p then v else m.prev q :=
  Function.update_apply _ _ _ _

@[simp] theorem setPrev_next (m : Links α) (p v : α) : (m.setPrev p v).next = m.next := rfl

/-- The nodes met from `a` until `stop`, in at most as many steps as there is fuel. -/
def walk (f : α → α) (stop : α) : ℕ → α → Option (List α)
  | 0, _ => none
  | n+1, a => if a = stop then some [] else (walk f stop n (f a)).map (a :: ·)

end

/-! ## Paths -/

/-- The nodes `xs` lie between `a` and `b`, each linked with the one before it. -/
def Path (m : Links α) : α → List α → α → Prop
  | a, [], b => m.next a = b ∧ m.prev b = a
  | a, x :: xs, b => m.next a = x ∧ m.prev x = a ∧ Path m x xs b

theorem path_append (a : α) (xs : List α) (y : α) (ys : List α) (b : α) :
    Path m a (xs ++ y :: ys) b ↔ Path m a xs y ∧ Path m y ys b := by
  induction xs generalizing a with
  | nil => simp [Path, and_assoc]
  | cons x xs ih => simp [Path, ih, and_assoc]

theorem prev_mem (h : Path m a xs b) : m.prev b ∈ a :: xs := by
  induction xs generalizing a with
  | nil => simp [h.2]
  | cons x xs ih => exact List.mem_cons_of_mem _ (ih h.2.2)

theorem next_mem (h : Path m a xs b) : m.next a ∈ xs ++ [b] := by
  cases xs with
  | nil => simp [h.1]
  | cons x xs => simp [h.1]

theorem path_congr (h : Path m a xs b) (hn : ∀ s ∈ a :: xs, m'.next s = m.next s)
    (hp : ∀ t ∈ xs ++ [b], m'.prev t = m.prev t) : Path m' a xs b := by
  induction xs generalizing a with
  | nil => exact ⟨(hn a (by simp)).trans h.1,(hp b (by simp)).trans h.2⟩
  | cons x xs ih =>
    have hx : m'.prev x = m.prev x := hp x (by simp)
    exact ⟨(hn a (by simp)).trans h.1,hx.trans h.2.1,
      ih h.2.2 (fun s hs => hn s (List.mem_cons_of_mem _ hs))
        fun t ht => hp t (List.mem_cons_of_mem _ ht)⟩

theorem path_retarget (h : Path m a xs b) (hd : (a :: xs).Nodup)
    (hn : ∀ s ∈ a :: xs, s ≠ m.prev b → m'.next s = m.next s)
    (hp : ∀ t ∈ xs, m'.prev t = m.prev t) (hs : m'.next (m.prev b) = c)
    (hc : m'.prev c = m.prev b) : Path m' a xs c := by
  induction xs generalizing a with
  | nil =>
    rw [h.2] at hs hc
    exact ⟨hs,hc⟩
  | cons x xs ih =>
    have ha : a ≠ m.prev b := by
      intro he
      apply (List.nodup_cons.mp hd).1
      rw [he]
      exact prev_mem h.2.2
    exact ⟨(hn a (by simp) ha).trans h.1,(hp x (by simp)).trans h.2.1,
      ih h.2.2 (List.nodup_cons.mp hd).2 (fun s hs => hn s (List.mem_cons_of_mem _ hs))
        fun t ht => hp t (List.mem_cons_of_mem _ ht)⟩

theorem path_restart (h : Path m a xs b) (hd : (xs ++ [b]).Nodup)
    (hn : ∀ s ∈ xs, m'.next s = m.next s)
    (hp : ∀ t ∈ xs ++ [b], t ≠ m.next a → m'.prev t = m.prev t)
    (hs : m'.next c = m.next a) (hc : m'.prev (m.next a) = c) : Path m' c xs b := by
  cases xs with
  | nil =>
    rw [h.1] at hs hc
    exact ⟨hs,hc⟩
  | cons x xs =>
    rw [h.1] at hs hc
    have hx : ∀ t ∈ xs ++ [b], t ≠ x := by
      intro t ht he
      subst he
      exact (List.nodup_cons.mp hd).1 ht
    apply And.intro hs
    apply And.intro hc
    apply path_congr h.2.2 hn
    intro t ht
    exact hp t (List.mem_cons_of_mem _ ht) (h.1 ▸ hx t ht)

/-! ## Backwards -/

def Links.mirror (m : Links α) : Links α := ⟨m.prev,m.next⟩

theorem path_mirror (h : Path m a xs b) : Path m.mirror b xs.reverse a := by
  induction xs generalizing a with
  | nil => exact ⟨h.2,h.1⟩
  | cons x xs ih =>
    rw [List.reverse_cons, path_append]
    exact ⟨ih h.2.2,h.2.1,h.1⟩

/-! ## Rings -/

def Ring (m : Links α) (h : α) (xs : List α) : Prop := (h :: xs).Nodup ∧ Path m h xs h

theorem ring_mirror {h : α} (hr : Ring m h xs) : Ring m.mirror h xs.reverse := by
  constructor
  · simpa [List.nodup_cons, List.nodup_reverse] using hr.1
  · exact path_mirror hr.2

theorem ne_next {h x : α} {ys zs : List α} (hr : Ring m h (ys ++ x :: zs)) : x ≠ m.next x := by
  intro he
  have hd := List.nodup_append.mp (show (h :: ys ++ x :: zs).Nodup from hr.1)
  have hm := next_mem ((path_append h ys x zs h).mp hr.2).2
  rw [← he, List.mem_append, List.mem_singleton] at hm
  apply hm.elim (List.nodup_cons.mp hd.2.1).1
  intro hxh
  exact hd.2.2 h (by simp) x (by simp) hxh.symm

theorem walk_path [DecidableEq α] {n : ℕ} (h : Path m a xs b) (hb : b ∉ xs) (hn : xs.length < n) :
    walk m.next b n (m.next a) = some xs := by
  induction xs generalizing a n with
  | nil =>
    cases n with
    | zero => simp at hn
    | succ n => simp [walk, h.1]
  | cons x xs ih =>
    cases n with
    | zero => simp at hn
    | succ n =>
      have hx : x ≠ b := by
        intro he
        exact hb (by simp [he])
      have hi := ih (n := n) h.2.2 (fun hm => hb (List.mem_cons_of_mem _ hm))
        (by rw [List.length_cons] at hn; omega)
      rw [walk, h.1, if_neg hx, hi]
      rfl

theorem walk_ring [DecidableEq α] {h : α} {n : ℕ} (hr : Ring m h xs) (hn : xs.length < n) :
    walk m.next h n (m.next h) = some xs :=
  walk_path hr.2 (List.nodup_cons.mp hr.1).1 hn

theorem walk_ring_back [DecidableEq α] {h : α} {n : ℕ} (hr : Ring m h xs) (hn : xs.length < n) :
    walk m.prev h n (m.prev h) = some xs.reverse :=
  walk_ring (ring_mirror hr) (by simpa using hn)

theorem next_head_iff {h : α} (hr : Ring m h xs) : m.next h = h ↔ xs = [] := by
  cases xs with
  | nil => simpa using hr.2.1
  | cons x xs =>
    have hx : x ≠ h := by
      intro he
      exact (List.nodup_cons.mp hr.1).1 (by simp [he])
    simp [hr.2.1, hx]

end ScsiCli.PointerRing
