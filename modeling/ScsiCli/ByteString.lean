import Mathlib.Data.List.Infix
import Mathlib.Data.List.TakeWhile
import Mathlib.Tactic.Common

/-!
# Strings of the C library

A string is the list of its bytes before the terminating NUL, a byte being
written as a character. The module models the bounded compare, the bounded
copy and what the formatted-output functions make of a format that is given
no arguments, and decides exactly when that last one copies its format.
-/

set_option autoImplicit false

namespace ScsiCli.ByteString

abbrev Str := List Char

/-- A literal's bytes. Sealed, so that a definition's text is not spelled out when it is unfolded. -/
@[irreducible] def lit (s : String) : Str := s.toList

instance : Coe String Str := ⟨lit⟩

def nul : Char := Char.ofNat 0

/-- `strncmp(a, b, n) == 0`. A string that ends early differs from one that goes on. -/
def strncmpEq (a b : Str) (n : ℕ) : Bool := a.take n == b.take n

/-- The text a bounded copy leaves in an array when it is told that the array has `size` bytes. -/
def cut (size : ℕ) (s : Str) : Str := s.take (size-1)

def stored (size : ℕ) (s : Str) : ℕ := if size = 0 then 0 else min s.length (size-1)+1

@[simp] theorem stored_length (s : Str) : stored s.length s = s.length := by
  unfold stored
  split_ifs <;> omega

theorem strncmpEq_iff (a b : Str) (n : ℕ) : strncmpEq a b n = true ↔ a.take n = b.take n := by
  simp [strncmpEq]

theorem strncmpEq_iff_prefix {a b : Str} {n : ℕ} (h : b.length = n) :
    strncmpEq a b n = true ↔ b <+: a := by
  rw [strncmpEq_iff, List.prefix_iff_eq_take, h, List.take_of_length_le (le_of_eq h), eq_comm]

theorem strncmpEq_whole (a b : Str) : strncmpEq a b b.length = true ↔ b <+: a :=
  strncmpEq_iff_prefix rfl

theorem strncmpEq_comm (a b : Str) (n : ℕ) : strncmpEq a b n = strncmpEq b a n := by
  simp [strncmpEq, Bool.beq_comm]

@[simp] theorem strncmpEq_self (a : Str) (n : ℕ) : strncmpEq a a n = true := by
  simp [strncmpEq]

theorem cut_length_le (size : ℕ) (s : Str) : (cut size s).length ≤ size-1 := by
  rw [cut, List.length_take]
  exact Nat.min_le_left _ _

theorem cut_of_length_lt {size : ℕ} {s : Str} (h : s.length < size) : cut size s = s :=
  List.take_of_length_le (by omega)

theorem cut_eq_self_iff {size : ℕ} {s : Str} : cut size s = s ↔ s.length ≤ size-1 := by
  simp [cut, List.take_eq_self_iff]

/-! ## Formats without arguments -/

/-- The text of a format that is given no arguments: every byte stands for
itself and `%%` for one percent sign. Any other conversion asks for an
argument that is not there and has no defined text. -/
def expand : Str → Option Str
  | [] => some []
  | c :: s =>
    if c = '%' then
      match s with
      | '%' :: t => (expand t).map ('%' :: ·)
      | _ => none
    else (expand s).map (c :: ·)

theorem expand_cons_ne {c : Char} (h : c ≠ '%') (s : Str) :
    expand (c :: s) = (expand s).map (c :: ·) := by
  conv_lhs => unfold expand
  exact if_neg h

theorem expand_plain {s : Str} (h : '%' ∉ s) : expand s = some s := by
  induction s with
  | nil => simp [expand]
  | cons c s ih =>
    rw [expand_cons_ne (fun hc => h (by simp [hc])), ih (fun hs => h (by simp [hs]))]
    rfl

theorem expand_percent_some {s t : Str} (h : expand ('%' :: s) = some t) :
    ∃ s' t', s = '%' :: s' ∧ expand s' = some t' ∧ t = '%' :: t' := by
  unfold expand at h
  rw [if_pos rfl] at h
  split at h
  · rename_i s'
    obtain ⟨t',ht,rfl⟩ := Option.map_eq_some_iff.mp h
    exact ⟨s',t',rfl,ht,rfl⟩
  · cases h

theorem expand_length_le {s t : Str} (h : expand s = some t) : t.length ≤ s.length := by
  fun_induction expand s generalizing t with
  | case1 => simp_all
  | case2 s ih =>
    obtain ⟨t',ht,rfl⟩ := Option.map_eq_some_iff.mp h
    have := ih ht
    simp only [List.length_cons]
    omega
  | case3 => cases h
  | case4 c s hc ih =>
    obtain ⟨t',ht,rfl⟩ := Option.map_eq_some_iff.mp h
    simpa using ih ht

theorem expand_fixed_iff {s t : Str} (h : expand s = some t) :
    t.length = s.length ↔ '%' ∉ s := by
  fun_induction expand s generalizing t with
  | case1 => simp_all
  | case2 s ih =>
    obtain ⟨t',ht,rfl⟩ := Option.map_eq_some_iff.mp h
    have := expand_length_le ht
    simp only [List.length_cons, List.mem_cons, true_or, not_true_eq_false, iff_false]
    omega
  | case3 => cases h
  | case4 c s hc ih =>
    obtain ⟨t',ht,rfl⟩ := Option.map_eq_some_iff.mp h
    simpa [Ne.symm hc] using ih ht

theorem expand_take_percent_iff {s t : Str} (k : ℕ) (h : expand s = some t) :
    t.take k = List.replicate k '%' ↔ List.replicate (2*k) '%' <+: s := by
  induction k generalizing s t with
  | zero => simp
  | succ k ih =>
    rw [show 2*(k+1) = 2*k+1+1 by omega, List.replicate_succ, List.replicate_succ,
      List.replicate_succ]
    cases s with
    | nil =>
      obtain rfl : t = [] := by simpa [expand, eq_comm] using h
      simp
    | cons c s =>
      by_cases hc : c = '%'
      · subst c
        obtain ⟨s',t',rfl,ht,rfl⟩ := expand_percent_some h
        simpa using ih ht
      · rw [expand_cons_ne hc] at h
        obtain ⟨t',ht,rfl⟩ := Option.map_eq_some_iff.mp h
        simp [hc, Ne.symm hc]

/-- The first `k` bytes of the text are those of the format: either no percent sign is
met, or from the first one on there are enough of them to fill what remains. -/
def LiteralUpTo (k : ℕ) (s : Str) : Prop :=
  '%' ∉ s ∨
    List.replicate (2*(k-(s.takeWhile (· ≠ '%')).length)) '%' <+: s.dropWhile (· ≠ '%')

instance (k : ℕ) (s : Str) : Decidable (LiteralUpTo k s) := inferInstanceAs (Decidable (_ ∨ _))

theorem take_shifted {s t : Str} (k n : ℕ) (h : expand s = some t)
    (he : t.take k = (List.replicate (n+1) '%' ++ s).take k) :
    t.take k = List.replicate k '%' := by
  induction k generalizing s t n with
  | zero => rfl
  | succ k ih =>
    rw [List.replicate_succ, List.cons_append, List.take_succ_cons] at he
    cases s with
    | nil =>
      obtain rfl : t = [] := by simpa [expand, eq_comm] using h
      simp at he
    | cons c s =>
      by_cases hc : c = '%'
      · subst c
        obtain ⟨s',t',rfl,ht,rfl⟩ := expand_percent_some h
        rw [List.take_succ_cons, List.replicate_succ]
        congr 1
        apply ih (n+1) ht
        have hr : List.replicate n '%' ++ '%' :: '%' :: s' =
            List.replicate (n+1+1) '%' ++ s' := by
          rw [List.replicate_succ', List.replicate_succ']
          simp
        simpa [hr] using he
      · rw [expand_cons_ne hc] at h
        obtain ⟨u,hu,rfl⟩ := Option.map_eq_some_iff.mp h
        simp [hc] at he

theorem take_percent_iff {s t : Str} (k : ℕ) (h : expand ('%' :: s) = some t) :
    t.take k = ('%' :: s).take k ↔ List.replicate (2*k) '%' <+: '%' :: s := by
  rw [← expand_take_percent_iff k h]
  constructor
  · intro he
    cases k with
    | zero => rfl
    | succ k =>
      obtain ⟨s',t',rfl,ht,rfl⟩ := expand_percent_some h
      simp only [List.take_succ_cons, List.cons.injEq, true_and] at he
      rw [List.take_succ_cons, List.replicate_succ, take_shifted k 0 ht (by simpa using he)]
  · intro he
    have hp := (expand_take_percent_iff k h).mp he
    have hk : List.replicate k '%' <+: '%' :: s :=
      (List.prefix_replicate_iff.mpr ⟨by simp; omega, by simp⟩).trans hp
    rw [he, List.prefix_iff_eq_take.mp hk, List.length_replicate]

theorem expand_take_iff {s t : Str} (k : ℕ) (h : expand s = some t) :
    t.take k = s.take k ↔ LiteralUpTo k s := by
  induction s generalizing t k with
  | nil =>
    obtain rfl : t = [] := by simpa [expand, eq_comm] using h
    simp [LiteralUpTo]
  | cons c s ih =>
    by_cases hc : c = '%'
    · subst c
      rw [take_percent_iff k h]
      simp [LiteralUpTo]
    · rw [expand_cons_ne hc] at h
      obtain ⟨t',ht,rfl⟩ := Option.map_eq_some_iff.mp h
      cases k with
      | zero => simp [LiteralUpTo]
      | succ k =>
        have hi := ih k ht
        simp only [LiteralUpTo, List.take_succ_cons, List.cons.injEq, true_and] at hi ⊢
        rw [hi]
        simp [hc, Ne.symm hc]

theorem literalUpTo_of_length_le {k : ℕ} {s : Str} (h : s.length ≤ k) :
    (expand s).isSome = true ∧ LiteralUpTo k s ↔ '%' ∉ s := by
  constructor
  · rintro ⟨hd,hl⟩
    obtain ⟨t,ht⟩ := Option.isSome_iff_exists.mp hd
    have he := (expand_take_iff k ht).mpr hl
    have hlen := expand_length_le ht
    rw [List.take_of_length_le h, List.take_of_length_le (by omega)] at he
    exact (expand_fixed_iff ht).mp (by rw [he])
  · intro hp
    exact ⟨by simp [expand_plain hp], Or.inl hp⟩

end ScsiCli.ByteString
