import Mathlib.Data.List.TakeWhile
import Mathlib.Tactic.Common

/-!
# Arrays that hold a terminated string

An array of a fixed number of cells, whatever they hold, is read as the cells
before its first terminator. Storing a string with its terminator makes it the
string that is read, and what the array held before is not seen.
-/

set_option autoImplicit false

namespace ScsiCli.FixedArrays

structure FixedArray (α : Type) (n : ℕ) where
  cells : List α
  size_eq : cells.length = n

variable {α : Type} [DecidableEq α] {n : ℕ} {z : α}

def FixedArray.get (z : α) (a : FixedArray α n) : List α := a.cells.takeWhile (· ≠ z)

/-- Cells stored from the first one on; the array's end stops them. -/
def FixedArray.store (a : FixedArray α n) (s : List α) : FixedArray α n :=
  ⟨(s ++ a.cells.drop s.length).take n,by
    rw [List.length_take, List.length_append, List.length_drop, a.size_eq]
    omega⟩

def FixedArray.put (z : α) (a : FixedArray α n) (s : List α) : FixedArray α n := a.store (s ++ [z])

def FixedArray.set (a : FixedArray α n) (i : ℕ) (x : α) : FixedArray α n :=
  ⟨a.cells.set i x,by rw [List.length_set, a.size_eq]⟩

def FixedArray.fill (x : α) : FixedArray α n := ⟨List.replicate n x,List.length_replicate⟩

/-- The terminator put in the place of the first `c`, or of the one that is there. -/
def FixedArray.cutAt (z c : α) (a : FixedArray α n) : FixedArray α n :=
  a.set ((a.get z).takeWhile (· ≠ c)).length z

theorem takeWhile_terminated (s rest : List α) :
    (s ++ z :: rest).takeWhile (· ≠ z) = s.takeWhile (· ≠ z) := by
  induction s with
  | nil => simp
  | cons c s ih => rw [List.cons_append, List.takeWhile_cons, List.takeWhile_cons, ih]

omit [DecidableEq α] in
theorem put_cells (a : FixedArray α n) {s : List α} (h : s.length < n) :
    ∃ rest, (a.put z s).cells = s ++ z :: rest := by
  refine ⟨(a.cells.drop (s.length+1)).take (n-(s.length+1)),?_⟩
  change ((s ++ [z]) ++ a.cells.drop (s ++ [z]).length).take n = _
  rw [List.take_append, List.take_of_length_le (by simp; omega)]
  simp

theorem get_put (a : FixedArray α n) {s : List α} (h : s.length < n) :
    (a.put z s).get z = s.takeWhile (· ≠ z) := by
  obtain ⟨rest,hr⟩ := put_cells (z := z) a h
  rw [FixedArray.get, hr, takeWhile_terminated]

theorem takeWhile_eq_self {s : List α} (h : z ∉ s) : s.takeWhile (· ≠ z) = s := by
  rw [List.takeWhile_eq_self_iff]
  exact fun c hc => decide_eq_true fun he => h (he ▸ hc)

theorem get_put_of_not_mem (a : FixedArray α n) {s : List α} (h : s.length < n) (hz : z ∉ s) :
    (a.put z s).get z = s := by rw [get_put a h, takeWhile_eq_self hz]

theorem prefix_get (a : FixedArray α n) : a.get z <+: a.cells := List.takeWhile_prefix _

theorem not_mem_get (a : FixedArray α n) : z ∉ a.get z := fun h => by
  simpa using List.mem_takeWhile_imp h

theorem get_cutAt (a : FixedArray α n) (c : α) :
    (a.cutAt z c).get z = (a.get z).takeWhile (· ≠ c) := by
  have hz : z ∉ (a.get z).takeWhile (· ≠ c) := fun h =>
    not_mem_get a ((List.takeWhile_sublist _).mem h)
  have hp : (a.get z).takeWhile (· ≠ c) <+: a.cells :=
    (List.takeWhile_prefix _).trans (prefix_get a)
  obtain ⟨rest,hr⟩ := hp
  change (a.cells.set _ z).takeWhile _ = _
  rw [← hr]
  cases rest with
  | nil =>
    rw [List.set_eq_of_length_le (by simp), List.append_nil]
    exact takeWhile_eq_self hz
  | cons x rest =>
    rw [List.set_append_right _ _ (Nat.le_refl _), Nat.sub_self, List.set_cons_zero,
      takeWhile_terminated]
    exact takeWhile_eq_self hz

end ScsiCli.FixedArrays
