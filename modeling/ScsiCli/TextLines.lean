import Mathlib.Data.List.DropRight
import ScsiCli.ByteString

/-!
# Texts of lines

A reader that looks at one line at a time reads a text of whole lines part by
part. What it takes from a line is freed of the characters of one kind at its
ends.
-/

set_option autoImplicit false

namespace ScsiCli.TextLines
open ScsiCli.ByteString

/-! ## Ends -/

section
variable {p : Char → Bool}

def strip (p : Char → Bool) (s : Str) : Str := (s.dropWhile p).rdropWhile p

theorem rdropWhile_append {t : Str} (h : ∀ c ∈ t, p c = true) (s : Str) :
    (s ++ t).rdropWhile p = s.rdropWhile p := by
  rw [List.rdropWhile, List.rdropWhile, List.reverse_append,
    List.dropWhile_append_of_pos fun c hc => h c (List.mem_reverse.mp hc)]

theorem strip_prepend {t : Str} (h : ∀ c ∈ t, p c = true) (s : Str) :
    strip p (t ++ s) = strip p s := by rw [strip, strip, List.dropWhile_append_of_pos h]

theorem strip_append {t : Str} (h : ∀ c ∈ t, p c = true) (s : Str) :
    strip p (s ++ t) = strip p s := by
  induction s with
  | nil =>
    have hn := strip_prepend h []
    rwa [List.append_nil] at hn
  | cons c s ih =>
    unfold strip at ih ⊢
    by_cases hc : p c = true
    · rw [List.cons_append, List.dropWhile_cons_of_pos hc, List.dropWhile_cons_of_pos hc, ih]
    · rw [List.cons_append, List.dropWhile_cons_of_neg hc, List.dropWhile_cons_of_neg hc,
        ← List.cons_append, rdropWhile_append h]

theorem strip_eq_self {s : Str} (h : ∀ c ∈ s, p c = false) : strip p s = s := by
  have hd : s.dropWhile p = s := List.dropWhile_eq_self_iff.mpr fun hl => by
    simp [h _ (List.getElem_mem hl)]
  rw [strip, hd]
  exact List.rdropWhile_eq_self_iff.mpr fun hl => by simp [h _ (List.getLast_mem hl)]

end

/-! ## Lines -/

variable {α : Type} {r : Str → Option α}

def readLines (r : Str → Option α) (t : Str) : List α := (t.splitOn '\n').filterMap r

theorem readLines_append_newline (s t : Str) :
    readLines r (s ++ '\n' :: t) = readLines r s ++ readLines r t := by
  rw [readLines, List.splitOn_append_cons_self, List.filterMap_append]
  rfl

theorem readLines_single {l : Str} (h : '\n' ∉ l) : readLines r l = (r l).toList := by
  rw [readLines, List.splitOn_eq_singleton h]
  cases hr : r l <;> simp [hr]

def Lines (t : Str) : Prop := t = [] ∨ ∃ s, t = s ++ ['\n']

theorem lines_append {s t : Str} (hs : Lines s) (ht : Lines t) : Lines (s ++ t) := by
  obtain rfl | ⟨t,rfl⟩ := ht
  · rwa [List.append_nil]
  · exact .inr ⟨s ++ t,(List.append_assoc _ _ _).symm⟩

section
variable (hr : r [] = none)
include hr

theorem readLines_nil : readLines r [] = [] := by rw [readLines_single (by simp), hr]; rfl

theorem readLines_append {s : Str} (h : Lines s) (t : Str) :
    readLines r (s ++ t) = readLines r s ++ readLines r t := by
  obtain rfl | ⟨s,rfl⟩ := h
  · rw [readLines_nil hr, List.nil_append, List.nil_append]
  · rw [List.append_assoc, List.singleton_append, readLines_append_newline,
      readLines_append_newline, readLines_nil hr, List.append_nil]

theorem readLines_line {l : Str} (h : '\n' ∉ l) : readLines r (l ++ ['\n']) = (r l).toList := by
  rw [readLines_append_newline, readLines_nil hr, List.append_nil, readLines_single h]

end

end ScsiCli.TextLines
