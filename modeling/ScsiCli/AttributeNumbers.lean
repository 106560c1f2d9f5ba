import ScsiCli.LiteralCopies
import ScsiCli.NumberReading

/-!
# Attributes that hold numbers

A number in a file of its own reaches the conversion as it was written, the
path and the array being long enough for it.
-/

set_option autoImplicit false

namespace ScsiCli.AttributeNumbers
open ScsiCli.RunTrace ScsiCli.ByteString ScsiCli.NumberText ScsiCli.NumberReading
open ScsiCli.Machine ScsiCli.SysfsUtils ScsiCli.MachineRules ScsiCli.LiteralCopies

variable {env : Env} {σ : Type}

def copied (env : Env) (size : ℕ) (path : Str) : Str :=
  cut size (((line env path).map env.format).getD [])

theorem copied_plain {size : ℕ} {path l : Str} (hn : '\n' ∉ l) (hz : nul ∉ l) (hp : '%' ∉ l)
    (h : Holds env path l) : copied env size path = cut size (l.take 63) := by
  have ht : '%' ∉ l.take 63 := fun hm => hp (List.mem_of_mem_take hm)
  rw [copied]
  rcases line_of_text hn hz h with hr | ⟨rfl,hr⟩
  · rw [hr, Option.map_some, Option.getD_some, Env.format, expand_plain ht, Option.getD_some]
  · rw [hr]
    rfl

structure NumberLine (l : Str) : Prop where
  row : AttributeLine l
  no_percent : '%' ∉ l
  short : l.length ≤ 20

theorem copied_number {size : ℕ} {path l : Str} (hl : NumberLine l) (hs : 20 < size)
    (h : Holds env path l) : copied env size path = l := by
  rw [copied_plain hl.row.no_newline hl.row.no_nul hl.no_percent h,
    List.take_of_length_le hl.row.short]
  exact cut_of_length_lt (lt_of_le_of_lt hl.short hs)

theorem numberLine_decimal {n : ℕ} (h : n < 2^64) : NumberLine (Nat.toDigits 10 n) := by
  obtain ⟨hp,hn,hz⟩ := not_mem_toDigits (show 1 < 10 by omega) (by omega) n
  have hl := (length_toDigits_lt h).1
  exact ⟨⟨by omega,hz,hn⟩,hp,hl⟩

theorem numberLine_hexText {n : ℕ} (h : n < 2^64) : NumberLine (hexText n) := by
  obtain ⟨hp,hn,hz⟩ := not_mem_toDigits (show 1 < 16 by omega) le_rfl n
  have hd := (length_toDigits_lt h).2
  have hl : (hexText n).length ≤ 18 := by
    simp only [hexText, List.length_cons]
    omega
  refine ⟨⟨by omega,?_,?_⟩,?_,by omega⟩
  · simp only [hexText, List.mem_cons, hz, or_false]
    decide
  · simp [hexText, hn]
  · simp [hexText, hp]

theorem numberLine_int {n : ℤ} (h : -2^31 ≤ n) (h' : n < 2^31) : NumberLine (decimal n) := by
  obtain ⟨hp,hn,hz⟩ := not_mem_toDigits (show 1 < 10 by omega) (by omega) n.natAbs
  have hl : (Nat.toDigits 10 n.natAbs).length ≤ 10 :=
    (Nat.length_toDigits_le_iff (by omega) (by omega)).mpr (by omega)
  unfold decimal
  split
  · refine ⟨⟨?_,?_,?_⟩,?_,?_⟩
    · simp only [List.length_cons]
      omega
    · simp only [List.mem_cons, hz, or_false]
      decide
    · simp [hn]
    · simp [hp]
    · simp only [List.length_cons]
      omega
  · exact ⟨⟨by omega,hz,hn⟩,hp,by omega⟩

end ScsiCli.AttributeNumbers
