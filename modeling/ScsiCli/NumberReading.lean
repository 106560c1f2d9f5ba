import ScsiCli.NumberText
import Mathlib.Tactic.IntervalCases

/-!
# Reading what was printed

A number written with its digits is read back by the conversions of the C
library, whatever follows it that is not a digit: in decimal by `strtoull` and
by `scanf`, in hexadecimal behind its prefix by `strtoull` and `strtol`. The
signed conversion keeps only what fits it.
-/

set_option autoImplicit false

namespace ScsiCli.NumberReading
open ScsiCli.ByteString ScsiCli.NumberText

/-! ## Digits -/

theorem digit_digitChar {b d : ℕ} (hd : d < b) (hb : b ≤ 16) :
    digit b (Nat.digitChar d) = some d := by
  have h : d < 16 := by omega
  interval_cases d <;> simp [digit, Nat.digitChar, hd]

theorem digits_cons {b d : ℕ} (hd : d < b) (hb : b ≤ 16) (acc : ℕ) (s : Str) :
    digits b acc (Nat.digitChar d :: s) = digits b (acc*b+d) s := by
  rw [digits, digit_digitChar hd hb]

theorem digits_toDigits_append {b : ℕ} (hb : 1 < b) (hb' : b ≤ 16) (n : ℕ) (rest : Str) :
    digits b 0 (Nat.toDigits b n ++ rest) = digits b n rest := by
  induction n using Nat.base_induction b hb generalizing rest with
  | single m hm =>
    rw [Nat.toDigits_of_lt_base hm, List.singleton_append, digits_cons hm hb']
    simp
  | digit m k hk hm ih =>
    rw [← Nat.toDigits_append_toDigits hb hm hk, List.append_assoc, ih,
      Nat.toDigits_of_lt_base hk, List.singleton_append, digits_cons hk hb', Nat.mul_comm]

theorem digits_of_stop {b : ℕ} (acc : ℕ) {rest : Str} (h : startsDigit b rest = false) :
    digits b acc rest = (acc,rest) := by
  cases rest with
  | nil => rfl
  | cons c s =>
    have hc : digit b c = none := by simpa [startsDigit] using h
    simp [digits, hc]

theorem digits_toDigits {b : ℕ} (hb : 1 < b) (hb' : b ≤ 16) (n : ℕ) {rest : Str}
    (h : startsDigit b rest = false) : digits b 0 (Nat.toDigits b n ++ rest) = (n,rest) := by
  rw [digits_toDigits_append hb hb', digits_of_stop n h]

theorem toDigits_cons {b : ℕ} (hb : 1 < b) (n : ℕ) :
    ∃ d s, d < b ∧ Nat.toDigits b n = Nat.digitChar d :: s ∧ (d = 0 → n = 0) := by
  induction n using Nat.base_induction b hb with
  | single m hm => exact ⟨m,[],hm,Nat.toDigits_of_lt_base hm,id⟩
  | digit m k hk hm ih =>
    obtain ⟨d,s,hd,hs,hz⟩ := ih
    refine ⟨d,s ++ Nat.toDigits b k,hd,?_,fun h0 => ?_⟩
    · rw [← Nat.toDigits_append_toDigits hb hm hk, hs]
      rfl
    · have := hz h0
      omega

theorem mem_toDigits {b : ℕ} (hb : 1 < b) {n : ℕ} {c : Char} (hc : c ∈ Nat.toDigits b n) :
    ∃ d < b, c = Nat.digitChar d := by
  induction n using Nat.base_induction b hb with
  | single m hm =>
    rw [Nat.toDigits_of_lt_base hm, List.mem_singleton] at hc
    exact ⟨m,hm,hc⟩
  | digit m k hk hm ih =>
    rw [← Nat.toDigits_append_toDigits hb hm hk, Nat.toDigits_of_lt_base hk, List.mem_append,
      List.mem_singleton] at hc
    rcases hc with hc | hc
    · exact ih hc
    · exact ⟨k,hk,hc⟩

theorem digitChar_plain {d : ℕ} (hd : d < 16) :
    isspace (Nat.digitChar d) = false ∧ Nat.digitChar d ≠ '-' ∧ Nat.digitChar d ≠ '+' ∧
      Nat.digitChar d ≠ '%' ∧ Nat.digitChar d ≠ nul := by
  interval_cases d <;> decide

theorem not_mem_toDigits {b : ℕ} (hb : 1 < b) (hb' : b ≤ 16) (n : ℕ) :
    '%' ∉ Nat.toDigits b n ∧ '\n' ∉ Nat.toDigits b n ∧ nul ∉ Nat.toDigits b n := by
  have h : ∀ c ∈ Nat.toDigits b n, c ≠ '%' ∧ c ≠ '\n' ∧ c ≠ nul := by
    intro c hc
    obtain ⟨d,hd,rfl⟩ := mem_toDigits hb hc
    obtain ⟨hs,-,-,hp,hn⟩ := digitChar_plain (show d < 16 by omega)
    refine ⟨hp,fun he => ?_,hn⟩
    rw [he] at hs
    exact absurd hs (by decide)
  exact ⟨fun hc => (h _ hc).1 rfl,fun hc => (h _ hc).2.1 rfl,fun hc => (h _ hc).2.2 rfl⟩

theorem startsDigit_toDigits {b : ℕ} (hb : 1 < b) (hb' : b ≤ 16) (n : ℕ) (rest : Str) :
    startsDigit b (Nat.toDigits b n ++ rest) = true := by
  obtain ⟨d,s,hd,hs,-⟩ := toDigits_cons hb n
  simp [hs, startsDigit, digit_digitChar hd hb']

/-! ## Signs and white space -/

def Unsigned (s : Str) : Prop := s.dropWhile isspace = s ∧ sign s = (false,s)

theorem unsigned_cons {d : ℕ} (hd : d < 16) (s : Str) : Unsigned (Nat.digitChar d :: s) := by
  obtain ⟨hs,hm,hp,-,-⟩ := digitChar_plain hd
  constructor
  · simp [hs]
  · unfold sign
    split
    · simp_all
    · simp_all
    · rfl

theorem unsigned_toDigits {b : ℕ} (hb : 1 < b) (hb' : b ≤ 16) (n : ℕ) (rest : Str) :
    Unsigned (Nat.toDigits b n ++ rest) := by
  obtain ⟨d,s,hd,hs,-⟩ := toDigits_cons hb n
  rw [hs]
  exact unsigned_cons (by omega) _

theorem strtoull_unsigned {s : Str} (h : Unsigned s) :
    strtoull s = if 2^64 ≤ autoDigits s then 2^64-1 else autoDigits s := by
  unfold strtoull
  rw [h.1, h.2]
  simp

theorem strtol_unsigned {s : Str} (h : Unsigned s) :
    strtol s = min (2^63-1) (autoDigits s : ℤ) := by
  unfold strtol
  rw [h.1, h.2]
  simp

/-! ## Whole texts -/

theorem autoDigits_decimal (n : ℕ) : autoDigits (Nat.toDigits 10 n) = n := by
  obtain ⟨d,s,hd,hs,hz⟩ := toDigits_cons (show 1 < 10 by omega) n
  by_cases h0 : n = 0
  · subst h0
    simp [autoDigits, digits, digit]
  · have hc : Nat.digitChar d ≠ '0' := by
      simpa using fun h => h0 (hz h)
    have hn := @digits_toDigits 10 (by omega) (by omega) n [] rfl
    rw [List.append_nil] at hn
    rw [hs] at hn ⊢
    unfold autoDigits
    split
    · simp_all
    · rw [hn]

def hexText (n : ℕ) : Str := '0' :: 'x' :: Nat.toDigits 16 n

theorem autoDigits_hexText (n : ℕ) : autoDigits (hexText n) = n := by
  have hs := startsDigit_toDigits (show 1 < 16 by omega) le_rfl n []
  have hn := @digits_toDigits 16 (by omega) le_rfl n [] rfl
  rw [List.append_nil] at hs hn
  simp [autoDigits, hexText, hs, hn]

theorem unsigned_hexText (n : ℕ) : Unsigned (hexText n) :=
  unsigned_cons (show 0 < 16 by omega) _

theorem strtoull_decimal {n : ℕ} (h : n < 2^64) : strtoull (Nat.toDigits 10 n) = n := by
  have hu := unsigned_toDigits (show 1 < 10 by omega) (by omega) n []
  rw [List.append_nil] at hu
  rw [strtoull_unsigned hu, autoDigits_decimal, if_neg (by omega)]

/-- A number that does not fit is read as the largest that does. -/
theorem strtoull_large {n : ℕ} (h : 2^64 ≤ n) : strtoull (Nat.toDigits 10 n) = 2^64-1 := by
  have hu := unsigned_toDigits (show 1 < 10 by omega) (by omega) n []
  rw [List.append_nil] at hu
  rw [strtoull_unsigned hu, autoDigits_decimal, if_pos h]

theorem strtoull_hexText {n : ℕ} (h : n < 2^64) : strtoull (hexText n) = n := by
  rw [strtoull_unsigned (unsigned_hexText n), autoDigits_hexText, if_neg (by omega)]

/-- The signed conversion stops at its largest value. -/
theorem uint64_strtol_hexText (n : ℕ) : uint64 (strtol (hexText n)) = min (2^63-1) n := by
  rw [strtol_unsigned (unsigned_hexText n), autoDigits_hexText]
  unfold uint64
  omega

theorem strtoull_minus {n : ℕ} (h : n < 2^64) :
    strtoull ('-' :: Nat.toDigits 10 n) = (2^64-n) % 2^64 := by
  have hd : ('-' :: Nat.toDigits 10 n).dropWhile isspace = '-' :: Nat.toDigits 10 n := by
    simp [isspace]
  unfold strtoull
  rw [hd]
  simp only [sign, autoDigits_decimal, if_true]
  rw [if_neg (by omega)]

/-- A negative number wraps around and is narrowed to itself. -/
theorem int32_strtoull_decimal {n : ℤ} (h : -2^31 ≤ n) (h' : n < 2^31) :
    int32 (strtoull (decimal n)) = n := by
  unfold decimal
  split
  · rw [strtoull_minus (by omega)]
    unfold int32
    omega
  · rw [strtoull_decimal (by omega)]
    unfold int32
    omega

theorem length_toDigits_lt {n : ℕ} (h : n < 2^64) :
    (Nat.toDigits 10 n).length ≤ 20 ∧ (Nat.toDigits 16 n).length ≤ 16 := by
  constructor
  · exact (Nat.length_toDigits_le_iff (by omega) (by omega)).mpr (by omega)
  · exact (Nat.length_toDigits_le_iff (by omega) (by omega)).mpr (by omega)

theorem take_toDigits {k : ℕ} (hk : 0 < k) (n : ℕ) :
    ∃ m, (Nat.toDigits 10 n).take k = Nat.toDigits 10 m := by
  induction n using Nat.strong_induction_on with
  | h n ih =>
    by_cases hl : (Nat.toDigits 10 n).length ≤ k
    · exact ⟨n,List.take_of_length_le hl⟩
    · have hn : ¬n < 10 := by
        intro hn
        rw [Nat.toDigits_of_lt_base hn, List.length_singleton] at hl
        omega
      have hd : Nat.toDigits 10 n = Nat.toDigits 10 (n/10) ++ [Nat.digitChar (n % 10)] := by
        rw [Nat.toDigits_eq_if (by omega), if_neg hn]
      rw [hd, List.length_append, List.length_singleton] at hl
      rw [hd, List.take_append_of_le_length (by omega)]
      exact ih _ (by omega)

/-! ## Numbers between colons -/

/-- The value that `%d` keeps of a number without a sign. -/
def kept (n : ℕ) : ℤ := int32 (min (2^63-1) (n : ℤ))

theorem kept_of_lt {n : ℕ} (h : n < 2^31) : kept n = n := by
  have hm : min (2^63-1) (n : ℤ) = n := by omega
  rw [kept, hm, int32_of_range (by omega) (by omega)]

theorem scanInt_toDigits (n : ℕ) {rest : Str} (h : startsDigit 10 rest = false) :
    scanInt (Nat.toDigits 10 n ++ rest) = some (kept n,rest) := by
  obtain ⟨hd,hs⟩ := unsigned_toDigits (show 1 < 10 by omega) (by omega) n rest
  unfold scanInt
  rw [hd, hs]
  simp only [startsDigit_toDigits (show 1 < 10 by omega) (by omega), if_true,
    digits_toDigits (show 1 < 10 by omega) (by omega) n h, Bool.false_eq_true, if_false]
  rfl

theorem scanColon_colon (k n : ℕ) (rest : Str) :
    scanColon (k+1) (Nat.toDigits 10 n ++ ':' :: rest) = kept n :: scanColon k rest := by
  have hc : startsDigit 10 (':' :: rest) = false := rfl
  rw [scanColon, scanInt_toDigits n hc]
  rfl

theorem scanColon_last (k n : ℕ) : scanColon (k+1) (Nat.toDigits 10 n) = [kept n] := by
  have h := @scanInt_toDigits n [] rfl
  rw [List.append_nil] at h
  rw [scanColon, h]

/-! ## Columns -/

def columns : List (Str × ℕ) → Str
  | [] => []
  | (w,n) :: cs => w ++ Nat.toDigits 10 n ++ columns cs

theorem scanU64_column {w rest : Str} {n : ℕ} (hw : ∀ c ∈ w, isspace c = true) (hn : n < 2^64)
    (hr : startsDigit 10 rest = false) :
    scanU64 (w ++ Nat.toDigits 10 n ++ rest) = some (n,rest) := by
  obtain ⟨hd,hs⟩ := unsigned_toDigits (show 1 < 10 by omega) (by omega) n rest
  have hw' : (w ++ (Nat.toDigits 10 n ++ rest)).dropWhile isspace = Nat.toDigits 10 n ++ rest := by
    rw [List.dropWhile_append_of_pos hw, hd]
  unfold scanU64
  rw [List.append_assoc, hw', hs]
  simp only [startsDigit_toDigits (show 1 < 10 by omega) (by omega), if_true,
    digits_toDigits (show 1 < 10 by omega) (by omega) n hr, Bool.false_eq_true, if_false]
  rw [if_neg (by omega)]

theorem startsDigit_isspace {c : Char} (hc : isspace c = true) (s : Str) :
    startsDigit 10 (c :: s) = false := by
  have h : c.toNat = 32 ∨ 9 ≤ c.toNat ∧ c.toNat ≤ 13 := by
    simp only [isspace, Bool.or_eq_true, decide_eq_true_eq, Bool.and_eq_true] at hc
    rcases hc with rfl | hc
    · exact .inl rfl
    · exact .inr hc
  have hn : ∀ a b : Char, a.toNat ≤ b.toNat ↔ a ≤ b := fun a b => Iff.rfl
  have h0 : ¬( '0' ≤ c) := fun h' => by
    have := (hn _ _).mpr h'
    have : ('0' : Char).toNat = 48 := rfl
    omega
  have h1 : ¬( 'a' ≤ c) := fun h' => by
    have := (hn _ _).mpr h'
    have : ('a' : Char).toNat = 97 := rfl
    omega
  have h2 : ¬( 'A' ≤ c) := fun h' => by
    have := (hn _ _).mpr h'
    have : ('A' : Char).toNat = 65 := rfl
    omega
  simp [startsDigit, digit, h0, h1, h2]

/-- Columns of 64-bit numbers behind white space, which only the first may lack. -/
structure Table (cs : List (Str × ℕ)) : Prop where
  white : ∀ p ∈ cs, ∀ c ∈ p.1, isspace c = true
  bounded : ∀ p ∈ cs, p.2 < 2^64
  apart : ∀ p ∈ cs.tail, p.1 ≠ []

theorem table_tail {p : Str × ℕ} {cs : List (Str × ℕ)} (h : Table (p :: cs)) : Table cs where
  white q hq := h.white q (by simp [hq])
  bounded q hq := h.bounded q (by simp [hq])
  apart q hq := h.apart q (List.mem_of_mem_tail hq)

theorem startsDigit_columns {p : Str × ℕ} {cs : List (Str × ℕ)} (h : Table (p :: cs)) {rest : Str}
    (hr : startsDigit 10 rest = false) : startsDigit 10 (columns cs ++ rest) = false := by
  cases cs with
  | nil => exact hr
  | cons q cs =>
    have hq := h.apart q (by simp)
    cases hw : q.1 with
    | nil => exact absurd hw hq
    | cons c w =>
      have hc : isspace c = true := h.white q (by simp) c (by simp [hw])
      obtain ⟨v,n⟩ := q
      obtain rfl : v = c :: w := hw
      exact startsDigit_isspace hc _

/-- As many conversions as there are columns, or fewer, take the numbers in order. -/
theorem scanU64s_columns {cs : List (Str × ℕ)} (h : Table cs) {rest : Str}
    (hr : startsDigit 10 rest = false) {k : ℕ} (hk : k ≤ cs.length) :
    scanU64s k (columns cs ++ rest) = (cs.map Prod.snd).take k := by
  induction cs generalizing k with
  | nil =>
    obtain rfl : k = 0 := by simpa using hk
    rfl
  | cons p cs ih =>
    obtain ⟨w,n⟩ := p
    cases k with
    | zero => rfl
    | succ k =>
      have hs := scanU64_column (h.white (w,n) (by simp)) (h.bounded (w,n) (by simp))
        (startsDigit_columns h hr)
      rw [← List.append_assoc] at hs
      rw [columns, scanU64s, hs]
      simpa using ih (table_tail h) (by simpa using hk)

end ScsiCli.NumberReading
