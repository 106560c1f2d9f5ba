import Mathlib.Data.List.GetD
import Mathlib.Data.Nat.Log
import ScsiCli.Printing
import ScsiCli.WholeDoubles

/-!
# Sizes

A size is divided by 1024 until the quotient is smaller, or until the largest
unit is reached. What is left is printed as an `int` that was a `double`; it
is small enough to pass through both unharmed.
-/

set_option autoImplicit false

namespace ScsiCli.SizeRendering
open ScsiCli.ByteString ScsiCli.NumberText ScsiCli.NumberReading ScsiCli.Printing
  ScsiCli.WholeDoubles

def KB_SIZE : ℕ := 1024

def bytesSize : List Str := ["B","KiB","MiB","GiB","TiB"]

/-- The index and the copy of the size at the end of the loop; `left` counts the units after
the one reached. -/
def sizeLoop : ℕ → ℕ → ℕ → Float.Model → ℕ × Float.Model
  | 0, i, _, dblSize => (i,dblSize)
  | left+1, i, size, dblSize =>
    if 0 < size/KB_SIZE then sizeLoop left (i+1) (size/KB_SIZE) (ofUnsigned (size/KB_SIZE))
    else (i,dblSize)

def scaled (size : ℕ) : ℕ × Float.Model :=
  if KB_SIZE < size then sizeLoop (bytesSize.length-1) 0 size (ofUnsigned size)
  else (0,ofUnsigned size)

def sizeText (m : ℤ) (i : ℕ) : Str := decimal m ++ ' ' :: bytesSize.getD i []

def calculateSize (size : ℕ) : Str := cut 64 (sizeText (toInt (scaled size).2) (scaled size).1)

/-! ## The loop -/

theorem sizeLoop_eq (left i n : ℕ) : sizeLoop left i n (ofUnsigned n) =
    (i+min left (Nat.log KB_SIZE n),ofUnsigned (n/KB_SIZE^min left (Nat.log KB_SIZE n))) := by
  induction left generalizing i n with
  | zero => simp [sizeLoop]
  | succ left ih =>
    by_cases hn : KB_SIZE ≤ n
    · have hl : Nat.log KB_SIZE n = Nat.log KB_SIZE (n/KB_SIZE)+1 :=
        Nat.log_of_one_lt_of_le (by decide) hn
      rw [sizeLoop, if_pos (Nat.div_pos hn (by decide)), ih, hl, Nat.add_min_add_right,
        Nat.div_div_eq_div_mul, ← pow_succ', Nat.add_assoc, Nat.add_comm 1]
    · have hl : Nat.log KB_SIZE n = 0 := Nat.log_of_lt (by omega)
      rw [sizeLoop, if_neg (by rw [Nat.div_eq_of_lt (by omega)]; omega), hl]
      simp

def unitIndex (size : ℕ) : ℕ := if size = KB_SIZE then 0 else min 4 (Nat.log KB_SIZE size)

theorem scaled_eq (size : ℕ) :
    scaled size = (unitIndex size,ofUnsigned (size/KB_SIZE^unitIndex size)) := by
  unfold scaled unitIndex
  by_cases hs : KB_SIZE < size
  · rw [if_pos hs, if_neg (by omega), sizeLoop_eq]
    simp [bytesSize]
  · rw [if_neg hs]
    by_cases he : size = KB_SIZE
    · simp [he]
    · rw [if_neg he, Nat.log_of_lt (by omega)]
      simp

def number (size : ℕ) : ℕ := size/KB_SIZE^unitIndex size

theorem unitIndex_lt (size : ℕ) : unitIndex size < bytesSize.length := by
  unfold unitIndex
  split <;> simp [bytesSize]

theorem le_pow_succ {size : ℕ} (h : unitIndex size ≠ 4) :
    size ≤ KB_SIZE^(unitIndex size+1) := by
  unfold unitIndex at h ⊢
  split at h
  · next he => simp [he]
  · next he =>
    have hl : min 4 (Nat.log KB_SIZE size) = Nat.log KB_SIZE size := by omega
    rw [if_neg he, hl]
    exact (Nat.lt_pow_succ_log_self (by decide) size).le

theorem number_le {size : ℕ} (h : unitIndex size ≠ 4) : number size ≤ KB_SIZE := by
  apply Nat.div_le_of_le_mul
  rw [← pow_succ]
  exact le_pow_succ h

theorem number_le_two_pow {size : ℕ} (h : size < 2^64) : number size ≤ 2^24 := by
  by_cases hu : unitIndex size = 4
  · rw [number, hu]
    unfold KB_SIZE
    omega
  · have := number_le hu
    unfold KB_SIZE at this
    omega

/-! ## Brackets -/

/-- The printed number of units fits the size and one more does not. -/
structure Brackets (size m i : ℕ) : Prop where
  unit : i < bytesSize.length
  lower : m*KB_SIZE^i ≤ size
  upper : size < (m+1)*KB_SIZE^i

/-- The double was converted from the number, is the number, and is converted back to it. -/
structure Exact (x : Float.Model) (m : ℕ) : Prop where
  converted : x = ofUnsigned m
  value : value x = some (m : ℚ)
  back : toInt x = m
  bounded : m ≤ 2^24

def renderedBytes (size : ℕ) : ℤ := toInt (scaled size).2*(KB_SIZE : ℤ)^(scaled size).1

theorem brackets_number (size : ℕ) : Brackets size (number size) (unitIndex size) where
  unit := unitIndex_lt size
  lower := Nat.div_mul_le_self size _
  upper := by
    rw [Nat.mul_comm]
    exact Nat.lt_mul_div_succ size (Nat.pow_pos (by decide))

theorem exact_number {size : ℕ} (h : size < 2^64) : Exact (scaled size).2 (number size) := by
  have hb := number_le_two_pow h
  have hc : (scaled size).2 = ofUnsigned (number size) := by rw [scaled_eq, number]
  constructor
  · exact hc
  · rw [hc]
    exact value_ofUnsigned (by omega)
  · rw [hc]
    exact toInt_ofUnsigned (by omega)
  · exact hb

theorem length_sizeText_lt {m : ℕ} (h : m < 2^64) (i : ℕ) : (sizeText m i).length < 64 := by
  have hm : (decimal m).length ≤ 20 := by
    rw [decimal, if_neg (by omega), Int.natAbs_natCast]
    exact (length_toDigits_lt h).1
  have hu : (bytesSize.getD i []).length ≤ 3 := by
    by_cases hi : i < bytesSize.length
    · rw [List.getD_eq_getElem _ _ hi]
      have hs : ∀ s ∈ bytesSize, s.length ≤ 3 := by decide +kernel
      exact hs _ (List.getElem_mem hi)
    · rw [List.getD_eq_default _ _ (by omega)]
      simp
  simp only [sizeText, List.length_append, List.length_cons]
  omega

theorem calculateSize_eq {size : ℕ} (h : size < 2^64) :
    calculateSize size = sizeText (number size) (unitIndex size) := by
  have hb := number_le_two_pow h
  rw [calculateSize, (exact_number h).back, scaled_eq]
  exact cut_of_length_lt (length_sizeText_lt (by omega) _)

theorem renderedBytes_eq {size : ℕ} (h : size < 2^64) :
    renderedBytes size = (number size*KB_SIZE^unitIndex size : ℕ) := by
  rw [renderedBytes, (exact_number h).back, scaled_eq]
  push_cast
  rfl

/-- The threshold itself is the one size with a smaller unit than a size below it could have. -/
theorem unitIndex_mono {m n : ℕ} (h : m ≤ n) (hm : n ≠ KB_SIZE) : unitIndex m ≤ unitIndex n := by
  have hl : Nat.log KB_SIZE m ≤ Nat.log KB_SIZE n := Nat.log_mono_right h
  unfold unitIndex
  rw [if_neg hm]
  split
  · omega
  · omega

theorem pow_unitIndex_le {size : ℕ} (h : size ≠ 0) : KB_SIZE^unitIndex size ≤ size := by
  have hi : unitIndex size ≤ Nat.log KB_SIZE size := by
    unfold unitIndex
    split
    · omega
    · omega
  exact (Nat.pow_le_pow_right (by decide) hi).trans (Nat.pow_log_le_self KB_SIZE h)

theorem le_pow_of_unitIndex_lt {m n : ℕ} (h : unitIndex m < unitIndex n) :
    m ≤ KB_SIZE^unitIndex n := by
  have hi : unitIndex n < 5 := unitIndex_lt n
  exact (le_pow_succ (by omega)).trans (Nat.pow_le_pow_right (by decide) h)

theorem number_mul_mono {m n : ℕ} (h : m ≤ n) :
    number m*KB_SIZE^unitIndex m ≤ number n*KB_SIZE^unitIndex n := by
  have hm := (brackets_number m).lower
  by_cases hk : n = KB_SIZE
  · have hn : number n*KB_SIZE^unitIndex n = n := by simp [number, unitIndex, hk]
    omega
  · rcases (unitIndex_mono h hk).eq_or_lt with hi | hi
    · rw [number, number, hi]
      exact Nat.mul_le_mul_right _ (Nat.div_le_div_right h)
    · have hn : n ≠ 0 := by
        rintro rfl
        simp [unitIndex, KB_SIZE] at hi
      have h1 : 1 ≤ number n := Nat.div_pos (pow_unitIndex_le hn) (Nat.pow_pos (by decide))
      calc number m*KB_SIZE^unitIndex m
        _ ≤ m := hm
        _ ≤ KB_SIZE^unitIndex n := le_pow_of_unitIndex_lt hi
        _ ≤ number n*KB_SIZE^unitIndex n := Nat.le_mul_of_pos_left _ h1

theorem sizeText_inj {m n : ℤ} {i j : ℕ} (hi : i < bytesSize.length) (hj : j < bytesSize.length)
    (h : sizeText m i = sizeText n j) : m = n ∧ i = j := by
  have hb : Mark ' ' := by unfold Mark; decide
  have hu : bytesSize.Nodup := by decide +kernel
  obtain ⟨hm,hs⟩ := decimal_mark_inj hb h
  exact ⟨hm,(List.getD_inj hi hj hu).mp hs⟩

/-- The text is that of a number of units: its digits, a blank and the name of the unit. -/
def Renders (text : Str) (m i : ℕ) : Prop :=
  ∃ unit, (["B","KiB","MiB","GiB","TiB"] : List Str)[i]? = some unit ∧
    text = Nat.toDigits 10 m ++ ' ' :: unit

theorem renders_iff (text : Str) (m i : ℕ) :
    Renders text m i ↔ i < bytesSize.length ∧ text = sizeText m i := by
  have hd : decimal (m : ℤ) = Nat.toDigits 10 m := by simp [decimal]
  unfold Renders sizeText
  change (∃ unit, bytesSize[i]? = some unit ∧ _) ↔ _
  rw [hd]
  constructor
  · rintro ⟨unit,hu,rfl⟩
    obtain ⟨hi,rfl⟩ := List.getElem?_eq_some_iff.mp hu
    exact ⟨hi,by rw [List.getD_eq_getElem _ _ hi]⟩
  · rintro ⟨hi,rfl⟩
    exact ⟨_,List.getElem?_eq_getElem hi,by rw [List.getD_eq_getElem _ _ hi]⟩

theorem renders_calculateSize {size : ℕ} (h : size < 2^64) (m i : ℕ) :
    Renders (calculateSize size) m i ↔ m = number size ∧ i = unitIndex size := by
  rw [renders_iff, calculateSize_eq h]
  constructor
  · rintro ⟨hi,he⟩
    obtain ⟨hm,hu⟩ := sizeText_inj (unitIndex_lt size) hi he
    exact ⟨by omega,hu.symm⟩
  · rintro ⟨rfl,rfl⟩
    exact ⟨unitIndex_lt size,rfl⟩

/-- The text brackets the size, the conversions on the way to it are exact, and a larger size
is not printed as fewer bytes. -/
theorem size_brackets {size : ℕ} (h : size < 2^64) :
    (∃ m i : ℕ, Renders (calculateSize size) m i ∧
      (∀ n j, Renders (calculateSize size) n j → n = m ∧ j = i) ∧ Brackets size m i ∧
        Exact (scaled size).2 m ∧ renderedBytes size = (m*KB_SIZE^i : ℕ)) ∧
    ∀ size', size ≤ size' → size' < 2^64 → renderedBytes size ≤ renderedBytes size' := by
  constructor
  · exact ⟨number size,unitIndex size,(renders_calculateSize h _ _).mpr ⟨rfl,rfl⟩,
      fun n j => (renders_calculateSize h n j).mp,brackets_number size,exact_number h,
      renderedBytes_eq h⟩
  · intro size' hs h'
    rw [renderedBytes_eq h, renderedBytes_eq h', Int.ofNat_le]
    exact number_mul_mono hs

theorem size_brackets_odd :
    (∃ m i : ℕ, Renders (calculateSize (2^63+1)) m i ∧
      (∀ n j, Renders (calculateSize (2^63+1)) n j → n = m ∧ j = i) ∧ Brackets (2^63+1) m i ∧
        Exact (scaled (2^63+1)).2 m ∧ renderedBytes (2^63+1) = (m*KB_SIZE^i : ℕ)) ∧
    ∀ size', 2^63+1 ≤ size' → size' < 2^64 → renderedBytes (2^63+1) ≤ renderedBytes size' :=
  size_brackets (by omega)

/-! ## The largest unit -/

/-- The unit is the largest that the size reaches, or the byte; only the last unit is printed
with a large number, and a unit itself is printed as one. -/
structure Canonical (size m i : ℕ) : Prop where
  text : calculateSize size = sizeText m i
  unit : i < bytesSize.length
  reached : i = 0 ∨ KB_SIZE^i ≤ size
  largest : ∀ j < bytesSize.length, KB_SIZE^j ≤ size → j ≤ i
  below : m < KB_SIZE ∨ i = 4
  power : ∀ j < bytesSize.length, size = KB_SIZE^j → m = 1 ∧ i = j

theorem calculateSize_eq_iff {m n : ℕ} (hm : m < 2^64) (hn : n < 2^64) :
    calculateSize m = calculateSize n ↔ number m = number n ∧ unitIndex m = unitIndex n := by
  rw [calculateSize_eq hm, calculateSize_eq hn]
  constructor
  · intro h
    obtain ⟨ht,hi⟩ := sizeText_inj (unitIndex_lt m) (unitIndex_lt n) h
    exact ⟨by omega,hi⟩
  · rintro ⟨ht,hi⟩
    rw [ht, hi]

theorem lt_of_calculateSize_eq {m n : ℕ} (hm : m < 2^64) (hn : n < 2^64) (h0 : m ≠ 0)
    (h : calculateSize m = calculateSize n) : n < 2*m := by
  obtain ⟨ht,hi⟩ := (calculateSize_eq_iff hm hn).mp h
  have hlo := (brackets_number m).lower
  have hhi := (brackets_number n).upper
  have h1 : 1 ≤ number m := Nat.div_pos (pow_unitIndex_le h0) (Nat.pow_pos (by decide))
  rw [← ht, ← hi] at hhi
  calc n
    _ < (number m+1)*KB_SIZE^unitIndex m := hhi
    _ ≤ (2*number m)*KB_SIZE^unitIndex m := Nat.mul_le_mul_right _ (by omega)
    _ = 2*(number m*KB_SIZE^unitIndex m) := Nat.mul_assoc _ _ _
    _ ≤ 2*m := by omega

theorem le_unitIndex {size j : ℕ} (h : size ≠ KB_SIZE) (hj : j < bytesSize.length)
    (hs : KB_SIZE^j ≤ size) : j ≤ unitIndex size := by
  have hl : j ≤ Nat.log KB_SIZE size := Nat.le_log_of_pow_le (by decide) hs
  have h4 : j < 5 := hj
  rw [unitIndex, if_neg h]
  omega

theorem canonical_number {size : ℕ} (h : size < 2^64) (hk : size ≠ KB_SIZE) :
    Canonical size (number size) (unitIndex size) where
  text := calculateSize_eq h
  unit := unitIndex_lt size
  reached := by
    by_cases h0 : size = 0
    · left
      simp [unitIndex, h0]
    · right
      exact pow_unitIndex_le h0
  largest := fun j => le_unitIndex hk
  below := by
    by_cases hu : unitIndex size = 4
    · right
      exact hu
    · left
      have hl : min 4 (Nat.log KB_SIZE size) = Nat.log KB_SIZE size := by
        rw [unitIndex, if_neg hk] at hu
        omega
      apply Nat.div_lt_of_lt_mul
      rw [unitIndex, if_neg hk, hl, ← pow_succ]
      exact Nat.lt_pow_succ_log_self (by decide) size
  power := by
    intro j hj hs
    have h4 : j < 5 := hj
    have hi : unitIndex size = j := by
      rw [unitIndex, if_neg hk, hs, Nat.log_pow (by decide)]
      omega
    constructor
    · rw [number, hi, hs]
      exact Nat.div_self (Nat.pow_pos (by decide))
    · exact hi

/-- The unit is the largest for every size but the first one that has the second unit. -/
theorem canonical_iff {size : ℕ} (h : size < 2^64) :
    (∃ m i, Canonical size m i) ↔ size ≠ KB_SIZE := by
  constructor
  · rintro ⟨m,i,hc⟩ rfl
    have ht := hc.text
    rw [calculateSize_eq h] at ht
    obtain ⟨-,hi⟩ := sizeText_inj (unitIndex_lt _) hc.unit ht
    have h1 := hc.largest 1 (by decide) (by decide)
    have h0 : unitIndex KB_SIZE = 0 := if_pos rfl
    omega
  · intro hk
    exact ⟨number size,unitIndex size,canonical_number h hk⟩

theorem canonical_iff_sector : (∃ m i, Canonical 4096 m i) ↔ 4096 ≠ KB_SIZE :=
  canonical_iff (by omega)

theorem kib_not_canonical : calculateSize 1024 = "1024 B" ∧ ¬∃ m i, Canonical 1024 m i := by
  have ht : calculateSize 1024 = sizeText 1024 0 := calculateSize_eq (by omega)
  constructor
  · rw [ht]
    decide +kernel
  · rintro ⟨m,i,hc⟩
    obtain ⟨-,hi⟩ := sizeText_inj (by decide) hc.unit (ht.symm.trans hc.text)
    have h1 := hc.largest 1 (by decide) (by decide)
    omega

end ScsiCli.SizeRendering
