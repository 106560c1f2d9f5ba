import ScsiCli.Capacity

/-!
# The capability flags of a disk

The kernel writes the flags in hexadecimal and without a prefix. The
conversion takes the base from the text, which asks for decimal digits: it
stops at the first letter, and what is before it counts for less than it did.
Only a flag word of one decimal digit is read as it was written.
-/

set_option autoImplicit false

namespace ScsiCli.CapabilityFlags
open ScsiCli.RunTrace ScsiCli.ByteString ScsiCli.NumberText ScsiCli.NumberReading
open ScsiCli.Records ScsiCli.Machine ScsiCli.SysfsUtils ScsiCli.DiskUtils ScsiCli.DiskDetails
open ScsiCli.MachineRules ScsiCli.LiteralCopies ScsiCli.AttributeNumbers ScsiCli.Printing
open ScsiCli.Capacity

variable {env : Env}

/-! ## Hexadecimal digits read as decimal ones -/

theorem digit_letter {d : ℕ} (h : 10 ≤ d) (hd : d < 16) : digit 10 (Nat.digitChar d) = none := by
  interval_cases d <;> decide

theorem digits_snoc_le (acc : ℕ) (s : Str) {d : ℕ} (hd : d < 16) :
    (digits 10 acc (s ++ [Nat.digitChar d])).1 ≤ 10*(digits 10 acc s).1+d := by
  induction s generalizing acc with
  | nil =>
    by_cases h : d < 10
    · rw [List.nil_append, digits_cons h (by omega), digits, digits]
      omega
    · simp only [List.nil_append, digits, digit_letter (not_lt.mp h) hd]
      omega
  | cons c s ih =>
    rw [List.cons_append]
    unfold digits
    cases digit 10 c with
    | none =>
      dsimp only
      omega
    | some e => exact ih _

theorem decimal_reading (v : ℕ) : (digits 10 0 (Nat.toDigits 16 v)).1 ≤ v ∧
    ((digits 10 0 (Nat.toDigits 16 v)).1 = v ↔ v < 10) := by
  induction v using Nat.base_induction 16 (by omega) with
  | single d hd =>
    rw [Nat.toDigits_of_lt_base hd]
    by_cases h : d < 10
    · rw [digits_cons h (by omega), digits]
      omega
    · simp only [digits, digit_letter (not_lt.mp h) hd]
      omega
  | digit m d hd hm ih =>
    rw [← Nat.toDigits_append_toDigits (by omega) hm hd, Nat.toDigits_of_lt_base hd]
    have h := digits_snoc_le 0 (Nat.toDigits 16 m) hd
    omega

theorem autoDigits_hexDigits (v : ℕ) :
    autoDigits (Nat.toDigits 16 v) = (digits 10 0 (Nat.toDigits 16 v)).1 := by
  obtain ⟨d,s,hd,hs,hz⟩ := toDigits_cons (show 1 < 16 by omega) v
  by_cases h0 : d = 0
  · rw [hz h0]
    rfl
  · have hc : Nat.digitChar d ≠ '0' := by
      interval_cases d <;> simp_all [Nat.digitChar]
    rw [hs]
    unfold autoDigits
    split
    · next h => exact absurd (List.cons.inj h).1 hc
    · rfl

theorem strtoull_hexDigits {v : ℕ} (hv : v < 2^64) :
    strtoull (Nat.toDigits 16 v) ≤ v ∧ (strtoull (Nat.toDigits 16 v) = v ↔ v < 10) := by
  have hu := unsigned_toDigits (show 1 < 16 by omega) le_rfl v []
  rw [List.append_nil] at hu
  have hd := decimal_reading v
  rw [strtoull_unsigned hu, autoDigits_hexDigits, if_neg (by omega)]
  exact hd

/-! ## The reports -/

theorem numberLine_hexDigits {v : ℕ} (h : v < 2^64) : NumberLine (Nat.toDigits 16 v) := by
  obtain ⟨hp,hn,hz⟩ := not_mem_toDigits (show 1 < 16 by omega) le_rfl v
  have hl := (length_toDigits_lt h).2
  exact ⟨⟨by omega,hz,hn⟩,hp,by omega⟩

structure Decodes (env : Env) (m : Tool ScsiDeviceInfo) (v : ℕ) : Prop where
  stored : Returns (m >>= fun d => pure d.capability) env (v : ℤ)
  printed : ∃ d ls, observed reportedBy m env = [(d,ls)] ∧
    shownAt ls "Capability" = some (hexOf v)

theorem shown_scsi (d : ScsiDeviceInfo) : shownAt (printScsiDiskDetails d) "Capability" =
    some (hexOf (d.capability % 2^32).toNat) := by
  have hl : (⟨lit "Capability",.hex (d.capability % 2^32).toNat⟩ : Printing.Line) ∈
      printScsiDiskDetails d := by simp [printScsiDiskDetails]
  exact shownAt_of_mem (DiskReport.nodup_labels d) hl

theorem shown_nvme (d : ScsiDeviceInfo) : shownAt (printNvmeDiskDetails d) "Capability" =
    some (hexOf (d.capability % 2^32).toNat) := by
  have hl : (⟨lit "Capability",.hex (d.capability % 2^32).toNat⟩ : Printing.Line) ∈
      printNvmeDiskDetails d := by simp [printNvmeDiskDetails]
  exact shownAt_of_mem (nodup_nvmeLabels d) hl

theorem int32_flags_iff {v : ℕ} (hv : v < 2^31) {path : Str}
    (h : Holds env path (Nat.toDigits 16 v)) :
    int32 (strtoull (copied env 64 path)) = v ↔ v < 10 := by
  rw [copied_number (numberLine_hexDigits (by omega)) (by omega) h]
  obtain ⟨hle,hi⟩ := strtoull_hexDigits (show v < 2^64 by omega)
  rw [int32_of_range (by omega) (by omega), ← hi]
  omega

theorem decodes_iff {m : Tool ScsiDeviceInfo} {g : ScsiDeviceInfo} {ls : List Printing.Line}
    {c : ℤ} {v : ℕ} (hv : v < 2^31) (hi : c = v ↔ v < 10)
    (hs : ∀ n, Returns (m >>= fun d => pure d.capability) env n ↔ n = c)
    (ho : observed reportedBy m env = [(g,ls)])
    (hl : shownAt ls "Capability" = some (hexOf (c % 2^32).toNat)) :
    Decodes env m v ↔ v < 10 := by
  rw [← hi]
  constructor
  · intro h
    exact ((hs v).mp h.stored).symm
  · intro h
    refine ⟨(hs v).mpr h.symm,g,ls,ho,?_⟩
    rw [hl, h]
    congr 2
    omega

/-- Each report decodes the flags of the file it reads where they have one decimal digit. -/
theorem capability_iff (env : Env) (name : Str) (d : ScsiDeviceInfo) {v : ℕ} (hv : v < 2^31) :
    (Holds env (scsiFile name "capability") (Nat.toDigits 16 v) →
      (Decodes env (getSingleScsiDiskDetails name d) v ↔ v < 10)) ∧
    (Holds env (nvmeFile name "capability") (Nat.toDigits 16 v) →
      (Decodes env (getSingleNvmeDiskDetails name d) v ↔ v < 10)) := by
  constructor
  · intro h
    exact decodes_iff hv (int32_flags_iff hv h)
      (fun n => returns_scsiDetails _ (fun _ _ => rfl) name d n) (details_scsi name d)
      (shown_scsi _)
  · intro h
    exact decodes_iff hv (int32_flags_iff hv h)
      (fun n => returns_nvmeDetails _ (fun _ _ => rfl) name d n) (details_nvme name d)
      (shown_nvme _)

theorem five_decoded :
    Decodes (filesHolding (Nat.toDigits 16 5 ++ ['\n']))
      (getSingleScsiDiskDetails (lit "sda") {}) 5 ∧
    Decodes (filesHolding (Nat.toDigits 16 5 ++ ['\n']))
      (getSingleNvmeDiskDetails (lit "nvme0n1") {}) 5 :=
  ⟨((capability_iff _ _ {} (by omega)).1 (filesHolding_line _)).mpr (by omega),
    ((capability_iff _ _ {} (by omega)).2 (filesHolding_line _)).mpr (by omega)⟩

theorem flags_not_decoded :
    Holds (filesHolding (Nat.toDigits 16 0x50 ++ ['\n'])) (scsiFile "sda" "capability")
      (Nat.toDigits 16 0x50) ∧
    Returns (getSingleScsiDiskDetails (lit "sda") {} >>= fun d => pure d.capability)
      (filesHolding (Nat.toDigits 16 0x50 ++ ['\n'])) 50 ∧
    ¬Decodes (filesHolding (Nat.toDigits 16 0x50 ++ ['\n']))
      (getSingleScsiDiskDetails (lit "sda") {}) 0x50 ∧
    ¬Decodes (filesHolding (Nat.toDigits 16 0x50 ++ ['\n']))
      (getSingleNvmeDiskDetails (lit "nvme0n1") {}) 0x50 := by
  have hf := fun path => @filesHolding_line (Nat.toDigits 16 0x50) path
  have hc : ∀ path, int32 (strtoull (copied (filesHolding (Nat.toDigits 16 0x50 ++ ['\n']))
      64 path)) = 50 := by
    intro path
    rw [copied_number (numberLine_hexDigits (by omega)) (by omega) (hf path)]
    decide
  refine ⟨hf _,?_,?_,?_⟩
  · exact (returns_scsiDetails _ (fun _ _ => rfl) _ _ _).mpr (hc _).symm
  · intro h
    have := (returns_scsiDetails _ (fun _ _ => rfl) _ _ _).mp h.stored
    exact absurd (this.trans (hc _)) (by decide)
  · intro h
    have := (returns_nvmeDetails _ (fun _ _ => rfl) _ _ _).mp h.stored
    exact absurd (this.trans (hc _)) (by decide)

end ScsiCli.CapabilityFlags
