import ScsiCli.DiskReport
import ScsiCli.QueueReport
import ScsiCli.ShowDisk
import ScsiCli.SizeRendering

/-!
# The capacity of a disk

The kernel counts the size of a disk in units of 512 bytes. The reports
multiply it by the logical block size. Both come out of their files as they
were written; it is the product that is the size of another disk.
-/

set_option autoImplicit false

namespace ScsiCli.Capacity
open ScsiCli.RunTrace ScsiCli.ByteString ScsiCli.NumberText ScsiCli.NumberReading
open ScsiCli.Records ScsiCli.Machine ScsiCli.SysfsUtils ScsiCli.DiskUtils ScsiCli.DiskDetails
open ScsiCli.MachineRules ScsiCli.LiteralCopies ScsiCli.AttributeNumbers ScsiCli.Gatherers
open ScsiCli.Printing ScsiCli.DiskReport ScsiCli.QueueReport ScsiCli.SizeRendering

variable {env : Env}

def reportedBy : Event → Option (ScsiDeviceInfo × List Printing.Line)
  | .out (.scsiDiskDetails d) => some (d,printScsiDiskDetails d)
  | .out (.nvmeDiskDetails d) => some (d,printNvmeDiskDetails d)
  | _ => none

def capacityText (ls : List Printing.Line) : Option Str :=
  match valueAt ls "Sectors" with
  | some (.size n) => some (calculateSize n)
  | _ => none

structure Disk (env : Env) (name : Str) (n b : ℕ) : Prop where
  size : Holds env (blockFile name "size") (Nat.toDigits 10 n)
  block : Holds env (queueFile (SYSFS_BLOCK_PATH ++ "/" ++ name) "logical_block_size")
    (Nat.toDigits 10 b)
  fits : 512*n < 2^64
  power : ∃ k, 9 ≤ k ∧ b = 2^k

/-- One report is printed, it shows the capacity, and the product behind it does not wrap. -/
def ShowsCapacity (env : Env) (m : Tool ScsiDeviceInfo) (n : ℕ) : Prop :=
  ∃ d ls, observed reportedBy m env = [(d,ls)] ∧
    capacityText ls = some (calculateSize (512*n)) ∧ d.qData.logicalBlockSize*d.size < 2^64

/-! ## The reports -/

def gatheredBy (env : Env) (rows : List (Attr ScsiDeviceInfo)) (d : ScsiDeviceInfo) :
    ScsiDeviceInfo :=
  let t := loaded env (underDisk d) rows d
  loaded env (queuePath t) queueRows t

theorem quiet_reportedBy {e : Event} (h : Gathers e) : reportedBy e = none := by
  cases e with
  | out o => cases o <;> first | rfl | cases h
  | _ => rfl

theorem details_gathered {rows : List (Attr ScsiDeviceInfo)} (hp : ∀ a ∈ rows, Plain a)
    (hg : ∀ pathOf d, Emits Gathers (loadAll pathOf rows d) env) (o : ScsiDeviceInfo → Out)
    (d : ScsiDeviceInfo) :
    observed reportedBy (loadAll (underDisk d) rows d >>= fun d => getDiskQueueData d >>=
      fun d => print (o d) >>= fun _ => pure d) env =
        (reportedBy (.out (o (gatheredBy env rows d)))).toList := by
  have hs : Returns (loadAll (underDisk d) rows d) env (loaded env (underDisk d) rows d) :=
    (returns_loadAll_plain hp _ _).mpr rfl
  have hq : ∀ t, Returns (getDiskQueueData t) env (loaded env (queuePath t) queueRows t) :=
    fun t => (returns_loadAll_plain plain_queueRows t _).mpr rfl
  rw [observed_bind_of_returns _ _ hs, observed_of_emits reportedBy (hg _ _) fun _ =>
      quiet_reportedBy, observed_bind_of_returns _ _ (hq _),
    observed_of_emits reportedBy (gathers_getDiskQueueData _) fun _ => quiet_reportedBy, print,
    observed_emit_bind]
  simp [gatheredBy]

theorem details_scsi (name : Str) (d : ScsiDeviceInfo) :
    observed reportedBy (getSingleScsiDiskDetails name d) env =
      [(gatheredBy env scsiRows (scsiDisk name d),
        printScsiDiskDetails (gatheredBy env scsiRows (scsiDisk name d)))] :=
  details_gathered plain_scsiRows gathers_scsiRows .scsiDiskDetails _

theorem details_nvme (name : Str) (d : ScsiDeviceInfo) :
    observed reportedBy (getSingleNvmeDiskDetails name d) env =
      [(gatheredBy env nvmeRows (nvmeDisk name d),
        printNvmeDiskDetails (gatheredBy env nvmeRows (nvmeDisk name d)))] :=
  details_gathered plain_nvmeRows gathers_nvmeRows .nvmeDiskDetails _

theorem capacityText_eq {ls : List Printing.Line} (hn : (ls.map Line.label).Nodup) {n : ℕ}
    (hl : (⟨lit "Sectors",.size n⟩ : Line) ∈ ls) : capacityText ls = some (calculateSize n) := by
  rw [capacityText, valueAt_of_mem hn hl]

theorem nodup_nvmeLabels (d : ScsiDeviceInfo) :
    ((printNvmeDiskDetails d).map Line.label).Nodup := by
  have h : ((printNvmeDiskDetails {}).map Line.label).Nodup := by decide +kernel
  exact h

theorem capacityText_scsi (d : ScsiDeviceInfo) : capacityText (printScsiDiskDetails d) =
    some (calculateSize (d.qData.logicalBlockSize*d.size % 2^64)) :=
  capacityText_eq (DiskReport.nodup_labels d) (by simp [printScsiDiskDetails])

theorem capacityText_nvme (d : ScsiDeviceInfo) : capacityText (printNvmeDiskDetails d) =
    some (calculateSize (d.qData.logicalBlockSize*d.size % 2^64)) :=
  capacityText_eq (nodup_nvmeLabels d) (by simp [printNvmeDiskDetails])

/-! ## The two numbers -/

theorem copied_block {path : Str} {b : ℕ} (h : Holds env path (Nat.toDigits 10 b)) :
    strtoull (copied env 32 path) = min b (2^64-1) := by
  by_cases hb : b < 2^64
  · rw [copied_decimal hb h]
    omega
  · obtain ⟨hp,hn,hz⟩ := not_mem_toDigits (show 1 < 10 by omega) (by omega) b
    rw [copied_plain hn hz hp h]
    have hc : cut 32 ((Nat.toDigits 10 b).take 63) = (Nat.toDigits 10 b).take 31 := by
      simp [cut, List.take_take]
    obtain ⟨m,hm⟩ := take_toDigits (show 0 < 31 by omega) b
    have hl : 2^64 ≤ m := by
      by_cases hs : (Nat.toDigits 10 b).length ≤ 31
      · rw [List.take_of_length_le hs] at hm
        have := toDigits_inj hm
        omega
      · have hk : (Nat.toDigits 10 m).length = 31 := by
          rw [← hm, List.length_take]
          omega
        have h30 : ¬m < 10^30 := by
          intro hm
          have := (Nat.length_toDigits_le_iff (show 1 < 10 by omega) (show 0 < 30 by omega)).mpr hm
          omega
        omega
    rw [hc, hm, strtoull_large hl]
    omega

structure Sized (env : Env) (rows : List (Attr ScsiDeviceInfo)) : Prop where
  filled : ∀ pathOf d, (loaded env pathOf rows d).size = strtoull (copied env 64 (pathOf "size"))
  path : ∀ pathOf d, (loaded env pathOf rows d).diskPath = d.diskPath

theorem sized_scsiRows : Sized env scsiRows where
  filled := fun _ _ => rfl
  path := by
    intro pathOf d
    have hs := @loaded_frame env _ _ ShowDisk.subject pathOf _ ShowDisk.subject_detailRows.2 d
    exact congrArg Prod.snd hs

theorem sized_nvmeRows : Sized env nvmeRows where
  filled := fun _ _ => rfl
  path := by
    intro pathOf d
    have hs := @loaded_frame env _ _ ShowDisk.subject pathOf _ ShowDisk.subject_detailRows.1 d
    exact congrArg Prod.snd hs

theorem loaded_block (pathOf : Str → Str) (d : ScsiDeviceInfo) :
    (loaded env pathOf queueRows d).qData.logicalBlockSize =
      strtoull (copied env 32 (pathOf "logical_block_size")) := rfl

theorem underDisk_size {d : ScsiDeviceInfo} {name : Str}
    (hp : (SYSFS_BLOCK_PATH ++ lit "/" ++ name).length < 128)
    (hd : d.diskPath = some (SYSFS_BLOCK_PATH ++ lit "/" ++ name)) :
    underDisk d "size" = blockFile name "size" := by
  have hl : (lit "/").length = 1 ∧ (lit "size").length = 4 := by simp [lit]
  rw [underDisk, hd]
  apply cut_of_length_lt
  simp only [orNull, Option.getD_some, List.length_append] at hp ⊢
  omega

theorem queuePath_block {d : ScsiDeviceInfo} {name : Str}
    (hp : (SYSFS_BLOCK_PATH ++ lit "/" ++ name).length < 128)
    (hd : d.diskPath = some (SYSFS_BLOCK_PATH ++ lit "/" ++ name)) :
    queuePath d "logical_block_size" =
      queueFile (SYSFS_BLOCK_PATH ++ "/" ++ name) "logical_block_size" := by
  have hl : (lit "/queue").length = 6 := by simp [lit]
  have ha : (⟨lit "logical_block_size",lit "Logical Block Size",.size⟩ : QueueReport.Attribute) ∈
      QueueReport.attributes := by simp [QueueReport.attributes, filledOwn]
  refine queuePath_eq hd ?_ ha
  simp only [List.length_append] at hp ⊢
  omega

theorem gathered_numbers {rows : List (Attr ScsiDeviceInfo)} (hr : Sized env rows) {name : Str}
    {n b : ℕ} (h : Disk env name n b) (hp : (SYSFS_BLOCK_PATH ++ lit "/" ++ name).length < 128)
    {d : ScsiDeviceInfo} (hd : d.diskPath = some (SYSFS_BLOCK_PATH ++ lit "/" ++ name)) :
    (gatheredBy env rows d).size = n ∧
      (gatheredBy env rows d).qData.logicalBlockSize = min b (2^64-1) := by
  have hn : n < 2^64 := by
    have := h.fits
    omega
  constructor
  · rw [gatheredBy, queueRows_frame ScsiDeviceInfo.size fun _ _ => rfl, hr.filled,
      underDisk_size hp hd, copied_number (numberLine_decimal hn) (by omega) h.size,
      strtoull_decimal hn]
  · rw [gatheredBy, loaded_block, queuePath_block hp ((hr.path _ _).trans hd),
      copied_block h.block]

/-! ## The product -/

theorem product_iff {n v : ℕ} (hn : 512*n < 2^64) (hv : v = 512 ∨ 1024 ≤ v) :
    calculateSize (v*n % 2^64) = calculateSize (512*n) ∧ v*n < 2^64 ↔ n = 0 ∨ v = 512 := by
  constructor
  · rintro ⟨ht,hw⟩
    by_contra hc
    rw [Nat.mod_eq_of_lt hw] at ht
    have hlt := lt_of_calculateSize_eq hn hw (by omega) ht.symm
    have hle : 1024*n ≤ v*n := Nat.mul_le_mul_right n (by omega)
    omega
  · rintro (rfl | rfl)
    · simp
    · exact ⟨by rw [Nat.mod_eq_of_lt hn],hn⟩

theorem power_cases {k : ℕ} (h : 9 ≤ k) :
    min (2^k) (2^64-1) = 512 ∧ 2^k = 512 ∨ 1024 ≤ min (2^k) (2^64-1) ∧ 2^k ≠ 512 := by
  rcases h.eq_or_lt with rfl | hk
  · left
    omega
  · right
    have : 2^10 ≤ 2^k := Nat.pow_le_pow_right (by omega) hk
    omega

theorem showsCapacity_iff {m : Tool ScsiDeviceInfo} {g : ScsiDeviceInfo}
    {ls : List Printing.Line} {n k : ℕ} (ho : observed reportedBy m env = [(g,ls)])
    (hl : capacityText ls = some (calculateSize (g.qData.logicalBlockSize*g.size % 2^64)))
    (hs : g.size = n) (hb : g.qData.logicalBlockSize = min (2^k) (2^64-1)) (hn : 512*n < 2^64)
    (hk : 9 ≤ k) : ShowsCapacity env m n ↔ n = 0 ∨ 2^k = 512 := by
  have hc := power_cases hk
  have hp := @product_iff n (min (2^k) (2^64-1)) hn (by omega)
  have hi : ShowsCapacity env m n ↔ calculateSize (min (2^k) (2^64-1)*n % 2^64) =
      calculateSize (512*n) ∧ min (2^k) (2^64-1)*n < 2^64 := by
    rw [← hb, ← hs, ShowsCapacity]
    constructor
    · rintro ⟨g',ls',ho',ht,hw⟩
      obtain ⟨rfl,rfl⟩ : g = g' ∧ ls = ls' := by simpa [ho] using ho'
      rw [hl] at ht
      exact ⟨Option.some.inj ht,hw⟩
    · rintro ⟨ht,hw⟩
      exact ⟨g,ls,ho,by rw [hl, ht],hw⟩
  rw [hi, hp]
  omega

/-- Both reports show the capacity of the disks with blocks of 512 bytes and of the empty ones. -/
theorem capacity_iff {name : Str} {n b : ℕ}
    (hp : (SYSFS_BLOCK_PATH ++ lit "/" ++ name).length < 128) (h : Disk env name n b)
    (d : ScsiDeviceInfo) :
    (ShowsCapacity env (getSingleScsiDiskDetails name d) n ↔ n = 0 ∨ b = 512) ∧
    (ShowsCapacity env (getSingleNvmeDiskDetails name d) n ↔ n = 0 ∨ b = 512) := by
  obtain ⟨k,hk,rfl⟩ := h.power
  have h1 : (scsiDisk name d).diskPath = some (SYSFS_BLOCK_PATH ++ lit "/" ++ name) :=
    congrArg some (cut_of_length_lt hp)
  have h2 : (nvmeDisk name d).diskPath = some (SYSFS_BLOCK_PATH ++ lit "/" ++ name) :=
    congrArg some (cut_of_length_lt (by omega))
  obtain ⟨hs,hb⟩ := gathered_numbers (@sized_scsiRows env) h hp h1
  obtain ⟨hs',hb'⟩ := gathered_numbers (@sized_nvmeRows env) h hp h2
  constructor
  · exact showsCapacity_iff (details_scsi name d) (capacityText_scsi _) hs hb h.fits hk
  · exact showsCapacity_iff (details_nvme name d) (capacityText_nvme _) hs' hb' h.fits hk

def diskOf (name : Str) (n b : ℕ) : Env :=
  { Env.bare with
    file := fun path =>
      if path = blockFile name "size" then .bytes (Nat.toDigits 10 n ++ ['\n'])
      else if path = queueFile (SYSFS_BLOCK_PATH ++ "/" ++ name) "logical_block_size" then
        .bytes (Nat.toDigits 10 b ++ ['\n'])
      else .absent }

theorem disk_diskOf {name : Str} {n k : ℕ} (hn : 512*n < 2^64) (hk : 9 ≤ k) :
    Disk (diskOf name n (2^k)) name n (2^k) := by
  have hne : queueFile (SYSFS_BLOCK_PATH ++ lit "/" ++ name) "logical_block_size" ≠
      blockFile name "size" := by
    intro h
    have hl := congrArg List.length h
    simp only [queueFile, blockFile, List.length_append] at hl
    have : (lit "/queue").length = 6 ∧ (lit "size").length = 4 := by simp [lit]
    omega
  constructor
  · refine ⟨['\n'],?_,.inr rfl⟩
    simp [diskOf]
  · refine ⟨['\n'],?_,.inr rfl⟩
    simp only [diskOf, if_neg hne, if_true]
  · exact hn
  · exact ⟨k,hk,rfl⟩

theorem sda_short : (SYSFS_BLOCK_PATH ++ lit "/" ++ lit "sda").length < 128 := by
  simp [SYSFS_BLOCK_PATH, lit]

theorem capacity_iff_sda :
    (ShowsCapacity (diskOf (lit "sda") 8 (2^9)) (getSingleScsiDiskDetails (lit "sda") {}) 8 ↔
      8 = 0 ∨ 2^9 = 512) ∧
    (ShowsCapacity (diskOf (lit "sda") 8 (2^9)) (getSingleNvmeDiskDetails (lit "sda") {}) 8 ↔
      8 = 0 ∨ 2^9 = 512) :=
  capacity_iff sda_short (disk_diskOf (by omega) (by omega)) {}

theorem capacity_not_shown :
    Disk (diskOf (lit "sda") (2^31) (2^12)) (lit "sda") (2^31) (2^12) ∧
      ¬ShowsCapacity (diskOf (lit "sda") (2^31) (2^12))
        (getSingleScsiDiskDetails (lit "sda") {}) (2^31) := by
  have h := @disk_diskOf (lit "sda") (2^31) 12 (by omega) (by omega)
  have hd : (scsiDisk (lit "sda") {}).diskPath = some (SYSFS_BLOCK_PATH ++ lit "/" ++ lit "sda") :=
    congrArg some (cut_of_length_lt sda_short)
  obtain ⟨hs,hb⟩ := gathered_numbers sized_scsiRows h sda_short hd
  refine ⟨h,fun hc => ?_⟩
  have := (showsCapacity_iff (details_scsi _ _) (capacityText_scsi _) hs hb h.fits
    (show 9 ≤ 12 by omega)).mp hc
  omega

end ScsiCli.Capacity
