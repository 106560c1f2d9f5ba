import ScsiCli.AttributeNumbers
import ScsiCli.SysfsReaders

/-!
# The identity strings of a disk

The listing and the details read the same attributes and print them into
arrays of 32 and of 64 bytes. A line has at most 63, so that the larger array
takes every text and the smaller one cuts what is longer than itself.
-/

set_option autoImplicit false

namespace ScsiCli.IdentityStrings
open ScsiCli.RunTrace ScsiCli.ByteString ScsiCli.Records ScsiCli.Machine ScsiCli.SysfsUtils
open ScsiCli.DiskUtils ScsiCli.DiskDetails ScsiCli.MachineRules ScsiCli.LiteralCopies
open ScsiCli.AttributeNumbers ScsiCli.IscsiRows ScsiCli.SysfsReaders

variable {env : Env}

def scsiStrings (d : ScsiDeviceInfo) : List (Option Str) := [d.vendor, d.model, d.rev]

def scsiFiles : List Str := ["device/vendor", "device/model", "device/rev"]

def nvmeStrings (d : ScsiDeviceInfo) : List (Option Str) := [d.model, d.rev]

def nvmeFiles : List Str := ["device/model", "device/firmware_rev"]

/-- The two runs end with the same strings, whatever an undefined format yields in each. -/
def Agree (env : Env) (m n : Tool ScsiDeviceInfo) (g : ScsiDeviceInfo → List (Option Str)) :
    Prop :=
  ∀ w w', ∃ s, Returns (m >>= fun d => pure (g d)) (env.withWild w) s ∧
    Returns (n >>= fun d => pure (g d)) (env.withWild w') s

/-- The text is a format for itself but for doubled percent signs, and there are at most 31
bytes when one of each two is left out. -/
def Fits (l : Str) : Prop := (expand l).isSome ∧ l.length ≤ 31+l.count '%'/2

instance (l : Str) : Decidable (Fits l) := inferInstanceAs (Decidable (_ ∧ _))

/-! ## One attribute -/

theorem count_expand {s t : Str} (h : expand s = some t) :
    s.length = t.length+s.count '%'/2 := by
  fun_induction expand s generalizing t with
  | case1 => simp_all
  | case2 s ih =>
    obtain ⟨t',ht,rfl⟩ := Option.map_eq_some_iff.mp h
    have := ih ht
    simp only [List.length_cons, List.count_cons_self]
    omega
  | case3 => cases h
  | case4 c s hc ih =>
    obtain ⟨t',ht,rfl⟩ := Option.map_eq_some_iff.mp h
    have := ih ht
    rw [List.count_cons_of_ne hc]
    simp only [List.length_cons]
    omega

/-- The array of 64 bytes takes any line; that of 32 takes it where it fits. -/
theorem cuts_agree_iff {l : Str} (hl : l.length ≤ 63) :
    (∀ w w', cut 32 ((env.withWild w).format l) = cut 64 ((env.withWild w').format l)) ↔
      Fits l := by
  simp only [format_withWild, Fits]
  cases he : expand l with
  | none =>
    constructor
    · intro h
      have := h Wild.silent ⟨fun _ => ['?'],by simp⟩
      simp [Wild.silent, cut] at this
    · rintro ⟨h,-⟩
      cases h
  | some t =>
    have hc := count_expand he
    have ht : cut 64 t = t := cut_of_length_lt (by omega)
    have hw : Nonempty Wild := ⟨Wild.silent⟩
    simp only [Option.getD_some, forall_const, ht, cut_eq_self_iff, Option.isSome_some, true_and]
    omega

theorem copied_withWild (w : Wild) (size : ℕ) (path : Str) : copied (env.withWild w) size path =
    cut size ((env.withWild w).format ((firstLine env path).take 63)) := by
  rw [copied, formatted_firstLine]
  rfl

def attributeText (env : Env) (path : Str) : Str := (firstLine env path).take 63

theorem copies_agree_iff (path : Str) :
    (∀ w w', copied (env.withWild w) 32 path = copied (env.withWild w') 64 path) ↔
      Fits (attributeText env path) := by
  simp only [copied_withWild]
  exact cuts_agree_iff (by simp)

theorem attributeText_of_bytes {path b : Str} (h : env.file path = .bytes b)
    (hb : b.length ≤ 63) : attributeText env path = beforeEnd b := by
  have hl : (beforeEnd b).length ≤ 63 := (List.takeWhile_sublist _).length_le.trans hb
  rw [attributeText, firstLine, h]
  simp only
  rw [removeNewline_cString, List.take_of_length_le hl]

/-! ## The paths -/

theorem returns_scsiListed (d : ScsiDeviceInfo) (s : List (Option Str)) :
    Returns (getDiskVendorModel d >>= fun d => pure (scsiStrings d)) env s ↔
      s = scsiFiles.map fun file => some (copied env 32 (underDisk d file)) := by
  have hp : ∀ a ∈ [vendorRow 32, modelRow 32, revRow "device/rev" 32], Plain a := by
    simp [vendorRow, modelRow, revRow, Plain]
  simp only [getDiskVendorModel, returns_bind, returns_loadAll_plain hp, exists_eq_left,
    returns_pure]
  rfl

theorem returns_nvmeListed (d : ScsiDeviceInfo) (s : List (Option Str)) :
    Returns (getNvmeDeviceModel d >>= fun d => pure (nvmeStrings d)) env s ↔
      s = nvmeFiles.map fun file => some (copied env 32 (underDisk d file)) := by
  have hp : ∀ a ∈ [modelRow 32, revRow "device/firmware_rev" 32], Plain a := by
    simp [modelRow, revRow, Plain]
  simp only [getNvmeDeviceModel, returns_bind, returns_loadAll_plain hp, exists_eq_left,
    returns_pure]
  rfl

theorem returns_scsiShown (name : Str) (d : ScsiDeviceInfo) (s : List (Option Str)) :
    Returns (getSingleScsiDiskDetails name d >>= fun d => pure (scsiStrings d)) env s ↔
      s = scsiFiles.map fun file => some (copied env 64 (underDisk (scsiDisk name d) file)) := by
  have hf : ∀ t, scsiStrings (loaded env (underDisk t) scsiRows t) =
      scsiFiles.map fun file => some (copied env 64 (underDisk t file)) := fun _ => rfl
  rw [← hf]
  exact returns_scsiDetails scsiStrings (fun _ _ => rfl) name d s

theorem returns_nvmeShown (name : Str) (d : ScsiDeviceInfo) (s : List (Option Str)) :
    Returns (getSingleNvmeDiskDetails name d >>= fun d => pure (nvmeStrings d)) env s ↔
      s = nvmeFiles.map fun file => some (copied env 64 (underDisk (nvmeDisk name d) file)) := by
  have hf : ∀ t, nvmeStrings (loaded env (underDisk t) nvmeRows t) =
      nvmeFiles.map fun file => some (copied env 64 (underDisk t file)) := fun _ => rfl
  rw [← hf]
  exact returns_nvmeDetails nvmeStrings (fun _ _ => rfl) name d s

theorem agree_iff {m n : Tool ScsiDeviceInfo} {g : ScsiDeviceInfo → List (Option Str)}
    {files : List Str} {pathOf : Str → Str}
    (hm : ∀ w s, Returns (m >>= fun d => pure (g d)) (env.withWild w) s ↔
      s = files.map fun file => some (copied (env.withWild w) 32 (pathOf file)))
    (hn : ∀ w s, Returns (n >>= fun d => pure (g d)) (env.withWild w) s ↔
      s = files.map fun file => some (copied (env.withWild w) 64 (pathOf file))) :
    Agree env m n g ↔ ∀ file ∈ files, Fits (attributeText env (pathOf file)) := by
  simp only [Agree, hm, hn, exists_eq_left, List.map_inj_left, Option.some.injEq,
    ← copies_agree_iff]
  constructor
  · intro h file hf w w'
    exact h w w' file hf
  · intro h w w' file hf
    exact h file hf w w'

theorem scsi_agree_iff {name : Str} {d d' : ScsiDeviceInfo}
    (h : d.diskPath = (scsiDisk name d').diskPath) :
    Agree env (getDiskVendorModel d) (getSingleScsiDiskDetails name d') scsiStrings ↔
      ∀ file ∈ scsiFiles, Fits (attributeText env (underDisk d file)) := by
  refine agree_iff (fun w => returns_scsiListed d) (fun w => ?_)
  rw [underDisk_congr h]
  exact returns_scsiShown name d'

theorem nvme_agree_iff {name : Str} {d d' : ScsiDeviceInfo}
    (h : d.diskPath = (nvmeDisk name d').diskPath) :
    Agree env (getNvmeDeviceModel d) (getSingleNvmeDiskDetails name d') nvmeStrings ↔
      ∀ file ∈ nvmeFiles, Fits (attributeText env (underDisk d file)) := by
  refine agree_iff (fun w => returns_nvmeListed d) (fun w => ?_)
  rw [underDisk_congr h]
  exact returns_nvmeShown name d'

theorem listed_path {e : Dirent} (h : (SYSFS_BLOCK_PATH ++ lit "/" ++ e.dName).length < 128)
    (d : ScsiDeviceInfo) :
    (named SYSFS_BLOCK_PATH e).diskPath = (scsiDisk e.dName d).diskPath ∧
      (named SYSFS_BLOCK_PATH e).diskPath = (nvmeDisk e.dName d).diskPath := by
  have hc : ∀ n, 128 ≤ n → cut n (SYSFS_BLOCK_PATH ++ lit "/" ++ e.dName) =
      SYSFS_BLOCK_PATH ++ lit "/" ++ e.dName := fun n hn => cut_of_length_lt (by omega)
  constructor
  · exact congrArg some ((hc 512 (by omega)).trans (hc 128 (by omega)).symm)
  · exact congrArg some ((hc 512 (by omega)).trans (hc 256 (by omega)).symm)

/-- For one disk both paths store the same strings where each fits the smaller array. -/
theorem identity_strings_iff (env : Env) (name : Str) (d d' : ScsiDeviceInfo) :
    (d.diskPath = (scsiDisk name d').diskPath →
      (Agree env (getDiskVendorModel d) (getSingleScsiDiskDetails name d') scsiStrings ↔
        ∀ file ∈ scsiFiles, Fits (attributeText env (underDisk d file)))) ∧
    (d.diskPath = (nvmeDisk name d').diskPath →
      (Agree env (getNvmeDeviceModel d) (getSingleNvmeDiskDetails name d') nvmeStrings ↔
        ∀ file ∈ nvmeFiles, Fits (attributeText env (underDisk d file)))) :=
  ⟨scsi_agree_iff,nvme_agree_iff⟩

/-! ## Two lengths -/

def lettersOf (n : ℕ) : Env := filesHolding (List.replicate n 'A' ++ ['\n'])

theorem attributeText_lettersOf {n : ℕ} (hn : n ≤ 62) (path : Str) :
    attributeText (lettersOf n) path = List.replicate n 'A' := by
  have h := @attributeText_of_bytes (lettersOf n) path _ rfl (by simp; omega)
  rw [h, beforeEnd_newline, beforeEnd, List.takeWhile_replicate_eq_filter]
  simp [nul]

def nvmeEntry : Dirent := ⟨lit "nvme0n1",.lnk,by simp [lit, nul]⟩

theorem same_nvme : (named SYSFS_BLOCK_PATH nvmeEntry).diskPath =
    (nvmeDisk nvmeEntry.dName {}).diskPath :=
  (listed_path (by simp [SYSFS_BLOCK_PATH, nvmeEntry, lit]) {}).2

theorem thirty_one_agree :
    Agree (lettersOf 31) (getNvmeDeviceModel (named SYSFS_BLOCK_PATH nvmeEntry))
      (getSingleNvmeDiskDetails nvmeEntry.dName {}) nvmeStrings :=
  ((identity_strings_iff (lettersOf 31) nvmeEntry.dName _ {}).2 same_nvme).mpr (by
    intro file _
    rw [attributeText_lettersOf (by omega)]
    decide)

/-- A model of forty bytes, as long as the standard of the drives allows. -/
theorem forty_differ :
    ¬Agree (lettersOf 40) (getNvmeDeviceModel (named SYSFS_BLOCK_PATH nvmeEntry))
      (getSingleNvmeDiskDetails nvmeEntry.dName {}) nvmeStrings := by
  rw [nvme_agree_iff same_nvme]
  intro h
  have hf := h "device/model" (by simp [nvmeFiles])
  rw [attributeText_lettersOf (by omega)] at hf
  exact absurd hf (by decide)

end ScsiCli.IdentityStrings
