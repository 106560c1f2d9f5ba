import ScsiCli.RemotePorts
import ScsiCli.CommandGrammar

/-!
# Null pointers

A reading that fails hands a null pointer to whatever uses its text. The
module decides for each listing and each report which files, directories and
entries must be there for no null pointer to reach a format, a number, a
compare or a directory stream, in the order in which a run comes to them.
-/

set_option autoImplicit false

namespace ScsiCli.NullSafety
open ScsiCli.RunTrace ScsiCli.ByteString ScsiCli.NumberText ScsiCli.Records ScsiCli.Machine
open ScsiCli.SysfsUtils ScsiCli.DiskUtils ScsiCli.DiskDetails ScsiCli.FcpUtils
open ScsiCli.IscsiUtils ScsiCli.Commands ScsiCli.MachineRules ScsiCli.LiteralCopies
open ScsiCli.Completion ScsiCli.RemotePorts ScsiCli.Dispatch ScsiCli.CommandGrammar

variable {env : Env} {σ : Type}

def nullOf : Event → Option Sink
  | .nullUse s => some s
  | _ => none

def NoNull (e : Event) : Prop := nullOf e = none

@[simp] theorem noNull_opened (h : Handle) (m : Mode) : NoNull (.opened h m) := rfl

@[simp] theorem noNull_closed (h : Handle) : NoNull (.closed h) := rfl

@[simp] theorem noNull_out (o : Out) : NoNull (.out o) := rfl

@[simp] theorem noNull_device (f : Device) (arg : Option Str) : NoNull (.device f arg) := rfl

@[simp] theorem noNull_overrun (b : Buf) : NoNull (.overrun b) := rfl

@[simp] theorem not_noNull_nullUse (s : Sink) : ¬NoNull (.nullUse s) := nofun

/-! ## Rows -/

def Fed (env : Env) (path : Str) : Copy → Prop
  | .argument _ => True
  | _ => (line env path).isSome

def Supplied (env : Env) (pathOf : Str → Str) (rows : List (Attr σ)) : Prop :=
  ∀ a ∈ rows, Fed env (pathOf a.file) a.copy

/-- The lines of the rows are there, as far as the rows are read. -/
def RowsFed (env : Env) (pathOf : Str → Str) (rows : List (Attr σ)) : Prop :=
  Staged (fun a : Attr σ => Fed env (pathOf a.file) a.copy)
    (fun a => (Attr.text env (pathOf a.file) a).isSome) rows

theorem noNull_fetch (path : Str) (c : Copy) :
    Emits NoNull (c.fetch path) env ↔ Fed env path c := by
  cases c <;> cases h : line env path <;> simp [Copy.fetch, Fed, h]

theorem noNull_load (pathOf : Str → Str) (s : σ) (a : Attr σ) :
    Emits NoNull (Attr.load pathOf s a) env ↔ Fed env (pathOf a.file) a.copy := by
  simp [Attr.load, noNull_fetch]

theorem noNull_loadAll (pathOf : Str → Str) (rows : List (Attr σ)) (s : σ) :
    Emits NoNull (loadAll pathOf rows s) env ↔ RowsFed env pathOf rows :=
  emits_foldlM_iff NoNull _ _ _ _ (fun s a _ => noNull_load pathOf s a)
    fun s a _ => survives_load_iff pathOf s a

theorem noNull_loadAllInto (b : Buf) (pathOf : Str → Str) (rows : List (Attr σ)) (s : σ) :
    Emits NoNull (loadAllInto b pathOf rows s) env ↔ RowsFed env pathOf rows :=
  emits_foldlM_iff NoNull _ _ _ _ (fun s a _ => by simp [Attr.loadInto, noNull_load])
    fun s a _ => (exists_congr fun t => returns_loadInto b pathOf s t a).trans
      (survives_load_iff pathOf s a)

theorem text_of_fed {a : Attr σ} (h : a.strip = false) {path : Str} (hf : Fed env path a.copy) :
    (Attr.text env path a).isSome := by
  rw [Attr.text, h]
  cases hc : a.copy with
  | direct => simpa [hc, Fed, Copy.text] using hf
  | _ => simp [Copy.text]

theorem rowsFed_iff {rows : List (Attr σ)} (h : ∀ a ∈ rows, a.strip = false)
    (pathOf : Str → Str) :
    RowsFed env pathOf rows ↔ Supplied env pathOf rows :=
  staged_forall fun a ha hf => text_of_fed (h a ha) hf

theorem noNull_rows_bind {τ α : Type} {g : σ → τ} {rows : List (Attr σ)} {pathOf : Str → Str}
    {s : σ} {k : σ → Tool α} {P : Prop} (hs : ∀ a ∈ rows, a.strip = false)
    (hg : ∀ a ∈ rows, Frames g a) (hk : ∀ t, g t = g s → (Emits NoNull (k t) env ↔ P)) :
    Emits NoNull (loadAll pathOf rows s >>= k) env ↔
      Supplied env pathOf rows ∧ P := by
  rw [emits_bind_of fun t ht => hk t (loadAll_frame g hg ht), noNull_loadAll, rowsFed_iff hs,
    survives_loadAll_iff]
  exact and_congr_right fun hf =>
    ⟨fun hp => hp fun a ha => text_of_fed (hs a ha) (hf a ha),fun hp _ => hp⟩

theorem noNull_rows_last {α : Type} {rows : List (Attr σ)} {pathOf : Str → Str} {s : σ}
    {k : σ → Tool α} (hs : ∀ a ∈ rows, a.strip = false) (hk : ∀ t, Emits NoNull (k t) env) :
    Emits NoNull (loadAll pathOf rows s >>= k) env ↔ Supplied env pathOf rows := by
  rw [noNull_rows_bind (g := fun _ => ()) hs (fun _ _ _ _ => rfl) fun t _ => iff_true_intro (hk t),
    and_true]

theorem noNull_read_bind {α : Type} (path : Str) (size : ℕ) (k : Str → Tool α) :
    Emits NoNull (do
      let p ← openSysfsStatsFile path
      let t ← snprintfFmt size p
      k t) env ↔ (line env path).isSome ∧
        Emits NoNull (k (cut size (((line env path).map env.format).getD []))) env := by
  simp only [emits_bind, emits_openSysfsStatsFile, returns_openSysfsStatsFile, forall_eq,
    emits_snprintfFmt, returns_snprintfFmt]
  cases line env path <;> simp

/-! ## Disks -/

theorem noNull_getDeviceNumbers (name : Str) (d : ScsiDeviceInfo) :
    Emits NoNull (getDeviceNumbers name d) env := by
  simp only [getDeviceNumbers]
  cases h : env.stat ("/dev/" ++ name) <;> simp [h]

theorem noNull_getHctlInfo (d : ScsiDeviceInfo) : Emits NoNull (getHctlInfo d) env := by
  simp only [getHctlInfo, emits_bind, returns_opendir, forall_eq]
  split <;> simp

theorem noNull_locate_bind {α : Type} {e : Dirent} {d : ScsiDeviceInfo}
    {k : ScsiDeviceInfo → Tool α} {P : Prop}
    (hk : ∀ t, t.diskPath = d.diskPath → (Emits NoNull (k t) env ↔ P)) :
    Emits NoNull (locate e d >>= k) env ↔ P := by
  obtain ⟨t,ht,hp⟩ := @locate_spec env e d
  have hd : t.diskPath = d.diskPath := congrArg (·.2.1) hp
  rw [emits_bind_of fun u hu => hk u (returns_unique hu ht ▸ hd)]
  have hl : Emits NoNull (locate e d) env := by
    simp [locate, noNull_getDeviceNumbers, noNull_getHctlInfo]
  exact ⟨fun h => h.2 ⟨t,ht⟩,fun h => ⟨hl,fun _ => h⟩⟩

def EntryFed (env : Env) (path : Str) (e : Dirent) (rows : List (Attr ScsiDeviceInfo)) : Prop :=
  Supplied env (underDisk (named path e)) rows

def vendorRows : List (Attr ScsiDeviceInfo) := [vendorRow 32,modelRow 32,revRow "device/rev" 32]

def nvmeModelRows : List (Attr ScsiDeviceInfo) := [modelRow 32,revRow "device/firmware_rev" 32]

theorem noNull_last {rows : List (Attr ScsiDeviceInfo)} (hs : ∀ a ∈ rows, a.strip = false)
    {path : Str} {e : Dirent} {d : ScsiDeviceInfo} (hd : d.diskPath = (named path e).diskPath)
    {k : ScsiDeviceInfo → Tool Unit} (hk : ∀ t, Emits NoNull (k t) env) :
    Emits NoNull (loadAll (underDisk d) rows d >>= k) env ↔ EntryFed env path e rows := by
  rw [noNull_rows_last hs hk, underDisk_congr hd]
  rfl

theorem noNull_type_bind {path : Str} {e : Dirent} {k : ScsiDeviceInfo → Tool Unit} {P : Prop}
    (hk : ∀ t, t.diskPath = (named path e).diskPath → (Emits NoNull (k t) env ↔ P)) :
    Emits NoNull (getDiskType (named path e) >>= k) env ↔ EntryFed env path e [typeRow] ∧ P := by
  have hn : ∀ n (d : ScsiDeviceInfo), { d with deviceType := n }.diskPath = d.diskPath :=
    fun _ _ => rfl
  exact noNull_rows_bind (g := fun d : ScsiDeviceInfo => d.diskPath) (by simp [typeRow])
    (fun a ha => by
      obtain rfl := List.mem_singleton.mp ha
      exact fun _ d => hn _ d) hk

theorem vendorRows_plain : ∀ a ∈ vendorRows, a.strip = false := by
  simp [vendorRows, vendorRow, modelRow, revRow]

theorem nvmeModelRows_plain : ∀ a ∈ nvmeModelRows, a.strip = false := by
  simp [nvmeModelRows, modelRow, revRow]

theorem noNull_blockRow (e : Dirent) :
    Emits NoNull (blockRow e) env ↔
      EntryFed env SYSFS_BLOCK_PATH e [typeRow] ∧ EntryFed env SYSFS_BLOCK_PATH e vendorRows :=
  noNull_type_bind fun _ ht => noNull_locate_bind fun _ hu =>
    noNull_last vendorRows_plain (hu.trans ht) fun _ => by simp

theorem noNull_nvmeRow (e : Dirent) :
    Emits NoNull (nvmeRow e) env ↔ EntryFed env SYSFS_BLOCK_PATH e nvmeModelRows :=
  noNull_locate_bind fun _ hu => noNull_last nvmeModelRows_plain hu fun _ => by simp

theorem noNull_controllerRow (e : Dirent) :
    Emits NoNull (controllerRow e) env ↔ EntryFed env SYSFS_SCSI_GEN_PATH e [typeRow] ∧
      EntryFed env SYSFS_SCSI_GEN_PATH e vendorRows :=
  noNull_type_bind fun _ ht => noNull_locate_bind fun _ hu =>
    noNull_last vendorRows_plain (hu.trans ht) fun _ => by simp

theorem noNull_cdromRow (e : Dirent) :
    Emits NoNull (cdromRow e) env ↔ EntryFed env DEV_DIR_PATH e [typeRow] :=
  (noNull_type_bind (P := True) fun _ _ => by simp).trans (iff_of_eq (and_true _))

theorem noNull_tapeRow (e : Dirent) :
    Emits NoNull (tapeRow e) env ↔ EntryFed env DEV_DIR_PATH e [typeRow] :=
  (noNull_type_bind (P := True) fun _ _ => by simp).trans (iff_of_eq (and_true _))

theorem noNull_genericRow (e : Dirent) :
    Emits NoNull (genericRow e) env ↔ EntryFed env DEV_DIR_PATH e vendorRows :=
  noNull_locate_bind fun t hu => noNull_last (d := { t with
      diskType := if strncmpEq e.dName "ng" 2 then "NVMe Generic" else "SCSI Generic" })
    vendorRows_plain hu fun _ => by simp

theorem noNull_mpathRow (e : Dirent) :
    Emits NoNull (mpathRow e) env ↔ EntryFed env SYSFS_BLOCK_PATH e vendorRows :=
  noNull_locate_bind fun _ hu => noNull_last vendorRows_plain hu fun _ => by simp

/-! ## The listings of disks -/

theorem noNull_rows {body : Dirent → Tool Unit} {C : Dirent → Prop}
    (hc : ∀ e, Emits NoNull (body e) env ↔ C e) (hs : ∀ e, Survives (body e) env)
    (test : Dirent → Bool) (es : List Dirent) :
    Emits NoNull (rows test body es) env ↔ ∀ e ∈ forEachDir es, test e = true → C e := by
  rw [rows, emits_foldlM_each NoNull _ env (C := fun e => test e = true → C e)]
  · intro _ e _
    cases test e <;> simp [hc]
  · intro _ e _
    cases test e <;> simp [hs]

def Each (env : Env) (path : Str) (test : Dirent → Bool) (C : Dirent → Prop) : Prop :=
  ∀ e ∈ entriesOf env path, test e = true → C e

theorem noNull_listing {body : Dirent → Tool Unit} {C : Dirent → Prop}
    (hc : ∀ e, Emits NoNull (body e) env ↔ C e) (hs : ∀ e, Survives (body e) env) (f : Device)
    (path label : Str) (header : Out) (test : Dirent → Bool) :
    Emits NoNull (listing f path label header test body) env ↔ Each env path test C := by
  cases h : env.dir path with
  | none => simp [listing, h, Each, entriesOf]
  | some l =>
    have hr := noNull_rows hc hs test l.entries
    simp [listing, h, hr, Each, entriesOf]

def ControllersFed (env : Env) : Prop :=
  Each env SYSFS_SCSI_GEN_PATH (fun _ => true) fun e =>
    EntryFed env SYSFS_SCSI_GEN_PATH e [typeRow] ∧ EntryFed env SYSFS_SCSI_GEN_PATH e vendorRows

def CdromsFed (env : Env) : Prop :=
  Each env DEV_DIR_PATH isCdrom fun e => EntryFed env DEV_DIR_PATH e [typeRow]

def TapesFed (env : Env) : Prop :=
  Each env DEV_DIR_PATH isTape fun e => EntryFed env DEV_DIR_PATH e [typeRow]

def GenericsFed (env : Env) : Prop :=
  Each env DEV_DIR_PATH isGeneric fun e => EntryFed env DEV_DIR_PATH e vendorRows

def MultipathsFed (env : Env) : Prop :=
  Each env SYSFS_BLOCK_PATH (fun e => isDm e || isMd e) fun e =>
    EntryFed env SYSFS_BLOCK_PATH e vendorRows

structure DisksFed (env : Env) : Prop where
  sd : Each env SYSFS_BLOCK_PATH isSd fun e =>
    EntryFed env SYSFS_BLOCK_PATH e [typeRow] ∧ EntryFed env SYSFS_BLOCK_PATH e vendorRows
  nvme : Each env SYSFS_BLOCK_PATH isNvme fun e => EntryFed env SYSFS_BLOCK_PATH e nvmeModelRows

theorem noNull_listControllers : Emits NoNull listControllers env ↔ ControllersFed env :=
  noNull_listing noNull_controllerRow survives_controllerRow _ _ _ _ _

theorem noNull_listCdromDevs : Emits NoNull listCdromDevs env ↔ CdromsFed env :=
  noNull_listing noNull_cdromRow survives_cdromRow _ _ _ _ _

theorem noNull_listTapeDevs : Emits NoNull listTapeDevs env ↔ TapesFed env :=
  noNull_listing noNull_tapeRow survives_tapeRow _ _ _ _ _

theorem noNull_listGenericDevs : Emits NoNull listGenericDevs env ↔ GenericsFed env :=
  noNull_listing noNull_genericRow survives_genericRow _ _ _ _ _

theorem noNull_listMultipathDevs : Emits NoNull listMultipathDevs env ↔ MultipathsFed env :=
  noNull_listing noNull_mpathRow survives_mpathRow _ _ _ _ _

theorem noNull_listBlockDevs : Emits NoNull listBlockDevs env ↔ DisksFed env := by
  have hd : DisksFed env ↔ Each env SYSFS_BLOCK_PATH isSd (fun e =>
      EntryFed env SYSFS_BLOCK_PATH e [typeRow] ∧ EntryFed env SYSFS_BLOCK_PATH e vendorRows) ∧
        Each env SYSFS_BLOCK_PATH isNvme fun e => EntryFed env SYSFS_BLOCK_PATH e nvmeModelRows :=
    ⟨fun h => ⟨h.1,h.2⟩,fun h => ⟨h.1,h.2⟩⟩
  rw [hd]
  cases h : env.dir SYSFS_BLOCK_PATH with
  | none => simp [listBlockDevs, h, Each, entriesOf]
  | some l =>
    have h₁ := @noNull_rows env _ _ noNull_blockRow survives_blockRow isSd l.entries
    have h₂ := @noNull_rows env _ _ noNull_nvmeRow survives_nvmeRow isNvme l.entries
    obtain ⟨u,hu⟩ := @survives_rows env _ survives_blockRow isSd l.entries
    have hr : ∀ v, Returns (rows isSd blockRow l.entries) env v := fun _ => hu
    simp [listBlockDevs, h, h₁, h₂, hr, Each, entriesOf]

/-! ## Enclosures -/

def componentCount (env : Env) (e : Dirent) : ℤ :=
  int32 (strtoull (cut 8
    (((line env (underDisk (enclosureRecord e) "components")).map env.format).getD [])))

/-- The type, the number of components where the type is known, and the names where that
number is not negative. -/
structure EnclosureFed (env : Env) (e : Dirent) : Prop where
  type : (line env (enclosureTypePath (enclosureRecord e) "device/type")).isSome
  components : knownType (enclosureType env e) = true →
    (line env (underDisk (enclosureRecord e) "components")).isSome
  names : knownType (enclosureType env e) = true → 0 ≤ componentCount env e →
    Supplied env (underDisk (enclosureRecord e)) [modelRow 8,vendorRow 8]

theorem noNull_getEnclosureDetails {d : ScsiDeviceInfo} {e : Dirent}
    (hd : d.diskPath = (enclosureRecord e).diskPath) :
    Emits NoNull (getEnclosureDetails d) env ↔
      (line env (underDisk (enclosureRecord e) "components")).isSome ∧
        (0 ≤ componentCount env e →
          Supplied env (underDisk (enclosureRecord e)) [modelRow 8,vendorRow 8]) := by
  have hs : ∀ a ∈ [modelRow 8,vendorRow 8], a.strip = false := by simp [modelRow, vendorRow]
  have hn := @noNull_rows_last env _ (ℤ × ScsiDeviceInfo) _ (underDisk (enclosureRecord e)) d
    (fun d => pure (0,d)) hs fun _ => by simp
  rw [getEnclosureDetails, underDisk_congr hd, noNull_read_bind, emits_ite, hn]
  simp [componentCount]

theorem noNull_validateEnclosureType (e : Dirent) :
    Emits NoNull (validateEnclosureType (enclosureRecord e)) env ↔
      (line env (enclosureTypePath (enclosureRecord e) "device/type")).isSome := by
  have hs : ∀ a ∈ [enclosureTypeRow], a.strip = false := by simp [enclosureTypeRow]
  have hn := @noNull_rows_last env _ _ _ (enclosureTypePath (enclosureRecord e))
    (enclosureRecord e) (fun d => if (devTypeStr.find? fun t => t.1 = d.deviceType).isSome then
      pure ((0 : ℤ),nameDiskType d) else pure (-enodev,d)) hs fun _ => by simp
  apply hn.trans
  simp [Supplied, enclosureTypeRow, Fed]

theorem noNull_enclosureEntry (e : Dirent) (es : List Dirent) (he : e.dType ≠ .dir) :
    Emits NoNull (enclosureLoop (e :: es)) env ↔ EnclosureFed env e := by
  have hv := fun p => @returns_validateEnclosureType env e p
  have hd : (nameDiskType { enclosureRecord e with
      deviceType := enclosureType env e }).diskPath = (enclosureRecord e).diskPath := rfl
  have hf : EnclosureFed env e ↔
      (line env (enclosureTypePath (enclosureRecord e) "device/type")).isSome ∧
        (knownType (enclosureType env e) = true →
          (line env (underDisk (enclosureRecord e) "components")).isSome ∧
            (0 ≤ componentCount env e →
              Supplied env (underDisk (enclosureRecord e)) [modelRow 8,vendorRow 8])) :=
    ⟨fun h => ⟨h.1,fun hk => ⟨h.2 hk,h.3 hk⟩⟩,fun h => ⟨h.1,fun hk => (h.2 hk).1,
      fun hk => (h.2 hk).2⟩⟩
  rw [hf, enclosureLoop, if_pos he, emits_bind, noNull_validateEnclosureType]
  apply and_congr_right
  intro _
  simp only [hv, forall_eq]
  cases knownType (enclosureType env e) with
  | false => simp [enodev]
  | true => simp [noNull_getEnclosureDetails hd]

theorem noNull_enclosureLoop (es : List Dirent) : Emits NoNull (enclosureLoop es) env ↔
    ∀ e, es.find? (fun e => e.dType ≠ .dir) = some e → EnclosureFed env e := by
  induction es with
  | nil => simp [enclosureLoop]
  | cons e es ih =>
    by_cases he : e.dType = .dir
    · rw [enclosureLoop, if_neg (not_not.mpr he), ih]
      simp [he]
    · rw [noNull_enclosureEntry e es he]
      simp [he]

def EnclosuresFed (env : Env) : Prop :=
  ∀ l, env.dir SYSFS_ENCLOSURE_PATH = some l →
    ∀ e, l.entries.find? (fun e => e.dType ≠ .dir) = some e → EnclosureFed env e

theorem noNull_listEnclosure : Emits NoNull listEnclosure env ↔ EnclosuresFed env := by
  cases h : env.dir SYSFS_ENCLOSURE_PATH with
  | none => simp [listEnclosure, h, EnclosuresFed]
  | some l => simp [listEnclosure, h, noNull_enclosureLoop, EnclosuresFed]

/-! ## Fibre Channel -/

/-- The rows read after `link_state`, which are reached only where that line is there. -/
def LinkFed (env : Env) (f : FcDeviceInfo) : Prop :=
  (linkLine env f).isSome →
    Supplied env (hostFile f) hostRows ∧ Supplied env (scsiHostFile f) [activeModeRow]

theorem linkFed_congr {f g : FcDeviceInfo} (h : origin f = origin g) :
    LinkFed env f ↔ LinkFed env g := by
  rw [LinkFed, LinkFed, linkLine, linkLine, hostFile_congr h, scsiHostFile_congr h]

theorem noNull_getLinkInfo (f : FcDeviceInfo) :
    Emits NoNull (getLinkInfo f) env ↔ LinkFed env f := by
  have hs : ∀ a ∈ hostRows, a.strip = false := by simp [hostRows, fcText]
  have hm : ∀ a ∈ [activeModeRow], a.strip = false := by simp [activeModeRow, fcText]
  have hl : Emits NoNull (loadLinkState f) env := by
    simp only [loadLinkState, emits_bind, emits_fopenRead, returns_fopenRead, forall_eq]
    split
    · simp
    · split <;> simp
  have hk : ∀ t, origin t = origin f → (Emits NoNull (do
      let f ← loadAll (scsiHostFile t) [activeModeRow] t
      pure ((0 : ℤ),f)) env ↔ Supplied env (scsiHostFile f) [activeModeRow]) := fun t ht => by
    rw [noNull_rows_last hm fun _ => by simp, scsiHostFile_congr ht]
  rw [getLinkInfo, emits_bind]
  simp only [returns_loadLinkState, forall_eq, hl, true_and]
  cases hf : linkLine env f with
  | none => simp [LinkFed, hf]
  | some p =>
    have hb := @noNull_rows_bind env _ _ _ origin _ (hostFile f)
      { f with linkState := some (cut p.length (env.format p)) } _ _ hs
      (fun a ha => origin_hostRows a (by simp_all)) hk
    simp only [LinkFed, hf, Option.isSome_some, forall_true_left]
    exact hb

/-- What the second half of the details needs: the driver's rows, and what follows as far
as the run gets. -/
def InfoFed (env : Env) (f : FcDeviceInfo) : Prop :=
  ∃ d, f.driverName = some d ∧
    (strncmpEq d "qla2xxx" 7 = true → Supplied env (scsiHostFile f) qlaRows ∧ LinkFed env f) ∧
    (strncmpEq d "qla2xxx" 7 = false → strncmpEq d "lpfc" 4 = true →
      Supplied env (scsiHostFile f) lpfcRows ∧ (line env (hostFile f "speed")).isSome ∧
        (Readable env (hostFile f) [lpfcSpeedRow] →
          Supplied env (moduleFile d) [lpfcVersionRow] ∧ LinkFed env f))

theorem infoFed_congr {f g : FcDeviceInfo} (h : origin f = origin g) :
    InfoFed env f ↔ InfoFed env g := by
  have hd : f.driverName = g.driverName := congrArg (·.2.2.1) h
  simp only [InfoFed, hd, scsiHostFile_congr h, hostFile_congr h, linkFed_congr h]

theorem noNull_getFcInfo (f : FcDeviceInfo) :
    Emits NoNull (getFcInfo f) env ↔ InfoFed env f := by
  have hq : ∀ a ∈ qlaRows, a.strip = false := by simp [qlaRows, fcText]
  have hl : ∀ a ∈ lpfcRows, a.strip = false := by simp [lpfcRows, fcText]
  have hv : ∀ a ∈ [lpfcVersionRow], a.strip = false := by simp [lpfcVersionRow, fcText]
  have hsp : RowsFed env (hostFile f) [lpfcSpeedRow] ↔ (line env (hostFile f "speed")).isSome := by
    simp [RowsFed, Staged, lpfcSpeedRow, fcText, Fed]
  have hlink : ∀ t, origin t = origin f → (Emits NoNull (getLinkInfo t) env ↔ LinkFed env f) :=
    fun t ht => (noNull_getLinkInfo t).trans (linkFed_congr ht)
  have hver : ∀ d t, origin t = origin f → (Emits NoNull (do
      let f ← loadAll (moduleFile d) [lpfcVersionRow] t
      getLinkInfo f) env ↔ Supplied env (moduleFile d) [lpfcVersionRow] ∧ LinkFed env f) :=
    fun d t ht => noNull_rows_bind (g := origin) hv
      (fun a ha => origin_driverRows.2 a (by simp_all)) fun u hu => hlink u (hu.trans ht)
  have hspeed : ∀ d t, origin t = origin f → (Emits NoNull (do
      let f ← loadAll (hostFile t) [lpfcSpeedRow] t
      let f ← loadAll (moduleFile d) [lpfcVersionRow] f
      getLinkInfo f) env ↔ (line env (hostFile f "speed")).isSome ∧
        (Readable env (hostFile f) [lpfcSpeedRow] →
          Supplied env (moduleFile d) [lpfcVersionRow] ∧ LinkFed env f)) := fun d t ht => by
    rw [emits_bind_of fun u hu => hver d u
      ((loadAll_frame origin (fun a ha => origin_driverRows.2 a (by simp_all)) hu).trans ht),
      noNull_loadAll, survives_loadAll_iff, hostFile_congr ht, hsp]
  unfold getFcInfo InfoFed
  cases hd : f.driverName with
  | none => simp
  | some d =>
    simp only [Option.some.injEq, exists_eq_left']
    cases h₁ : strncmpEq d "qla2xxx" 7 with
    | true =>
      have hb := @noNull_rows_bind env _ _ _ origin _ (scsiHostFile f) _ _ _ hq
        origin_driverRows.1 hlink
      rw [if_pos rfl, hb]
      simp
    | false =>
      cases h₂ : strncmpEq d "lpfc" 4 with
      | false => simp [printInfo, print]
      | true =>
        have hb := @noNull_rows_bind env _ _ _ origin _ (scsiHostFile f) _ _ _ hl
          (fun a ha => origin_driverRows.2 a (by simp_all)) (hspeed d)
        rw [if_neg (by simp), if_pos rfl, hb]
        simp

theorem noNull_getSymbolicName (name : Str) :
    Emits NoNull (getSymbolicName (fcHost name)) env := by
  simp only [getSymbolicName]
  split
  · simp
  · simp only [emits_bind, emits_fopenRead, returns_fopenRead, forall_eq]
    split
    · simp
    · split <;> simp

theorem noNull_getDriverInfo (f : FcDeviceInfo) :
    Emits NoNull (getDriverInfo f) env ↔ (env.dir PCI_DRIVER_PATH).isSome := by
  simp only [getDriverInfo, emits_bind, emits_opendir, returns_opendir, forall_eq]
  cases env.dir PCI_DRIVER_PATH with
  | none => simp
  | some l => cases hl : l.entries.find? isDriver <;> simp [hl]

theorem noNull_identify (name : Str) : Emits NoNull (do
    let f ← getSymbolicName (fcHost name)
    getDriverInfo f) env ↔ (env.dir PCI_DRIVER_PATH).isSome := by
  simp [emits_bind, noNull_getSymbolicName, noNull_getDriverInfo, returns_getSymbolicName]

def HostFed (env : Env) (name : Str) : Prop :=
  (env.dir PCI_DRIVER_PATH).isSome ∧ InfoFed env (knownHost env name)

theorem noNull_fcAdapterRow (e : Dirent) :
    Emits NoNull (fcAdapterRow e) env ↔ HostFed env e.dName := by
  rw [fcAdapterRow_eq, emits_bind, noNull_identify, HostFed]
  apply and_congr_right
  intro hd
  simp only [returns_identify, hd, true_and, forall_eq]
  rw [emits_bind, noNull_getFcInfo]
  simp

def FcHostsFed (env : Env) : Prop :=
  Staged (fun e : Dirent => HostFed env e.dName) (fun e => HostLives env e.dName)
    (entriesOf env SYSFS_FC_HOST_PATH)

theorem noNull_listFcAdapters : Emits NoNull listFcAdapters env ↔ FcHostsFed env := by
  cases h : env.dir SYSFS_FC_HOST_PATH with
  | none => simp [listFcAdapters, h, FcHostsFed, entriesOf, Staged]
  | some l =>
    have hl := emits_foldlM_iff NoNull (fun (_ : Unit) e => fcAdapterRow e) env
      (forEachDir l.entries) () (fun _ e _ => noNull_fcAdapterRow e)
      fun _ e _ => survives_fcAdapterRow_iff e
    simp [listFcAdapters, h, FcHostsFed, entriesOf, hl]

def RportsFed (env : Env) (path : Str) : Prop :=
  ∀ e ∈ entriesOf env path, isRport e = true →
    Supplied env (rportFile { rportName := some e.dName }) rportRows

theorem noNull_listRportAdapters (f : FcDeviceInfo) : Emits NoNull (listRportAdapters f) env ↔
    RportsFed env (cut 64 (orNull f.sysDevPath ++ "/device")) := by
  have hs : ∀ a ∈ rportRows, a.strip = false := by simp [rportRows, rportRow]
  have he : ∀ e, Emits NoNull (rportEntry e) env ↔ (isRport e = true →
      Supplied env (rportFile { rportName := some e.dName }) rportRows) := fun e => by
    unfold rportEntry
    cases isRport e with
    | false => simp
    | true =>
      rw [if_pos rfl, getRportInfo, noNull_rows_last hs fun _ => by simp]
      simp
  simp only [listRportAdapters, emits_bind, emits_opendir, returns_opendir, forall_eq, RportsFed,
    entriesOf]
  cases env.dir (cut 64 (orNull f.sysDevPath ++ "/device")) with
  | none => simp
  | some l =>
    have hl := emits_foldlM_each NoNull (fun (_ : Unit) e => rportEntry e) env
      (forEachDir l.entries) () (fun _ e _ => he e) fun _ e _ => (table_rportEntry e).1
    simp [hl]

theorem noNull_getAdapterDetails (f : FcDeviceInfo) : Emits NoNull (getAdapterDetails f) env ↔
    RowsFed env (fun file => cut 1024 (underHost f file)) [portIdRow] ∧
      (Readable env (fun file => cut 1024 (underHost f file)) [portIdRow] →
        RowsFed env (underHost f) adapterRows) := by
  rw [getAdapterDetails, emits_bind_of (P := RowsFed env (underHost f) adapterRows),
    noNull_loadAll, survives_loadAll_iff]
  intro t ht
  have ho := loadAll_frame origin (fun a ha => origin_adapterRows a (by simp_all)) ht
  rw [emits_bind_of (P := True), noNull_loadAllInto, underHost_congr ho]
  · simp
  · intro u _
    simp only [emits_bind, emits_store, returns_store, forall_eq, emits_opendir, returns_opendir]
    cases env.dir (underHost u "device") <;> simp

/-- The details of a host, in the order in which they are gathered. -/
structure PortFed (env : Env) (name : Str) : Prop where
  driverDir : (env.dir PCI_DRIVER_PATH).isSome
  portId : RowsFed env (fun file => cut 1024 (underHost (knownHost env name) file)) [portIdRow]
  adapter : Readable env (fun file => cut 1024 (underHost (knownHost env name) file)) [portIdRow] →
    RowsFed env (underHost (knownHost env name)) adapterRows
  info : HostReadable env (knownHost env name) → InfoFed env (knownHost env name)
  rports : HostReadable env (knownHost env name) → InfoReadable env (knownHost env name) →
    0 < rportsGiven env (knownHost env name) → RportsFed env (tablePath name)

theorem noNull_finish (f : FcDeviceInfo) : Emits NoNull (finish f) env ↔ InfoFed env f ∧
    (InfoReadable env f → 0 < f.noRports →
      RportsFed env (cut 64 (orNull f.sysDevPath ++ "/device"))) := by
  rw [finish, emits_bind_of (P := 0 < f.noRports →
    RportsFed env (cut 64 (orNull f.sysDevPath ++ "/device"))), noNull_getFcInfo,
    survives_getFcInfo_iff]
  rintro ⟨s,g⟩ hg
  have ho := origin_getFcInfo hg
  have hn : g.noRports = f.noRports := congrArg (·.2.2.2.2) ho
  have hp : g.sysDevPath = f.sysDevPath := congrArg (·.1) ho
  have hl := @noNull_listRportAdapters env g
  rw [hp] at hl
  by_cases hpos : 0 < f.noRports <;> simp [hn, hpos, hl]

theorem noNull_showFcPortDetails (name : Str) :
    Emits NoNull (showFcPortDetails name) env ↔ PortFed env name := by
  have hpf : PortFed env name ↔ (env.dir PCI_DRIVER_PATH).isSome ∧
      (RowsFed env (fun file => cut 1024 (underHost (knownHost env name) file)) [portIdRow] ∧
        (Readable env (fun file => cut 1024 (underHost (knownHost env name) file)) [portIdRow] →
          RowsFed env (underHost (knownHost env name)) adapterRows)) ∧
      (HostReadable env (knownHost env name) → InfoFed env (knownHost env name) ∧
        (InfoReadable env (knownHost env name) → 0 < rportsGiven env (knownHost env name) →
          RportsFed env (tablePath name))) :=
    ⟨fun h => ⟨h.1,⟨h.2,h.3⟩,fun hr => ⟨h.4 hr,h.5 hr⟩⟩,
      fun h => ⟨h.1,h.2.1.1,h.2.1.2,fun hr => (h.2.2 hr).1,fun hr => (h.2.2 hr).2⟩⟩
  have htail : ∀ t, Returns (getAdapterDetails (knownHost env name)) env t →
      (Emits NoNull (finish t) env ↔ InfoFed env (knownHost env name) ∧
        (InfoReadable env (knownHost env name) → 0 < rportsGiven env (knownHost env name) →
          RportsFed env (tablePath name))) := fun t ht => by
    have ho := origin_getAdapterDetails ht
    have hn : t.noRports = rportsGiven env (knownHost env name) := congrArg (·.2.2.2.2) ho
    have hp : t.sysDevPath = some (hostDir name) := congrArg (·.1) ho
    rw [noNull_finish, infoFed_congr ho, infoReadable_congr ho, hn, hp]
    rfl
  have he : showFcPortDetails name = (do
      emit (.device .showFcPortDetails (some name))
      let f ← (do
        let f ← getSymbolicName (fcHost name)
        getDriverInfo f)
      let f ← getAdapterDetails f
      finish f) := by
    rw [showFcPortDetails_eq]
    simp only [prog_bind_assoc]
  rw [hpf, he, emits_bind]
  simp only [emits_emit, noNull_device, true_and, returns_emit, forall_const]
  rw [emits_bind, noNull_identify]
  apply and_congr_right
  intro hd
  simp only [returns_identify, hd, true_and, forall_eq]
  rw [emits_bind_of htail, noNull_getAdapterDetails, survives_getAdapterDetails_iff]

end ScsiCli.NullSafety
