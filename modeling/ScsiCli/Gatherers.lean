import ScsiCli.Commands
import ScsiCli.MachineRules

/-!
# What gathering can do

A gatherer reads, prints notices and may go wrong in its own arrays; a device
function also prints reports. Neither writes a file, runs a handler, validates
a sub-command or touches an array that holds a copy of an argument. Every
device function but the reset stays within this.
-/

set_option autoImplicit false

namespace ScsiCli.Gatherers
open ScsiCli.RunTrace ScsiCli.ByteString ScsiCli.NumberText ScsiCli.Records
open ScsiCli.Machine ScsiCli.SysfsUtils ScsiCli.DiskUtils ScsiCli.DiskDetails
open ScsiCli.FcpUtils ScsiCli.IscsiUtils ScsiCli.Commands ScsiCli.MachineRules

/-- The arrays of the handlers, which hold a copy of the third argument. -/
def ofArgument : Buf → Bool
  | .resetDiskStr | .statsDiskStr | .showDeviceStr => true
  | _ => false

/-- Gathering that may go wrong in the arrays of `S` only. -/
def GathersIn (S : Buf → Prop) : Event → Prop
  | .opened _ .read | .closed _ | .nullUse _ | .out (.info _) | .out (.error _) => True
  | .overrun b => S b
  | _ => False

def Outer (b : Buf) : Prop := ofArgument b = false

@[simp] theorem outer_iff (b : Buf) : Outer b ↔ ofArgument b = false := Iff.rfl

abbrev Gathers : Event → Prop := GathersIn Outer

def ReportsIn (S : Buf → Prop) : Event → Prop
  | .out _ | .device _ _ => True
  | e => GathersIn S e

abbrev Reports : Event → Prop := ReportsIn Outer

variable {S : Buf → Prop}

@[simp] theorem gathers_opened (h : Handle) : GathersIn S (.opened h .read) := trivial

@[simp] theorem gathers_closed (h : Handle) : GathersIn S (.closed h) := trivial

@[simp] theorem gathers_nullUse (s : Sink) : GathersIn S (.nullUse s) := trivial

@[simp] theorem gathers_info (t : Str) : GathersIn S (.out (.info t)) := trivial

@[simp] theorem gathers_error (t : Str) : GathersIn S (.out (.error t)) := trivial

@[simp] theorem gathers_overrun (b : Buf) : GathersIn S (.overrun b) ↔ S b := Iff.rfl

@[simp] theorem reports_out (o : Out) : ReportsIn S (.out o) := trivial

@[simp] theorem reports_device (f : Device) (arg : Option Str) : ReportsIn S (.device f arg) :=
  trivial

@[simp] theorem reports_opened (h : Handle) : ReportsIn S (.opened h .read) := trivial

@[simp] theorem reports_closed (h : Handle) : ReportsIn S (.closed h) := trivial

@[simp] theorem reports_nullUse (s : Sink) : ReportsIn S (.nullUse s) := trivial

@[simp] theorem reports_overrun (b : Buf) : ReportsIn S (.overrun b) ↔ S b := Iff.rfl

theorem reports_of_gathers {e : Event} (h : GathersIn S e) : ReportsIn S e := by
  cases e <;> first | exact h | trivial

variable {env : Env} {σ : Type}

theorem reports_emits {m : Tool σ} (h : Emits (GathersIn S) m env) : Emits (ReportsIn S) m env :=
  emits_mono h fun _ => reports_of_gathers

/-! ## Attributes -/

def CopyIn (S : Buf → Prop) : Copy → Prop
  | .unbounded b => S b
  | _ => True

theorem gathers_reading : Reading (GathersIn S) :=
  ⟨fun _ => trivial,fun _ => trivial,fun _ => trivial⟩

theorem gathers_copyIn {c : Copy} (h : CopyIn S c) (b : Buf) (hc : c = .unbounded b) :
    GathersIn S (.overrun b) := by
  subst hc
  exact h

theorem gathers_loadAll (pathOf : Str → Str) (s : σ) {rows : List (Attr σ)}
    (h : ∀ a ∈ rows, CopyIn S a.copy) : Emits (GathersIn S) (loadAll pathOf rows s) env :=
  emits_loadAll gathers_reading _ _ fun a ha => gathers_copyIn (h a ha)

theorem gathers_loadAllInto (b : Buf) (hb : ofArgument b = false) (pathOf : Str → Str) (s : σ)
    {rows : List (Attr σ)} (h : ∀ a ∈ rows, CopyIn Outer a.copy) :
    Emits Gathers (loadAllInto b pathOf rows s) env :=
  emits_loadAllInto gathers_reading ((gathers_overrun b).mpr hb) _ _ fun a ha =>
    gathers_copyIn (h a ha)

/-! ## Lookups by device number -/

theorem gathers_getDeviceNumbers (name : Str) (d : ScsiDeviceInfo) :
    Emits Gathers (getDeviceNumbers name d) env := by
  simp only [getDeviceNumbers]
  cases h : env.stat ("/dev/" ++ name) with
  | none => simp [h, ofArgument]
  | some n => simp [h, ofArgument]

theorem gathers_getHctlInfo (d : ScsiDeviceInfo) : Emits (GathersIn S) (getHctlInfo d) env := by
  simp only [getHctlInfo, emits_bind, returns_opendir, forall_eq]
  split <;> simp

theorem gathers_getDeviceEntry (path : Str) : Emits (GathersIn S) (getDeviceEntry path) env := by
  simp only [getDeviceEntry, emits_bind, returns_opendir, forall_eq]
  split
  · simp
  · split <;> simp

theorem gathers_getDeviceCount (path : Str) : Emits (GathersIn S) (getDeviceCount path) env := by
  simp [getDeviceCount]

theorem gathers_locate (e : Dirent) (d : ScsiDeviceInfo) : Emits Gathers (locate e d) env := by
  simp [locate, gathers_getDeviceNumbers, gathers_getHctlInfo]

/-! ## Disks -/

theorem gathers_getDiskVendorModel (d : ScsiDeviceInfo) :
    Emits (GathersIn S) (getDiskVendorModel d) env :=
  gathers_loadAll _ _ (by simp [vendorRow, modelRow, revRow, CopyIn])

theorem gathers_getNvmeDeviceModel (d : ScsiDeviceInfo) :
    Emits (GathersIn S) (getNvmeDeviceModel d) env :=
  gathers_loadAll _ _ (by simp [modelRow, revRow, CopyIn])

theorem gathers_getDiskType (d : ScsiDeviceInfo) : Emits (GathersIn S) (getDiskType d) env :=
  gathers_loadAll _ _ (by simp [typeRow, CopyIn])

theorem gathers_getDiskQueueData (d : ScsiDeviceInfo) :
    Emits (GathersIn S) (getDiskQueueData d) env :=
  gathers_loadAll _ _ (by simp [queueRows, queueRow, queueText, CopyIn])

theorem gathers_nvmeRows (pathOf : Str → Str) (d : ScsiDeviceInfo) :
    Emits (GathersIn S) (loadAll pathOf nvmeRows d) env :=
  gathers_loadAll _ _ (by simp [nvmeRows, textRow, intRow, u64Row, CopyIn])

theorem gathers_scsiRows (pathOf : Str → Str) (d : ScsiDeviceInfo) :
    Emits (GathersIn S) (loadAll pathOf scsiRows d) env :=
  gathers_loadAll _ _ (by simp [scsiRows, textRow, intRow, u64Row, CopyIn])

theorem gathers_validateEnclosureType (d : ScsiDeviceInfo) :
    Emits (GathersIn S) (validateEnclosureType d) env := by
  have h : Emits (GathersIn S) (loadAll (enclosureTypePath d) [enclosureTypeRow] d) env :=
    gathers_loadAll _ _ (by simp [enclosureTypeRow, CopyIn])
  simp [validateEnclosureType, h]

theorem gathers_getEnclosureDetails (d : ScsiDeviceInfo) :
    Emits (GathersIn S) (getEnclosureDetails d) env := by
  have h : Emits (GathersIn S) (loadAll (underDisk d) [modelRow 8, vendorRow 8] d) env :=
    gathers_loadAll _ _ (by simp [modelRow, vendorRow, CopyIn])
  simp [getEnclosureDetails, h]

theorem reports_enclosureLoop (entries : List Dirent) :
    Emits (ReportsIn S) (enclosureLoop entries) env := by
  induction entries with
  | nil => simp [enclosureLoop]
  | cons e es ih =>
    simp [enclosureLoop, ih, reports_emits (gathers_validateEnclosureType _),
      reports_emits (gathers_getEnclosureDetails _)]

theorem reports_listEnclosure : Emits (ReportsIn S) listEnclosure env := by
  cases h : env.dir SYSFS_ENCLOSURE_PATH <;> simp [listEnclosure, h, reports_enclosureLoop]

theorem reports_rows {test : Dirent → Bool} {body : Dirent → Tool Unit}
    (h : ∀ e, Emits (ReportsIn S) (body e) env) (entries : List Dirent) :
    Emits (ReportsIn S) (rows test body entries) env :=
  emits_foldlM _ _ _ _ _ fun _ e _ => by
    cases test e <;> simp [h]

theorem reports_blockRow (e : Dirent) : Emits Reports (blockRow e) env := by
  simp [blockRow, reports_emits (gathers_getDiskType _), reports_emits (gathers_locate _ _),
    reports_emits (gathers_getDiskVendorModel _)]

theorem reports_nvmeRow (e : Dirent) : Emits Reports (nvmeRow e) env := by
  simp [nvmeRow, reports_emits (gathers_locate _ _),
    reports_emits (gathers_getNvmeDeviceModel _)]

theorem reports_listBlockDevs : Emits Reports listBlockDevs env := by
  cases h : env.dir SYSFS_BLOCK_PATH <;>
    simp [listBlockDevs, h, reports_rows, reports_blockRow, reports_nvmeRow]

theorem reports_listing (f : Device) (path label : Str) (header : Out) (test : Dirent → Bool)
    {body : Dirent → Tool Unit} (hb : ∀ e, Emits (ReportsIn S) (body e) env) :
    Emits (ReportsIn S) (listing f path label header test body) env := by
  cases h : env.dir path <;> simp [listing, h, reports_rows hb]

theorem reports_listControllers : Emits Reports listControllers env :=
  reports_listing _ _ _ _ _ fun e => by
    simp [controllerRow, reports_emits (gathers_getDiskType _),
      reports_emits (gathers_locate _ _), reports_emits (gathers_getDiskVendorModel _)]

theorem reports_listCdromDevs : Emits (ReportsIn S) listCdromDevs env :=
  reports_listing _ _ _ _ _ fun e => by
    simp [cdromRow, reports_emits (gathers_getDiskType _)]

theorem reports_listTapeDevs : Emits (ReportsIn S) listTapeDevs env :=
  reports_listing _ _ _ _ _ fun e => by
    simp [tapeRow, reports_emits (gathers_getDiskType _)]

theorem reports_listGenericDevs : Emits Reports listGenericDevs env :=
  reports_listing _ _ _ _ _ fun e => by
    simp [genericRow, reports_emits (gathers_locate _ _),
      reports_emits (gathers_getDiskVendorModel _)]

theorem reports_listMultipathDevs : Emits Reports listMultipathDevs env :=
  reports_listing _ _ _ _ _ fun e => by
    simp [mpathRow, reports_emits (gathers_locate _ _),
      reports_emits (gathers_getDiskVendorModel _)]

theorem reports_getDiskStats (d : ScsiDeviceInfo) (name : Str) :
    Emits (ReportsIn S) (getDiskStats d name) env := by
  simp only [getDiskStats, emits_bind, emits_emit, returns_emit, emits_fopenRead,
    returns_fopenRead, forall_eq, reports_device, reports_opened, true_and, implies_true,
    forall_const]
  split
  · simp
  · split <;> simp

theorem reports_getSingleNvmeDiskDetails (name : Str) (d : ScsiDeviceInfo) :
    Emits (ReportsIn S) (getSingleNvmeDiskDetails name d) env := by
  simp [getSingleNvmeDiskDetails, reports_emits (gathers_nvmeRows _ _),
    reports_emits (gathers_getDiskQueueData _)]

theorem reports_getSingleScsiDiskDetails (name : Str) (d : ScsiDeviceInfo) :
    Emits (ReportsIn S) (getSingleScsiDiskDetails name d) env := by
  simp [getSingleScsiDiskDetails, reports_emits (gathers_scsiRows _ _),
    reports_emits (gathers_getDiskQueueData _)]

theorem reports_showDiskDetails (arg : Option Str) (d : ScsiDeviceInfo) :
    Emits (ReportsIn S) (showDiskDetails arg d) env := by
  have he : ∀ name s e, Emits (ReportsIn S) (showDiskEntry name s e) env := fun name s e => by
    simp [showDiskEntry, reports_getSingleNvmeDiskDetails, reports_getSingleScsiDiskDetails]
  cases h : env.dir SYSFS_BLOCK_PATH <;>
    simp [showDiskDetails, diskNameOf, h, emits_foldlM, he]

theorem reports_showEnclosureDetails (sub : Str) (d : ScsiDeviceInfo) :
    Emits (ReportsIn S) (showEnclosureDetails sub d) env := by
  cases h : d.diskName <;> simp [showEnclosureDetails, h]

theorem reports_diskOperation (f : Device) (arg : Option Str) :
    Emits (ReportsIn S) (diskOperation f arg) env := by
  cases arg <;> simp [diskOperation]

/-! ## Fibre Channel -/

theorem gathers_getSymbolicName (f : FcDeviceInfo) : Emits (GathersIn S) (getSymbolicName f) env := by
  simp only [getSymbolicName]
  split
  · simp
  · simp only [emits_bind, emits_fopenRead, returns_fopenRead, forall_eq]
    split
    · simp
    · split <;> simp

theorem gathers_getDriverInfo (f : FcDeviceInfo) : Emits (GathersIn S) (getDriverInfo f) env := by
  simp only [getDriverInfo, emits_bind, emits_opendir, returns_opendir, forall_eq]
  split
  · simp
  · split <;> simp

theorem gathers_getRportInfo (r : FcRportInfo) : Emits (GathersIn S) (getRportInfo r) env :=
  gathers_loadAll _ _ (by simp [rportRows, rportRow, CopyIn])

theorem emits_listRportAdapters {Q : Event → Prop} (hg : ∀ e, GathersIn S e → Q e)
    (hh : Q (.out .fcRportHeader)) (hr : ∀ r, Q (.out (.fcRportInfo r))) (f : FcDeviceInfo) :
    Emits Q (listRportAdapters f) env := by
  have he : ∀ e, Emits Q (rportEntry e) env := by
    intro e
    unfold rportEntry
    split
    · simp [emits_mono (gathers_getRportInfo _) hg, hr]
    · simp
  have ho : ∀ h, Q (.opened h .read) := fun h => hg _ (gathers_opened h)
  have hc : ∀ h, Q (.closed h) := fun h => hg _ (gathers_closed h)
  have ht : ∀ t, Q (.out (.error t)) := fun t => hg _ (gathers_error t)
  simp only [listRportAdapters, emits_bind, emits_opendir, returns_opendir, forall_eq, ho,
    implies_true, true_and]
  split <;> simp [emits_foldlM, he, hh, hc, ht]

theorem reports_listRportAdapters (f : FcDeviceInfo) :
    Emits (ReportsIn S) (listRportAdapters f) env :=
  emits_listRportAdapters (fun _ => reports_of_gathers) trivial (fun _ => trivial) f

theorem gathers_getAdapterDetails (f : FcDeviceInfo) :
    Emits Gathers (getAdapterDetails f) env := by
  have hp : ∀ pathOf f, Emits Gathers (loadAll pathOf [portIdRow] f) env := fun _ _ =>
    gathers_loadAll _ _ (by simp [portIdRow, CopyIn])
  have ha : ∀ pathOf f, Emits Gathers
      (loadAllInto .getAdapterDetailsPath pathOf adapterRows f) env := fun _ _ =>
    gathers_loadAllInto _ rfl _ _
      (by simp [adapterRows, portNameRow, hostText, CopyIn, ofArgument])
  simp only [getAdapterDetails, emits_bind, hp, ha, emits_store, returns_store, emits_opendir,
    returns_opendir, forall_eq]
  refine ⟨trivial,fun _ _ => ⟨trivial,fun f _ => ⟨fun _ => rfl,by simp,?_⟩⟩⟩
  split <;> simp

theorem gathers_loadLinkState (f : FcDeviceInfo) : Emits (GathersIn S) (loadLinkState f) env := by
  simp only [loadLinkState, emits_bind, emits_fopenRead, returns_fopenRead, forall_eq]
  split
  · simp
  · split <;> simp

theorem gathers_getLinkInfo (f : FcDeviceInfo) : Emits (GathersIn S) (getLinkInfo f) env := by
  have hr : ∀ pathOf f, Emits (GathersIn S) (loadAll pathOf hostRows f) env := fun _ _ =>
    gathers_loadAll _ _ (by simp [hostRows, fcText, CopyIn])
  have hm : ∀ pathOf f, Emits (GathersIn S) (loadAll pathOf [activeModeRow] f) env := fun _ _ =>
    gathers_loadAll _ _ (by simp [activeModeRow, fcText, CopyIn])
  simp only [getLinkInfo, emits_bind, gathers_loadLinkState, true_and]
  intro g _
  cases g <;> simp [hr, hm]

theorem gathers_qlaRows (pathOf : Str → Str) (f : FcDeviceInfo) :
    Emits (GathersIn S) (loadAll pathOf qlaRows f) env :=
  gathers_loadAll _ _ (by simp [qlaRows, fcText, CopyIn])

theorem gathers_lpfcRows (pathOf : Str → Str) (f : FcDeviceInfo) :
    Emits (GathersIn S) (loadAll pathOf lpfcRows f) env ∧
      Emits (GathersIn S) (loadAll pathOf [lpfcSpeedRow] f) env ∧
        Emits (GathersIn S) (loadAll pathOf [lpfcVersionRow] f) env :=
  ⟨gathers_loadAll _ _ (by simp [lpfcRows, fcText, CopyIn]),
    gathers_loadAll _ _ (by simp [lpfcSpeedRow, fcText, CopyIn]),
    gathers_loadAll _ _ (by simp [lpfcVersionRow, fcText, CopyIn])⟩

theorem gathers_getFcInfo (f : FcDeviceInfo) : Emits (GathersIn S) (getFcInfo f) env := by
  cases h : f.driverName with
  | none => simp [getFcInfo, h]
  | some driver =>
    simp [getFcInfo, h, gathers_getLinkInfo, gathers_qlaRows, gathers_lpfcRows]

theorem reports_fcAdapterRow (e : Dirent) : Emits (ReportsIn S) (fcAdapterRow e) env := by
  simp [fcAdapterRow, reports_emits (gathers_getSymbolicName _),
    reports_emits (gathers_getDriverInfo _), reports_emits (gathers_getFcInfo _)]

theorem reports_listFcAdapters : Emits (ReportsIn S) listFcAdapters env := by
  cases h : env.dir SYSFS_FC_HOST_PATH <;>
    simp [listFcAdapters, h, emits_foldlM, reports_fcAdapterRow]

theorem reports_showFcPortDetails (arg : Str) : Emits Reports (showFcPortDetails arg) env := by
  simp [showFcPortDetails, reports_emits (gathers_getSymbolicName _),
    reports_emits (gathers_getDriverInfo _), reports_emits (gathers_getAdapterDetails _),
    reports_emits (gathers_getFcInfo _), reports_listRportAdapters]

theorem reports_getFcDevStats (name : Str) (f : FcDeviceInfo) :
    Emits (ReportsIn S) (getFcDevStats name f) env := by
  have h : ∀ pathOf f, Emits (GathersIn S) (loadAll pathOf statRows f) env := fun _ _ =>
    gathers_loadAll _ _ (by simp [statRows, statRow, CopyIn])
  simp [getFcDevStats, reports_emits (h _ _)]

theorem reports_portOperation (f : Device) (arg : Option Str) :
    Emits (ReportsIn S) (portOperation f arg) env := by
  cases arg <;> simp [portOperation]

/-! ## iSCSI -/

theorem gathers_getIscsiTransport (i : IscsiDevInfo) :
    Emits (GathersIn S) (getIscsiTransport i) env := by
  simp only [getIscsiTransport, emits_bind, emits_opendir, returns_opendir, forall_eq]
  split
  · simp
  · split <;> simp

theorem gathers_fillSessionInfo (i : IscsiDevInfo) : Emits Gathers (fillSessionInfo i) env := by
  simp only [fillSessionInfo, emits_bind, emits_store, returns_store, emits_opendir,
    returns_opendir, forall_eq]
  refine ⟨fun _ => rfl,by simp,?_⟩
  split
  · simp
  · split <;> simp [ofArgument]

theorem gathers_fillConnectionInfo (i : IscsiDevInfo) :
    Emits Gathers (fillConnectionInfo i) env := by
  have hc : ∀ path i e, Emits Gathers (connectionEntry path i e) env := fun _ _ _ => by
    simp [connectionEntry, ofArgument]
  have ht : ∀ pathOf i, Emits Gathers
      (loadAllInto .fillConnectionSessionPath pathOf [targetNameRow] i) env := fun _ _ =>
    gathers_loadAllInto _ rfl _ _ (by simp [targetNameRow, CopyIn, ofArgument])
  have hr : ∀ pathOf i, Emits Gathers
      (loadAllInto .fillConnectionConnectionPath pathOf connRows i) env := fun _ _ =>
    gathers_loadAllInto _ rfl _ _ (by simp [connRows, CopyIn, ofArgument])
  simp only [fillConnectionInfo, emits_bind, emits_store, returns_store, emits_opendir,
    returns_opendir, forall_eq]
  refine ⟨fun _ => rfl,by simp,?_⟩
  split
  · simp
  · simp [emits_foldlM, hc, ht, hr]

theorem reports_iscsiRow (e : Dirent) : Emits Reports (iscsiRow e) env := by
  simp [iscsiRow, reports_emits (gathers_getIscsiTransport _),
    reports_emits (gathers_fillSessionInfo _), reports_emits (gathers_fillConnectionInfo _)]

theorem reports_listIscsiDevs : Emits Reports listIscsiDevs env := by
  cases h : env.dir SYSFS_ISCSI_HOST_PATH <;>
    simp [listIscsiDevs, h, reports_emits (gathers_getDeviceCount _), emits_foldlM,
      reports_iscsiRow]

theorem reports_attachedDisk (name : Str) (s : IscsiSession) :
    Emits (ReportsIn S) (attachedDisk name s) env := by
  simp [attachedDisk, reports_emits (gathers_getDeviceEntry _)]

theorem reports_hctlEntry (path : Str) (s : IscsiSession) (e : Dirent) :
    Emits (ReportsIn S) (hctlEntry path s e) env := by
  simp [hctlEntry, reports_attachedDisk]

theorem reports_targetEntry (host : Option Str) (path : Str) (s : IscsiSession) (e : Dirent) :
    Emits (ReportsIn S) (targetEntry host path s e) env := by
  have h : ∀ path s, Emits (ReportsIn S) (getIscsiDiskHctl host path s) env := fun path s => by
    simp only [getIscsiDiskHctl, emits_bind, emits_opendir, returns_opendir, forall_eq]
    split <;> simp [emits_foldlM, reports_hctlEntry]
  simp [targetEntry, h]

theorem reports_getSessionScsiDisks (i : IscsiDevInfo) (s : IscsiSession) :
    Emits (ReportsIn S) (getSessionScsiDisks i s) env := by
  simp only [getSessionScsiDisks]
  split
  · simp
  · simp only [emits_bind, emits_opendir, returns_opendir, forall_eq]
    split <;> simp [emits_foldlM, reports_targetEntry]

theorem reports_getIscsiSessionInfo (i : IscsiDevInfo) (s : IscsiSession) :
    Emits (ReportsIn S) (getIscsiSessionInfo i s) env := by
  have h : ∀ pathOf s, Emits (GathersIn S) (loadAll pathOf sessionRows s) env := fun _ _ =>
    gathers_loadAll _ _ (by simp [sessionRows, sessText, sessInt, CopyIn])
  simp only [getIscsiSessionInfo, emits_bind, reports_emits (h _ _), true_and]
  intro s _
  split
  · simp
  · simp only [emits_bind, emits_opendir, returns_opendir, forall_eq]
    split
    · simp
    · simp [reports_getSessionScsiDisks]

theorem reports_getIscsiConnectionInfo (i : IscsiDevInfo) (c : IscsiConnection) :
    Emits Reports (getIscsiConnectionInfo i c) env := by
  have h : ∀ pathOf c, Emits Gathers
      (loadAllInto .iscsiConnectionConnStr pathOf connectionRows c) env := fun _ _ =>
    gathers_loadAllInto _ rfl _ _
      (by simp [connectionRows, connText, connInt, CopyIn, ofArgument])
  simp [getIscsiConnectionInfo, reports_emits (h _ _), ofArgument]

theorem reports_showIscsiDetails (arg : Str) : Emits Reports (showIscsiDetails arg) env := by
  simp [showIscsiDetails, reports_emits (gathers_fillSessionInfo _),
    reports_emits (gathers_fillConnectionInfo _), reports_getIscsiSessionInfo,
    reports_getIscsiConnectionInfo]

theorem reports_iscsiOperation (f : Device) (arg : Option Str) :
    Emits Reports (iscsiOperation f arg) env := by
  cases arg <;> simp [iscsiOperation, ofArgument]

end ScsiCli.Gatherers
