import ScsiCli.Reach
import ScsiCli.ShowDisk

/-!
# How far the device functions reach

Each device function keeps to its own directories. A row of a disk listing is
told more narrowly: it keeps to the entry of its disk, to the node of that name
and to the directory that is looked up by number.
-/

set_option autoImplicit false

namespace ScsiCli.DeviceReach
open ScsiCli.RunTrace ScsiCli.Footprint ScsiCli.ByteString ScsiCli.NumberText ScsiCli.Records
open ScsiCli.Machine ScsiCli.SysfsUtils ScsiCli.DiskUtils ScsiCli.DiskDetails ScsiCli.FcpUtils
open ScsiCli.IscsiUtils ScsiCli.MachineRules ScsiCli.Completion ScsiCli.IscsiCompletion
open ScsiCli.ShowDisk ScsiCli.Reach

variable {P : Str → Prop} {env env' : Env}

theorem admits_child {root : Str} (hp : Admits P root) (name : Str) :
    Admits P (root ++ lit "/" ++ name) := fun _ h =>
  hp _ (extends_trans (extends_append (extends_refl root) name) h)

theorem admits_file {root : Str} (hp : Admits P root) (file : Str) : P (root ++ lit "/" ++ file) :=
  hp _ (extends_append (extends_refl root) file)

theorem admits_self {root : Str} (hp : Admits P root) : P root := hp _ (extends_refl root)

theorem admits_cut {root p : Str} (hp : Admits P root) (hr : Extends root p) {n : ℕ}
    (hn : root.length < n) (file : Str) : P (cut n (p ++ lit "/" ++ file)) :=
  hp _ (extends_cut (extends_append hr file) hn)

/-! ## Disks -/

/-- The directories of a row: the entry of its disk, its node, and the lookup by number. -/
structure RowAdmits (P : Str → Prop) (path name : Str) : Prop where
  entry : Admits P (path ++ lit "/" ++ name)
  node : P (lit "/dev" ++ lit "/" ++ name)
  lookup : Admits P (lit "/sys/dev/block")

theorem rowAdmits_of_roots {path : Str} (hp : Admits P path) (hd : Admits P DEV_DIR_PATH)
    (hs : Admits P (lit "/sys/dev/block")) (name : Str) : RowAdmits P path name :=
  ⟨admits_child hp name,admits_file hd name,hs⟩

theorem underDisk_named {path : Str} (hl : path.length < 200) (e : Dirent) (file : Str) :
    underDisk (named path e) file = cut 1024 (path ++ lit "/" ++ e.dName ++ lit "/" ++ file) := by
  have hn := e.name_ok.2.2.2
  have hc : cut 512 (path ++ lit "/" ++ e.dName) = path ++ lit "/" ++ e.dName := by
    apply cut_of_length_lt
    simp only [List.length_append, lit]
    simp
    omega
  rw [underDisk, named, hc]
  rfl

theorem admits_underDisk {path : Str} {e : Dirent} (hp : Admits P (path ++ lit "/" ++ e.dName))
    (hl : path.length < 200) (file : Str) : P (underDisk (named path e) file) := by
  have hn := e.name_ok.2.2.2
  rw [underDisk_named hl]
  apply admits_cut hp (extends_refl _)
  simp only [List.length_append, lit]
  simp
  omega

theorem diskPath_getDiskType {d d' : ScsiDeviceInfo} (h : Returns (getDiskType d) env d') :
    d'.diskPath = d.diskPath := by
  have ht : ∀ (n : ℤ) (d : ScsiDeviceInfo), { d with deviceType := n }.diskPath = d.diskPath :=
    fun _ _ => rfl
  have hf : ∀ a ∈ [typeRow], Frames (fun d : ScsiDeviceInfo => d.diskPath) a :=
    List.forall_mem_singleton.mpr fun _ d => ht _ d
  exact loadAll_frame (fun d : ScsiDeviceInfo => d.diskPath) hf h

theorem admits_located {path : Str} {e : Dirent} (hp : RowAdmits P path e.dName)
    (hl : path.length < 200) {d d' : ScsiDeviceInfo} (hr : Returns (locate e d) env d')
    (hd : d.diskPath = (named path e).diskPath) (file : Str) : P (underDisk d' file) := by
  obtain ⟨t,ht,hpl⟩ := @locate_spec env e d
  obtain rfl := returns_unique ht hr
  have hpath : t.diskPath = (named path e).diskPath := (congrArg (·.2.1) hpl).trans hd
  have hu : underDisk t file = underDisk (named path e) file := by rw [underDisk, underDisk, hpath]
  rw [hu]
  exact admits_underDisk hp.entry hl file

theorem short_paths : SYSFS_BLOCK_PATH.length < 200 ∧ SYSFS_SCSI_GEN_PATH.length < 200 ∧
    DEV_DIR_PATH.length < 200 := by
  simp [SYSFS_BLOCK_PATH, SYSFS_SCSI_GEN_PATH, DEV_DIR_PATH, lit]

section
variable (h : AlikeOn P env env')
include h

theorem stays_getDeviceNumbers {name : Str} (hp : P (lit "/dev" ++ lit "/" ++ name))
    (d : ScsiDeviceInfo) : Stays P env env' none (getDeviceNumbers name d) := by
  have hd : lit "/dev/" = lit "/dev" ++ lit "/" := by simp [lit]
  have hq : P (lit "/dev/" ++ name) := by rwa [hd]
  refine orderly_bind (stays_store _ _) fun path hr => ?_
  obtain rfl := (returns_store _ _ _).mp hr
  refine orderly_ask (by simp only [h.openFd _ hq, h.stat _ hq]) ?_
  -- The rest is the same whether a descriptor was opened or not.
  refine orderly_ite (fun _ => orderly_bind (orderly_emit trivial rfl) fun _ _ => ?_) fun _ => ?_
  all_goals
    refine orderly_ite (fun _ => ?_) fun _ => ?_
    · exact orderly_bind (stays_printInfo _) fun _ _ =>
        orderly_bind (orderly_emit trivial rfl) fun _ _ => orderly_pure _
    · cases env.stat (lit "/dev/" ++ name) with
      | none => exact orderly_bind (stays_printErr _) fun _ _ =>
          orderly_bind (orderly_emit trivial rfl) fun _ _ => orderly_pure _
      | some n => exact orderly_bind (orderly_emit trivial rfl) fun _ _ => orderly_pure _

theorem stays_getHctlInfo (hp : Admits P (lit "/sys/dev/block")) (d : ScsiDeviceInfo) :
    Stays P env env' none (getHctlInfo d) := by
  have hb : P (cut 256 (lit "/sys/dev/block/" ++ decimal (int32 d.major) ++ lit ":" ++
      decimal (int32 d.minor) ++ lit "/device/scsi_device")) := by
    have hs : lit "/sys/dev/block/" = lit "/sys/dev/block" ++ lit "/" := by simp [lit]
    rw [hs]
    simp only [List.append_assoc]
    rw [← List.append_assoc]
    exact admits_cut hp (extends_refl _) (by simp [lit]) _
  refine orderly_bind (stays_opendir h hb) fun o _ => ?_
  cases o with
  | none => exact orderly_pure _
  | some es => exact orderly_bind (stays_closedir _) fun _ _ => orderly_pure _

theorem stays_locate {path : Str} {e : Dirent} (hp : RowAdmits P path e.dName)
    (d : ScsiDeviceInfo) : Stays P env env' none (locate e d) :=
  orderly_bind (stays_getDeviceNumbers h hp.node d) fun d _ =>
    orderly_bind (stays_getHctlInfo h hp.lookup d) fun _ _ => orderly_pure _

theorem stays_getDiskType {d : ScsiDeviceInfo} (hp : ∀ file, P (underDisk d file)) :
    Stays P env env' none (getDiskType d) := stays_loadAll h hp _ _

theorem stays_getDiskVendorModel {d : ScsiDeviceInfo} (hp : ∀ file, P (underDisk d file)) :
    Stays P env env' none (getDiskVendorModel d) := stays_loadAll h hp _ _

theorem stays_getNvmeDeviceModel {d : ScsiDeviceInfo} (hp : ∀ file, P (underDisk d file)) :
    Stays P env env' none (getNvmeDeviceModel d) := stays_loadAll h hp _ _

theorem stays_blockRow {e : Dirent} (hp : RowAdmits P SYSFS_BLOCK_PATH e.dName) :
    Stays P env env' none (blockRow e) := by
  have hl := short_paths.1
  refine orderly_bind (stays_getDiskType h (admits_underDisk hp.entry hl)) fun d hd =>
    orderly_bind (stays_locate h hp _) fun d' hr => ?_
  have hn := diskPath_getDiskType hd
  exact orderly_bind (stays_getDiskVendorModel h (admits_located hp hl hr hn))
    fun _ _ => stays_print _

theorem stays_nvmeRow {e : Dirent} (hp : RowAdmits P SYSFS_BLOCK_PATH e.dName) :
    Stays P env env' none (nvmeRow e) :=
  orderly_bind (stays_locate h hp _) fun _ hr =>
    orderly_bind (stays_getNvmeDeviceModel h (admits_located hp short_paths.1 hr rfl))
      fun _ _ => stays_print _

theorem stays_controllerRow {e : Dirent} (hp : RowAdmits P SYSFS_SCSI_GEN_PATH e.dName) :
    Stays P env env' none (controllerRow e) := by
  have hl := short_paths.2.1
  refine orderly_bind (stays_getDiskType h (admits_underDisk hp.entry hl)) fun d hd =>
    orderly_bind (stays_locate h hp _) fun d' hr => ?_
  have hn := diskPath_getDiskType hd
  exact orderly_bind (stays_getDiskVendorModel h (admits_located hp hl hr hn))
    fun _ _ => orderly_ite (fun _ => stays_print _) fun _ => orderly_pure _

theorem stays_genericRow {e : Dirent} (hp : RowAdmits P DEV_DIR_PATH e.dName) :
    Stays P env env' none (genericRow e) :=
  orderly_bind (stays_locate h hp _) fun _ hr =>
    orderly_bind (stays_loadAll h (fun file => admits_located hp short_paths.2.2 hr rfl file) _ _)
      fun _ _ => stays_print _

theorem stays_mpathRow {e : Dirent} (hp : RowAdmits P SYSFS_BLOCK_PATH e.dName) :
    Stays P env env' none (mpathRow e) :=
  orderly_bind (stays_locate h hp _) fun _ hr =>
    orderly_bind (stays_getDiskVendorModel h (admits_located hp short_paths.1 hr rfl))
      fun _ _ => stays_print _

theorem stays_typeRow {e : Dirent} (hp : Admits P DEV_DIR_PATH) {k : Tool Unit}
    (hk : Stays P env env' none k) :
    Stays P env env' none (do
      let _ ← getDiskType (named DEV_DIR_PATH e)
      k) :=
  orderly_bind (stays_getDiskType h (admits_underDisk (admits_child hp _)
    short_paths.2.2)) fun _ _ => hk

omit h in
theorem stays_rows {test : Dirent → Bool} {body : Dirent → Tool Unit}
    (hb : ∀ e, Stays P env env' none (body e)) (es : List Dirent) :
    Stays P env env' none (rows test body es) :=
  orderly_each fun _ e _ => orderly_ite (fun _ => hb e) fun _ => orderly_pure _

theorem stays_listing (f : Device) {path : Str} (hp : P path) (label : Str) (header : Out)
    (test : Dirent → Bool) {body : Dirent → Tool Unit}
    (hb : ∀ e, Stays P env env' none (body e)) :
    Stays P env env' none (listing f path label header test body) := by
  refine orderly_bind (stays_device _ _) fun _ _ => orderly_bind (stays_opendir h hp) fun o _ => ?_
  cases o with
  | none => exact orderly_pure _
  | some es =>
    exact orderly_bind (stays_print _) fun _ _ => orderly_bind (stays_print _) fun _ _ =>
      orderly_bind (stays_rows hb es) fun _ _ =>
        orderly_bind (stays_closedir _) fun _ _ => orderly_pure _

theorem stays_listBlockDevs (hp : ∀ name, RowAdmits P SYSFS_BLOCK_PATH name)
    (hs : P SYSFS_BLOCK_PATH) : Stays P env env' none listBlockDevs := by
  refine orderly_bind (stays_device _ _) fun _ _ => orderly_bind (stays_opendir h hs) fun o _ => ?_
  cases o with
  | none => exact orderly_bind (stays_printInfo _) fun _ _ => orderly_pure _
  | some es =>
    refine orderly_bind (stays_print _) fun _ _ => orderly_bind (stays_print _) fun _ _ =>
      orderly_bind (stays_rows (fun e => stays_blockRow h (hp e.dName)) es) fun _ _ =>
        orderly_bind (stays_closedir _) fun _ _ =>
          orderly_bind (stays_opendir h hs) fun o _ => ?_
    cases o with
    | none => exact orderly_bind (stays_printInfo _) fun _ _ => orderly_pure _
    | some es =>
      exact orderly_bind (stays_print _) fun _ _ => orderly_bind (stays_print _) fun _ _ =>
        orderly_bind (stays_rows (fun e => stays_nvmeRow h (hp e.dName)) es) fun _ _ =>
          orderly_bind (stays_closedir _) fun _ _ => orderly_pure _

theorem stays_getDiskStats {name : Str} (hp : P (cut 256 ("/sys/block/" ++ name ++ "/stat")))
    (d : ScsiDeviceInfo) : Stays P env env' none (getDiskStats d name) := by
  refine orderly_bind (stays_device _ _) fun _ _ => stays_fopenRead h hp ?_ fun fp => ?_
  · exact orderly_bind (stays_printInfo _) fun _ _ => orderly_pure _
  · have hs := fun a => @stays_stream P env env' (ℤ × ScsiDeviceInfo) _ _ hp (pure ())
      (fun _ => pure a) (orderly_pure ()) (by simp) fun _ => orderly_pure a
    cases hg : fgets 256 fp <;> simpa [hg] using hs _

/-! ## Enclosures -/

omit h in
theorem extends_enclosureRecord (e : Dirent) :
    Extends SYSFS_ENCLOSURE_PATH (orNull (enclosureRecord e).diskPath) :=
  extends_cut (extends_append (extends_refl _) _) (by simp [SYSFS_ENCLOSURE_PATH, lit])

theorem stays_enclosureLoop (hp : Admits P SYSFS_ENCLOSURE_PATH) (es : List Dirent) :
    Stays P env env' none (enclosureLoop es) := by
  have hl : SYSFS_ENCLOSURE_PATH.length < 32 := by simp [SYSFS_ENCLOSURE_PATH, lit]
  induction es with
  | nil => exact orderly_bind (stays_closedir _) fun _ _ => orderly_pure _
  | cons e es ih =>
    refine orderly_ite (fun _ => ?_) fun _ => ih
    have hb := extends_enclosureRecord e
    refine orderly_bind ?_ fun r hr => orderly_ite (fun _ => orderly_pure _) fun _ => ?_
    · refine orderly_bind (stays_loadAll h (fun file => admits_cut hp hb hl file) _ _)
        fun d _ => orderly_ite (fun _ => orderly_pure _) fun _ => orderly_pure _
    -- Neither outcome of the validation changes the path of the record.
    have hd : r.2.diskPath = (enclosureRecord e).diskPath := by
      rw [(returns_validateEnclosureType e r).mp hr]
      split <;> rfl
    have hu : ∀ file, P (underDisk r.2 file) := fun file => by
      rw [underDisk, hd]
      exact admits_cut hp hb (by omega) file
    refine orderly_bind ?_ fun t _ => orderly_bind (stays_print _) fun _ _ =>
      orderly_ite (fun _ => orderly_bind (stays_closedir _) fun _ _ => orderly_pure _) fun _ => ih
    exact orderly_bind (stays_openSysfsStatsFile h (hu _)) fun p _ =>
      orderly_bind (stays_snprintfFmt h _ _) fun t _ =>
        orderly_ite (fun _ => orderly_pure _) fun _ =>
          orderly_bind (stays_loadAll h hu _ _) fun _ _ => orderly_pure _

theorem stays_listEnclosure (hp : Admits P SYSFS_ENCLOSURE_PATH) :
    Stays P env env' none listEnclosure := by
  refine orderly_bind (stays_device _ _) fun _ _ =>
    orderly_bind (stays_opendir h (admits_self hp)) fun o _ => ?_
  cases o with
  | none => exact orderly_pure _
  | some es =>
    exact orderly_bind (stays_print _) fun _ _ => orderly_bind (stays_print _) fun _ _ =>
      stays_enclosureLoop h hp es

/-! ## One disk -/

/-- A details report reads below the path of its record, which no attribute replaces. -/
theorem stays_details {root : Str} (hp : Admits P root) (hl : root.length < 256)
    {d : ScsiDeviceInfo} (hd : d.diskPath = some root) {rows : List (Attr ScsiDeviceInfo)}
    (hr : ∀ a ∈ rows, Frames subject a) (o : ScsiDeviceInfo → Out) :
    Stays P env env' none (do
      let d ← loadAll (underDisk d) rows d
      let d ← getDiskQueueData d
      print (o d)
      pure d) := by
  have hu : ∀ file, P (underDisk d file) := fun file => by
    rw [underDisk, hd]
    exact admits_cut hp (extends_refl root) (by omega) file
  refine orderly_bind (stays_loadAll h hu _ _) fun d' hr' => ?_
  have hs : d'.diskPath = some root := (congrArg (·.2) (loadAll_frame subject hr hr')).trans hd
  have hq : ∀ file, P (queuePath d' file) := fun file => by
    rw [queuePath, hs]
    have hb : Extends root (root ++ lit "/queue") :=
      extends_rest (extends_refl root) (by simp [lit])
    exact admits_cut hp (extends_cut hb hl) (by omega) file
  exact orderly_bind (stays_loadAll h hq _ _) fun _ _ =>
    orderly_bind (stays_print _) fun _ _ => orderly_pure _

theorem stays_showDiskEntry {name : Str} (hl : name.length ≤ 15) {e : Dirent}
    (hp : name <+: e.dName → Admits P (SYSFS_BLOCK_PATH ++ lit "/" ++ name))
    (s : ℕ × ScsiDeviceInfo) : Stays P env env' none (showDiskEntry name s e) := by
  have hr : (SYSFS_BLOCK_PATH ++ lit "/" ++ name).length < 128 := by
    simp [SYSFS_BLOCK_PATH, lit]
    omega
  refine orderly_ite (fun hc => ?_) fun _ => orderly_ite (fun hc => ?_) fun _ => orderly_pure _
  · rw [Bool.and_eq_true, strncmpEq_whole] at hc
    refine orderly_bind (stays_details h (hp hc.1) (by omega) ?_ subject_detailRows.1 _)
      fun _ _ => orderly_pure _
    exact congrArg some (cut_of_length_lt (by omega))
  · rw [strncmpEq_comm, strncmpEq_whole] at hc
    refine orderly_bind (stays_details h (hp hc) (by omega) ?_ subject_detailRows.2 _)
      fun _ _ => orderly_pure _
    exact congrArg some (cut_of_length_lt hr)

theorem stays_showDiskDetails (hs : P SYSFS_BLOCK_PATH) {arg : Option Str}
    (hp : ∀ name, Returns (diskNameOf arg) env name →
      (∃ e ∈ blockEntries env, name <+: e.dName) → Admits P (SYSFS_BLOCK_PATH ++ lit "/" ++ name))
    (d : ScsiDeviceInfo) : Stays P env env' none (showDiskDetails arg d) := by
  refine orderly_bind (stays_device _ _) fun _ _ => orderly_bind (stays_opendir h hs) fun o ho => ?_
  cases o with
  | none => exact orderly_pure _
  | some es =>
    refine orderly_bind (stays_snprintfFmt h _ _) fun name hn => ?_
    have hl : name.length ≤ 15 := by
      rw [(returns_snprintfFmt _ _ _).mp hn]
      exact cut_length_le 16 _
    have hb : blockEntries env = forEachDir es := by
      cases hd : env.dir SYSFS_BLOCK_PATH <;> simp_all [blockEntries]
    refine orderly_bind (orderly_each fun s e he => ?_) fun _ _ =>
      orderly_bind (stays_closedir _) fun _ _ => orderly_pure _
    exact stays_showDiskEntry h hl (fun hc => hp name hn ⟨e,hb ▸ he,hc⟩) s

/-! ## Fibre Channel hosts -/

def AtHost (f : FcDeviceInfo) : Prop := Extends SYSFS_FC_HOST_PATH (orNull f.sysDevPath)

omit h in
theorem atHost_fcHost (name : Str) : AtHost (fcHost name) :=
  extends_cut (extends_append (extends_refl _) _) (by simp [SYSFS_FC_HOST_PATH, lit])

omit h in
theorem atHost_congr {f g : FcDeviceInfo} (ho : origin g = origin f) (hf : AtHost f) : AtHost g := by
  have hp : g.sysDevPath = f.sysDevPath := congrArg (·.1) ho
  rw [AtHost, hp]
  exact hf

omit h in
theorem host_short : SYSFS_FC_HOST_PATH.length < 64 := by simp [SYSFS_FC_HOST_PATH, lit]

structure HostAdmits (P : Str → Prop) : Prop where
  hosts : Admits P SYSFS_FC_HOST_PATH
  drivers : Admits P PCI_DRIVER_PATH
  modules : Admits P (lit "/sys/module")

theorem stays_getSymbolicName (hp : Admits P SYSFS_FC_HOST_PATH) {f : FcDeviceInfo}
    (hf : AtHost f) : Stays P env env' none (getSymbolicName f) := by
  refine orderly_ite (fun _ => orderly_bind (stays_printInfo _) fun _ _ => orderly_pure _)
    fun _ => ?_
  have hs : P (cut 64 (orNull f.sysDevPath ++ "/symbolic_name")) :=
    hp _ (extends_cut (extends_rest hf (by simp [lit])) host_short)
  refine stays_fopenRead h hs ?_ fun fp => ?_
  · exact orderly_bind (stays_printInfo _) fun _ _ => orderly_pure _
  · have hc := fun a => @stays_stream P env env' FcDeviceInfo _ _ hs (pure ())
      (fun _ => pure a) (orderly_pure ()) (by simp) fun _ => orderly_pure a
    cases hg : fgets 256 fp <;> simpa [hg] using hc _

theorem stays_getDriverInfo (hp : P PCI_DRIVER_PATH) (f : FcDeviceInfo) :
    Stays P env env' none (getDriverInfo f) := by
  refine orderly_bind (stays_opendir h hp) fun o _ => ?_
  cases o with
  | none => exact orderly_bind (stays_printErr _) fun _ _ => stays_nullFault _
  | some es =>
    refine orderly_bind (stays_closedir _) fun _ _ => ?_
    cases es.find? isDriver <;> exact orderly_pure _

theorem stays_listRportAdapters (hp : Admits P SYSFS_FC_HOST_PATH)
    (hr : Admits P SYSFS_FC_RPRT_PATH) {f : FcDeviceInfo} (hf : AtHost f) :
    Stays P env env' none (listRportAdapters f) := by
  have hd : P (cut 64 (orNull f.sysDevPath ++ "/device")) :=
    hp _ (extends_cut (extends_rest hf (by simp [lit])) host_short)
  have hl : SYSFS_FC_RPRT_PATH.length < 64 := by simp [SYSFS_FC_RPRT_PATH, lit]
  have he : ∀ e, Stays P env env' none (rportEntry e) := fun e => by
    refine orderly_ite (fun _ => orderly_bind (stays_loadAll h (fun file => ?_) _ _)
      fun _ _ => stays_print _) fun _ => orderly_pure _
    have hb : Extends SYSFS_FC_RPRT_PATH (cut 64 (SYSFS_FC_RPRT_PATH ++ lit "/" ++ e.dName)) :=
      extends_cut (extends_append (extends_refl _) _) hl
    exact admits_cut hr hb (by omega) file
  refine orderly_bind (stays_opendir h hd) fun o _ => ?_
  cases o with
  | none => exact orderly_bind (stays_printErr _) fun _ _ => orderly_pure _
  | some es =>
    exact orderly_bind (stays_print _) fun _ _ => orderly_bind (orderly_each fun _ e _ => he e)
      fun _ _ => orderly_bind (stays_closedir _) fun _ _ => orderly_pure _

omit h in
theorem admits_underHost (hp : Admits P SYSFS_FC_HOST_PATH) {f : FcDeviceInfo} (hf : AtHost f)
    (file : Str) : P (underHost f file) := hp _ (extends_append hf file)

theorem stays_getAdapterDetails (hp : Admits P SYSFS_FC_HOST_PATH) {f : FcDeviceInfo}
    (hf : AtHost f) : Stays P env env' none (getAdapterDetails f) := by
  have hl := host_short
  refine orderly_bind (stays_loadAll h (fun file => admits_cut hp hf (by omega) file) _ _)
    fun f₁ h₁ => ?_
  have hf₁ : AtHost f₁ :=
    atHost_congr (loadAll_frame origin (fun a ha => origin_adapterRows a (by simp_all)) h₁) hf
  refine orderly_bind (stays_loadAllInto h _ (admits_underHost hp hf₁) _ _) fun f₂ h₂ => ?_
  rw [returns_loadAllInto] at h₂
  have hf₂ : AtHost f₂ :=
    atHost_congr (loadAll_frame origin (fun a ha => origin_adapterRows a (by simp_all)) h₂) hf₁
  refine orderly_bind (stays_store _ _) fun path hpath => ?_
  obtain rfl := (returns_store _ _ _).mp hpath
  refine orderly_bind (stays_opendir h (admits_underHost hp hf₂ _)) fun o _ => ?_
  cases o with
  | none => exact orderly_bind (stays_printInfo _) fun _ _ => orderly_pure _
  | some es => exact orderly_bind (stays_closedir _) fun _ _ => orderly_pure _

omit h in
theorem admits_scsiHostFile (hp : Admits P SYSFS_FC_HOST_PATH) {f : FcDeviceInfo} (hf : AtHost f)
    (file : Str) : P (scsiHostFile f file) := by
  have hl := host_short
  have hb : Extends SYSFS_FC_HOST_PATH
      (cut 64 (orNull f.sysDevPath ++ lit "/device/scsi_host/" ++ orNull f.hostName)) := by
    rw [List.append_assoc]
    exact extends_cut (extends_rest hf (by simp [lit])) hl
  exact admits_cut hp hb (by omega) file

omit h in
theorem admits_hostFile (hp : Admits P SYSFS_FC_HOST_PATH) {f : FcDeviceInfo} (hf : AtHost f)
    (file : Str) : P (hostFile f file) := by
  have hl := host_short
  exact admits_cut hp hf (by omega) file

theorem stays_loadLinkState (hp : Admits P SYSFS_FC_HOST_PATH) {f : FcDeviceInfo}
    (hf : AtHost f) : Stays P env env' none (loadLinkState f) := by
  have hs := admits_scsiHostFile hp hf (lit "link_state")
  refine stays_fopenRead h hs (orderly_pure _) fun fp => ?_
  cases hg : fgets 64 fp with
  | none =>
    simpa [hg] using @stays_stream P env env' (Option FcDeviceInfo) _ _ hs (pure ())
      (fun _ => pure none) (orderly_pure ()) (by simp) fun _ => orderly_pure none
  | some p =>
    simpa [hg] using @stays_stream P env env' (Option FcDeviceInfo) _ _ hs
      (snprintfFmt p.length (some p)) (fun t => pure (some { f with linkState := some t }))
      (stays_snprintfFmt h _ _) (by simp) fun _ => orderly_pure _

theorem stays_getLinkInfo (hp : Admits P SYSFS_FC_HOST_PATH) {f : FcDeviceInfo}
    (hf : AtHost f) : Stays P env env' none (getLinkInfo f) := by
  refine orderly_bind (stays_loadLinkState h hp hf) fun o ho => ?_
  cases o with
  | none => exact orderly_pure _
  | some g =>
    have hg : AtHost g := by
      obtain ⟨p,-,rfl⟩ := Option.map_eq_some_iff.mp ((returns_loadLinkState f _).mp ho).symm
      exact hf
    refine orderly_bind (stays_loadAll h (admits_hostFile hp hg) _ _) fun k hk => ?_
    have hk' : AtHost k :=
      atHost_congr (loadAll_frame origin (fun a ha => origin_hostRows a (by simp_all)) hk) hg
    exact orderly_bind (stays_loadAll h (admits_scsiHostFile hp hk') _ _) fun _ _ =>
      orderly_pure _

omit h in
theorem admits_moduleFile (hp : Admits P (lit "/sys/module")) (driver file : Str) :
    P (moduleFile driver file) := by
  have hb : Extends (lit "/sys/module") (lit "/sys/module/" ++ driver) := by
    rw [show lit "/sys/module/" = lit "/sys/module" ++ lit "/" by simp [lit]]
    exact extends_append (extends_refl _) driver
  exact admits_cut hp hb (by simp [lit]) file

theorem stays_getFcInfo (hp : HostAdmits P) {f : FcDeviceInfo} (hf : AtHost f) :
    Stays P env env' none (getFcInfo f) := by
  have hs := hp.hosts
  unfold getFcInfo
  cases f.driverName with
  | none => exact stays_nullFault _
  | some d =>
    refine orderly_ite (fun _ => ?_) fun _ => orderly_ite (fun _ => ?_) fun _ => ?_
    · refine orderly_bind (stays_loadAll h (admits_scsiHostFile hs hf) _ _) fun g hg => ?_
      exact stays_getLinkInfo h hs (atHost_congr (loadAll_frame origin origin_driverRows.1 hg) hf)
    · have ho : ∀ {rows : List (Attr FcDeviceInfo)} {pathOf : Str → Str} {f g : FcDeviceInfo},
          (∀ a ∈ rows, a ∈ lpfcRows ++ [lpfcSpeedRow,lpfcVersionRow]) →
            Returns (loadAll pathOf rows f) env g → AtHost f → AtHost g := fun hm hr =>
        atHost_congr (loadAll_frame origin (fun a ha => origin_driverRows.2 a (hm a ha)) hr)
      refine orderly_bind (stays_loadAll h (admits_scsiHostFile hs hf) _ _) fun f₁ h₁ => ?_
      have hf₁ := ho (fun a ha => by simp [ha]) h₁ hf
      refine orderly_bind (stays_loadAll h (admits_hostFile hs hf₁) _ _) fun f₂ h₂ => ?_
      have hf₂ := ho (by simp) h₂ hf₁
      refine orderly_bind (stays_loadAll h (admits_moduleFile hp.modules d) _ _) fun f₃ h₃ => ?_
      exact stays_getLinkInfo h hs (ho (by simp) h₃ hf₂)
    · exact orderly_bind (stays_printInfo _) fun _ _ => orderly_pure _

theorem stays_identify (hp : HostAdmits P) (name : Str) {α : Type} {k : FcDeviceInfo → Tool α}
    (hk : ∀ f, AtHost f → Stays P env env' none (k f)) :
    Stays P env env' none (do
      let f ← getSymbolicName (fcHost name)
      let f ← getDriverInfo f
      k f) := by
  refine orderly_bind (stays_getSymbolicName h hp.hosts (atHost_fcHost name)) fun f hf => ?_
  refine orderly_bind (stays_getDriverInfo h (admits_self hp.drivers) f) fun g hg => hk g ?_
  have hi := ((returns_identify name g).mp ((returns_bind _ _ _ _).mpr ⟨f,hf,hg⟩)).2
  rw [hi]
  exact atHost_fcHost name

theorem stays_listFcAdapters (hp : HostAdmits P) : Stays P env env' none listFcAdapters := by
  refine orderly_bind (stays_device _ _) fun _ _ =>
    orderly_bind (stays_opendir h (admits_self hp.hosts)) fun o _ => ?_
  cases o with
  | none => exact orderly_pure _
  | some es =>
    refine orderly_bind (stays_print _) fun _ _ => orderly_bind (stays_print _) fun _ _ =>
      orderly_bind (orderly_each fun _ e _ => ?_) fun _ _ =>
        orderly_bind (stays_closedir _) fun _ _ => orderly_pure _
    exact stays_identify h hp e.dName fun f hf =>
      orderly_bind (stays_getFcInfo h hp hf) fun _ _ => stays_print _

theorem stays_showFcPortDetails (hp : HostAdmits P) (hr : Admits P SYSFS_FC_RPRT_PATH)
    (arg : Str) : Stays P env env' none (showFcPortDetails arg) := by
  refine orderly_bind (stays_device _ _) fun _ _ => stays_identify h hp arg fun f hf => ?_
  refine orderly_bind (stays_getAdapterDetails h hp.hosts hf) fun g hg => ?_
  have hg' : AtHost g := by
    have ho : g.sysDevPath = f.sysDevPath := congrArg (·.1) (origin_getAdapterDetails hg)
    rw [AtHost, ho]
    exact hf
  refine orderly_bind (stays_getFcInfo h hp hg') fun r hk => ?_
  have hk' : AtHost r.2 := atHost_congr (origin_getFcInfo hk) hg'
  exact orderly_bind (stays_print _) fun _ _ => orderly_ite
    (fun _ => orderly_bind (stays_listRportAdapters h hp.hosts hr hk') fun _ _ => orderly_pure _)
    fun _ => orderly_pure _

theorem stays_getFcDevStats (hp : Admits P SYSFS_FC_HOST_PATH) (name : Str) (f : FcDeviceInfo) :
    Stays P env env' none (getFcDevStats name f) := by
  have hl := host_short
  refine orderly_bind (stays_device _ _) fun _ _ =>
    orderly_bind (stays_loadAll h (fun file => ?_) _ _) fun _ _ => orderly_pure _
  have hb : Extends SYSFS_FC_HOST_PATH
      (cut 256 (SYSFS_FC_HOST_PATH ++ lit "/" ++ name ++ lit "/statistics")) :=
    extends_cut (extends_rest (extends_append (extends_refl _) _) (by simp [lit])) (by omega)
  exact admits_cut hp hb (by omega) file

/-! ## iSCSI hosts -/

structure SessionAdmits (P : Str → Prop) : Prop where
  hosts : Admits P SYSFS_ISCSI_HOST_PATH
  sessions : Admits P SYSFS_ISCSI_SESS_PATH
  connections : Admits P SYSFS_ISCSI_CONN_PATH

theorem stays_getIscsiTransport (hp : P ISCSI_TRANSPORT_PATH) (i : IscsiDevInfo) :
    Stays P env env' none (getIscsiTransport i) := by
  refine orderly_bind (stays_opendir h hp) fun o _ => ?_
  cases o with
  | none => exact orderly_pure _
  | some es =>
    refine orderly_bind (stays_closedir _) fun _ _ => ?_
    cases (forEachDir es).find? fun e => strncmpEq e.dName "tcp" 3 <;> exact orderly_pure _

theorem stays_fillSessionInfo (hp : Admits P SYSFS_ISCSI_HOST_PATH) {i : IscsiDevInfo}
    (hi : i.sysDevPath = some SYSFS_ISCSI_HOST_PATH) :
    Stays P env env' none (fillSessionInfo i) := by
  have hs : P (orNull i.sysDevPath ++ "/" ++ orNull i.hostName ++ "/device") := by
    rw [hi]
    exact hp _ (extends_rest (extends_append (extends_refl _) _) (by simp [lit]))
  refine orderly_bind (stays_store _ _) fun path hpath => ?_
  obtain rfl := (returns_store _ _ _).mp hpath
  refine orderly_bind (stays_opendir h hs) fun o _ => ?_
  cases o with
  | none => exact orderly_bind (stays_printInfo _) fun _ _ => orderly_pure _
  | some es =>
    cases hf : (forEachDir es).find? isSession with
    | none => simpa [hf] using orderly_bind (stays_closedir _) fun _ _ => orderly_pure i
    | some e =>
      simp only [hf]
      exact orderly_bind (stays_store _ _) fun _ _ =>
        orderly_bind (stays_closedir _) fun _ _ => orderly_pure _

theorem stays_fillConnectionInfo (hp : SessionAdmits P) (i : IscsiDevInfo) :
    Stays P env env' none (fillConnectionInfo i) := by
  have hh : lit "/sys/class/iscsi_host/" = SYSFS_ISCSI_HOST_PATH ++ lit "/" := by
    simp [SYSFS_ISCSI_HOST_PATH, lit]
  have hd : lit "/device/" = lit "/device" ++ lit "/" := by simp [lit]
  have hs : P ("/sys/class/iscsi_host/" ++ orNull i.hostName ++ "/device/" ++
      orNull i.sessionName) := by
    rw [hh, hd, ← List.append_assoc (_ ++ orNull i.hostName)]
    exact hp.hosts _ (extends_append (extends_rest (extends_append (extends_refl _) _)
      (by simp [lit])) _)
  have he : ∀ path i e, Stays P env env' none (connectionEntry path i e) := fun path i e =>
    orderly_ite (fun _ => orderly_bind (stays_store _ _) fun _ _ => orderly_pure _)
      fun _ => orderly_pure _
  refine orderly_bind (stays_store _ _) fun path hpath => ?_
  obtain rfl := (returns_store _ _ _).mp hpath
  refine orderly_bind (stays_opendir h hs) fun o _ => ?_
  cases o with
  | none => exact orderly_bind (stays_printInfo _) fun _ _ => orderly_pure _
  | some es =>
    refine orderly_bind (orderly_each fun i e _ => he _ i e) fun j _ =>
      orderly_bind (stays_closedir _) fun _ _ =>
        orderly_bind (stays_loadAllInto h _ (fun file => ?_) _ _) fun k _ =>
          stays_loadAllInto h _ (fun file => ?_) _ _
    · exact hp.sessions _ (extends_append (extends_append (extends_refl _) _) file)
    · exact hp.connections _ (extends_append (extends_append (extends_refl _) _) file)

theorem stays_listIscsiDevs (hp : SessionAdmits P) (ht : P ISCSI_TRANSPORT_PATH) :
    Stays P env env' none listIscsiDevs := by
  have hs := admits_self hp.hosts
  have hr : ∀ e, Stays P env env' none (iscsiRow e) := fun e => by
    refine orderly_bind (stays_getIscsiTransport h ht _) fun r hr => ?_
    have hi : r.2.sysDevPath = some SYSFS_ISCSI_HOST_PATH := by
      obtain ⟨n,t,hj⟩ := @getIscsiTransport_spec env (iscsiHost e.dName)
      rw [returns_unique hr hj]
      rfl
    exact orderly_bind (stays_fillSessionInfo h hp.hosts hi) fun i _ =>
      orderly_bind (stays_fillConnectionInfo h hp i) fun _ _ => stays_print _
  have hc : Stays P env env' none (getDeviceCount SYSFS_ISCSI_HOST_PATH) :=
    orderly_bind (stays_scandirCount h hs) fun n _ => orderly_ite (fun _ => orderly_pure _)
      fun _ => orderly_ite (fun _ => orderly_pure _) fun _ => orderly_pure _
  refine orderly_bind (stays_device _ _) fun _ _ => orderly_bind hc fun n _ =>
    orderly_ite (fun _ => orderly_pure _) fun _ => orderly_bind (stays_opendir h hs) fun o _ => ?_
  cases o with
  | none => exact orderly_bind (stays_printInfo _) fun _ _ => orderly_pure _
  | some es =>
    exact orderly_bind (stays_print _) fun _ _ => orderly_bind (stays_print _) fun _ _ =>
      orderly_bind (orderly_each fun _ e _ => hr e) fun _ _ =>
        orderly_bind (stays_closedir _) fun _ _ => orderly_pure _

/-! ### Disks of a session -/

theorem stays_getDeviceEntry {path : Str} (hp : P path) :
    Stays P env env' none (getDeviceEntry path) := by
  refine orderly_bind (stays_opendir h hp) fun o _ => ?_
  cases o with
  | none => exact orderly_pure _
  | some es =>
    cases hf : es.find? fun e => e.dType = .dir && strncmpEq e.dName "sd" 2 with
    | none => simpa [hf] using orderly_pure (some (lit "unknown"))
    | some e =>
      simpa [hf] using orderly_bind (stays_closedir _) fun _ _ => orderly_pure (some e.dName)

theorem stays_attachedDisk (hp : Admits P (lit "/sys/class/scsi_disk")) (name : Str)
    (s : IscsiSession) : Stays P env env' none (attachedDisk name s) := by
  have hd : lit "/sys/class/scsi_disk/" = lit "/sys/class/scsi_disk" ++ lit "/" := by simp [lit]
  have hc : ∀ rest : Str, rest.head? = some '/' →
      P (cut 2048 (lit "/sys/class/scsi_disk/" ++ name ++ rest)) := fun rest hr => by
    rw [hd]
    exact hp _ (extends_cut (extends_rest (extends_append (extends_refl _) name) hr)
      (by simp [lit]))
  exact orderly_bind (stays_getDeviceEntry h (hc _ (by simp [lit]))) fun _ _ =>
    orderly_bind (stays_snprintfFmt h _ _) fun _ _ =>
      orderly_bind (stays_openSysfsStatsFile h (hc _ (by simp [lit]))) fun _ _ =>
        orderly_bind (stays_snprintfFmt h _ _) fun _ _ =>
          orderly_bind (stays_print _) fun _ _ => stays_print _

theorem stays_hctlEntry (hp : Admits P SYSFS_ISCSI_HOST_PATH)
    (hd : Admits P (lit "/sys/class/scsi_disk")) {path : Str}
    (hb : Extends SYSFS_ISCSI_HOST_PATH path) (s : IscsiSession) (e : Dirent) :
    Stays P env env' none (hctlEntry path s e) := by
  have ht : P (cut 1024 (path ++ "/" ++ e.dName ++ "/type")) :=
    hp _ (extends_cut (extends_rest (extends_append hb _) (by simp [lit]))
      (by simp [SYSFS_ISCSI_HOST_PATH, lit]))
  exact orderly_ite (fun _ => orderly_pure _) fun _ =>
    orderly_bind (stays_openSysfsStatsFile h ht) fun _ _ =>
      orderly_bind (stays_snprintfFmt h _ _) fun _ _ => orderly_ite (fun _ => orderly_ite
        (fun _ => orderly_bind (stays_attachedDisk h hd _ _) fun _ _ => orderly_pure _)
        fun _ => orderly_pure _) fun _ => orderly_pure _

theorem stays_targetEntry (hp : Admits P SYSFS_ISCSI_HOST_PATH)
    (hd : Admits P (lit "/sys/class/scsi_disk")) {path : Str}
    (hb : Extends SYSFS_ISCSI_HOST_PATH path) (host : Option Str) (s : IscsiSession) (e : Dirent) :
    Stays P env env' none (targetEntry host path s e) := by
  have ht : Extends SYSFS_ISCSI_HOST_PATH (cut 4096 (path ++ lit "/" ++ e.dName)) :=
    extends_cut (extends_append hb _) (by simp [SYSFS_ISCSI_HOST_PATH, lit])
  refine orderly_ite (fun _ => orderly_bind (orderly_bind (stays_opendir h (hp _ ht))
    fun o _ => ?_) fun _ _ => orderly_pure _) fun _ => orderly_pure _
  cases o with
  | none => exact orderly_pure _
  | some es =>
    exact orderly_bind (stays_print _) fun _ _ =>
      orderly_bind (orderly_each fun s e _ => stays_hctlEntry h hp hd ht s e) fun _ _ =>
        orderly_bind (stays_closedir _) fun _ _ => orderly_pure _

def AtSession (i : IscsiDevInfo) : Prop :=
  ∀ path, i.sessionPath = some path → Extends SYSFS_ISCSI_HOST_PATH path

theorem stays_getSessionScsiDisks (hp : Admits P SYSFS_ISCSI_HOST_PATH)
    (hd : Admits P (lit "/sys/class/scsi_disk")) {i : IscsiDevInfo} (hi : AtSession i)
    (s : IscsiSession) : Stays P env env' none (getSessionScsiDisks i s) := by
  unfold getSessionScsiDisks
  cases hs : i.sessionPath with
  | none => exact stays_nullFault _
  | some path =>
    refine orderly_bind (stays_opendir h (hp _ (hi path hs))) fun o _ => ?_
    cases o with
    | none => exact orderly_pure _
    | some es =>
      exact orderly_bind
        (orderly_each fun s e _ => stays_targetEntry h hp hd (hi path hs) _ s e) fun _ _ =>
          orderly_bind (stays_closedir _) fun _ _ => orderly_pure _

theorem stays_getIscsiSessionInfo (hp : SessionAdmits P)
    (hd : Admits P (lit "/sys/class/scsi_disk")) {i : IscsiDevInfo} (hi : AtSession i)
    (s : IscsiSession) : Stays P env env' none (getIscsiSessionInfo i s) := by
  have hl : SYSFS_ISCSI_SESS_PATH.length < 1024 := by simp [SYSFS_ISCSI_SESS_PATH, lit]
  refine orderly_bind (stays_loadAll h (fun file => ?_) _ _) fun s _ => ?_
  · exact admits_cut hp.sessions (extends_cut (extends_append (extends_refl _) _) hl)
      (by omega) file
  cases hs : i.sessionPath with
  | none => exact stays_nullFault _
  | some path =>
    refine orderly_bind (stays_opendir h (hp.hosts _ (hi path hs))) fun o _ => ?_
    cases o with
    | none => exact orderly_pure _
    | some es =>
      exact orderly_bind (stays_print _) fun _ _ => orderly_bind (stays_print _) fun _ _ =>
        orderly_ite (fun _ => orderly_bind (stays_getSessionScsiDisks h hp.hosts hd hi s)
          fun _ _ => orderly_pure _) fun _ => orderly_pure _

theorem stays_getIscsiConnectionInfo (hp : Admits P SYSFS_ISCSI_CONN_PATH) (i : IscsiDevInfo)
    (c : IscsiConnection) : Stays P env env' none (getIscsiConnectionInfo i c) := by
  refine orderly_bind (stays_store _ _) fun path hpath => ?_
  obtain rfl := (returns_store _ _ _).mp hpath
  refine orderly_bind (stays_loadAllInto h _ (fun file => ?_) _ _) fun _ _ =>
    orderly_bind (stays_print _) fun _ _ => orderly_bind (stays_print _) fun _ _ => orderly_pure _
  exact hp _ (extends_append (extends_append (extends_refl _) _) file)

theorem stays_showIscsiDetails (hp : SessionAdmits P)
    (hd : Admits P (lit "/sys/class/scsi_disk")) (arg : Str) :
    Stays P env env' none (showIscsiDetails arg) := by
  refine orderly_bind (stays_device _ _) fun _ _ =>
    orderly_ask (by rw [h.mallocSession, h.mallocConnection]) ?_
  refine orderly_bind (stays_fillSessionInfo h hp.hosts rfl) fun i hi => ?_
  have hs : AtSession i := fun path hpath => by
    rw [(returns_fillSessionInfo rfl rfl i).mp hi, withSession] at hpath
    cases hn : sessionEntry env arg with
    | none => simp [hn, iscsiHost] at hpath
    | some name =>
      rw [hn] at hpath
      obtain rfl := Option.some.inj hpath
      exact extends_append (extends_rest (extends_append (extends_refl _) _) (by simp [lit])) _
  exact orderly_bind (stays_getIscsiSessionInfo h hp hd hs _) fun _ _ =>
    orderly_bind (stays_fillConnectionInfo h hp i) fun j _ =>
      orderly_bind (stays_getIscsiConnectionInfo h hp.connections j _) fun _ _ => orderly_pure _

end

end ScsiCli.DeviceReach
