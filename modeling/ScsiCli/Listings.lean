import ScsiCli.Requests

/-!
# What the listings print

A listing is seen as its label and the name on each row. Each listing runs to
its end on any machine, with a row for each entry that passes its test, except
that the enclosures end at the first, the CD-ROM drives have no row, and a
Fibre Channel host that cannot be followed ends the run.
-/

set_option autoImplicit false

namespace ScsiCli.Listings
open ScsiCli.RunTrace ScsiCli.ByteString ScsiCli.NumberText ScsiCli.Records ScsiCli.Machine
open ScsiCli.SysfsUtils ScsiCli.DiskUtils ScsiCli.FcpUtils ScsiCli.IscsiUtils ScsiCli.Commands
open ScsiCli.MachineRules ScsiCli.Gatherers ScsiCli.Completion ScsiCli.IscsiCompletion
open ScsiCli.Requests

variable {env : Env}

inductive Line where
  | label (text : Str)
  | row (name : Option Str)

def lineOf : Event → Option Line
  | .out (.commandLabel t) => some (.label t)
  | .out (.diskInfo d) | .out (.nvmeDiskInfo d) | .out (.genericDiskInfo d)
  | .out (.mpathDiskInfo d) | .out (.enclosureInfo d) => some (.row d.diskName)
  | .out (.tapeDevice path) => some (.row (some path))
  | .out (.listFcDev f) => some (.row f.hostName)
  | .out (.listIscsiDev i) => some (.row i.hostName)
  | _ => none

theorem lineOf_quiet : Quiet lineOf := by
  refine ⟨fun e he => ?_,fun _ => rfl,fun _ => rfl,rfl⟩
  cases e <;> first | rfl | cases he

theorem lines_gathers {α : Type} {m : Tool α} (h : Emits Gathers m env) :
    observed lineOf m env = [] := quiet_gathers lineOf_quiet h

/-! ## Rows of disks -/

/-- A gatherer that shows nothing and whose record keeps the name, the path and the type. -/
def Keeps (env : Env) (v : Option Str × Option Str × ℤ) (m : Tool ScsiDeviceInfo) : Prop :=
  observed lineOf m env = [] ∧ ∃ d, Returns m env d ∧ place d = v

theorem keeps_bind {v w : Option Str × Option Str × ℤ} {m : Tool ScsiDeviceInfo}
    {f : ScsiDeviceInfo → Tool ScsiDeviceInfo} (hm : Keeps env v m)
    (hf : ∀ d, place d = v → Keeps env w (f d)) : Keeps env w (m >>= f) := by
  obtain ⟨ho,d,hd,hv⟩ := hm
  obtain ⟨hof,t,ht,hw⟩ := hf d hv
  refine ⟨?_,t,(returns_bind_at hd f t).mpr ht,hw⟩
  rw [observed_bind_of_returns _ _ hd, ho, hof]
  rfl

theorem keeps_locate (e : Dirent) (d : ScsiDeviceInfo) : Keeps env (place d) (locate e d) := by
  obtain ⟨t,ht,hp⟩ := @locate_spec env e d
  exact ⟨lines_gathers (gathers_locate e d),t,ht,hp⟩

theorem keeps_vendorModel (d : ScsiDeviceInfo) : Keeps env (place d) (getDiskVendorModel d) := by
  obtain ⟨t,ht⟩ := @survives_getDiskVendorModel env d
  refine ⟨lines_gathers (gathers_getDiskVendorModel d),t,ht,loadAll_frame place ?_ ht⟩
  simp only [List.forall_mem_cons]
  exact ⟨fun _ _ => rfl,fun _ _ => rfl,fun _ _ => rfl,by simp⟩

theorem keeps_nvmeModel (d : ScsiDeviceInfo) : Keeps env (place d) (getNvmeDeviceModel d) := by
  obtain ⟨t,ht⟩ := @survives_getNvmeDeviceModel env d
  refine ⟨lines_gathers (gathers_getNvmeDeviceModel d),t,ht,loadAll_frame place ?_ ht⟩
  simp only [List.forall_mem_cons]
  exact ⟨fun _ _ => rfl,fun _ _ => rfl,by simp⟩

def entryType (env : Env) (path : Str) (e : Dirent) : ℤ :=
  int32 (strtoull ((Attr.text env (underDisk (named path e) "device/type") typeRow).getD []))

def spot (path : Str) (e : Dirent) (n : ℤ) : Option Str × Option Str × ℤ :=
  (some e.dName,some (cut 512 (path ++ "/" ++ e.dName)),n)

theorem keeps_diskType (path : Str) (e : Dirent) :
    Keeps env (spot path e (entryType env path e)) (getDiskType (named path e)) := by
  have hp : ∀ a ∈ [typeRow], Plain a := by simp [typeRow, Plain]
  have hl : loaded env (underDisk (named path e)) [typeRow] (named path e) =
      { named path e with deviceType := entryType env path e } := rfl
  refine ⟨lines_gathers (gathers_getDiskType _),_,(returns_loadAll_plain hp _ _).mpr rfl,?_⟩
  rw [hl]
  rfl

theorem lines_row {v : Option Str × Option Str × ℤ} {m : Tool ScsiDeviceInfo} (hm : Keeps env v m)
    {o : ScsiDeviceInfo → Out} (ho : ∀ d, lineOf (.out (o d)) = some (.row d.diskName)) :
    observed lineOf (m >>= fun d => print (o d)) env = [.row v.1] := by
  obtain ⟨hn,d,hd,rfl⟩ := hm
  rw [observed_bind_of_returns _ _ hd, hn, observed_print, ho]
  rfl

theorem lines_blockRow (e : Dirent) : observed lineOf (blockRow e) env = [.row (some e.dName)] := by
  have hk := keeps_bind (keeps_bind (@keeps_diskType env SYSFS_BLOCK_PATH e) fun d hd =>
    hd ▸ keeps_locate e (nameDiskType d)) fun d hd => hd ▸ keeps_vendorModel d
  have h := lines_row hk (o := .diskInfo) fun _ => rfl
  simp only [prog_bind_assoc] at h
  exact h

theorem lines_nvmeRow (e : Dirent) : observed lineOf (nvmeRow e) env = [.row (some e.dName)] := by
  have hk := keeps_bind (@keeps_locate env e (nameDiskType
    { named SYSFS_BLOCK_PATH e with deviceType := DIRECT_ACCESS_BLOCK_DEVICE })) fun d hd =>
      hd ▸ keeps_nvmeModel d
  have h := lines_row hk (o := .nvmeDiskInfo) fun _ => rfl
  simp only [prog_bind_assoc] at h
  exact h

theorem lines_genericRow (e : Dirent) :
    observed lineOf (genericRow e) env = [.row (some e.dName)] := by
  have hk := keeps_bind (@keeps_locate env e
    { named DEV_DIR_PATH e with deviceType := GENERIC_DEV }) fun d hd =>
      hd ▸ keeps_vendorModel { d with
        diskType := if strncmpEq e.dName "ng" 2 then "NVMe Generic" else "SCSI Generic" }
  have h := lines_row hk (o := .genericDiskInfo) fun _ => rfl
  simp only [prog_bind_assoc] at h
  exact h

theorem lines_mpathRow (e : Dirent) : observed lineOf (mpathRow e) env = [.row (some e.dName)] := by
  have hk := keeps_bind (@keeps_locate env e
    { named SYSFS_BLOCK_PATH e with deviceType := UNKNOWN_DEVICE }) fun d hd =>
      hd ▸ keeps_vendorModel d
  have h := lines_row hk (o := .mpathDiskInfo) fun _ => rfl
  simp only [prog_bind_assoc] at h
  exact h

theorem lines_controllerRow (e : Dirent) : observed lineOf (controllerRow e) env =
    if entryType env SYSFS_SCSI_GEN_PATH e = STORAGE_ARRAY_CNTROLLER then [.row (some e.dName)]
    else [] := by
  obtain ⟨hn,d,hd,hp⟩ := keeps_bind (keeps_bind (@keeps_diskType env SYSFS_SCSI_GEN_PATH e)
    fun d hd => hd ▸ keeps_locate e (nameDiskType d)) fun d hd => hd ▸ keeps_vendorModel d
  have hr : controllerRow e = (do
      let d ← (do
        let d ← (do
          let d ← getDiskType (named SYSFS_SCSI_GEN_PATH e)
          locate e (nameDiskType d))
        getDiskVendorModel d)
      if d.deviceType = STORAGE_ARRAY_CNTROLLER then print (.diskInfo d)) := by
    simp only [controllerRow, prog_bind_assoc]
  have ht : d.deviceType = entryType env SYSFS_SCSI_GEN_PATH e := congrArg (·.2.2) hp
  have hname : d.diskName = some e.dName := congrArg (·.1) hp
  rw [hr, observed_bind_of_returns _ _ hd, hn, ht]
  split <;> simp [lineOf, hname]

theorem lines_tapeRow (e : Dirent) :
    observed lineOf (tapeRow e) env = [.row (some (DEV_DIR_PATH ++ "/" ++ e.dName))] := by
  have hl : (DEV_DIR_PATH ++ lit "/" ++ e.dName).length < 512 := by
    have hn := e.name_ok.2.2.2
    simp [DEV_DIR_PATH, lit]
    omega
  obtain ⟨hn,d,hd,-⟩ := @keeps_diskType env DEV_DIR_PATH e
  rw [tapeRow, observed_bind_of_returns _ _ hd, hn, cut_of_length_lt hl]
  simp [lineOf]

theorem lines_cdromRow (e : Dirent) : observed lineOf (cdromRow e) env = [] := by
  obtain ⟨hn,d,hd,-⟩ := @keeps_diskType env DEV_DIR_PATH e
  rw [cdromRow, observed_bind_of_returns _ _ hd, hn]
  rfl

/-! ## The listings in full -/

def Prints (env : Env) (m : Tool ℤ) (ls : List Line) (r : ℤ) : Prop :=
  observed lineOf m env = ls ∧ Returns m env r

def listed (label : Str) (es : List Dirent) : List Line :=
  .label label :: es.map fun e => .row (some e.dName)

def inDir (env : Env) (path label : Str) (test : Dirent → Bool) : Option (List Line) :=
  (env.dir path).map fun l => listed label ((forEachDir l.entries).filter test)

/-- The medium changers are the generic devices of that type, as the controllers are those
of theirs; a device of a class directory is a link. -/
def fullList (env : Env) (sub : Str) : Option (List Line) :=
  if sub = "fc_hba" then inDir env SYSFS_FC_HOST_PATH "Fabric" fun _ => true
  else if sub = "iscsi" then inDir env SYSFS_ISCSI_HOST_PATH "iSCSI" fun _ => true
  else if sub = "controller" then
    inDir env SYSFS_SCSI_GEN_PATH "Disk Controller" fun e =>
      entryType env SYSFS_SCSI_GEN_PATH e = STORAGE_ARRAY_CNTROLLER
  else if sub = "disk" then
    (env.dir SYSFS_BLOCK_PATH).map fun l =>
      listed "block" ((forEachDir l.entries).filter isSd) ++
        listed "nvme-block" ((forEachDir l.entries).filter isNvme)
  else if sub = "multipath" then
    inDir env SYSFS_BLOCK_PATH "Multipath Devices" fun e => isDm e || isMd e
  else if sub = "generic" then inDir env DEV_DIR_PATH "Generic Devices" isGeneric
  else if sub = "enclosure" then
    (env.dir SYSFS_ENCLOSURE_PATH).map fun l =>
      listed "Enclosure" (l.entries.filter fun e => e.dType ≠ .dir)
  else if sub = "cd-rom" then inDir env DEV_DIR_PATH "CD-ROM Devices" isCdrom
  else if sub = "medium-changer" then
    inDir env SYSFS_SCSI_GEN_PATH "Medium-Changer" fun e =>
      entryType env SYSFS_SCSI_GEN_PATH e = MEDIUM_CHANGER_DEVICE
  else if sub = "tape" then
    (env.dir DEV_DIR_PATH).map fun l => .label "Tape Drives" ::
      ((forEachDir l.entries).filter isTape).map fun e =>
        .row (some (DEV_DIR_PATH ++ "/" ++ e.dName))
  else none

theorem flatMap_filter {α β : Type} (p : α → Bool) (g : α → β) (xs : List α) :
    (xs.flatMap fun x => if p x then [g x] else []) = (xs.filter p).map g := by
  rw [flatMap_ite p fun x => [g x], ← List.map_eq_flatMap]

section
variable {β : Type} {p : Event → Option β} {body : Dirent → Tool Unit} {o : Dirent → List β}
variable (hs : ∀ e, Survives (body e) env) (ho : ∀ e, observed p (body e) env = o e)
include hs ho

theorem observed_rows (test : Dirent → Bool) (es : List Dirent) :
    observed p (rows test body es) env =
      (forEachDir es).flatMap fun e => if test e then o e else [] := by
  refine observed_foldlM _ _ _ _ _ _ (fun _ e _ => ?_) fun _ e _ => ?_
  · cases test e <;> simp [hs]
  · cases test e <;> simp [ho]

theorem observed_listing (hp : Quiet p) (f : Device) (path label : Str) (header : Out)
    (test : Dirent → Bool) :
    observed p (listing f path label header test body) env =
      ((env.dir path).map fun l => (p (.out (.commandLabel label))).toList ++
        (p (.out header)).toList ++
          (forEachDir l.entries).flatMap fun e => if test e then o e else []).getD [] := by
  unfold listing
  rw [observed_emit_bind, hp.output _ rfl,
    observed_bind_of_returns _ _ ((returns_opendir path _).mpr rfl),
    quiet_gathers hp (by simp : Emits Gathers (opendir path) env)]
  cases env.dir path with
  | none => rfl
  | some l =>
    obtain ⟨u,hu⟩ := @survives_rows env _ hs test l.entries
    simp only [Option.map_some, Option.getD_some, print, observed_emit_bind]
    rw [observed_bind_of_returns _ _ hu, observed_rows hs ho]
    simpa [closedir] using hp.output (.closed (.dir path)) rfl

theorem mem_listing (hp : Quiet p) (f : Device) (path label : Str) (header : Out)
    (test : Dirent → Bool) (hl : p (.out (.commandLabel label)) = none)
    (hh : p (.out header) = none) (x : β) :
    x ∈ observed p (listing f path label header test body) env ↔
      ∃ e ∈ entriesOf env path, test e = true ∧ x ∈ o e := by
  rw [observed_listing hs ho hp, hl, hh, entriesOf]
  cases env.dir path with
  | none => simp
  | some l =>
    simp only [Option.map_some, Option.getD_some, Option.toList_none, List.nil_append,
      List.mem_flatMap]
    refine exists_congr fun e => and_congr_right fun _ => ?_
    cases test e <;> simp

end

theorem returns_listing {body : Dirent → Tool Unit} (hs : ∀ e, Survives (body e) env)
    (f : Device) (path label : Str) (header : Out) (test : Dirent → Bool) :
    Returns (listing f path label header test body) env
      (if (env.dir path).isSome then 0 else -enodev) := by
  unfold listing
  rw [returns_emit_bind, returns_bind_at ((returns_opendir path _).mpr rfl)]
  cases env.dir path with
  | none => simp
  | some l =>
    obtain ⟨u,hu⟩ := @survives_rows env _ hs test l.entries
    simp only [Option.map_some, print, returns_emit_bind]
    rw [returns_bind_at hu]
    simp

theorem prints_listing {body : Dirent → Tool Unit} {o : Dirent → List Line}
    (hs : ∀ e, Survives (body e) env) (ho : ∀ e, observed lineOf (body e) env = o e) (header : Out)
    (hh : lineOf (.out header) = none) (f : Device) (path label : Str) (test : Dirent → Bool) :
    Prints env (listing f path label header test body)
      (((env.dir path).map fun l => .label label ::
        (forEachDir l.entries).flatMap fun e => if test e then o e else []).getD [])
      (if (env.dir path).isSome then 0 else -enodev) := by
  have hl : lineOf (.out (.commandLabel label)) = some (.label label) := rfl
  have hr := observed_listing hs ho lineOf_quiet f path label header test
  rw [hl, hh] at hr
  exact ⟨hr,returns_listing hs f path label header test⟩

/-- A listing that prints what belongs to it, and fails only where its directory is missing. -/
theorem agrees_of_prints {m : Tool ℤ} {F : Option (List Line)}
    (h : Prints env m (F.getD []) (if F.isSome then 0 else -enodev)) :
    Returns m env 0 ↔ F = some (observed lineOf m env) := by
  obtain ⟨ho,hr⟩ := h
  rw [ho]
  cases F with
  | none => exact iff_of_false (fun h => absurd (returns_unique h hr) (by simp [enodev])) nofun
  | some ls => exact iff_of_true hr rfl

theorem agrees_listing {body : Dirent → Tool Unit} (hs : ∀ e, Survives (body e) env)
    (ho : ∀ e, observed lineOf (body e) env = [.row (some e.dName)]) (header : Out)
    (hh : lineOf (.out header) = none) (f : Device) (path label : Str) (test : Dirent → Bool) :
    Returns (listing f path label header test body) env 0 ↔ inDir env path label test =
      some (observed lineOf (listing f path label header test body) env) := by
  have hp := prints_listing hs ho header hh f path label test
  simp only [flatMap_filter test fun e => Line.row (some e.dName)] at hp
  apply agrees_of_prints
  simpa [inDir, listed] using hp

theorem agrees_listControllers : Returns listControllers env 0 ↔
    fullList env "controller" = some (observed lineOf listControllers env) := by
  have hp := prints_listing (@survives_controllerRow env) lines_controllerRow
    .diskHeader rfl .listControllers SYSFS_SCSI_GEN_PATH "Disk Controller" fun _ => true
  have hf := fun es => flatMap_filter
    (fun e => decide (entryType env SYSFS_SCSI_GEN_PATH e = STORAGE_ARRAY_CNTROLLER))
    (fun e : Dirent => Line.row (some e.dName)) es
  simp only [decide_eq_true_eq] at hf
  simp only [if_true, hf] at hp
  apply agrees_of_prints
  simpa [fullList, lit, inDir, listed, listControllers] using hp

theorem agrees_listMultipathDevs : Returns listMultipathDevs env 0 ↔
    fullList env "multipath" = some (observed lineOf listMultipathDevs env) := by
  have h := agrees_listing (@survives_mpathRow env) lines_mpathRow
    .mpathDiskHeader rfl .listMultipathDevs SYSFS_BLOCK_PATH "Multipath Devices"
    fun e => isDm e || isMd e
  simpa [fullList, lit, listMultipathDevs] using h

theorem agrees_listGenericDevs : Returns listGenericDevs env 0 ↔
    fullList env "generic" = some (observed lineOf listGenericDevs env) := by
  have h := agrees_listing (@survives_genericRow env) lines_genericRow
    .genericDiskHeader rfl .listGenericDevs DEV_DIR_PATH "Generic Devices" isGeneric
  simpa [fullList, lit, listGenericDevs] using h

theorem agrees_listTapeDevs : Returns listTapeDevs env 0 ↔
    fullList env "tape" = some (observed lineOf listTapeDevs env) := by
  have hp := prints_listing (@survives_tapeRow env) lines_tapeRow .diskHeader
    rfl .listTapeDevs DEV_DIR_PATH "Tape Drives" isTape
  simp only [flatMap_filter isTape fun e => Line.row (some (DEV_DIR_PATH ++ lit "/" ++ e.dName))]
    at hp
  apply agrees_of_prints
  simpa [fullList, lit, listTapeDevs] using hp

/-- No drive has a row, so that the listing is full where there is none. -/
theorem agrees_listCdromDevs_iff : (Returns listCdromDevs env 0 ↔
    fullList env "cd-rom" = some (observed lineOf listCdromDevs env)) ↔
      ∀ e ∈ entriesOf env DEV_DIR_PATH, isCdrom e = false := by
  obtain ⟨ho,hr⟩ := prints_listing (@survives_cdromRow env) lines_cdromRow
    .diskHeader rfl .listCdromDevs DEV_DIR_PATH "CD-ROM Devices" isCdrom
  have hf : fullList env "cd-rom" = inDir env DEV_DIR_PATH "CD-ROM Devices" isCdrom := by
    simp [fullList, lit]
  rw [hf, listCdromDevs, ho, inDir, entriesOf]
  cases hd : env.dir DEV_DIR_PATH with
  | none =>
    rw [hd] at hr
    have hr' : ¬Returns (listing .listCdromDevs DEV_DIR_PATH "CD-ROM Devices" .diskHeader isCdrom
        cdromRow) env 0 := fun h => absurd (returns_unique h hr) (by simp [enodev])
    apply iff_of_true (iff_of_false hr' (by simp)) (by simp)
  | some l =>
    rw [hd] at hr
    have h0 : Returns (listing .listCdromDevs DEV_DIR_PATH "CD-ROM Devices" .diskHeader isCdrom
        cdromRow) env 0 := by simpa using hr
    have hn : (forEachDir l.entries).flatMap (fun _ => ([] : List Line)) = [] := by
      simp [List.flatMap_eq_nil_iff]
    rw [iff_true_left h0]
    simp [listed, hn]

theorem lines_open (path : Str) : observed lineOf (opendir path) env = [] :=
  lines_gathers (by simp)

theorem status_listBlockDevs :
    Returns listBlockDevs env (if (env.dir SYSFS_BLOCK_PATH).isSome then 0 else -enodev) := by
  cases hd : env.dir SYSFS_BLOCK_PATH with
  | none => simp [listBlockDevs, hd]
  | some l =>
    have hs : ∀ u, Returns (rows isSd blockRow l.entries) env u := fun _ =>
      (survives_rows survives_blockRow isSd l.entries).choose_spec
    have hn : ∀ u, Returns (rows isNvme nvmeRow l.entries) env u := fun _ =>
      (survives_rows survives_nvmeRow isNvme l.entries).choose_spec
    simp [listBlockDevs, hd, hs, hn]

theorem lines_listBlockDevs : observed lineOf listBlockDevs env =
    (((env.dir SYSFS_BLOCK_PATH).map fun l =>
      listed "block" ((forEachDir l.entries).filter isSd) ++
        listed "nvme-block" ((forEachDir l.entries).filter isNvme)).getD []) := by
  have hd : lineOf (.device .listBlockDevs none) = none := rfl
  have ho := (@returns_opendir env SYSFS_BLOCK_PATH _).mpr rfl
  rw [listBlockDevs, observed_emit_bind, hd, observed_bind_of_returns _ _ ho, lines_open]
  cases hb : env.dir SYSFS_BLOCK_PATH with
  | none => simp [printInfo, print, lineOf]
  | some l =>
    obtain ⟨u,hu⟩ := survives_rows (@survives_blockRow env) isSd l.entries
    have hs := observed_rows (@survives_blockRow env) lines_blockRow isSd l.entries
    have hn := observed_rows (@survives_nvmeRow env) lines_nvmeRow isNvme l.entries
    simp only [flatMap_filter _ fun e : Dirent => Line.row (some e.dName)] at hs hn
    rw [hb] at ho
    simp only [Option.map_some, Option.getD_some, print, closedir, observed_emit_bind] at ho ⊢
    rw [observed_bind_of_returns _ _ hu, hs, observed_emit_bind, observed_bind_of_returns _ _ ho,
      lines_open]
    simp only [observed_emit_bind]
    rw [observed_bind_of_silent, hn]
    · simp [listed, lineOf]
    · simp [lineOf]

theorem agrees_listBlockDevs : Returns listBlockDevs env 0 ↔
    fullList env "disk" = some (observed lineOf listBlockDevs env) := by
  have hf : fullList env "disk" = (env.dir SYSFS_BLOCK_PATH).map fun l =>
      listed "block" ((forEachDir l.entries).filter isSd) ++
        listed "nvme-block" ((forEachDir l.entries).filter isNvme) := by simp [fullList, lit]
  rw [hf]
  exact agrees_of_prints ⟨lines_listBlockDevs,by simpa using status_listBlockDevs⟩

theorem agrees_listMediumChanger_iff : (Returns listMediumChanger env 0 ↔
    fullList env "medium-changer" = some (observed lineOf listMediumChanger env)) ↔
      (env.dir SYSFS_SCSI_GEN_PATH).isSome ∧ ∀ e ∈ entriesOf env SYSFS_SCSI_GEN_PATH,
        entryType env SYSFS_SCSI_GEN_PATH e ≠ MEDIUM_CHANGER_DEVICE := by
  have hr : Returns listMediumChanger env 0 := by simp [listMediumChanger]
  have ho : observed lineOf listMediumChanger env = [.label "Medium-Changer"] := by
    simp [listMediumChanger, print, lineOf]
  have hf : fullList env "medium-changer" = inDir env SYSFS_SCSI_GEN_PATH "Medium-Changer"
      fun e => entryType env SYSFS_SCSI_GEN_PATH e = MEDIUM_CHANGER_DEVICE := by
    simp [fullList, lit]
  rw [iff_true_left hr, ho, hf, inDir, entriesOf]
  cases env.dir SYSFS_SCSI_GEN_PATH <;> simp [listed]

/-! ## Enclosures -/

def enclosureRow (d : ScsiDeviceInfo) : Option Str × Str := (d.diskName,d.diskType)

theorem getEnclosureDetails_spec (d : ScsiDeviceInfo) :
    ∃ r t, Returns (getEnclosureDetails d) env (r,t) ∧ enclosureRow t = enclosureRow d := by
  obtain ⟨⟨r,t⟩,ht⟩ := @survives_getEnclosureDetails env d
  refine ⟨r,t,ht,?_⟩
  simp only [getEnclosureDetails, returns_bind, returns_openSysfsStatsFile, exists_eq_left,
    returns_snprintfFmt] at ht
  split_ifs at ht with hc
  · obtain ⟨-,rfl⟩ : r = -eio ∧ t = d := by simpa using ht
    rfl
  · simp only [returns_bind] at ht
    obtain ⟨u,hu,ht⟩ := ht
    obtain ⟨-,rfl⟩ : r = 0 ∧ t = u := by simpa using ht
    refine loadAll_frame enclosureRow ?_ hu
    simp only [List.forall_mem_cons]
    exact ⟨fun _ _ => rfl,fun _ _ => rfl,by simp⟩

def typedRow (env : Env) (e : Dirent) : Option Str × Str :=
  enclosureRow (nameDiskType { enclosureRecord e with deviceType := enclosureType env e })

/-- The first entry that is not a directory has a row where its type is known, and the
loop ends there. -/
theorem observed_enclosureLoop {β : Type} {p : Event → Option β} (hp : Quiet p)
    {g : Option Str × Str → Option β} (hg : ∀ d, p (.out (.enclosureInfo d)) = g (enclosureRow d))
    (es : List Dirent) :
    observed p (enclosureLoop es) env =
      match es.find? fun e => e.dType ≠ .dir with
      | some e => if knownType (enclosureType env e) then (g (typedRow env e)).toList else []
      | none => [] := by
  have hc : p (.closed (.dir SYSFS_ENCLOSURE_PATH)) = none := hp.output _ rfl
  induction es with
  | nil => simp [enclosureLoop, closedir, hc]
  | cons e es ih =>
    by_cases he : e.dType = .dir
    · rw [enclosureLoop, if_neg (not_not.mpr he)]
      simpa [he] using ih
    · have hv := (@returns_validateEnclosureType env e _).mpr rfl
      rw [enclosureLoop, if_pos he, List.find?_cons_of_pos (by simp [he]),
        observed_bind_of_returns _ _ hv, quiet_gathers hp (gathers_validateEnclosureType _)]
      cases hk : knownType (enclosureType env e) with
      | false => simp [hk, enodev]
      | true =>
        obtain ⟨r,t,ht,hn⟩ := @getEnclosureDetails_spec env
          (nameDiskType { enclosureRecord e with deviceType := enclosureType env e })
        have hr : p (.out (.enclosureInfo t)) = g (typedRow env e) := (hg t).trans (congrArg g hn)
        simp only [hk, if_true, lt_self_iff_false, if_false, or_true]
        rw [observed_bind_of_returns _ _ ht, quiet_gathers hp (gathers_getEnclosureDetails _)]
        simp [print, closedir, hr, hc]

theorem returns_enclosureLoop (es : List Dirent) : Returns (enclosureLoop es) env
    (match es.find? fun e => e.dType ≠ .dir with
      | some e => if knownType (enclosureType env e) then 0 else -enodev
      | none => 0) := by
  induction es with
  | nil => simp [enclosureLoop]
  | cons e es ih =>
    by_cases he : e.dType = .dir
    · rw [enclosureLoop, if_neg (not_not.mpr he)]
      simpa [he] using ih
    · have hv := (@returns_validateEnclosureType env e _).mpr rfl
      rw [enclosureLoop, if_pos he, List.find?_cons_of_pos (by simp [he]), returns_bind_at hv]
      cases hk : knownType (enclosureType env e) with
      | false => simp [hk, enodev]
      | true =>
        obtain ⟨r,t,ht,-⟩ := @getEnclosureDetails_spec env
          (nameDiskType { enclosureRecord e with deviceType := enclosureType env e })
        simp only [hk, if_true, lt_self_iff_false, if_false, or_true]
        rw [returns_bind_at ht]
        simp [print, closedir]

theorem enclosureLoop_spec (es : List Dirent) :
    Prints env (enclosureLoop es)
      (match es.find? fun e => e.dType ≠ .dir with
        | some e => if knownType (enclosureType env e) then [.row (some e.dName)] else []
        | none => [])
      (match es.find? fun e => e.dType ≠ .dir with
        | some e => if knownType (enclosureType env e) then 0 else -enodev
        | none => 0) :=
  ⟨@observed_enclosureLoop env _ _ lineOf_quiet (fun r => some (.row r.1)) (fun _ => rfl) es,
    returns_enclosureLoop es⟩

def AtMostOneEnclosure (env : Env) : Prop :=
  ∀ l, env.dir SYSFS_ENCLOSURE_PATH = some l → ∀ e es,
    (l.entries.filter fun e => e.dType ≠ .dir) = e :: es →
      knownType (enclosureType env e) = true → es = []

theorem agrees_listEnclosure_iff : (Returns listEnclosure env 0 ↔
    fullList env "enclosure" = some (observed lineOf listEnclosure env)) ↔
      AtMostOneEnclosure env := by
  have hf : fullList env "enclosure" = (env.dir SYSFS_ENCLOSURE_PATH).map fun l =>
      listed "Enclosure" (l.entries.filter fun e => e.dType ≠ .dir) := by simp [fullList, lit]
  have hd : lineOf (.device .listEnclosure none) = none := rfl
  have ho := (@returns_opendir env SYSFS_ENCLOSURE_PATH _).mpr rfl
  rw [hf, listEnclosure, observed_emit_bind, hd, returns_emit_bind,
    observed_bind_of_returns _ _ ho, returns_bind_at ho, lines_open]
  unfold AtMostOneEnclosure
  cases env.dir SYSFS_ENCLOSURE_PATH with
  | none => simp [enodev]
  | some l =>
    obtain ⟨hl,hr⟩ := @enclosureLoop_spec env l.entries
    have h0 : ∀ {n : ℤ}, Returns (enclosureLoop l.entries) env n →
        (Returns (enclosureLoop l.entries) env 0 ↔ n = 0) := fun {n} hn =>
      ⟨fun h => returns_unique hn h,fun h => h ▸ hn⟩
    have hh : lineOf (.out .enclosureHeader) = none := rfl
    have hc : lineOf (.out (.commandLabel "Enclosure")) = some (.label "Enclosure") := rfl
    simp only [Option.map_some, Option.some.injEq, forall_eq', print, observed_emit_bind,
      returns_emit_bind, hh, hc, hl, h0 hr, ← List.head?_filter]
    cases l.entries.filter (fun e => decide (e.dType ≠ .dir)) with
    | nil => simp [listed]
    | cons e es => cases hk : knownType (enclosureType env e) <;> simp [listed, hk, enodev]

/-! ## Hosts -/

theorem lines_fcAdapterRow_lives {e : Dirent} (h : HostLives env e.dName) :
    observed lineOf (fcAdapterRow e) env = [.row (some e.dName)] := by
  obtain ⟨hd,hi⟩ := h
  have hk := (@returns_identify env e.dName _).mpr ⟨hd,rfl⟩
  obtain ⟨⟨s,g⟩,hg⟩ := (survives_getFcInfo_iff (knownHost env e.dName)).mpr hi
  have hname : g.hostName = some e.dName := congrArg (·.2.1) (origin_getFcInfo hg)
  have hs : Emits Gathers (do
      let f ← getSymbolicName (fcHost e.dName)
      getDriverInfo f) env := by simp [gathers_getSymbolicName, gathers_getDriverInfo]
  rw [fcAdapterRow_eq, observed_bind_of_returns _ _ hk, lines_gathers hs,
    observed_bind_of_returns _ _ hg, lines_gathers (gathers_getFcInfo _)]
  simp [lineOf, hname]

theorem lines_fcAdapterRow_ends {e : Dirent} (h : ¬HostLives env e.dName) :
    observed lineOf (fcAdapterRow e) env = [] := by
  have hs : Emits Gathers (do
      let f ← getSymbolicName (fcHost e.dName)
      getDriverInfo f) env := by simp [gathers_getSymbolicName, gathers_getDriverInfo]
  rw [fcAdapterRow_eq]
  apply observed_bind_eq_nil _ (lines_gathers hs)
  intro f hf
  apply observed_bind_eq_nil _ (lines_gathers (gathers_getFcInfo f))
  intro p hp
  obtain ⟨hd,rfl⟩ := (returns_identify e.dName f).mp hf
  exact (h ⟨hd,(survives_getFcInfo_iff _).mp ⟨p,hp⟩⟩).elim

/-- The rows are all there exactly when every host can be followed. -/
theorem lines_hosts_iff (es : List Dirent) :
    observed lineOf (es.foldlM (fun (_ : Unit) e => fcAdapterRow e) ()) env =
      es.map (fun e => .row (some e.dName)) ↔ ∀ e ∈ es, HostLives env e.dName := by
  induction es with
  | nil => simp
  | cons e es ih =>
    rw [List.foldlM_cons, List.forall_mem_cons, ← ih]
    by_cases h : HostLives env e.dName
    · obtain ⟨u,hu⟩ := (survives_fcAdapterRow_iff e).mpr h
      rw [observed_bind_of_returns _ _ hu, lines_fcAdapterRow_lives h]
      simp [h]
    · have hn : observed lineOf (fcAdapterRow e >>= fun u =>
          es.foldlM (fun (_ : Unit) e => fcAdapterRow e) u) env = [] :=
        observed_bind_eq_nil _ (lines_fcAdapterRow_ends h) fun u hu =>
          (h ((survives_fcAdapterRow_iff e).mp ⟨u,hu⟩)).elim
      rw [hn]
      simp [h]

/-- The number of hosts is the status, in 32 bits. -/
def UncountedHosts (env : Env) : Prop :=
  (env.dir SYSFS_FC_HOST_PATH).isSome → int32 (entriesOf env SYSFS_FC_HOST_PATH).length = 0

theorem agrees_listFcAdapters_iff
    (h : ∀ e ∈ entriesOf env SYSFS_FC_HOST_PATH, HostLives env e.dName) :
    (Returns listFcAdapters env 0 ↔
      fullList env "fc_hba" = some (observed lineOf listFcAdapters env)) ↔ UncountedHosts env := by
  have hf : fullList env "fc_hba" = inDir env SYSFS_FC_HOST_PATH "Fabric" fun _ => true := by
    simp [fullList, lit]
  have hd : lineOf (.device .listFcAdapters none) = none := rfl
  have ho := (@returns_opendir env SYSFS_FC_HOST_PATH _).mpr rfl
  have hh : lineOf (.out .fcDevHeader) = none := rfl
  have hc : lineOf (.out (.commandLabel "Fabric")) = some (.label "Fabric") := rfl
  rw [hf, listFcAdapters, observed_emit_bind, hd, returns_emit_bind,
    observed_bind_of_returns _ _ ho, returns_bind_at ho, lines_open]
  unfold UncountedHosts inDir
  cases hl : env.dir SYSFS_FC_HOST_PATH with
  | none => simp [enodev]
  | some l =>
    have hes : entriesOf env SYSFS_FC_HOST_PATH = forEachDir l.entries := by rw [entriesOf, hl]; rfl
    rw [hes] at h ⊢
    obtain ⟨u,hu⟩ := (survives_foldlM_iff (fun (_ : Unit) e => fcAdapterRow e) env _
      (forEachDir l.entries) () fun _ e _ => survives_fcAdapterRow_iff e).mpr h
    simp only [Option.map_some, print, observed_emit_bind, returns_emit_bind, hh, hc]
    rw [observed_bind_of_silent _ (by simp [closedir, lineOf]), returns_bind_at hu,
      (lines_hosts_iff _).mpr h]
    simp [listed, eq_comm]

theorem lines_iscsiRow (e : Dirent) :
    observed lineOf (iscsiRow e) env = [.row (some e.dName)] := by
  obtain ⟨j,hj,hl⟩ := @identified_spec env e.dName
  obtain ⟨k,hk,hc⟩ := fillConnectionInfo_known hl
  have hname : k.hostName = some e.dName :=
    (congrArg (·.1.1) hc).trans (hostName_withSession e.dName (iscsiHost e.dName))
  rw [iscsiRow_eq, observed_bind_of_returns _ _ hj, lines_gathers (gathers_identified _),
    observed_bind_of_returns _ _ hk, lines_gathers (gathers_fillConnectionInfo _)]
  simp [lineOf, hname]

/-- The number of hosts is the status here too, and an empty class is reported as none. -/
theorem agrees_listIscsiDevs_iff : (Returns listIscsiDevs env 0 ↔
    fullList env "iscsi" = some (observed lineOf listIscsiDevs env)) ↔
      entriesOf env SYSFS_ISCSI_HOST_PATH = [] := by
  have hf : fullList env "iscsi" = inDir env SYSFS_ISCSI_HOST_PATH "iSCSI" fun _ => true := by
    simp [fullList, lit]
  rw [hf, returns_listIscsiDevs,
    observed_listIscsiDevs lineOf (fun _ => quiet_of_gathers lineOf_quiet) rfl rfl lines_iscsiRow]
  by_cases he : entriesOf env SYSFS_ISCSI_HOST_PATH = []
  · have hc : ¬(0 : ℤ) = deviceCount env SYSFS_ISCSI_HOST_PATH := by simp [deviceCount, he, enodev]
    rw [if_pos he]
    apply iff_of_true (iff_of_false hc ?_) he
    simp [inDir, listed]
  · obtain ⟨l,hl,hes⟩ := opens_of_entries he
    have hcount : deviceCount env SYSFS_ISCSI_HOST_PATH ≠ 0 := by
      simp [deviceCount, he]
    have hfull : inDir env SYSFS_ISCSI_HOST_PATH "iSCSI" (fun _ => true) =
        some (listed "iSCSI" (forEachDir l.entries)) := by simp [inDir, hl]
    apply iff_of_false (fun h => hcount ?_) he
    rw [if_neg he, hes, ← List.map_eq_flatMap, hfull] at h
    exact (h.mpr rfl).symm

end ScsiCli.Listings
