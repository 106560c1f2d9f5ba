import ScsiCli.ArrayBounds
import ScsiCli.AttributeNumbers
import ScsiCli.PrintedTables

/-!
# What the tables say of the machine

The record behind each row in closed form: which file, directory or node a cell
comes from. With the reading of the printed text, an inventory of disks that the
kernel presents comes back from the output of `list disk`.
-/

set_option autoImplicit false

namespace ScsiCli.TableContents
open ScsiCli.RunTrace ScsiCli.ByteString ScsiCli.NumberText ScsiCli.NumberReading ScsiCli.Records
open ScsiCli.Machine ScsiCli.SysfsUtils ScsiCli.DiskUtils ScsiCli.Commands ScsiCli.MachineRules
open ScsiCli.CommandGrammar ScsiCli.Dispatch ScsiCli.Gatherers ScsiCli.LiteralCopies
open ScsiCli.AttributeNumbers ScsiCli.Completion ScsiCli.Requests ScsiCli.Listings
open ScsiCli.Printing ScsiCli.SessionLuns ScsiCli.HctlLookup ScsiCli.BusIds ScsiCli.Columns
open ScsiCli.ArrayBounds ScsiCli.PrintedTables

variable {env : Env}

/-! ## The lookup by number -/

def located (env : Env) (e : Dirent) (d : ScsiDeviceInfo) : ScsiDeviceInfo :=
  assignHctl { d with
    major := (deviceNumbers env e.dName).1
    minor := (deviceNumbers env e.dName).2 } (found env (deviceNumbers env e.dName))

theorem assignHctl_fields (d : ScsiDeviceInfo) (xs : List ℤ) (t : ScsiDeviceInfo) :
    assignHctl (assignHctl d xs) (fields t) = assignHctl d (fields t) := by
  match xs with
  | [] | [_] | [_,_] | [_,_,_] | _ :: _ :: _ :: _ :: _ => rfl

theorem hctlLoop_record (es : List Dirent) (d : ScsiDeviceInfo) :
    (hctlLoop es d).2 = assignHctl d (fields (hctlLoop es d).2) := by
  induction es generalizing d with
  | nil => rfl
  | cons e es ih =>
    by_cases hd : e.dType ≠ .dir
    · rw [hctlLoop, if_pos hd]
      exact ih d
    · by_cases h4 : (scanColon 4 e.dName).length = 4
      · have hl : (hctlLoop (e :: es) d).2 = assignHctl d (scanColon 4 e.dName) := by
          simp [hctlLoop, hd, h4]
        have hf := fields_assignHctl d h4.le
        have hd4 : (fields d).drop (scanColon 4 e.dName).length = [] := by rw [h4]; rfl
        rw [hl, hf, hd4, List.append_nil]
      · have hl : (hctlLoop (e :: es) d).2 =
            (hctlLoop es (assignHctl d (scanColon 4 e.dName))).2 := by
          simp [hctlLoop, hd, h4]
        have hi := ih (assignHctl d (scanColon 4 e.dName))
        rw [assignHctl_fields] at hi
        rw [hl]
        exact hi

theorem returns_located {d : ScsiDeviceInfo} (hn : d.major = 0 ∧ d.minor = 0)
    (hf : fields d = [0,0,0,0]) (e : Dirent) : Returns (locate e d) env (located env e d) := by
  have hd := @returns_getDeviceNumbers env d hn e.dName
  unfold located
  generalize deviceNumbers env e.dName = p at hd ⊢
  have hfd : fields { d with major := p.1, minor := p.2 } = fields {} := hf
  cases hl : env.dir (blockPath p) with
  | none =>
    have hg : Returns (getHctlInfo { d with major := p.1, minor := p.2 }) env
        (-enodev,{ d with major := p.1, minor := p.2 }) := by
      have hl' : env.dir (cut 256 (lit "/sys/dev/block/" ++ decimal (int32 p.1) ++ lit ":" ++
        decimal (int32 p.2) ++ lit "/device/scsi_device")) = none := hl
      simp only [getHctlInfo, returns_bind, returns_opendir, exists_eq_left, hl', Option.map_none,
        returns_pure]
    have hr : found env p = fields { d with major := p.1, minor := p.2 } := by
      rw [found, hl, hfd]
      rfl
    rw [locate, returns_bind_at hd, returns_bind_at hg, returns_pure, hr]
    rfl
  | some l =>
    have hg := (@returns_getHctlInfo env { d with major := p.1, minor := p.2 } l hl _).mpr rfl
    have hr : found env p =
        fields (hctlLoop l.entries { d with major := p.1, minor := p.2 }).2 := by
      rw [found, hl]
      exact (fields_hctlLoop_congr hfd _).symm
    rw [locate, returns_bind_at hd, returns_bind_at hg, returns_pure, hr]
    exact (hctlLoop_record _ _).symm

theorem assignHctl_rest (d : ScsiDeviceInfo) (xs : List ℤ) :
    numbersCells (assignHctl d xs) = numbersCells d ∧ (assignHctl d xs).diskType = d.diskType ∧
      nodeCells (assignHctl d xs) = nodeCells d ∧ underDisk (assignHctl d xs) = underDisk d := by
  match xs with
  | [] | [_] | [_,_] | [_,_,_] | _ :: _ :: _ :: _ :: _ => exact ⟨rfl,rfl,rfl,rfl⟩

/-! ## The cells of an entry -/

def attrPath (path : Str) (e : Dirent) (file : Str) : Str :=
  path ++ lit "/" ++ e.dName ++ lit "/" ++ file

def busCell (env : Env) (e : Dirent) : Str := idText (found env (deviceNumbers env e.dName))

def nvmeIdText : List ℤ → Str
  | [_,b,t,l] =>
    bracketed ('N' :: ':' :: (decimal b ++ ':' :: (decimal t ++ ':' :: decimal l)))
  | _ => []

def numberCells (env : Env) (e : Dirent) : List Str :=
  [decimal (int32 (deviceNumbers env e.dName).1),decimal (int32 (deviceNumbers env e.dName).2)]

def entryCells (path : Str) (e : Dirent) : List Str := [e.dName,path ++ lit "/" ++ e.dName]

def scsiContents (env : Env) (path : Str) (e : Dirent) : List Str :=
  [busCell env e,copied env 32 (attrPath path e "device/vendor"),
   copied env 32 (attrPath path e "device/model"),copied env 32 (attrPath path e "device/rev")] ++
    numberCells env e ++ devTypeToDevName (entryType env path e) :: entryCells path e

def nvmeContents (env : Env) (e : Dirent) : List Str :=
  [nvmeIdText (found env (deviceNumbers env e.dName)),
   copied env 32 (attrPath SYSFS_BLOCK_PATH e "device/model"),
   copied env 32 (attrPath SYSFS_BLOCK_PATH e "device/firmware_rev")] ++
    numberCells env e ++ lit "disk" :: entryCells SYSFS_BLOCK_PATH e

def genericContents (env : Env) (e : Dirent) : List Str :=
  busCell env e :: (numberCells env e ++
    (if strncmpEq e.dName "ng" 2 then lit "NVMe Generic" else lit "SCSI Generic") ::
      entryCells DEV_DIR_PATH e)

def mpathContents (env : Env) (e : Dirent) : List Str :=
  busCell env e :: (numberCells env e ++ entryCells SYSFS_BLOCK_PATH e)

theorem underDisk_attr {path : Str} (hp : path.length < 200) (e : Dirent) {file : Str}
    (hf : file.length ≤ 64) : underDisk (named path e) file = attrPath path e file := by
  have hn := e.name_ok.2.2.2
  rw [DeviceReach.underDisk_named hp, cut_of_length_lt]
  · rfl
  · simp [lit]
    omega

theorem nodeCells_named {path : Str} (hp : path.length < 200) (e : Dirent) :
    nodeCells (named path e) = entryCells path e := by
  have hn := e.name_ok.2.2.2
  have hc : cut 512 (path ++ lit "/" ++ e.dName) = path ++ lit "/" ++ e.dName :=
    cut_of_length_lt (by simp [lit]; omega)
  simp only [nodeCells, named, hc, orNull, entryCells, Option.getD_some]

theorem cut_typeName (n : ℤ) : cut 32 (devTypeToDevName n) = devTypeToDevName n := by
  apply cut_of_length_lt
  unfold devTypeToDevName
  split
  · rename_i p hp
    have hl : ∀ p ∈ devTypeStr, p.2.length < 32 := by decide +kernel
    exact hl p (List.mem_of_find?_eq_some hp)
  · simp [lit]

/-! ## The rows -/

theorem fields_located (e : Dirent) (d : ScsiDeviceInfo) :
    fields (located env e d) = found env (deviceNumbers env e.dName) := by
  have hl := length_found env (deviceNumbers env e.dName)
  rw [located, fields_assignHctl _ hl.le, hl]
  exact List.append_nil _

theorem numbersCells_located (e : Dirent) (d : ScsiDeviceInfo) :
    numbersCells (located env e d) = numberCells env e := (assignHctl_rest _ _).1

theorem diskType_located (e : Dirent) (d : ScsiDeviceInfo) :
    (located env e d).diskType = d.diskType := (assignHctl_rest _ _).2.1

theorem nodeCells_located (e : Dirent) (d : ScsiDeviceInfo) :
    nodeCells (located env e d) = nodeCells d := (assignHctl_rest _ _).2.2.1

theorem underDisk_located (e : Dirent) (d : ScsiDeviceInfo) :
    underDisk (located env e d) = underDisk d := (assignHctl_rest _ _).2.2.2

theorem cells_printed {m : Tool ScsiDeviceInfo} {d : ScsiDeviceInfo} (hr : Returns m env d)
    (hg : Emits Gathers m env) {o : ScsiDeviceInfo → Out} {c : List Str}
    (hc : cellsOf (.out (o d)) = some c) :
    observed cellsOf (m >>= fun d => print (o d)) env = [c] := by
  rw [observed_bind_of_returns _ _ hr, quiet_gathers cellsOf_quiet hg, observed_print, hc]
  rfl

theorem returns_vendorModel (d : ScsiDeviceInfo) : Returns (getDiskVendorModel d) env
    { d with
      vendor := some (copied env 32 (underDisk d "device/vendor"))
      model := some (copied env 32 (underDisk d "device/model"))
      rev := some (copied env 32 (underDisk d "device/rev")) } :=
  (returns_loadAll_plain (by simp [vendorRow, modelRow, revRow, Plain]) _ _).mpr rfl

theorem returns_nvmeModel (d : ScsiDeviceInfo) : Returns (getNvmeDeviceModel d) env
    { d with
      model := some (copied env 32 (underDisk d "device/model"))
      rev := some (copied env 32 (underDisk d "device/firmware_rev")) } :=
  (returns_loadAll_plain (by simp [modelRow, revRow, Plain]) _ _).mpr rfl

theorem returns_diskType (path : Str) (e : Dirent) : Returns (getDiskType (named path e)) env
    { named path e with deviceType := entryType env path e } :=
  (returns_loadAll_plain (by simp [typeRow, Plain]) _ _).mpr rfl

def typed (path : Str) (e : Dirent) (n : ℤ) : ScsiDeviceInfo :=
  nameDiskType { named path e with deviceType := n }

theorem returns_locate_typed (path : Str) (e : Dirent) (n : ℤ) :
    Returns (locate e (typed path e n)) env (located env e (typed path e n)) :=
  returns_located ⟨rfl,rfl⟩ rfl e

def scsiRecord (env : Env) (path : Str) (e : Dirent) : ScsiDeviceInfo :=
  { located env e (typed path e (entryType env path e)) with
    vendor := some (copied env 32 (underDisk (named path e) "device/vendor"))
    model := some (copied env 32 (underDisk (named path e) "device/model"))
    rev := some (copied env 32 (underDisk (named path e) "device/rev")) }

theorem returns_scsiRecord (path : Str) (e : Dirent) : Returns (do
    let d ← getDiskType (named path e)
    let d ← locate e (nameDiskType d)
    getDiskVendorModel d) env (scsiRecord env path e) := by
  have hv := @returns_vendorModel env (located env e (typed path e (entryType env path e)))
  rw [underDisk_located, show ∀ n, underDisk (typed path e n) = underDisk (named path e) from
    fun _ => rfl] at hv
  rw [returns_bind_at (returns_diskType path e)]
  exact (returns_bind_at (returns_locate_typed path e _) _ _).mpr hv

theorem rest_located {path : Str} (hp : path.length < 200) (e : Dirent) (n : ℤ) :
    fields (located env e (typed path e n)) = found env (deviceNumbers env e.dName) ∧
      numbersCells (located env e (typed path e n)) = numberCells env e ∧
        (located env e (typed path e n)).diskType = devTypeToDevName n ∧
          nodeCells (located env e (typed path e n)) = entryCells path e :=
  ⟨fields_located e _,numbersCells_located e _,(diskType_located e _).trans (cut_typeName _),
    (nodeCells_located e _).trans (nodeCells_named hp e)⟩

theorem cells_scsiRecord {path : Str} (hp : path.length < 200) (e : Dirent) :
    diskCells (scsiRecord env path e) = scsiContents env path e := by
  obtain ⟨hb,hn,ht,hc⟩ := @rest_located env path hp e (entryType env path e)
  rw [scsiRecord, underDisk_attr hp e (by simp [lit]), underDisk_attr hp e (by simp [lit]),
    underDisk_attr hp e (by simp [lit])]
  generalize located env e (typed path e (entryType env path e)) = d at hb hn ht hc ⊢
  change [busId d,_,_,_] ++ numbersCells d ++ d.diskType :: nodeCells d = _
  rw [busId_eq, hb, hn, ht, hc]
  rfl

theorem cells_blockRow (e : Dirent) :
    observed cellsOf (blockRow e) env = [scsiContents env SYSFS_BLOCK_PATH e] := by
  have hc := @cells_scsiRecord env SYSFS_BLOCK_PATH (by simp [SYSFS_BLOCK_PATH, lit]) e
  have hp := cells_printed (returns_scsiRecord SYSFS_BLOCK_PATH e)
    (by simp [gathers_getDiskType, gathers_locate, gathers_getDiskVendorModel])
    (o := .diskInfo) (congrArg some hc)
  simpa only [blockRow, prog_bind_assoc] using hp

theorem cells_controllerRow (e : Dirent) : observed cellsOf (controllerRow e) env =
    if entryType env SYSFS_SCSI_GEN_PATH e = STORAGE_ARRAY_CNTROLLER then
      [scsiContents env SYSFS_SCSI_GEN_PATH e] else [] := by
  have hr := @returns_scsiRecord env SYSFS_SCSI_GEN_PATH e
  have hc := @cells_scsiRecord env SYSFS_SCSI_GEN_PATH (by simp [SYSFS_SCSI_GEN_PATH, lit]) e
  have ht : (scsiRecord env SYSFS_SCSI_GEN_PATH e).deviceType =
      entryType env SYSFS_SCSI_GEN_PATH e := by
    have hd : ∀ n, (located env e (typed SYSFS_SCSI_GEN_PATH e n)).deviceType = n := fun n => by
      rw [located]
      exact congrArg (·.2.2) (place_assignHctl { typed SYSFS_SCSI_GEN_PATH e n with
        major := (deviceNumbers env e.dName).1
        minor := (deviceNumbers env e.dName).2 } (found env (deviceNumbers env e.dName)))
    exact hd _
  have hg : Emits Gathers (do
      let d ← getDiskType (named SYSFS_SCSI_GEN_PATH e)
      let d ← locate e (nameDiskType d)
      getDiskVendorModel d) env := by
    simp [gathers_getDiskType, gathers_locate, gathers_getDiskVendorModel]
  have hb : controllerRow e = (do
      let d ← (do
        let d ← getDiskType (named SYSFS_SCSI_GEN_PATH e)
        let d ← locate e (nameDiskType d)
        getDiskVendorModel d)
      if d.deviceType = STORAGE_ARRAY_CNTROLLER then print (.diskInfo d)) := by
    simp only [controllerRow, prog_bind_assoc]
  rw [hb, observed_bind_of_returns _ _ hr, quiet_gathers cellsOf_quiet hg, ht]
  split
  · rw [observed_print]
    exact congrArg (fun c => [c]) hc
  · rfl

theorem cells_nvmeRow (e : Dirent) :
    observed cellsOf (nvmeRow e) env = [nvmeContents env e] := by
  have hp : SYSFS_BLOCK_PATH.length < 200 := by simp [SYSFS_BLOCK_PATH, lit]
  have hl := @returns_locate_typed env SYSFS_BLOCK_PATH e DIRECT_ACCESS_BLOCK_DEVICE
  have hm := @returns_nvmeModel env
    (located env e (typed SYSFS_BLOCK_PATH e DIRECT_ACCESS_BLOCK_DEVICE))
  obtain ⟨hb,hn,ht,hc⟩ := @rest_located env _ hp e DIRECT_ACCESS_BLOCK_DEVICE
  have hu : ∀ n, underDisk (located env e (typed SYSFS_BLOCK_PATH e n)) =
      underDisk (named SYSFS_BLOCK_PATH e) := fun n => (underDisk_located e _).trans rfl
  rw [hu, underDisk_attr hp e (by simp [lit]), underDisk_attr hp e (by simp [lit])] at hm
  generalize located env e (typed SYSFS_BLOCK_PATH e DIRECT_ACCESS_BLOCK_DEVICE) = d
    at hl hm hb hn ht hc
  have hd : nvmeCells { d with
      model := some (copied env 32 (attrPath SYSFS_BLOCK_PATH e "device/model"))
      rev := some (copied env 32 (attrPath SYSFS_BLOCK_PATH e "device/firmware_rev")) } =
      nvmeContents env e := by
    change [nvmeIdText (fields d),_,_] ++ numbersCells d ++ d.diskType :: nodeCells d = _
    rw [hb, hn, ht, hc]
    rfl
  have hr := (returns_bind_at hl getNvmeDeviceModel _).mpr hm
  have hs := cells_printed hr (by simp [gathers_locate, gathers_getNvmeDeviceModel])
    (o := .nvmeDiskInfo) (congrArg some hd)
  simpa only [nvmeRow, typed, prog_bind_assoc] using hs

theorem cells_mpathRow (e : Dirent) :
    observed cellsOf (mpathRow e) env = [mpathContents env e] := by
  have hp : SYSFS_BLOCK_PATH.length < 200 := by simp [SYSFS_BLOCK_PATH, lit]
  have hl := @returns_located env
    { named SYSFS_BLOCK_PATH e with deviceType := UNKNOWN_DEVICE } ⟨rfl,rfl⟩ rfl e
  have hb := @fields_located env e { named SYSFS_BLOCK_PATH e with deviceType := UNKNOWN_DEVICE }
  have hn := @numbersCells_located env e
    { named SYSFS_BLOCK_PATH e with deviceType := UNKNOWN_DEVICE }
  have hc := (@nodeCells_located env e
    { named SYSFS_BLOCK_PATH e with deviceType := UNKNOWN_DEVICE }).trans (nodeCells_named hp e)
  generalize located env e { named SYSFS_BLOCK_PATH e with deviceType := UNKNOWN_DEVICE } = d
    at hl hb hn hc
  have hd : mpathCells { d with
      vendor := some (copied env 32 (underDisk d "device/vendor"))
      model := some (copied env 32 (underDisk d "device/model"))
      rev := some (copied env 32 (underDisk d "device/rev")) } = mpathContents env e := by
    change busId d :: (numbersCells d ++ nodeCells d) = _
    rw [busId_eq, hb, hn, hc]
    rfl
  have hr := (returns_bind_at hl getDiskVendorModel _).mpr (returns_vendorModel d)
  have hs := cells_printed hr (by simp [gathers_locate, gathers_getDiskVendorModel])
    (o := .mpathDiskInfo) (congrArg some hd)
  simpa only [mpathRow, prog_bind_assoc] using hs

theorem cells_genericRow (e : Dirent) :
    observed cellsOf (genericRow e) env = [genericContents env e] := by
  have hp : DEV_DIR_PATH.length < 200 := by simp [DEV_DIR_PATH, lit]
  have hl := @returns_located env { named DEV_DIR_PATH e with deviceType := GENERIC_DEV }
    ⟨rfl,rfl⟩ rfl e
  have hb := @fields_located env e { named DEV_DIR_PATH e with deviceType := GENERIC_DEV }
  have hn := @numbersCells_located env e { named DEV_DIR_PATH e with deviceType := GENERIC_DEV }
  have hc := (@nodeCells_located env e
    { named DEV_DIR_PATH e with deviceType := GENERIC_DEV }).trans (nodeCells_named hp e)
  generalize located env e { named DEV_DIR_PATH e with deviceType := GENERIC_DEV } = d
    at hl hb hn hc
  have hd : ∀ t, genericCells { d with
      diskType := t
      vendor := some (copied env 32 (underDisk d "device/vendor"))
      model := some (copied env 32 (underDisk d "device/model"))
      rev := some (copied env 32 (underDisk d "device/rev")) } =
      busCell env e :: (numberCells env e ++ t :: entryCells DEV_DIR_PATH e) := fun t => by
    change busId d :: (numbersCells d ++ t :: nodeCells d) = _
    rw [busId_eq, hb, hn, hc]
    rfl
  have hr := (returns_bind_at hl (fun d => getDiskVendorModel { d with
    diskType := if strncmpEq e.dName "ng" 2 then "NVMe Generic" else "SCSI Generic" }) _).mpr
      (returns_vendorModel _)
  have hs := cells_printed hr (by simp [gathers_locate, gathers_getDiskVendorModel])
    (o := .genericDiskInfo) (congrArg some (hd _))
  simpa only [genericRow, genericContents, prog_bind_assoc] using hs

/-! ## The tables -/

/-- The rows of a table, cell by cell, as the machine has them. -/
def contents (env : Env) (sub : Str) : List (List Str) :=
  if sub = "disk" then
    ((entriesOf env SYSFS_BLOCK_PATH).filter isSd).map (scsiContents env SYSFS_BLOCK_PATH) ++
      ((entriesOf env SYSFS_BLOCK_PATH).filter isNvme).map (nvmeContents env)
  else if sub = "multipath" then
    ((entriesOf env SYSFS_BLOCK_PATH).filter fun e => isDm e || isMd e).map (mpathContents env)
  else if sub = "generic" then
    ((entriesOf env DEV_DIR_PATH).filter isGeneric).map (genericContents env)
  else
    ((entriesOf env SYSFS_SCSI_GEN_PATH).filter fun e =>
      entryType env SYSFS_SCSI_GEN_PATH e = STORAGE_ARRAY_CNTROLLER).map
        (scsiContents env SYSFS_SCSI_GEN_PATH)

def rowTables : List Str := ["disk","multipath","generic","controller"]

theorem cells_rows {body : Dirent → Tool Unit} (hs : ∀ e, Survives (body e) env)
    {c : Dirent → List Str} (hc : ∀ e, observed cellsOf (body e) env = [c e])
    (test : Dirent → Bool) (es : List Dirent) :
    observed cellsOf (rows test body es) env = ((forEachDir es).filter test).map c := by
  rw [observed_rows hs hc, ← flatMap_filter test c]

theorem cells_listing {body : Dirent → Tool Unit} (hs : ∀ e, Survives (body e) env)
    {o : Dirent → List (List Str)} (ho : ∀ e, observed cellsOf (body e) env = o e) (f : Device)
    (path label : Str) {header : Out} (hh : cellsOf (.out header) = none) (test : Dirent → Bool) :
    observed cellsOf (listing f path label header test body) env =
      (entriesOf env path).flatMap fun e => if test e then o e else [] := by
  have hl : cellsOf (.out (.commandLabel label)) = none := rfl
  rw [observed_listing hs ho cellsOf_quiet, hl, hh, entriesOf]
  cases env.dir path <;> rfl

theorem cells_listed {sub : Str} (hs : sub ∈ rowTables) :
    ∃ m, Lists sub m ∧ observed cellsOf m env = contents env sub := by
  simp only [rowTables, List.mem_cons, List.not_mem_nil, or_false] at hs
  rcases hs with rfl | rfl | rfl | rfl
  · refine ⟨_,.disk,?_⟩
    have hb := cells_rows (@survives_blockRow env) cells_blockRow isSd
    have hv := cells_rows (@survives_nvmeRow env) cells_nvmeRow isNvme
    rw [RowIsolation.observed_listBlockDevs cellsOf_quiet (fun _ => rfl) rfl rfl env, contents,
      if_pos rfl, entriesOf]
    cases env.dir SYSFS_BLOCK_PATH with
    | none => rfl
    | some l => simp only [Option.map_some, Option.getD_some, hb, hv]
  · refine ⟨_,.multipath,(cells_listing survives_mpathRow cells_mpathRow _ _ _ rfl _).trans ?_⟩
    rw [flatMap_filter]
    simp [contents, lit]
  · refine ⟨_,.generic,(cells_listing survives_genericRow cells_genericRow _ _ _ rfl _).trans ?_⟩
    rw [flatMap_filter]
    simp [contents, lit]
  · refine ⟨_,.controller,
      (cells_listing survives_controllerRow cells_controllerRow _ _ _ rfl _).trans ?_⟩
    simp [contents, lit, ← flatMap_filter]

/-- Where a listing succeeds on a tidy machine, its standard output is read back as what the
machine says of the entries that belong to it. -/
theorem table_contents (hT : Tidy env) {sub : Str} (hs : sub ∈ rowTables) (a₀ : Str)
    (rest : List Str) (h0 : Returns (main (a₀ :: "list" :: sub :: rest)) env 0) :
    readTable '[' (stdout (main (a₀ :: "list" :: sub :: rest)) env) =
      (contents env sub).map (·.map trim) := by
  have ht : sub ∈ tables := by
    simp only [rowTables, tables, List.mem_cons, List.not_mem_nil, or_false] at hs ⊢
    tauto
  obtain ⟨m,hl,hm⟩ := @cells_listed env sub hs
  obtain ⟨m',hl',hm'⟩ := tabular_table hT ht
  rw [read_stdout (emits_main_lists hl' h0 ⟨tabular_of_isOut rfl,tabular_of_isOut rfl⟩ hm'),
    (run_lists hl a₀ rest).1 cellsOf cellsOf_quiet, hm]

theorem padded_vendor_contents :
    readTable '[' (stdout (main ["scsi-cli","list","disk"]) paddedVendor) =
      (contents paddedVendor (lit "disk")).map (·.map trim) :=
  table_contents tidy_paddedVendor (by simp [rowTables]) (lit "scsi-cli") [] list_paddedVendor

/-! ## An inventory of disks -/

structure CellText (t : Str) : Prop where
  clean : Clean t
  plain : '%' ∉ t
  no_nul : nul ∉ t

/-- A disk with the numbers of its node, whose name leaves room for `/dev/`. -/
structure Disk where
  name : Str
  model : Str
  rev : Str
  major : ℕ
  minor : ℕ
  texts : CellText model ∧ CellText rev
  short : name.length ≤ 250
  numbers : major < 2^31 ∧ minor < 2^31

structure ScsiDisk extends Disk where
  vendor : Str
  kind : ℕ
  address : Address
  vendor_text : CellText vendor
  five_bits : kind < 32
  narrow : address.Narrow

def Disk.path (d : Disk) (file : Str) : Str :=
  SYSFS_BLOCK_PATH ++ lit "/" ++ d.name ++ lit "/" ++ file

def Disk.ends (d : Disk) (kind : Str) : List Str :=
  [Nat.toDigits 10 d.major,Nat.toDigits 10 d.minor,kind,d.name,
   SYSFS_BLOCK_PATH ++ lit "/" ++ d.name]

/-- A cell of text has room for 31 bytes. -/
def Disk.row (d : Disk) : List Str :=
  lit "[N:0:0:0]" :: cut 32 d.model :: cut 32 d.rev :: d.ends "disk"

def ScsiDisk.row (d : ScsiDisk) : List Str :=
  bracketed d.address.name :: cut 32 d.vendor :: cut 32 d.model :: cut 32 d.rev ::
    d.ends (devTypeToDevName d.kind)

structure HasNode (env : Env) (d : Disk) : Prop where
  opens : env.openFd ("/dev/" ++ d.name) ≠ 0
  stat : env.stat ("/dev/" ++ d.name) = some (d.major,d.minor)

structure PresentsNvme (env : Env) (d : Disk) : Prop extends HasNode env d where
  model : Holds env (d.path "device/model") d.model
  rev : Holds env (d.path "device/firmware_rev") d.rev
  address : env.dir (blockPath (d.major,d.minor)) = none

/-- The address of a SCSI disk is the first one listed under its numbers. -/
structure PresentsScsi (env : Env) (d : ScsiDisk) : Prop extends HasNode env d.toDisk where
  vendor : Holds env (d.path "device/vendor") d.vendor
  model : Holds env (d.path "device/model") d.model
  rev : Holds env (d.path "device/rev") d.rev
  type : Holds env (d.path "device/type") (Nat.toDigits 10 d.kind)
  address : ∃ l e, env.dir (blockPath (d.major,d.minor)) = some l ∧
    l.entries.find? readsFour = some e ∧ Names e d.address

/-- The block directory holds the disks, in the order of their names in it. -/
structure Inventory (env : Env) (scsi : List ScsiDisk) (nvme : List Disk) : Prop where
  opens : (env.dir SYSFS_BLOCK_PATH).isSome
  scsi : List.Forall₂ (fun e d => e.dName = d.name ∧ PresentsScsi env d)
    ((entriesOf env SYSFS_BLOCK_PATH).filter isSd) scsi
  nvme : List.Forall₂ (fun e d => e.dName = d.name ∧ PresentsNvme env d)
    ((entriesOf env SYSFS_BLOCK_PATH).filter isNvme) nvme

theorem copied_cell {t path : Str} (ht : CellText t) (h : Holds env path t) :
    copied env 32 path = cut 32 t := by
  rw [copied_plain ht.clean.2 ht.no_nul ht.plain h, cut, cut, List.take_take]
  rfl

theorem decimal_kept {n : ℕ} (h : n < 2^31) : decimal (int32 n) = Nat.toDigits 10 n := by
  rw [int32_of_range (by omega) (by omega)]
  simp [decimal]

theorem deviceNumbers_node {d : Disk} (h : HasNode env d) :
    deviceNumbers env d.name = (d.major,d.minor) := by
  rw [deviceNumbers, if_neg h.opens, h.stat]
  rfl

theorem attrPath_disk {e : Dirent} {d : Disk} (hn : e.dName = d.name) (file : Str) :
    attrPath SYSFS_BLOCK_PATH e file = d.path file := by rw [attrPath, hn, Disk.path]

theorem row_nvme {e : Dirent} {d : Disk} (hn : e.dName = d.name) (h : PresentsNvme env d) :
    nvmeContents env e = d.row := by
  have hd := deviceNumbers_node h.toHasNode
  have hp := attrPath_disk hn
  have hf : found env (d.major,d.minor) = [0,0,0,0] := by rw [found, h.address]
  have hz : nvmeIdText [0,0,0,0] = lit "[N:0:0:0]" := by
    simp [nvmeIdText, bracketed, decimal, lit]
  rw [nvmeContents, numberCells, hn, hd, hf, hz, hp, hp, copied_cell d.texts.1 h.model,
    copied_cell d.texts.2 h.rev, decimal_kept d.numbers.1, decimal_kept d.numbers.2, entryCells, hn]
  rfl

theorem found_address {d : ScsiDisk} (h : PresentsScsi env d) :
    idText (found env (d.major,d.minor)) = bracketed d.address.name := by
  obtain ⟨l,e,hl,he,ha⟩ := h.address
  obtain ⟨h1,h2,h3,h4⟩ := d.narrow
  rw [found, hl]
  change idText (fields (hctlLoop l.entries {}).2) = _
  rw [(hctlLoop_found he {}).2, ha.name, scanColon_name, kept_of_lt h1, kept_of_lt h2,
    kept_of_lt h3, kept_of_lt h4]
  rfl

theorem entryType_kind {e : Dirent} {d : ScsiDisk} (hn : e.dName = d.name)
    (h : PresentsScsi env d) : entryType env SYSFS_BLOCK_PATH e = d.kind := by
  have hk := d.five_bits
  obtain ⟨hp,hl,hz⟩ := not_mem_toDigits (b := 10) (by omega) (by omega) d.kind
  have hs : ∀ k < 32, (Nat.toDigits 10 k).length < 8 := by decide
  have hc : copied env 8 (attrPath SYSFS_BLOCK_PATH e "device/type") = Nat.toDigits 10 d.kind := by
    have hd := hs _ hk
    rw [attrPath_disk hn, copied_plain hl hz hp h.type, List.take_of_length_le (by omega),
      cut_of_length_lt hd]
  have ht : entryType env SYSFS_BLOCK_PATH e =
      int32 (strtoull (copied env 8 (underDisk (named SYSFS_BLOCK_PATH e) "device/type"))) := rfl
  rw [ht, underDisk_attr (by simp [SYSFS_BLOCK_PATH, lit]) e (by simp [lit]), hc,
    strtoull_decimal (by omega), int32_of_range (by omega) (by omega)]

theorem row_scsi {e : Dirent} {d : ScsiDisk} (hn : e.dName = d.name) (h : PresentsScsi env d) :
    scsiContents env SYSFS_BLOCK_PATH e = d.row := by
  have hd := deviceNumbers_node h.toHasNode
  have hp := attrPath_disk hn
  rw [scsiContents, busCell, numberCells, entryType_kind hn h, hn, hd, found_address h, hp, hp, hp,
    copied_cell d.vendor_text h.vendor, copied_cell d.texts.1 h.model,
    copied_cell d.texts.2 h.rev, decimal_kept d.numbers.1, decimal_kept d.numbers.2, entryCells, hn]
  rfl

theorem map_rows {δ : Type} {P : Dirent → δ → Prop} {c : Dirent → List Str} {row : δ → List Str}
    {es : List Dirent} {ds : List δ} (h : List.Forall₂ P es ds) (hr : ∀ e d, P e d → c e = row d) :
    es.map c = ds.map row := by
  induction h with
  | nil => rfl
  | cons hd _ ih => rw [List.map_cons, List.map_cons, hr _ _ hd, ih]

theorem short_names {δ : Type} {P : Dirent → δ → Prop} {es : List Dirent} {ds : List δ}
    (h : List.Forall₂ P es ds) (hs : ∀ e d, P e d → e.dName.length ≤ 250) :
    ∀ e ∈ es, e.dName.length ≤ 250 := by
  induction h with
  | nil => simp
  | cons hd _ ih => exact List.forall_mem_cons.mpr ⟨hs _ _ hd,ih⟩

theorem ends_inventory {scsi : List ScsiDisk} {nvme : List Disk} (h : Inventory env scsi nvme)
    (a₀ : Str) (rest : List Str) : Ends (main (a₀ :: "list" :: "disk" :: rest)) env 0 := by
  have hn : ShortNames env SYSFS_BLOCK_PATH fun e => isSd e || isNvme e := by
    have hs : ∀ e ∈ (entriesOf env SYSFS_BLOCK_PATH).filter isSd, e.dName.length ≤ 250 :=
      short_names h.scsi fun _ d hd => hd.1 ▸ d.short
    have hv : ∀ e ∈ (entriesOf env SYSFS_BLOCK_PATH).filter isNvme, e.dName.length ≤ 250 :=
      short_names h.nvme fun _ d hd => hd.1 ▸ d.short
    intro e he ht
    rcases (Bool.or_eq_true _ _).mp ht with ht | ht
    · exact hs e (List.mem_filter.mpr ⟨he,ht⟩)
    · exact hv e (List.mem_filter.mpr ⟨he,ht⟩)
  have h0 : Returns listBlockDevs env 0 := by simpa [h.opens] using @status_listBlockDevs env
  obtain ⟨s,he,hs⟩ := (list_ends (P := True) .disk a₀ rest).mpr
    ⟨inArrays_listBlockDevs.mpr hn,survives_listBlockDevs,iff_of_true h0 trivial⟩
  obtain rfl : s = 0 := hs.mpr trivial
  exact he

/-- The inventory that a machine presents is read back from what `list disk` prints, the SCSI
disks before the NVMe disks and no text but for its end and the blanks around it. -/
theorem inventory_read_back (hT : Tidy env) {scsi : List ScsiDisk} {nvme : List Disk}
    (h : Inventory env scsi nvme) (a₀ : Str) (rest : List Str) :
    readTable '[' (stdout (main (a₀ :: "list" :: "disk" :: rest)) env) =
        (scsi.map ScsiDisk.row ++ nvme.map Disk.row).map (·.map trim) ∧
      Ends (main (a₀ :: "list" :: "disk" :: rest)) env 0 := by
  have hr := ends_inventory h a₀ rest
  obtain ⟨m,hl,hm⟩ := @cells_listed env (lit "disk") (by simp [rowTables])
  obtain ⟨m',hl',hm'⟩ := @tabular_table env hT (lit "disk") (by simp [tables])
  refine ⟨?_,hr⟩
  rw [read_stdout (emits_main_lists hl' hr.2 ⟨tabular_of_isOut rfl,tabular_of_isOut rfl⟩ hm'),
    (run_lists hl a₀ rest).1 cellsOf cellsOf_quiet, hm, contents, if_pos rfl,
    map_rows h.scsi fun _ _ hd => row_scsi hd.1 hd.2, map_rows h.nvme fun _ _ hd =>
      row_nvme hd.1 hd.2]

def acme : ScsiDisk where
  name := lit "sda"
  vendor := lit "ACME    "
  model := lit "Turbo           "
  rev := lit "1.0 "
  kind := 0
  major := 8
  minor := 0
  address := ⟨5,0,1,0⟩
  texts := by constructor <;> constructor <;> simp [Clean, lit, nul]
  short := by simp [lit]
  vendor_text := by constructor <;> simp [Clean, lit, nul]
  numbers := by omega
  five_bits := by omega
  narrow := by constructor <;> simp

def quick : Disk where
  name := lit "nvme1n1"
  model := lit "Quick Solid State Drive 2280 1TB"
  rev := lit "2"
  major := 259
  minor := 0
  texts := by constructor <;> constructor <;> simp [Clean, lit, nul]
  short := by simp [lit]
  numbers := by omega

def acmeAddress : Dirent := ⟨acme.address.name,.dir,by decide +kernel⟩

def nvme1n1 : Dirent := ⟨lit "nvme1n1",.lnk,by simp [lit, nul]⟩

def shelfFiles : List (Str × Str) :=
  [(acme.path "device/vendor",acme.vendor ++ ['\n']),
   (acme.path "device/model",acme.model ++ ['\n']), (acme.path "device/rev",acme.rev ++ ['\n']),
   (acme.path "device/type",Nat.toDigits 10 acme.kind ++ ['\n']),
   (quick.path "device/model",quick.model ++ ['\n']),
   (quick.path "device/firmware_rev",quick.rev ++ ['\n'])]

def shelf : Env :=
  { Env.bare with
    dir := fun p =>
      if p = SYSFS_BLOCK_PATH then
        some (Listing.ofEntries [RowIsolation.sda,nvme1n1] (by decide +kernel) (by decide +kernel)
          (by decide +kernel))
      else if p = blockPath (8,0) then
        some (HctlLookup.listing acmeAddress (by decide +kernel) (by decide +kernel))
      else none
    file := fun p =>
      ((shelfFiles.find? fun f => f.1 = p).map fun f => FileState.bytes f.2).getD .absent
    openFd := fun _ => 3
    stat := fun p => if p = lit "/dev/sda" then some (8,0) else some (259,0) }

theorem tidy_shelf : Tidy shelf := by
  refine ⟨fun path l hl e he => ?_,fun path b hb => ?_,fun _ => ⟨List.not_mem_nil,List.not_mem_nil⟩⟩
  · have hc : (∀ e ∈ [dotEntry,dotdotEntry,RowIsolation.sda,nvme1n1], Clean e.dName) ∧
        ∀ e ∈ [dotEntry,dotdotEntry,acmeAddress], Clean e.dName := by decide +kernel
    simp only [shelf] at hl
    split at hl
    · obtain rfl := Option.some.inj hl
      exact hc.1 e he
    · split at hl
      · obtain rfl := Option.some.inj hl
        exact hc.2 e he
      · cases hl
  · have hf : ∀ f ∈ shelfFiles, '\t' ∉ f.2 := by decide +kernel
    simp only [shelf] at hb
    cases hm : shelfFiles.find? fun f => f.1 = path with
    | none => simp [hm] at hb
    | some f =>
      obtain rfl : f.2 = b := by simpa [hm] using hb
      exact hf f (List.mem_of_find?_eq_some hm)

theorem holds_shelf {path t : Str} (h : (path,t ++ ['\n']) ∈ shelfFiles) : Holds shelf path t := by
  have hf : ∀ f ∈ shelfFiles, (shelfFiles.find? fun g => g.1 = f.1) = some f := by decide +kernel
  refine ⟨['\n'],?_,.inr rfl⟩
  simp [shelf, hf _ h]

theorem inventory_shelf : Inventory shelf [acme] [quick] := by
  have hb : (entriesOf shelf SYSFS_BLOCK_PATH).filter isSd = [RowIsolation.sda] ∧
      (entriesOf shelf SYSFS_BLOCK_PATH).filter isNvme = [nvme1n1] ∧
        blockPath (8,0) ≠ SYSFS_BLOCK_PATH ∧ (shelf.dir (blockPath (259,0))).isNone ∧
          (shelf.dir SYSFS_BLOCK_PATH).isSome := by decide +kernel
  obtain ⟨hs,hv,ha,hn,ho⟩ := hb
  refine ⟨ho,?_,?_⟩
  · rw [hs]
    refine .cons ⟨rfl,⟨⟨by decide,by simp [shelf, acme, lit]⟩,?_,?_,?_,?_,?_⟩⟩ .nil
    · exact holds_shelf (by simp [shelfFiles])
    · exact holds_shelf (by simp [shelfFiles])
    · exact holds_shelf (by simp [shelfFiles])
    · exact holds_shelf (by simp [shelfFiles])
    · refine ⟨_,acmeAddress,(if_neg ha).trans (if_pos rfl),by decide +kernel,rfl,rfl,?_⟩
      constructor <;> simp [acme]
  · rw [hv]
    refine .cons ⟨rfl,⟨⟨by decide,by simp [shelf, quick, lit]⟩,?_,?_,
      Option.isNone_iff_eq_none.mp hn⟩⟩ .nil
    · exact holds_shelf (by simp [shelfFiles])
    · exact holds_shelf (by simp [shelfFiles])

theorem shelf_read_back : readTable '[' (stdout (main ["scsi-cli","list","disk"]) shelf) =
    [[lit "[5:0:1:0]",lit "ACME",lit "Turbo",lit "1.0",lit "8",lit "0",lit "disk",lit "sda",
      lit "/sys/block/sda"],
     [lit "[N:0:0:0]",lit "Quick Solid State Drive 2280 1T",lit "2",lit "259",lit "0",lit "disk",
      lit "nvme1n1",lit "/sys/block/nvme1n1"]] ∧
    Ends (main ["scsi-cli","list","disk"]) shelf 0 :=
  (inventory_read_back tidy_shelf inventory_shelf (lit "scsi-cli") []).imp_left
    fun h => h.trans (by decide +kernel)

end ScsiCli.TableContents
