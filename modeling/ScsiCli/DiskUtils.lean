import ScsiCli.SysfsUtils

/-!
# Disk devices

The disk side of the tool: the gatherers of attributes, the listings and the
two details reports. The listings run over a directory in the order it gives;
each row is built from a fresh record.
-/

set_option autoImplicit false

namespace ScsiCli.DiskUtils
open ScsiCli.RunTrace ScsiCli.ByteString ScsiCli.NumberText ScsiCli.Records
open ScsiCli.Machine ScsiCli.SysfsUtils

def SYSFS_BLOCK_PATH : Str := "/sys/block"
def SYSFS_SCSI_GEN_PATH : Str := "/sys/class/scsi_generic"
def SYSFS_ENCLOSURE_PATH : Str := "/sys/class/enclosure"
def DEV_DIR_PATH : Str := "/dev"

def devTypeStr : List (ℤ × Str) :=
  [(0,"disk"), (1,"Seqential"), (2,"Printer"), (3,"Processor"), (4,"Write-Once"),
   (5,"CD/DVD-ROM"), (6,"Scanner"), (7,"Optical"), (8,"Medium Changer"),
   (9,"Communication"), (12,"Storage Array"), (13,"Enclosure"), (14,"Sim Direct Access"),
   (15,"Optical Card RW"), (17,"Object Based Storage"), (18,"Automation"),
   (19,"security Managed"), (20,"Host-Managed ZBD"), (30,"Well Known LU"), (31,"Unknown")]

def devTypeToDevName (devType : ℤ) : Str :=
  match devTypeStr.find? fun d => d.1 = devType with
  | some d => d.2
  | none => "Unknow Device"

def allocScsiDev : ScsiDeviceInfo := {}

/-! ## Statistics -/

/-- `sscanf` stores each counter as it is converted, the read side first. -/
def assignStats (s : DiskStats) : List ℕ → DiskStats
  | [] => s
  | [a] => { s with ios.1 := a }
  | [a,b] => { s with ios.1 := a, merges.1 := b }
  | [a,b,c] => { s with ios.1 := a, merges.1 := b, sectors.1 := c }
  | [a,b,c,d] => { s with ios.1 := a, merges.1 := b, sectors.1 := c, ticks.1 := d }
  | a :: b :: c :: d :: e :: vs =>
    let s := { s with ios := (a,e), merges.1 := b, sectors.1 := c, ticks.1 := d }
    match vs with
    | [] => s
    | [f] => { s with merges.2 := f }
    | [f,g] => { s with merges.2 := f, sectors.2 := g }
    | [f,g,h] => { s with merges.2 := f, sectors.2 := g, ticks.2 := h }
    | [f,g,h,i] => { s with merges.2 := f, sectors.2 := g, ticks.2 := h, ioTicks := i }
    | f :: g :: h :: i :: j :: _ =>
      { s with merges.2 := f, sectors.2 := g, ticks.2 := h, ioTicks := i, timeInQueue := j }

def getDiskStats (d : ScsiDeviceInfo) (diskName : Str) : Tool (ℤ × ScsiDeviceInfo) := do
  emit (.device .getDiskStats (some diskName))
  let path := cut 256 ("/sys/block/" ++ diskName ++ "/stat")
  match ← fopenRead path with
  | none =>
    printInfo ("file open " ++ path ++ " returned NULL")
    pure (-eio,d)
  | some f =>
    match fgets 256 f with
    | none =>
      fclose path
      pure (-eio,d)
    | some p =>
      let vs := scanU64s 10 p
      fclose path
      pure (if vs.length ≠ 10 then 1 else 0,{ d with dstat := assignStats d.dstat vs })

/-! ## Attributes of the list rows -/

def underDisk (d : ScsiDeviceInfo) (file : Str) : Str :=
  cut 1024 (orNull d.diskPath ++ "/" ++ file)

def vendorRow (size : ℕ) : Attr ScsiDeviceInfo :=
  { file := "device/vendor", copy := .bounded size, store := fun t d => { d with vendor := some t } }

def modelRow (size : ℕ) : Attr ScsiDeviceInfo :=
  { file := "device/model", copy := .bounded size, store := fun t d => { d with model := some t } }

def revRow (file : Str) (size : ℕ) : Attr ScsiDeviceInfo :=
  { file := file, copy := .bounded size, store := fun t d => { d with rev := some t } }

def getDiskVendorModel (d : ScsiDeviceInfo) : Tool ScsiDeviceInfo :=
  loadAll (underDisk d) [vendorRow 32, modelRow 32, revRow "device/rev" 32] d

def getNvmeDeviceModel (d : ScsiDeviceInfo) : Tool ScsiDeviceInfo :=
  loadAll (underDisk d) [modelRow 32, revRow "device/firmware_rev" 32] d

def typeRow : Attr ScsiDeviceInfo :=
  { file := "device/type", copy := .bounded 8,
    store := fun t d => { d with deviceType := int32 (strtoull t) } }

def getDiskType (d : ScsiDeviceInfo) : Tool ScsiDeviceInfo :=
  loadAll (underDisk d) [typeRow] d

def nameDiskType (d : ScsiDeviceInfo) : ScsiDeviceInfo :=
  { d with diskType := cut 32 (devTypeToDevName d.deviceType) }

/-! ## Enclosures -/

/-- The path is built in 32 bytes. -/
def enclosureTypePath (d : ScsiDeviceInfo) (file : Str) : Str :=
  cut 32 (orNull d.diskPath ++ "/" ++ file)

def enclosureTypeRow : Attr ScsiDeviceInfo :=
  { file := "device/type", copy := .bounded 8,
    store := fun t d => { d with deviceType := int32 (strtol t) } }

def validateEnclosureType (d : ScsiDeviceInfo) : Tool (ℤ × ScsiDeviceInfo) := do
  let d ← loadAll (enclosureTypePath d) [enclosureTypeRow] d
  if (devTypeStr.find? fun t => t.1 = d.deviceType).isSome then
    pure (0,nameDiskType d)
  else pure (-enodev,d)

def getEnclosureDetails (d : ScsiDeviceInfo) : Tool (ℤ × ScsiDeviceInfo) := do
  let p ← openSysfsStatsFile (underDisk d "components")
  let t ← snprintfFmt 8 p
  let count := int32 (strtoull t)
  if count < 0 then pure (-eio,d)
  else do
    let d ← loadAll (underDisk d) [modelRow 8, vendorRow 8] d
    pure (0,d)

def enclosureRecord (e : Dirent) : ScsiDeviceInfo :=
  let d := assignHctl allocScsiDev (scanColon 4 e.dName)
  { d with
    sysfsRoot := some SYSFS_ENCLOSURE_PATH
    diskName := some e.dName
    diskPath := some (cut 128 (SYSFS_ENCLOSURE_PATH ++ "/" ++ e.dName)) }

/-- The loop leaves at the first entry it takes: with an error where the type is
not in the table, and at its end otherwise, the result then being zero. An
early return does not close the directory. -/
def enclosureLoop : List Dirent → Tool ℤ
  | [] => do
    closedir SYSFS_ENCLOSURE_PATH
    pure 0
  | e :: es =>
    if e.dType ≠ .dir then do
      let (err,d) ← validateEnclosureType (enclosureRecord e)
      if err < 0 then pure err
      else do
        let (_,d) ← getEnclosureDetails d
        print (.enclosureInfo d)
        if err = 4 ∨ err = 0 then do
          closedir SYSFS_ENCLOSURE_PATH
          pure err
        else enclosureLoop es
    else enclosureLoop es

def listEnclosure : Tool ℤ := do
  emit (.device .listEnclosure none)
  match ← opendir SYSFS_ENCLOSURE_PATH with
  | none => pure (-enodev)
  | some entries =>
    print (.commandLabel "Enclosure")
    print .enclosureHeader
    enclosureLoop entries

/-! ## Listings -/

def isSd (e : Dirent) : Bool := strncmpEq e.dName "sd" 2

def isNvme (e : Dirent) : Bool :=
  strncmpEq e.dName "nvme" 4 && !strncmpEq e.dName "nvme-fabrics" 12

def isCdrom (e : Dirent) : Bool :=
  (strncmpEq e.dName "sr" 2 && !strncmpEq e.dName "std" 3) || strncmpEq e.dName "scd" 3

def isTape (e : Dirent) : Bool :=
  (strncmpEq e.dName "st" 2 && !strncmpEq e.dName "std" 3) || strncmpEq e.dName "mt" 2

def isGeneric (e : Dirent) : Bool := strncmpEq e.dName "sg" 2 || strncmpEq e.dName "ng" 2

/-- The two prefixes compared have three bytes and two; both compares look at two. -/
def isDm (e : Dirent) : Bool := strncmpEq e.dName "dm-" 2

def isMd (e : Dirent) : Bool := strncmpEq e.dName "md" 2

def named (path : Str) (e : Dirent) : ScsiDeviceInfo :=
  { allocScsiDev with diskPath := some (cut 512 (path ++ "/" ++ e.dName)), diskName := some e.dName }

def locate (e : Dirent) (d : ScsiDeviceInfo) : Tool ScsiDeviceInfo := do
  let d ← getDeviceNumbers e.dName d
  let (_,d) ← getHctlInfo d
  pure d

def blockRow (e : Dirent) : Tool Unit := do
  let d ← getDiskType (named SYSFS_BLOCK_PATH e)
  let d ← locate e (nameDiskType d)
  let d ← getDiskVendorModel d
  print (.diskInfo d)

def nvmeRow (e : Dirent) : Tool Unit := do
  let d := nameDiskType { named SYSFS_BLOCK_PATH e with deviceType := DIRECT_ACCESS_BLOCK_DEVICE }
  let d ← locate e d
  let d ← getNvmeDeviceModel d
  print (.nvmeDiskInfo d)

def rows (test : Dirent → Bool) (body : Dirent → Tool Unit) (entries : List Dirent) : Tool Unit :=
  (forEachDir entries).foldlM (fun _ e => if test e then body e else pure ()) ()

def listBlockDevs : Tool ℤ := do
  emit (.device .listBlockDevs none)
  match ← opendir SYSFS_BLOCK_PATH with
  | none =>
    printInfo "\n No Block device configured \n"
    pure (-enodev)
  | some entries =>
    print (.commandLabel "block")
    print .diskHeader
    rows isSd blockRow entries
    closedir SYSFS_BLOCK_PATH
    match ← opendir SYSFS_BLOCK_PATH with
    | none =>
      printInfo "\n No Block device configured \n"
      pure (-enodev)
    | some entries =>
      print (.commandLabel "nvme-block")
      print .nvmeDiskHeader
      rows isNvme nvmeRow entries
      closedir SYSFS_BLOCK_PATH
      pure 0

/-- The other listings open one directory, print one label and one header and
run their body once over the entries. -/
def listing (f : Device) (path label : Str) (header : Out) (test : Dirent → Bool)
    (body : Dirent → Tool Unit) : Tool ℤ := do
  emit (.device f none)
  match ← opendir path with
  | none => pure (-enodev)
  | some entries =>
    print (.commandLabel label)
    print header
    rows test body entries
    closedir path
    pure 0

def controllerRow (e : Dirent) : Tool Unit := do
  let d ← getDiskType (named SYSFS_SCSI_GEN_PATH e)
  let d ← locate e (nameDiskType d)
  let d ← getDiskVendorModel d
  if d.deviceType = STORAGE_ARRAY_CNTROLLER then print (.diskInfo d)

def listControllers : Tool ℤ :=
  listing .listControllers SYSFS_SCSI_GEN_PATH "Disk Controller" .diskHeader (fun _ => true)
    controllerRow

/-- A record is filled and released; no row is printed. -/
def cdromRow (e : Dirent) : Tool Unit := do
  let _ ← getDiskType (named DEV_DIR_PATH e)

def listCdromDevs : Tool ℤ :=
  listing .listCdromDevs DEV_DIR_PATH "CD-ROM Devices" .diskHeader isCdrom cdromRow

def tapeRow (e : Dirent) : Tool Unit := do
  let _ ← getDiskType (named DEV_DIR_PATH e)
  print (.tapeDevice (cut 512 (DEV_DIR_PATH ++ "/" ++ e.dName)))

def listTapeDevs : Tool ℤ :=
  listing .listTapeDevs DEV_DIR_PATH "Tape Drives" .diskHeader isTape tapeRow

def genericRow (e : Dirent) : Tool Unit := do
  let d ← locate e { named DEV_DIR_PATH e with deviceType := GENERIC_DEV }
  let d ← getDiskVendorModel { d with
    diskType := if strncmpEq e.dName "ng" 2 then "NVMe Generic" else "SCSI Generic" }
  print (.genericDiskInfo d)

def listGenericDevs : Tool ℤ :=
  listing .listGenericDevs DEV_DIR_PATH "Generic Devices" .genericDiskHeader isGeneric genericRow

def mpathRow (e : Dirent) : Tool Unit := do
  let d ← locate e { named SYSFS_BLOCK_PATH e with deviceType := UNKNOWN_DEVICE }
  let d ← getDiskVendorModel d
  print (.mpathDiskInfo d)

/-- The two branches of the loop, `dm` first, have the same body. -/
def listMultipathDevs : Tool ℤ :=
  listing .listMultipathDevs SYSFS_BLOCK_PATH "Multipath Devices" .mpathDiskHeader
    (fun e => isDm e || isMd e) mpathRow

end ScsiCli.DiskUtils
