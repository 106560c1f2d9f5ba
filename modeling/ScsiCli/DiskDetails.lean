import ScsiCli.DiskUtils

/-!
# Details of one disk

The two gatherers behind `show disk`, as the lists of their attributes, and the
search for the disk among the entries of the block directory.
-/

set_option autoImplicit false

namespace ScsiCli.DiskDetails
open ScsiCli.RunTrace ScsiCli.ByteString ScsiCli.NumberText ScsiCli.Records
open ScsiCli.Machine ScsiCli.SysfsUtils ScsiCli.DiskUtils

/-! ## The queue directory -/

def queuePath (d : ScsiDeviceInfo) (file : Str) : Str :=
  cut 2048 (cut 256 (orNull d.diskPath ++ "/queue") ++ "/" ++ file)

def queueRow (file : Str) (store : ℕ → DiskQueueData → DiskQueueData) : Attr ScsiDeviceInfo :=
  { file := file
    copy := .bounded 32
    store := fun t d => { d with qData := store (strtoull t) d.qData } }

def queueText (file : Str) (store : Str → DiskQueueData → DiskQueueData) : Attr ScsiDeviceInfo :=
  { file := file, copy := .argument 32, store := fun t d => { d with qData := store t d.qData } }

def queueRows : List (Attr ScsiDeviceInfo) :=
  [queueRow "chunk_sectors" fun n q => { q with chunkSectors := n },
   queueRow "fua" fun n q => { q with fua := n },
   queueRow "hw_sector_size" fun n q => { q with hwSectorSize := n },
   queueRow "io_poll" fun n q => { q with ioPoll := n },
   queueRow "io_poll_delay" fun n q => { q with ioPollDelay := n },
   queueRow "iostats" fun n q => { q with iostats := n },
   queueRow "io_timeout" fun n q => { q with ioTimeout := n },
   queueRow "physical_block_size" fun n q => { q with physicalBlockSize := n },
   queueRow "logical_block_size" fun n q => { q with logicalBlockSize := n },
   queueRow "minimum_io_size" fun n q => { q with minimumIoSize := n },
   queueRow "optimal_io_size" fun n q => { q with optimalIoSize := n },
   queueRow "discard_zeroes_data" fun n q => { q with discardZeroesData := n },
   queueRow "discard_max_hw_bytes" fun n q => { q with discardMaxHwBytes := n },
   queueRow "discard_max_bytes" fun n q => { q with discardMaxBytes := n },
   queueRow "nr_zones" fun n q => { q with nrZones := n },
   queueRow "nomerges" fun n q => { q with nomerges := n },
   queueRow "nr_requests" fun n q => { q with nrRequests := n },
   queueRow "zone_append_max_bytes" fun n q => { q with zoneAppendMaxBytes := n },
   queueRow "zone_write_granularity" fun n q => { q with zoneWriteGranularity := n },
   queueRow "zoned" fun n q => { q with zoned := n },
   queueRow "read_ahead_kb" fun n q => { q with readAheadKb := n },
   queueRow "write_same_max_bytes" fun n q => { q with writeSameMaxBytes := n },
   queueRow "write_zeroes_max_bytes" fun n q => { q with writeZeroesMaxBytes := n },
   queueRow "max_discard_segments" fun n q => { q with maxDiscardSegments := n },
   queueRow "max_hw_sectors_kb" fun n q => { q with maxHwSectorsKb := n },
   queueRow "max_integrity_segments" fun n q => { q with maxIntegritySegments := n },
   queueRow "max_sectors_kb" fun n q => { q with maxSectorsKb := n },
   queueRow "max_segments" fun n q => { q with maxSegments := n },
   queueRow "max_segment_size" fun n q => { q with maxSegmentSize := n },
   queueRow "rq_affinity" fun n q => { q with rqAffinity := n },
   queueRow "stable_writes" fun n q => { q with stableWrites := n },
   queueRow "rotational" fun n q => { q with rotational := n },
   queueRow "add_random" fun n q => { q with addRandom := n },
   queueRow "virt_boundary_mask" fun n q => { q with virtBoundaryMask := n },
   queueRow "wbt_lat_usec" fun n q => { q with wbtLatUsec := n },
   queueRow "dax" fun n q => { q with dax := n },
   queueText "write_cache" fun t q => { q with writeCache := some t },
   queueText "scheduler" fun t q => { q with scheduler := some t }]

def getDiskQueueData (d : ScsiDeviceInfo) : Tool ScsiDeviceInfo :=
  loadAll (queuePath d) queueRows d

/-! ## The details reports -/

def textRow (file : Str) (store : Str → ScsiDeviceInfo → ScsiDeviceInfo) : Attr ScsiDeviceInfo :=
  { file := file, copy := .bounded 64, store := store }

def intRow (file : Str) (store : ℤ → ScsiDeviceInfo → ScsiDeviceInfo) : Attr ScsiDeviceInfo :=
  { file := file, copy := .bounded 64, store := fun t d => store (int32 (strtoull t)) d }

def u64Row (file : Str) (store : ℕ → ScsiDeviceInfo → ScsiDeviceInfo) : Attr ScsiDeviceInfo :=
  { file := file, copy := .bounded 64, store := fun t d => store (strtoull t) d }

def nvmeRows : List (Attr ScsiDeviceInfo) :=
  [textRow "device/model" fun t d => { d with model := some t },
   textRow "device/firmware_rev" fun t d => { d with rev := some t },
   intRow "device/queue_count" fun n d => { d with queueDepth := n },
   textRow "device/state" fun t d => { d with state := some t },
   textRow "device/address" fun t d => { d with pciAddress := some t },
   intRow "device/cntlid" fun n d => { d with cntlid := n },
   textRow "device/serial" fun t d => { d with serial := some t },
   textRow "device/dctype" fun t d => { d with dctype := some t },
   textRow "device/transport" fun t d => { d with transport := some t },
   textRow "device/cntrltype" fun t d => { d with cntrltype := some t },
   intRow "device/kato" fun n d => { d with kato := n },
   u64Row "device/nuse" fun n d => { d with nuse := n },
   intRow "device/sqsize" fun n d => { d with sqsize := n },
   textRow "nguid" fun t d => { d with nguid := t },
   textRow "nsid" fun t d => { d with nsid := t },
   textRow "uuid" fun t d => { d with uuid := t },
   u64Row "alignment_offset" fun n d => { d with alignmentOffset := n },
   u64Row "discard_alignment" fun n d => { d with discardAlignment := n },
   u64Row "size" fun n d => { d with size := n },
   intRow "capability" fun n d => { d with capability := n },
   intRow "ext_range" fun n d => { d with extRange := n },
   intRow "range" fun n d => { d with range := n },
   textRow "wwid" fun t d => { d with wwid := some t }]

def scsiRows : List (Attr ScsiDeviceInfo) :=
  [textRow "device/model" fun t d => { d with model := some t },
   intRow "device/timeout" fun n d => { d with timeout := n },
   textRow "device/rev" fun t d => { d with rev := some t },
   textRow "device/dh_state" fun t d => { d with state := some t },
   u64Row "device/iotmo_cnt" fun n d => { d with iotmoCnt := n },
   u64Row "device/iodone_cnt" fun n d => { d with iodoneCnt := n },
   u64Row "device/ioerr_cnt" fun n d => { d with ioerrCnt := n },
   u64Row "device/iorequest_cnt" fun n d => { d with iorequestCnt := n },
   u64Row "device/iocounterbits" fun n d => { d with iocounterbits := n },
   intRow "device/evt_capacity_change_reported"
     fun n d => { d with evtCapacityChangeReported := n },
   intRow "device/evt_inquiry_change_reported"
     fun n d => { d with evtInquiryChangeReported := n },
   intRow "device/evt_lun_change_reported" fun n d => { d with evtLunChangeReported := n },
   intRow "device/evt_media_change" fun n d => { d with evtMediaChange := n },
   intRow "device/evt_mode_parameter_change_reported"
     fun n d => { d with evtModeParameterChangeReported := n },
   intRow "device/evt_soft_threshold_reached"
     fun n d => { d with evtSoftThresholdReached := n },
   textRow "device/queue_type" fun t d => { d with queueType := some t },
   intRow "device/queue_depth" fun n d => { d with queueDepth := n },
   u64Row "alignment_offset" fun n d => { d with alignmentOffset := n },
   u64Row "discard_alignment" fun n d => { d with discardAlignment := n },
   u64Row "size" fun n d => { d with size := n },
   intRow "capability" fun n d => { d with capability := n },
   intRow "ext_range" fun n d => { d with extRange := n },
   intRow "range" fun n d => { d with range := n },
   textRow "device/wwid" fun t d => { d with wwid := some t },
   u64Row "device/max_sectors" fun n d => { d with maxSectors := n },
   intRow "device/eh_timeout" fun n d => { d with ehTimeout := n },
   intRow "device/cdl_enabled" fun n d => { d with cdlEnabled := n },
   intRow "device/cdl_supported" fun n d => { d with cdlSupported := n },
   textRow "device/vendor" fun t d => { d with vendor := some t }]

def nvmeDisk (diskName : Str) (d : ScsiDeviceInfo) : ScsiDeviceInfo :=
  { d with
    diskPath := some (cut 256 (SYSFS_BLOCK_PATH ++ "/" ++ diskName)), diskName := some diskName }

def scsiDisk (diskName : Str) (d : ScsiDeviceInfo) : ScsiDeviceInfo :=
  { d with
    diskPath := some (cut 128 (SYSFS_BLOCK_PATH ++ "/" ++ diskName)), diskName := some diskName
    diskType := "disk" }

def getSingleNvmeDiskDetails (diskName : Str) (d : ScsiDeviceInfo) : Tool ScsiDeviceInfo := do
  let d := nvmeDisk diskName d
  let d ← loadAll (underDisk d) nvmeRows d
  let d ← getDiskQueueData d
  print (.nvmeDiskDetails d)
  pure d

def getSingleScsiDiskDetails (diskName : Str) (d : ScsiDeviceInfo) : Tool ScsiDeviceInfo := do
  let d := scsiDisk diskName d
  let d ← loadAll (underDisk d) scsiRows d
  let d ← getDiskQueueData d
  print (.scsiDiskDetails d)
  pure d

def showEnclosureDetails (sub : Str) (d : ScsiDeviceInfo) : Tool ℤ := do
  emit (.device .showEnclosureDetails (some sub))
  if sub = "enclosure" then pure (-einval)
  else match d.diskName with
    | none => pure 0
    | some n =>
      print (.enclosureName n)
      pure 0

/-- The body of the search. The compare is over the length of the name asked for. -/
def showDiskEntry (diskName : Str) (s : ℕ × ScsiDeviceInfo) (e : Dirent) :
    Tool (ℕ × ScsiDeviceInfo) :=
  if strncmpEq e.dName diskName diskName.length && strncmpEq diskName "nvme" 4 then do
    let d ← getSingleNvmeDiskDetails diskName s.2
    pure (s.1+1,d)
  else if strncmpEq diskName e.dName diskName.length then do
    let d ← getSingleScsiDiskDetails diskName s.2
    pure (s.1+1,d)
  else pure s

def diskNameOf (arg : Option Str) : Tool Str := snprintfFmt 16 arg

/-- Success is reported as one. -/
def showDiskDetails (arg : Option Str) (d : ScsiDeviceInfo) : Tool ℤ := do
  emit (.device .showDiskDetails arg)
  match ← opendir SYSFS_BLOCK_PATH with
  | none => pure (-enodev)
  | some entries =>
    let diskName ← diskNameOf arg
    let (count,_) ← (forEachDir entries).foldlM (showDiskEntry diskName) (0,d)
    closedir SYSFS_BLOCK_PATH
    pure (if count = 1 then 1 else -enodev)

/-! ## Operations that only read their argument -/

/-- The body of the operations on a disk that are not finished: an empty name is
refused, and the name is copied. -/
def diskOperation (f : Device) (arg : Option Str) : Tool ℤ := do
  emit (.device f arg)
  match arg with
  | none => nullFault .strlen
  | some s =>
    if s.length = 0 then pure (-eio)
    else do
      let _ ← snprintfFmt 16 (some s)
      pure 0

def getDiskErrorCount : Option Str → Tool ℤ := diskOperation .getDiskErrorCount
def scsiScanDiskDev : Option Str → Tool ℤ := diskOperation .scsiScanDiskDev
def setDiskOffline : Option Str → Tool ℤ := diskOperation .setDiskOffline
def setDiskOnline : Option Str → Tool ℤ := diskOperation .setDiskOnline
def setDiskAlias : Option Str → Tool ℤ := diskOperation .setDiskAlias

end ScsiCli.DiskDetails
