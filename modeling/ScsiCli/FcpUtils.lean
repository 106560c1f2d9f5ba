import ScsiCli.SysfsUtils

/-!
# Fibre Channel hosts

The gatherers for a host and its remote ports, the listing of all hosts, the
details report of one host and its statistics.
-/

set_option autoImplicit false

namespace ScsiCli.FcpUtils
open ScsiCli.RunTrace ScsiCli.ByteString ScsiCli.NumberText ScsiCli.Records
open ScsiCli.Machine ScsiCli.SysfsUtils

def SYSFS_FC_HOST_PATH : Str := "/sys/class/fc_host"
def SYSFS_FC_RPRT_PATH : Str := "/sys/class/fc_remote_ports"
def PCI_DRIVER_PATH : Str := "/sys/bus/pci/drivers"

def getSymbolicName (f : FcDeviceInfo) : Tool FcDeviceInfo := do
  if f.hostName = none then do
    printInfo "Please provide valid FC Host Name \n"
    pure f
  else do
    let path := cut 64 (orNull f.sysDevPath ++ "/symbolic_name")
    match ← fopenRead path with
    | none =>
      printInfo ("Can not open " ++ path ++ "\n")
      pure f
    | some fp =>
      match fgets 256 fp with
      | none =>
        fclose path
        pure f
      | some p =>
        fclose path
        pure { f with symbolicName := some (removeNewline p) }

def isDriver (e : Dirent) : Bool :=
  e.dType = .dir && (strncmpEq e.dName "qla2xxx" 7 || strncmpEq e.dName "lpfc" 4)

/-- A failed `opendir` is reported and its null result is read from. -/
def getDriverInfo (f : FcDeviceInfo) : Tool FcDeviceInfo := do
  match ← opendir PCI_DRIVER_PATH with
  | none =>
    printErr PCI_DRIVER_PATH
    nullFault .readdir
  | some entries =>
    closedir PCI_DRIVER_PATH
    match entries.find? isDriver with
    | none => pure f
    | some e => pure { f with driverName := some e.dName }

/-! ## Remote ports -/

def rportRow (file : Str) (store : Str → FcRportInfo → FcRportInfo) : Attr FcRportInfo :=
  { file := file, copy := .bounded 32, store := store }

def rportRows : List (Attr FcRportInfo) :=
  [rportRow "node_name" fun t r => { r with nodeName := some t },
   rportRow "port_id" fun t r => { r with portId := some t },
   rportRow "port_name" fun t r => { r with portName := some t },
   rportRow "port_state" fun t r => { r with portState := some t },
   rportRow "roles" fun t r => { r with roles := some t }]

def rportFile (r : FcRportInfo) (file : Str) : Str :=
  cut 256 (cut 64 (SYSFS_FC_RPRT_PATH ++ "/" ++ orNull r.rportName) ++ "/" ++ file)

def getRportInfo (r : FcRportInfo) : Tool FcRportInfo := loadAll (rportFile r) rportRows r

def isRport (e : Dirent) : Bool := strncmpEq e.dName "rport" 5

def rportEntry (e : Dirent) : Tool Unit :=
  if isRport e then do
    let r ← getRportInfo { rportName := some e.dName }
    print (.fcRportInfo r)
  else pure ()

def listRportAdapters (f : FcDeviceInfo) : Tool (ℤ × FcDeviceInfo) := do
  let rportPath := cut 64 (orNull f.sysDevPath ++ "/device")
  match ← opendir rportPath with
  | none =>
    printErr "No Remote Ports found for this adapter"
    pure (0,{ f with noRports := 0 })
  | some entries =>
    print .fcRportHeader
    (forEachDir entries).foldlM (fun _ e => rportEntry e) ()
    closedir rportPath
    pure (0,f)

/-! ## One host -/

def underHost (f : FcDeviceInfo) (file : Str) : Str := orNull f.sysDevPath ++ "/" ++ file

def portIdRow : Attr FcDeviceInfo :=
  { file := "port_id", copy := .bounded 128, strip := true
    store := fun t f => { f with portId := some t } }

/-- The other rows print both the path and the value without a bound. -/
def hostText (file : Str) (strip : Bool) (store : Str → FcDeviceInfo → FcDeviceInfo) :
    Attr FcDeviceInfo :=
  { file := file, copy := .unbounded .getAdapterDetailsTempVal, strip := strip, store := store }

def portNameRow : Attr FcDeviceInfo :=
  hostText "port_name" true fun t f => { f with portName := some t }

def adapterRows : List (Attr FcDeviceInfo) :=
  [portNameRow,
   hostText "port_state" true fun t f => { f with portState := some t },
   hostText "port_type" false fun t f => { f with portType := some t },
   hostText "node_name" true fun t f => { f with nodeName := some t },
   { file := "max_npiv_vports", copy := .direct
     store := fun t f => { f with maxNpivVports := int32 (strtoull t) } },
   hostText "npiv_vports_inuse" false
     fun t f => { f with npivVportsInuse := int32 (strtoull t) },
   hostText "fabric_name" false fun t f => { f with fabricName := some t }]

/-- The count is kept in a local variable and reaches the record only at an
entry that is not a remote port. -/
def countRports : List Dirent → ℤ → ℤ → ℤ
  | [], _, n => n
  | e :: es, count, n => if isRport e then countRports es (count+1) n else countRports es count count

def getAdapterDetails (f : FcDeviceInfo) : Tool FcDeviceInfo := do
  let f ← loadAll (fun file => cut 1024 (underHost f file)) [portIdRow] f
  let f ← loadAllInto .getAdapterDetailsPath (underHost f) adapterRows f
  let path ← store .getAdapterDetailsPath (underHost f "device")
  match ← opendir path with
  | none =>
    printInfo "No Remote port for this FC Adapter found"
    pure { f with noRports := 0 }
  | some entries =>
    closedir path
    pure { f with noRports := countRports (forEachDir entries) 0 f.noRports }

def scsiHostFile (f : FcDeviceInfo) (file : Str) : Str :=
  cut 2048 (cut 64 (orNull f.sysDevPath ++ "/device/scsi_host/" ++ orNull f.hostName) ++ "/" ++
    file)

def hostFile (f : FcDeviceInfo) (file : Str) : Str := cut 2048 (underHost f file)

def fcText (file : Str) (size : ℕ) (strip : Bool) (store : Str → FcDeviceInfo → FcDeviceInfo) :
    Attr FcDeviceInfo :=
  { file := file, copy := .bounded size, strip := strip, store := store }

def qlaRows : List (Attr FcDeviceInfo) :=
  [fcText "model_desc" 64 false fun t f => { f with modelDesc := some t },
   fcText "model_name" 128 false fun t f => { f with productName := some t },
   fcText "driver_version" 128 false fun t f => { f with drvVersion := some t },
   fcText "fw_version" 128 false fun t f => { f with fwVersion := some t },
   fcText "port_speed" 128 false fun t f => { f with portSpeed := some t },
   fcText "serial_num" 128 false fun t f => { f with serialNum := some t }]

def lpfcRows : List (Attr FcDeviceInfo) :=
  [fcText "fwrev" 128 false fun t f => { f with fwVersion := some t },
   fcText "modeldesc" 128 false fun t f => { f with modelDesc := some t },
   fcText "modelname" 128 false fun t f => { f with productName := some t },
   fcText "serialnum" 128 false fun t f => { f with serialNum := some t }]

def lpfcSpeedRow : Attr FcDeviceInfo :=
  fcText "speed" 128 true fun t f => { f with portSpeed := some t }

def lpfcVersionRow : Attr FcDeviceInfo :=
  fcText "version" 128 false fun t f => { f with drvVersion := some t }

def moduleFile (driver file : Str) : Str := cut 2048 ("/sys/module/" ++ driver ++ "/" ++ file)

/-- `link_state` has a reader of its own: the bound of its copy is the length of
the line, and a line that cannot be had ends the function. -/
def loadLinkState (f : FcDeviceInfo) : Tool (Option FcDeviceInfo) := do
  let path := scsiHostFile f "link_state"
  match ← fopenRead path with
  | none => pure none
  | some fp =>
    match fgets 64 fp with
    | none =>
      fclose path
      pure none
    | some p =>
      let t ← snprintfFmt p.length (some p)
      fclose path
      pure (some { f with linkState := some t })

def hostRows : List (Attr FcDeviceInfo) :=
  [fcText "supported_classes" 128 false fun t f => { f with supportedClass := some t },
   fcText "supported_speeds" 128 false fun t f => { f with supportedSpeed := some t },
   fcText "dev_loss_tmo" 128 false fun t f => { f with devLossTmo := int32 (strtol t) }]

def activeModeRow : Attr FcDeviceInfo :=
  fcText "active_mode" 128 false fun t f => { f with activeMode := some t }

def getLinkInfo (f : FcDeviceInfo) : Tool (ℤ × FcDeviceInfo) := do
  match ← loadLinkState f with
  | none => pure (-einval,f)
  | some f =>
    let f ← loadAll (hostFile f) hostRows f
    let f ← loadAll (scsiHostFile f) [activeModeRow] f
    pure (0,f)

def getFcInfo (f : FcDeviceInfo) : Tool (ℤ × FcDeviceInfo) := do
  match f.driverName with
  | none => nullFault .strncmp
  | some driver =>
    if strncmpEq driver "qla2xxx" 7 then do
      let f ← loadAll (scsiHostFile f) qlaRows f
      getLinkInfo f
    else if strncmpEq driver "lpfc" 4 then do
      let f ← loadAll (scsiHostFile f) lpfcRows f
      let f ← loadAll (hostFile f) [lpfcSpeedRow] f
      let f ← loadAll (moduleFile driver) [lpfcVersionRow] f
      getLinkInfo f
    else do
      printInfo "Unknown Adapter"
      pure (0,f)

/-! ## Listing and details -/

def fcHost (name : Str) : FcDeviceInfo :=
  { hostName := some name, sysDevPath := some (cut 64 (SYSFS_FC_HOST_PATH ++ "/" ++ name)) }

/-- The statuses of the gatherers are not looked at. -/
def fcAdapterRow (e : Dirent) : Tool Unit := do
  let f ← getSymbolicName (fcHost e.dName)
  let f ← getDriverInfo f
  let (_,f) ← getFcInfo f
  print (.listFcDev f)

/-- The number of hosts is the result. -/
def listFcAdapters : Tool ℤ := do
  emit (.device .listFcAdapters none)
  match ← opendir SYSFS_FC_HOST_PATH with
  | none => pure (-enodev)
  | some entries =>
    print (.commandLabel "Fabric")
    print .fcDevHeader
    (forEachDir entries).foldlM (fun _ e => fcAdapterRow e) ()
    closedir SYSFS_FC_HOST_PATH
    pure (int32 (forEachDir entries).length)

def showFcPortDetails (arg : Str) : Tool ℤ := do
  emit (.device .showFcPortDetails (some arg))
  let f ← getSymbolicName (fcHost arg)
  let f ← getDriverInfo f
  let f ← getAdapterDetails f
  let (_,f) ← getFcInfo f
  print (.fcInfo f)
  if 0 < f.noRports then do
    let _ ← listRportAdapters f
    pure 0
  else pure 0

/-! ## Statistics -/

def statRow (file : Str) (store : ℕ → FcHostStatistics → FcHostStatistics) : Attr FcDeviceInfo :=
  { file := file
    copy := .bounded 64
    store := fun t f => { f with stats := store (uint64 (strtol t)) f.stats } }

def statRows : List (Attr FcDeviceInfo) :=
  [statRow "lip_count" fun n s => { s with lipCount := n },
   statRow "tx_frames" fun n s => { s with txFrames := n },
   statRow "tx_words" fun n s => { s with txWords := n },
   statRow "rx_frames" fun n s => { s with rxFrames := n },
   statRow "rx_words" fun n s => { s with rxWords := n },
   statRow "cn_sig_alarm" fun n s => { s with cnSigAlarm := n },
   statRow "cn_sig_warn" fun n s => { s with cnSigWarn := n },
   statRow "error_frames" fun n s => { s with errorFrames := n },
   statRow "dumped_frames" fun n s => { s with dumpedFrames := n },
   statRow "invalid_crc_count" fun n s => { s with invalidCrcCount := n },
   statRow "invalid_tx_word_count" fun n s => { s with invalidTxWordCount := n },
   statRow "link_failure_count" fun n s => { s with linkFailureCount := n },
   statRow "loss_of_signal_count" fun n s => { s with lossOfSignalCount := n },
   statRow "loss_of_sync_count" fun n s => { s with lossOfSyncCount := n },
   statRow "nos_count" fun n s => { s with nosCount := n },
   statRow "fpin_cn" fun n s => { s with fpinCn := n },
   statRow "fpin_cn_credit_stall" fun n s => { s with fpinCnCreditStall := n },
   statRow "fpin_cn_device_specific" fun n s => { s with fpinCnDeviceSpecific := n },
   statRow "fpin_cn_lost_credit" fun n s => { s with fpinCnLostCredit := n },
   statRow "fpin_cn_oversubscription" fun n s => { s with fpinCnOversubscription := n },
   statRow "fpin_li" fun n s => { s with fpinLi := n },
   statRow "fpin_li_device_specific" fun n s => { s with fpinLiDeviceSpecific := n },
   statRow "fpin_li_failure_unknown" fun n s => { s with fpinLiFailureUnknown := n },
   statRow "fpin_li_invalid_crc_count" fun n s => { s with fpinLiInvalidCrcCount := n },
   statRow "fpin_li_invalid_tx_word_count" fun n s => { s with fpinLiInvalidTxWordCount := n },
   statRow "fpin_li_link_failure_count" fun n s => { s with fpinLiLinkFailureCount := n },
   statRow "fpin_li_loss_of_signals_count" fun n s => { s with fpinLiLossOfSignalsCount := n },
   statRow "fpin_li_loss_of_sync_count" fun n s => { s with fpinLiLossOfSyncCount := n },
   statRow "fpin_li_prim_seq_err_count" fun n s => { s with fpinLiPrimSeqErrCount := n },
   statRow "fpin_dn" fun n s => { s with fpinDn := n },
   statRow "fpin_dn_device_specific" fun n s => { s with fpinDnDeviceSpecific := n },
   statRow "fpin_dn_timeout" fun n s => { s with fpinDnTimeout := n },
   statRow "fpin_dn_unable_to_route" fun n s => { s with fpinDnUnableToRoute := n },
   statRow "fpin_dn_unknown" fun n s => { s with fpinDnUnknown := n }]

def statFile (deviceName file : Str) : Str :=
  cut 1024 (cut 256 (SYSFS_FC_HOST_PATH ++ "/" ++ deviceName ++ "/statistics") ++ "/" ++ file)

def getFcDevStats (deviceName : Str) (f : FcDeviceInfo) : Tool (ℤ × FcDeviceInfo) := do
  emit (.device .getFcDevStats (some deviceName))
  let f ← loadAll (statFile deviceName) statRows { f with hostName := some deviceName }
  pure (0,f)

/-! ## Operations that only read their argument -/

/-- The body of the operations on a port that are not finished: a name of fewer
than four bytes is refused, and a record is filled and released. -/
def portOperation (f : Device) (arg : Option Str) : Tool ℤ := do
  emit (.device f arg)
  match arg with
  | none => nullFault .strlen
  | some s => pure (if s.length < 4 then -eio else 0)

def getFcportErrorCount : Option Str → Tool ℤ := portOperation .getFcportErrorCount
def scsiScanFcportDev : Option Str → Tool ℤ := portOperation .scsiScanFcportDev
def setFcportOffline : Option Str → Tool ℤ := portOperation .setFcportOffline
def setFcportOnline : Option Str → Tool ℤ := portOperation .setFcportOnline
def setFcportAlias : Option Str → Tool ℤ := portOperation .setFcportAlias

end ScsiCli.FcpUtils
