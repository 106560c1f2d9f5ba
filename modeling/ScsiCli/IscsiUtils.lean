import ScsiCli.SysfsUtils

/-!
# iSCSI hosts

A host is followed to its session and the session to its connection by name.
A host without a session, and a session without a connection, leave the name
unset; the paths built from it then carry the word the C library prints.
-/

set_option autoImplicit false

namespace ScsiCli.IscsiUtils
open ScsiCli.RunTrace ScsiCli.ByteString ScsiCli.NumberText ScsiCli.Records
open ScsiCli.Machine ScsiCli.SysfsUtils

def SYSFS_ISCSI_HOST_PATH : Str := "/sys/class/iscsi_host"
def SYSFS_ISCSI_CONN_PATH : Str := "/sys/class/iscsi_connection"
def SYSFS_ISCSI_SESS_PATH : Str := "/sys/class/iscsi_session"
def ISCSI_TRANSPORT_PATH : Str := "/sys/class/iscsi_transport"

def getIscsiTransport (i : IscsiDevInfo) : Tool (ℤ × IscsiDevInfo) := do
  match ← opendir ISCSI_TRANSPORT_PATH with
  | none => pure (-einval,i)
  | some entries =>
    closedir ISCSI_TRANSPORT_PATH
    match (forEachDir entries).find? fun e => strncmpEq e.dName "tcp" 3 with
    | none => pure (0,i)
    | some e => pure (0,{ i with transportName := some e.dName })

/-! ## Session and connection of a host -/

def isSession (e : Dirent) : Bool := strncmpEq e.dName "session" 7

def isConnection (e : Dirent) : Bool := strncmpEq e.dName "connection" 10

def isTarget (e : Dirent) : Bool := strncmpEq e.dName "target" 6

/-- The first session is taken. -/
def fillSessionInfo (i : IscsiDevInfo) : Tool IscsiDevInfo := do
  let hostPath ← store .fillSessionHostPath
    (orNull i.sysDevPath ++ "/" ++ orNull i.hostName ++ "/device")
  match ← opendir hostPath with
  | none =>
    printInfo (" No iSCSI Sessions found for " ++ orNull i.hostName ++ " \n")
    pure i
  | some entries =>
    match (forEachDir entries).find? isSession with
    | none =>
      closedir hostPath
      pure i
    | some e =>
      let devPath ← store .fillSessionDevPath (hostPath ++ "/" ++ e.dName)
      closedir hostPath
      pure { i with
        sessionName := some e.dName, sessionPath := some devPath
        sessionCount := i.sessionCount+1 }

/-- Every connection is taken in turn, so that the last one stays. -/
def connectionEntry (sessionPath : Str) (i : IscsiDevInfo) (e : Dirent) : Tool IscsiDevInfo :=
  if isConnection e then do
    let path ← store .fillConnectionConnectionPath (sessionPath ++ "/" ++ e.dName)
    pure { i with
      connectionName := some e.dName, connectionPath := some path
      connectionCount := i.connectionCount+1 }
  else pure i

def targetNameRow : Attr IscsiDevInfo :=
  { file := "targetname", copy := .unbounded .fillConnectionStr
    store := fun t i => { i with targetName := some t } }

def connRows : List (Attr IscsiDevInfo) :=
  [{ file := "address", copy := .unbounded .fillConnectionStr
     store := fun t i => { i with connAddress := some t } },
   { file := "port", copy := .unbounded .fillConnectionStr
     store := fun t i => { i with connPort := some t } }]

def sessionFile (i : IscsiDevInfo) (file : Str) : Str :=
  SYSFS_ISCSI_SESS_PATH ++ "/" ++ orNull i.sessionName ++ "/" ++ file

def connectionFile (i : IscsiDevInfo) (file : Str) : Str :=
  SYSFS_ISCSI_CONN_PATH ++ "/" ++ orNull i.connectionName ++ "/" ++ file

def fillConnectionInfo (i : IscsiDevInfo) : Tool IscsiDevInfo := do
  let sessionPath ← store .fillConnectionSessionPath
    ("/sys/class/iscsi_host/" ++ orNull i.hostName ++ "/device/" ++ orNull i.sessionName)
  match ← opendir sessionPath with
  | none =>
    printInfo (" No iSCSI Connections found for " ++ orNull i.sessionName ++ " \n")
    pure i
  | some entries =>
    let i ← (forEachDir entries).foldlM (connectionEntry sessionPath) i
    closedir sessionPath
    let i ← loadAllInto .fillConnectionSessionPath (sessionFile i) [targetNameRow] i
    loadAllInto .fillConnectionConnectionPath (connectionFile i) connRows i

/-! ## Listing -/

def iscsiHost (name : Str) : IscsiDevInfo :=
  { hostName := some name, sysDevPath := some SYSFS_ISCSI_HOST_PATH }

def iscsiRow (e : Dirent) : Tool Unit := do
  let (_,i) ← getIscsiTransport (iscsiHost e.dName)
  let i ← fillSessionInfo i
  let i ← fillConnectionInfo i
  print (.listIscsiDev i)

/-- The number of hosts, counted by a listing of its own, is the result. -/
def listIscsiDevs : Tool ℤ := do
  emit (.device .listIscsiDevs none)
  let count ← getDeviceCount SYSFS_ISCSI_HOST_PATH
  if count < 0 then pure (-enodev)
  else do
    match ← opendir SYSFS_ISCSI_HOST_PATH with
    | none =>
      printInfo "\n No iSCSI host configured \n"
      pure (-einval)
    | some entries =>
      print (.commandLabel "iSCSI")
      print .iscsiDevHeader
      (forEachDir entries).foldlM (fun _ e => iscsiRow e) ()
      closedir SYSFS_ISCSI_HOST_PATH
      pure count

/-! ## Disks of a session -/

def assignScsi (s : IscsiSession) : List ℤ → IscsiSession
  | [] => s
  | [c] => { s with scsiChannel := c }
  | [c,b] => { s with scsiChannel := c, scsiBus := b }
  | [c,b,i] => { s with scsiChannel := c, scsiBus := b, scsiId := i }
  | c :: b :: i :: l :: _ => { s with scsiChannel := c, scsiBus := b, scsiId := i, scsiLun := l }

def attachedDisk (dName : Str) (s : IscsiSession) : Tool Unit := do
  let entry ← getDeviceEntry (cut 2048 ("/sys/class/scsi_disk/" ++ dName ++ "/device/block"))
  let diskName ← snprintfFmt 64 entry
  let p ← openSysfsStatsFile (cut 2048 ("/sys/class/scsi_disk/" ++ dName ++ "/device/state"))
  let diskState ← snprintfFmt 64 p
  print (.iscsiScsiDisk s)
  print (.attachedDisk diskName diskState)

/-- Every directory entry of the target is examined, the target itself and its
parent included; four numbers in its name make it a disk. -/
def hctlEntry (sessionDiskPath : Str) (s : IscsiSession) (e : Dirent) : Tool IscsiSession :=
  if e.dType ≠ .dir then pure s
  else do
    let xs := scanColon 4 e.dName
    let s := assignScsi s xs
    let p ← openSysfsStatsFile (cut 1024 (sessionDiskPath ++ "/" ++ e.dName ++ "/type"))
    let t ← snprintfFmt 32 p
    if int32 (strtoull t) ≠ STORAGE_ARRAY_CNTROLLER then do
      let s := { s with lunCount := s.lunCount+1 }
      if xs.length = 4 then do
        attachedDisk e.dName s
        pure s
      else pure s
    else pure s

/-- The loop ends with no entry left, which is reported as an error. -/
def getIscsiDiskHctl (hostName : Option Str) (sessionDiskPath : Str) (s : IscsiSession) :
    Tool (ℤ × IscsiSession) := do
  match ← opendir sessionDiskPath with
  | none => pure (-enodev,s)
  | some entries =>
    print (.iscsiHeader "LUN" hostName)
    let s ← entries.foldlM (hctlEntry sessionDiskPath) s
    closedir sessionDiskPath
    pure (-enodev,s)

def targetEntry (hostName : Option Str) (sessionPath : Str) (s : IscsiSession) (e : Dirent) :
    Tool IscsiSession :=
  if isTarget e then do
    let (_,s) ← getIscsiDiskHctl hostName (cut 4096 (sessionPath ++ "/" ++ e.dName)) s
    pure s
  else pure s

def getSessionScsiDisks (i : IscsiDevInfo) (s : IscsiSession) : Tool (ℤ × IscsiSession) := do
  match i.sessionPath with
  | none => nullFault .opendir
  | some sessionPath =>
    match ← opendir sessionPath with
    | none => pure (-enodev,s)
    | some entries =>
      let s ← (forEachDir entries).foldlM (targetEntry i.hostName sessionPath) s
      closedir sessionPath
      pure (0,s)

/-! ## Details of a session -/

def sessText (file : Str) (store : Str → IscsiSession → IscsiSession) : Attr IscsiSession :=
  { file := file, copy := .bounded 256, store := store }

def sessInt (file : Str) (store : ℤ → IscsiSession → IscsiSession) : Attr IscsiSession :=
  { file := file, copy := .direct, store := fun t s => store (int32 (strtoull t)) s }

def sessionRows : List (Attr IscsiSession) :=
  [sessText "initiatorname" fun t s => { s with initiatorname := some t },
   sessText "targetname" fun t s => { s with targetname := some t },
   sessInt "target_id" fun n s => { s with targetId := n },
   sessText "state" fun t s => { s with state := some t },
   sessText "target_state" fun t s => { s with targetState := some t },
   sessInt "abort_tmo" fun n s => { s with abortTmo := n },
   sessInt "creator" fun n s => { s with creator := n },
   sessInt "data_pdu_in_order" fun n s => { s with dataPduInOrder := n },
   sessInt "data_seq_in_order" fun n s => { s with dataSeqInOrder := n },
   sessInt "erl" fun n s => { s with errLevel := n },
   sessInt "fast_abort" fun n s => { s with fastAbort := n },
   sessInt "first_burst_len" fun n s => { s with firstBurstLen := n },
   sessText "ifacename" fun t s => { s with ifacename := some t },
   sessInt "immediate_data" fun n s => { s with immediateData := n },
   sessInt "initial_r2t" fun n s => { s with initialR2t := n },
   sessInt "lu_reset_tmo" fun n s => { s with luResetTmo := n },
   sessInt "max_burst_len" fun n s => { s with maxBurstLen := n },
   sessInt "max_outstanding_r2t" fun n s => { s with maxOutstandingR2t := n },
   sessInt "recovery_tmo" fun n s => { s with recoveryTmo := n }]

def sessionAttr (i : IscsiDevInfo) (file : Str) : Str :=
  cut 2048 (cut 1024 (SYSFS_ISCSI_SESS_PATH ++ "/" ++ orNull i.sessionName) ++ "/" ++ file)

/-- The directory of the session stays open. -/
def getIscsiSessionInfo (i : IscsiDevInfo) (s : IscsiSession) : Tool (ℤ × IscsiSession) := do
  let s ← loadAll (sessionAttr i) sessionRows s
  match i.sessionPath with
  | none => nullFault .opendir
  | some sessionPath =>
    match ← opendir sessionPath with
    | none => pure (-enodev,s)
    | some entries =>
      print (.iscsiHeader "Session" i.sessionName)
      print (.iscsiSessionInfo s)
      if ((forEachDir entries).find? isTarget).isSome then do
        let (_,s) ← getSessionScsiDisks i s
        pure (0,s)
      else pure (0,s)

/-! ## Details of a connection -/

def connText (file : Str) (store : Str → IscsiConnection → IscsiConnection) :
    Attr IscsiConnection :=
  { file := file, copy := .unbounded .iscsiConnectionStr, store := store }

def connInt (file : Str) (store : ℤ → IscsiConnection → IscsiConnection) :
    Attr IscsiConnection :=
  { file := file, copy := .direct, store := fun t c => store (int32 (strtoull t)) c }

def connectionRows : List (Attr IscsiConnection) :=
  [connText "address" fun t c => { c with address := some t },
   connInt "max_recv_dlength" fun n c => { c with maxRecvDlength := n },
   connInt "max_xmit_dlength" fun n c => { c with maxXmitDlength := n },
   connInt "data_digest" fun n c => { c with dataDigest := n },
   connInt "exp_statsn" fun n c => { c with expStatsn := n },
   connInt "header_digest" fun n c => { c with headerDigest := n },
   connText "persistent_address" fun t c => { c with persistentAddress := some t },
   connInt "persistent_port" fun n c => { c with persistentPort := n },
   connInt "ping_tmo" fun n c => { c with pingTmo := n },
   connInt "port" fun n c => { c with port := n },
   connInt "recv_tmo" fun n c => { c with recvTmo := n },
   connText "state" fun t c => { c with state := some t }]

def getIscsiConnectionInfo (i : IscsiDevInfo) (c : IscsiConnection) :
    Tool (ℤ × IscsiConnection) := do
  let connPath ← store .iscsiConnectionPath
    (SYSFS_ISCSI_CONN_PATH ++ "/" ++ orNull i.connectionName)
  let c ← loadAllInto .iscsiConnectionConnStr (fun file => connPath ++ "/" ++ file)
    connectionRows c
  print (.iscsiHeader "Connection" i.connectionName)
  print (.iscsiConnectionInfo c)
  pure (0,c)

/-- The statuses of the gatherers are not looked at. -/
def showIscsiDetails (arg : Str) : Tool ℤ := do
  emit (.device .showIscsiDetails (some arg))
  let env ← ask
  let i ← fillSessionInfo (iscsiHost arg)
  let _ ← getIscsiSessionInfo i env.mallocSession
  let i ← fillConnectionInfo i
  let _ ← getIscsiConnectionInfo i env.mallocConnection
  pure 0

/-! ## Operations that only read their argument -/

/-- The body of the operations on an iSCSI device that are not finished: a name
of fewer than four bytes is refused, and a path is built without a bound. -/
def iscsiOperation (f : Device) (arg : Option Str) : Tool ℤ := do
  emit (.device f arg)
  match arg with
  | none => nullFault .strlen
  | some s =>
    if s.length < 4 then pure (-eio)
    else do
      let _ ← store .iscsiStubHostPath (SYSFS_ISCSI_HOST_PATH ++ "/" ++ s)
      pure 0

def getIscsiErrorCount : Option Str → Tool ℤ := iscsiOperation .getIscsiErrorCount
def scsiScanIscsiDev : Option Str → Tool ℤ := iscsiOperation .scsiScanIscsiDev
def setIscsiDevOffline : Option Str → Tool ℤ := iscsiOperation .setIscsiDevOffline
def setIscsiDevOnline : Option Str → Tool ℤ := iscsiOperation .setIscsiDevOnline
def setIscsiAlias : Option Str → Tool ℤ := iscsiOperation .setIscsiAlias

end ScsiCli.IscsiUtils
