import ScsiCli.ByteString

/-!
# The records the tool gathers and prints

A field of type `Option Str` is a `char *`: it is `none` until a string is
stored. A field of type `Str` is a character array of the record itself.
Records start out zeroed, as the allocation helpers leave them.
-/

set_option autoImplicit false

namespace ScsiCli.Records
open ScsiCli.ByteString

def DIRECT_ACCESS_BLOCK_DEVICE : ℤ := 0
def MEDIUM_CHANGER_DEVICE : ℤ := 8
def STORAGE_ARRAY_CNTROLLER : ℤ := 12
def UNKNOWN_DEVICE : ℤ := 31
def GENERIC_DEV : ℤ := 8

/-- Each pair holds the read counter and the write counter. -/
structure DiskStats where
  ios : ℕ × ℕ := (0,0)
  merges : ℕ × ℕ := (0,0)
  sectors : ℕ × ℕ := (0,0)
  ticks : ℕ × ℕ := (0,0)
  ioTicks : ℕ := 0
  timeInQueue : ℕ := 0
  msec : ℕ := 0

structure DiskQueueData where
  chunkSectors : ℕ := 0
  fua : ℕ := 0
  hwSectorSize : ℕ := 0
  ioPoll : ℕ := 0
  ioPollDelay : ℕ := 0
  iostats : ℕ := 0
  ioTimeout : ℕ := 0
  wbtLatUsec : ℕ := 0
  dax : ℕ := 0
  addRandom : ℕ := 0
  virtBoundaryMask : ℕ := 0
  stableWrites : ℕ := 0
  rotational : ℕ := 0
  rqAffinity : ℕ := 0
  scheduler : Option Str := none
  writeCache : Option Str := none
  physicalBlockSize : ℕ := 0
  logicalBlockSize : ℕ := 0
  minimumIoSize : ℕ := 0
  optimalIoSize : ℕ := 0
  discardZeroesData : ℕ := 0
  discardMaxHwBytes : ℕ := 0
  discardGranularity : ℕ := 0
  discardMaxBytes : ℕ := 0
  nomerges : ℕ := 0
  nrRequests : ℕ := 0
  nrZones : ℕ := 0
  zoneAppendMaxBytes : ℕ := 0
  zoneWriteGranularity : ℕ := 0
  zoned : ℕ := 0
  readAheadKb : ℕ := 0
  writeSameMaxBytes : ℕ := 0
  writeZeroesMaxBytes : ℕ := 0
  maxDiscardSegments : ℕ := 0
  maxHwSectorsKb : ℕ := 0
  maxIntegritySegments : ℕ := 0
  maxSectorsKb : ℕ := 0
  maxSegments : ℕ := 0
  maxSegmentSize : ℕ := 0

structure ScsiDeviceInfo where
  dstat : DiskStats := {}
  major : ℕ := 0
  minor : ℕ := 0
  host : ℤ := 0
  bus : ℤ := 0
  target : ℤ := 0
  lun : ℤ := 0
  deviceType : ℤ := 0
  diskType : Str := []
  diskPath : Option Str := none
  diskName : Option Str := none
  sysfsRoot : Option Str := none
  model : Option Str := none
  rev : Option Str := none
  wwid : Option Str := none
  queueType : Option Str := none
  state : Option Str := none
  vendor : Option Str := none
  qData : DiskQueueData := {}
  capability : ℤ := 0
  extRange : ℤ := 0
  range : ℤ := 0
  timeout : ℤ := 0
  ehTimeout : ℤ := 0
  queueDepth : ℤ := 0
  cdlEnabled : ℤ := 0
  cdlSupported : ℤ := 0
  maxSectors : ℕ := 0
  alignmentOffset : ℕ := 0
  discardAlignment : ℕ := 0
  size : ℕ := 0
  iodoneCnt : ℕ := 0
  ioerrCnt : ℕ := 0
  iorequestCnt : ℕ := 0
  iotmoCnt : ℕ := 0
  iocounterbits : ℕ := 0
  evtCapacityChangeReported : ℤ := 0
  evtInquiryChangeReported : ℤ := 0
  evtLunChangeReported : ℤ := 0
  evtMediaChange : ℤ := 0
  evtModeParameterChangeReported : ℤ := 0
  evtSoftThresholdReached : ℤ := 0
  nsid : Str := []
  nguid : Str := []
  uuid : Str := []
  cntlid : ℤ := 0
  kato : ℤ := 0
  serial : Option Str := none
  sqsize : ℤ := 0
  dctype : Option Str := none
  cntrltype : Option Str := none
  transport : Option Str := none
  nuse : ℕ := 0
  pciAddress : Option Str := none

structure FcHostStatistics where
  txFrames : ℕ := 0
  txWords : ℕ := 0
  rxFrames : ℕ := 0
  rxWords : ℕ := 0
  invalidTxWordCount : ℕ := 0
  lipCount : ℕ := 0
  nosCount : ℕ := 0
  errorFrames : ℕ := 0
  dumpedFrames : ℕ := 0
  linkFailureCount : ℕ := 0
  lossOfSyncCount : ℕ := 0
  lossOfSignalCount : ℕ := 0
  invalidCrcCount : ℕ := 0
  cnSigWarn : ℕ := 0
  cnSigAlarm : ℕ := 0
  fpinCn : ℕ := 0
  fpinCnCreditStall : ℕ := 0
  fpinCnDeviceSpecific : ℕ := 0
  fpinCnLostCredit : ℕ := 0
  fpinCnOversubscription : ℕ := 0
  fpinLi : ℕ := 0
  fpinLiDeviceSpecific : ℕ := 0
  fpinLiFailureUnknown : ℕ := 0
  fpinLiInvalidCrcCount : ℕ := 0
  fpinLiInvalidTxWordCount : ℕ := 0
  fpinLiLinkFailureCount : ℕ := 0
  fpinLiLossOfSignalsCount : ℕ := 0
  fpinLiLossOfSyncCount : ℕ := 0
  fpinLiPrimSeqErrCount : ℕ := 0
  fpinDn : ℕ := 0
  fpinDnDeviceSpecific : ℕ := 0
  fpinDnTimeout : ℕ := 0
  fpinDnUnableToRoute : ℕ := 0
  fpinDnUnknown : ℕ := 0

structure FcRportInfo where
  rportName : Option Str := none
  nodeName : Option Str := none
  portName : Option Str := none
  portId : Option Str := none
  roles : Option Str := none
  portState : Option Str := none

structure FcDeviceInfo where
  sysDevPath : Option Str := none
  hostName : Option Str := none
  modelDesc : Option Str := none
  productName : Option Str := none
  portState : Option Str := none
  portSpeed : Option Str := none
  portType : Option Str := none
  portId : Option Str := none
  portName : Option Str := none
  nodeName : Option Str := none
  driverName : Option Str := none
  fwVersion : Option Str := none
  drvVersion : Option Str := none
  supportedClass : Option Str := none
  supportedSpeed : Option Str := none
  linkState : Option Str := none
  activeMode : Option Str := none
  serialNum : Option Str := none
  fabricName : Option Str := none
  symbolicName : Option Str := none
  devLossTmo : ℤ := 0
  maxNpivVports : ℤ := 0
  npivVportsInuse : ℤ := 0
  noRports : ℤ := 0
  stats : FcHostStatistics := {}

structure IscsiSession where
  abortTmo : ℤ
  creator : ℤ
  dataPduInOrder : ℤ
  dataSeqInOrder : ℤ
  errLevel : ℤ
  fastAbort : ℤ
  firstBurstLen : ℤ
  ifacename : Option Str
  immediateData : ℤ
  initialR2t : ℤ
  initiatorname : Option Str
  luResetTmo : ℤ
  maxBurstLen : ℤ
  maxOutstandingR2t : ℤ
  recoveryTmo : ℤ
  targetId : ℤ
  targetname : Option Str
  targetState : Option Str
  state : Option Str
  scsiChannel : ℤ
  scsiBus : ℤ
  scsiId : ℤ
  scsiLun : ℤ
  lunCount : ℤ

structure IscsiConnection where
  address : Option Str
  dataDigest : ℤ
  expStatsn : ℤ
  headerDigest : ℤ
  maxRecvDlength : ℤ
  maxXmitDlength : ℤ
  persistentAddress : Option Str
  persistentPort : ℤ
  pingTmo : ℤ
  port : ℤ
  recvTmo : ℤ
  state : Option Str

/-- `session` and `connection` are null until `show` allocates them. Their
blocks are not cleared, so the two record types have no default fields. -/
structure IscsiDevInfo where
  hostName : Option Str := none
  sessionName : Option Str := none
  connectionName : Option Str := none
  transportName : Option Str := none
  targetName : Option Str := none
  connAddress : Option Str := none
  connPort : Option Str := none
  sysDevPath : Option Str := none
  connectionPath : Option Str := none
  sessionPath : Option Str := none
  sessionDiskPath : Option Str := none
  sessionCount : ℤ := 0
  connectionCount : ℤ := 0

inductive Out where
  | commandLabel (label : Str)
  | diskHeader
  | diskInfo (d : ScsiDeviceInfo)
  | nvmeDiskHeader
  | nvmeDiskInfo (d : ScsiDeviceInfo)
  | genericDiskHeader
  | genericDiskInfo (d : ScsiDeviceInfo)
  | mpathDiskHeader
  | mpathDiskInfo (d : ScsiDeviceInfo)
  | enclosureHeader
  | enclosureInfo (d : ScsiDeviceInfo)
  | tapeDevice (path : Str)
  | scsiDiskDetails (d : ScsiDeviceInfo)
  | nvmeDiskDetails (d : ScsiDeviceInfo)
  | enclosureName (name : Str)
  | diskStats (s : DiskStats) (name : Str)
  | fcDevHeader
  | listFcDev (f : FcDeviceInfo)
  | fcInfo (f : FcDeviceInfo)
  | fcRportHeader
  | fcRportInfo (r : FcRportInfo)
  | fcPortStats (f : FcDeviceInfo)
  | iscsiDevHeader
  | listIscsiDev (i : IscsiDevInfo)
  | iscsiHeader (label : Str) (name : Option Str)
  | iscsiSessionInfo (s : IscsiSession)
  | iscsiConnectionInfo (c : IscsiConnection)
  | iscsiScsiDisk (s : IscsiSession)
  | attachedDisk (name state : Str)
  | generalHelp
  | subCommands (cmd : Str) (rows : List (Str × Str))
  | info (text : Str)
  | error (text : Str)

end ScsiCli.Records
