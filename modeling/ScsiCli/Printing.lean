import ScsiCli.NumberReading
import ScsiCli.Records

/-!
# What the reports show

The reports on statistics, on one disk and on an iSCSI connection, as their
lines: a label and what the conversion after it is given. Headings, rules and
the blanks that align a line are left out.
-/

set_option autoImplicit false

namespace ScsiCli.Printing
open ScsiCli.ByteString ScsiCli.NumberText ScsiCli.NumberReading ScsiCli.Records

/-- What a conversion is given; a size goes through `calculate_size`. -/
inductive Conv where
  | signed (n : ℤ)
  | unsigned (n : ℕ)
  | hex (n : ℕ)
  | text (s : Option Str)
  | size (n : ℕ)
  deriving DecidableEq

structure Line where
  label : Str
  value : Conv

def hexOf (n : ℕ) : Str := if n = 0 then lit "0" else hexText n

/-- The text of a conversion. That of a size is kept in an array which the next size
overwrites, also within one line. -/
def Conv.shows : Conv → Option Str
  | .signed n => some (decimal n)
  | .unsigned n => some (Nat.toDigits 10 n)
  | .hex n => some (hexOf n)
  | .text s => some (s.getD "(null)")
  | .size _ => none

def valueAt (ls : List Line) (label : Str) : Option Conv :=
  (ls.find? fun l => l.label = label).map Line.value

def shownAt (ls : List Line) (label : Str) : Option Str := (valueAt ls label).bind Conv.shows

theorem find?_of_nodup {α β : Type} [DecidableEq β] (f : α → β) {xs : List α}
    (hn : (xs.map f).Nodup) {x : α} (hx : x ∈ xs) : xs.find? (fun y => f y = f x) = some x := by
  induction xs with
  | nil => cases hx
  | cons y ys ih =>
    rw [List.map_cons, List.nodup_cons] at hn
    rcases List.mem_cons.mp hx with rfl | hx
    · simp
    · have hy : f y ≠ f x := fun h => hn.1 (h ▸ List.mem_map_of_mem hx)
      rw [List.find?_cons_of_neg (by simpa using hy)]
      exact ih hn.2 hx

theorem valueAt_of_mem {ls : List Line} (hn : (ls.map Line.label).Nodup) {label : Str} {v : Conv}
    (hl : (⟨label,v⟩ : Line) ∈ ls) : valueAt ls label = some v := by
  have hf := find?_of_nodup Line.label hn hl
  simp only at hf
  rw [valueAt, hf]
  rfl

theorem shownAt_of_mem {ls : List Line} (hn : (ls.map Line.label).Nodup) {label : Str} {v : Conv}
    (hl : (⟨label,v⟩ : Line) ∈ ls) : shownAt ls label = v.shows := by
  rw [shownAt, valueAt_of_mem hn hl]
  rfl

/-- The value that a signed 64-bit conversion takes an unsigned argument for. -/
def int64 (n : ℕ) : ℤ := if n < 2^63 then n else n-2^64

theorem int64_eq_iff {n : ℕ} (h : n < 2^64) : int64 n = n ↔ n < 2^63 := by
  unfold int64
  split <;> omega

theorem int64_inj {m n : ℕ} (hm : m < 2^64) (hn : n < 2^64) : int64 m = int64 n ↔ m = n := by
  unfold int64
  split <;> split <;> omega

theorem toDigits_inj {m n : ℕ} (h : Nat.toDigits 10 m = Nat.toDigits 10 n) : m = n := by
  rw [← autoDigits_decimal m, h, autoDigits_decimal]

theorem decimal_inj (m n : ℤ) : decimal m = decimal n ↔ m = n := by
  have hsign : ∀ (s : Str) (k : ℕ), '-' :: s ≠ Nat.toDigits 10 k := by
    intro s k h
    obtain ⟨d,t,hd,ht,-⟩ := toDigits_cons (show 1 < 10 by omega) k
    obtain ⟨-,hm,-⟩ := digitChar_plain (show d < 16 by omega)
    rw [ht] at h
    exact hm (List.cons.inj h).1.symm
  constructor
  · intro h
    unfold decimal at h
    split at h <;> split at h
    · have := toDigits_inj (List.cons.inj h).2
      omega
    · exact absurd h (hsign _ _)
    · exact absurd h.symm (hsign _ _)
    · have := toDigits_inj h
      omega
  · intro h
    rw [h]

def Mark (c : Char) : Prop := c ≠ '-' ∧ ∀ d < 10, c ≠ Nat.digitChar d

theorem mark_not_mem_decimal {c : Char} (h : Mark c) (n : ℤ) : c ∉ decimal n := by
  have hd : ∀ k : ℕ, c ∉ Nat.toDigits 10 k := by
    intro k hm
    obtain ⟨d,hd,hc⟩ := mem_toDigits (show 1 < 10 by omega) hm
    exact h.2 d hd hc
  unfold decimal
  split
  · simp [hd, h.1]
  · exact hd _

/-- A number ends where the mark after it is. -/
theorem decimal_mark_inj {c : Char} (h : Mark c) {m n : ℤ} {s t : Str}
    (he : decimal m ++ c :: s = decimal n ++ c :: t) : m = n ∧ s = t := by
  have hw : ∀ (k : ℤ) (u : Str), (decimal k ++ c :: u).takeWhile (· ≠ c) = decimal k := by
    intro k u
    have hk : ∀ x ∈ decimal k, (decide (x ≠ c)) = true := by
      intro x hx
      apply decide_eq_true
      intro he
      exact mark_not_mem_decimal h k (he ▸ hx)
    rw [List.takeWhile_append_of_pos hk]
    simp
  have hmn : decimal m = decimal n := by rw [← hw m s, he, hw]
  rw [hmn] at he
  have hst := List.append_cancel_left he
  exact ⟨(decimal_inj m n).mp hmn,(List.cons.inj hst).2⟩

theorem hexOf_inj (m n : ℕ) : hexOf m = hexOf n ↔ m = n := by
  have hz : ∀ k, hexText k ≠ lit "0" := by
    intro k h
    simp [hexText, lit] at h
  constructor
  · intro h
    unfold hexOf at h
    split at h <;> split at h
    · omega
    · exact absurd h.symm (hz n)
    · exact absurd h (hz m)
    · rw [← autoDigits_hexText m, h, autoDigits_hexText]
  · intro h
    rw [h]

/-! ## Statistics -/

def printDiskStats (s : DiskStats) : List Line :=
  [⟨"Read IO",.unsigned s.ios.1⟩,
   ⟨"Write IO",.unsigned s.ios.2⟩,
   ⟨"Merged Read",.unsigned s.merges.1⟩,
   ⟨"Merged Write",.unsigned s.merges.2⟩,
   ⟨"Read Sectors",.unsigned s.sectors.1⟩,
   ⟨"Write Sectors",.unsigned s.sectors.2⟩,
   ⟨"Read IO ticks",.unsigned s.ticks.1⟩,
   ⟨"Write IO ticks",.unsigned s.ticks.2⟩,
   ⟨"Total IO tikcs",.unsigned s.ioTicks⟩,
   ⟨"Time spent in IO queue",.unsigned s.timeInQueue⟩,
   ⟨"Time spent/IO",.unsigned s.msec⟩]

def printFcPortStats (s : FcHostStatistics) : List Line :=
  [⟨"TX Frames",.hex s.txFrames⟩,
   ⟨"TX Words",.hex s.txWords⟩,
   ⟨"RX Frames",.hex s.rxFrames⟩,
   ⟨"RX Words",.hex s.rxWords⟩,
   ⟨"LIP Count",.hex s.lipCount⟩,
   ⟨"NOS Count",.hex s.nosCount⟩,
   ⟨"Error Frames",.hex s.errorFrames⟩,
   ⟨"Dumped Frames",.hex s.dumpedFrames⟩,
   ⟨"Invald TX Word",.hex s.invalidTxWordCount⟩,
   ⟨"Loss of Sync",.hex s.lossOfSyncCount⟩,
   ⟨"Loss of Signal",.hex s.lossOfSignalCount⟩,
   ⟨"Link Failure",.hex s.linkFailureCount⟩,
   ⟨"Invalid CRC",.hex s.invalidCrcCount⟩,
   ⟨"fpin_dn",.hex s.fpinDn⟩,
   ⟨"fpin_dn_device_specific",.hex s.fpinDnDeviceSpecific⟩,
   ⟨"fpin_dn_timeout",.hex s.fpinDnTimeout⟩,
   ⟨"fpin_dn_unable_to_route",.hex s.fpinDnUnableToRoute⟩,
   ⟨"fpin_dn_unknown",.hex s.fpinDnUnknown⟩,
   ⟨"fpin_li",.hex s.fpinLi⟩,
   ⟨"fpin_li_device_specific",.hex s.fpinLiDeviceSpecific⟩,
   ⟨"fpin_li_failure_unknown",.hex s.fpinLiFailureUnknown⟩,
   ⟨"fpin_li_invalid_crc_count",.hex s.fpinLiInvalidCrcCount⟩,
   ⟨"fpin_li_invalid_tx_word_count",.hex s.fpinLiInvalidTxWordCount⟩,
   ⟨"fpin_li_link_failure_count",.hex s.fpinLiLinkFailureCount⟩,
   ⟨"fpin_li_loss_of_signals_count",.hex s.fpinLiLossOfSignalsCount⟩,
   ⟨"fpin_li_loss_of_sync_count",.hex s.fpinLiLossOfSyncCount⟩,
   ⟨"fpin_li_prim_seq_err_count",.hex s.fpinLiPrimSeqErrCount⟩,
   ⟨"cn_sig_alarm",.hex s.cnSigAlarm⟩,
   ⟨"cn_sig_warn",.hex s.cnSigWarn⟩,
   ⟨"fpin_cn",.hex s.fpinCn⟩,
   ⟨"fpin_cn_device_specific",.hex s.fpinCnDeviceSpecific⟩,
   ⟨"fpin_cn_credit_stall",.hex s.fpinCnCreditStall⟩,
   ⟨"fpin_cn_lost_credits",.hex s.fpinCnLostCredit⟩,
   ⟨"fpin_cn_oversubscription",.hex s.fpinCnOversubscription⟩]

/-! ## One disk -/

def printScsiQueueData (q : DiskQueueData) : List Line :=
  [⟨"Scheduler",.text q.scheduler⟩,
   ⟨"Physical Block Size",.size q.physicalBlockSize⟩,
   ⟨"Logical Block Size",.size q.logicalBlockSize⟩,
   ⟨"Minimum IO Size",.size q.minimumIoSize⟩,
   ⟨"Optimal IO Size",.size q.optimalIoSize⟩,
   ⟨"Zoned Append Max Bytes",.size q.zoneAppendMaxBytes⟩,
   ⟨"Zone Write Granularity",.size q.zoneWriteGranularity⟩,
   ⟨"Discard Max Bytes",.size q.discardMaxBytes⟩,
   ⟨"Discard max HW bytes",.size q.discardMaxHwBytes⟩,
   ⟨"Discard zeroes data",.size q.discardZeroesData⟩,
   ⟨"Discard Granularity",.size q.discardGranularity⟩,
   ⟨"IO Poll",.signed (int64 q.ioPoll)⟩,
   ⟨"IO Poll Delay",.signed (int64 q.ioPollDelay)⟩,
   ⟨"stable_writes",.signed (int64 q.stableWrites)⟩,
   ⟨"wbt_lat_usec",.signed (int64 q.wbtLatUsec)⟩,
   ⟨"rq_affinity",.signed (int64 q.rqAffinity)⟩,
   ⟨"DAX",.signed (int64 q.dax)⟩,
   ⟨"add_random",.signed (int64 q.addRandom)⟩,
   ⟨"FUA",.signed (int64 q.fua)⟩,
   ⟨"nomerges",.signed (int64 q.nomerges)⟩,
   ⟨"Segments",.signed (int64 q.maxSegments)⟩,
   ⟨"Segment Size",.size q.maxSegmentSize⟩,
   ⟨"Zoned",.signed (int64 q.zoned)⟩,
   ⟨"nr_zones",.signed (int64 q.nrZones)⟩,
   ⟨"Readahead",.signed (int64 q.readAheadKb)⟩,
   ⟨"Write Cache",.text q.writeCache⟩,
   ⟨"WriteSame",.size q.writeSameMaxBytes⟩,
   ⟨"Write Zeroes",.size q.writeZeroesMaxBytes⟩]

def printScsiDiskDetails (d : ScsiDeviceInfo) : List Line :=
  [⟨"Vendor",.text d.vendor⟩,
   ⟨"Model Name",.text d.model⟩,
   ⟨"Size",.unsigned d.size⟩,
   ⟨"Sectors",.size (d.qData.logicalBlockSize*d.size % 2^64)⟩,
   ⟨"Disk Type",.text (some d.diskType)⟩,
   ⟨"Revision",.text d.rev⟩,
   ⟨"Disk Path",.text d.diskPath⟩,
   ⟨"Max Sectors",.unsigned d.maxSectors⟩,
   ⟨"Range",.signed d.range⟩,
   ⟨"Extent Range",.signed d.extRange⟩,
   ⟨"Capability",.hex (d.capability % 2^32).toNat⟩,
   ⟨"Queue Depth",.signed d.queueDepth⟩,
   ⟨"Queue Type",.text d.queueType⟩,
   ⟨"CDL Enabled",.signed d.cdlEnabled⟩,
   ⟨"CDL Supported",.signed d.cdlSupported⟩,
   ⟨"EH Timeout",.signed d.ehTimeout⟩,
   ⟨"TimeOut",.signed d.timeout⟩,
   ⟨"DH State",.text d.state⟩,
   ⟨"IO Done cnt",.hex d.iodoneCnt⟩,
   ⟨"IO error cnt",.hex d.ioerrCnt⟩,
   ⟨"IO Request cnt",.hex d.iorequestCnt⟩,
   ⟨"IO Counter bits",.signed (int64 d.iocounterbits)⟩,
   ⟨"IO Timeout",.signed (int64 d.iotmoCnt)⟩,
   ⟨"WWID",.text d.wwid⟩,
   ⟨"Alignment Offset",.hex d.alignmentOffset⟩,
   ⟨"Discard Alignment",.hex d.discardAlignment⟩,
   ⟨"Capacity Change Reported",.signed d.evtCapacityChangeReported⟩,
   ⟨"Inquiry Change Reported",.signed d.evtInquiryChangeReported⟩,
   ⟨"LUN Change Reported",.signed d.evtLunChangeReported⟩,
   ⟨"Media Change",.signed d.evtMediaChange⟩,
   ⟨"Mode Parameter Change Reported",.signed d.evtModeParameterChangeReported⟩,
   ⟨"Soft Threshold Reached",.signed d.evtCapacityChangeReported⟩] ++
    printScsiQueueData d.qData

def printNvmeDiskDetails (d : ScsiDeviceInfo) : List Line :=
  [⟨"Model Name",.text d.model⟩,
   ⟨"Revision",.text d.rev⟩,
   ⟨"Serial",.text d.serial⟩,
   ⟨"Disk Path",.text d.diskPath⟩,
   ⟨"PCI Address",.text d.pciAddress⟩,
   ⟨"Transport",.text d.transport⟩,
   ⟨"Size",.unsigned d.size⟩,
   ⟨"Sectors",.size (d.qData.logicalBlockSize*d.size % 2^64)⟩,
   ⟨"Range",.signed d.range⟩,
   ⟨"Extent Range",.signed d.extRange⟩,
   ⟨"Capability",.hex (d.capability % 2^32).toNat⟩,
   ⟨"Queue Depth",.signed d.queueDepth⟩,
   ⟨"EH Timeout",.signed d.ehTimeout⟩,
   ⟨"State",.text d.state⟩,
   ⟨"Controller ID",.signed d.cntlid⟩,
   ⟨"Controller Type",.text d.cntrltype⟩,
   ⟨"KATO",.signed d.kato⟩,
   ⟨"SQ Size",.signed d.sqsize⟩,
   ⟨"UUID",.text (some d.uuid)⟩,
   ⟨"NSID",.text (some d.nsid)⟩,
   ⟨"WWID",.text d.wwid⟩,
   ⟨"NGUID",.text (some d.nguid)⟩,
   ⟨"Alignment Offset",.hex d.alignmentOffset⟩,
   ⟨"Discard Alignment",.hex d.discardAlignment⟩,
   ⟨"Discovery Controller Type",.text d.dctype⟩,
   ⟨"Namespace Utilization",.unsigned d.nuse⟩] ++
    printScsiQueueData d.qData

/-! ## One iSCSI connection -/

/-- The conversion of the persistent address is followed by a letter. -/
def printIscsiConnectionInfo (c : IscsiConnection) : List Line :=
  [⟨"State",.text c.state⟩,
   ⟨"Port",.signed c.port⟩,
   ⟨"Ping Timeout",.signed c.pingTmo⟩,
   ⟨"Recv Timeout",.signed c.recvTmo⟩,
   ⟨"Persistent Addr",.text (some (c.persistentAddress.getD "(null)" ++ "i"))⟩,
   ⟨"Persistent Port",.signed c.persistentPort⟩,
   ⟨"Header Digest",.signed c.headerDigest⟩,
   ⟨"Data Digest",.signed c.dataDigest⟩,
   ⟨"Expected StatSN",.signed c.expStatsn⟩,
   ⟨"Max Recv datalen",.signed c.maxRecvDlength⟩,
   ⟨"Max Xmit datalen",.signed c.maxXmitDlength⟩,
   ⟨"Address",.text c.address⟩]

end ScsiCli.Printing
