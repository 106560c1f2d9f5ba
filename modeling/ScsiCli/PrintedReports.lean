import ScsiCli.Fields
import ScsiCli.PrintedTables

/-!
# The reports on standard output

What the print functions of the statistics, of an iSCSI session and of a
connection write, from their formats. Each report is read back as its lines.
-/

set_option autoImplicit false

namespace ScsiCli.PrintedReports
open ScsiCli.RunTrace ScsiCli.ByteString ScsiCli.NumberText ScsiCli.NumberReading
open ScsiCli.Records ScsiCli.Machine ScsiCli.Gatherers ScsiCli.Requests
open ScsiCli.Printf ScsiCli.TextLines ScsiCli.Fields ScsiCli.PrintedTables
open ScsiCli.Printing hiding printDiskStats printFcPortStats printIscsiConnectionInfo

/-! ## The print functions -/

section
variable {σ : Type}

def field (format label : Str) (m : Member σ) : Fields.Part σ := .field ⟨format,label,m,[]⟩

end

def heading (rule title : Str) (name : Option Str) : Option Str :=
  calls [printf rule [.str dash],printf title [.str name],printf rule [.str dash]]

def diskStatsParts : List (Fields.Part DiskStats) :=
  [.note "\n",
   field " Read IO\t: %llu \n" "Read IO" (.unsigned fun s => s.ios.1),
   field " Write IO\t: %llu \n" "Write IO" (.unsigned fun s => s.ios.2),
   field " Merged Read \t: %llu \n" "Merged Read" (.unsigned fun s => s.merges.1),
   field " Merged Write\t: %llu \n" "Merged Write" (.unsigned fun s => s.merges.2),
   field " Read Sectors\t: %llu \n" "Read Sectors" (.unsigned fun s => s.sectors.1),
   field " Write Sectors\t: %llu \n" "Write Sectors" (.unsigned fun s => s.sectors.2),
   field " Read IO ticks\t: %llu \n" "Read IO ticks" (.unsigned fun s => s.ticks.1),
   field " Write IO ticks\t: %llu \n" "Write IO ticks" (.unsigned fun s => s.ticks.2),
   field " Total IO tikcs\t: %llu \n" "Total IO tikcs" (.unsigned fun s => s.ioTicks),
   field " Time spent in IO queue  : %llu \n" "Time spent in IO queue"
     (.unsigned fun s => s.timeInQueue),
   field " Time spent/IO\t\t : %llu \n" "Time spent/IO" (.unsigned fun s => s.msec),
   .note "\n"]

def printDiskStats (s : DiskStats) (diskName : Str) : Option Str :=
  calls [heading "\n %-.48s\n" "\tIO Statistics for %s" (some diskName),
    printParts s diskStatsParts]

def fcPortStatsParts : List (Fields.Part FcDeviceInfo) :=
  [.note "\n",
   field " TX Frames\t: %#llx \n" "TX Frames" (.hex fun f => f.stats.txFrames),
   field " TX Words\t: %#llx \n" "TX Words" (.hex fun f => f.stats.txWords),
   field " RX Frames\t: %#llx \n" "RX Frames" (.hex fun f => f.stats.rxFrames),
   field " RX Words\t: %#llx \n" "RX Words" (.hex fun f => f.stats.rxWords),
   field " LIP Count\t: %#llx \n" "LIP Count" (.hex fun f => f.stats.lipCount),
   field " NOS Count\t: %#llx \n" "NOS Count" (.hex fun f => f.stats.nosCount),
   field " Error Frames\t: %#llx \n" "Error Frames" (.hex fun f => f.stats.errorFrames),
   field " Dumped Frames\t: %#llx \n" "Dumped Frames" (.hex fun f => f.stats.dumpedFrames),
   field " Invald TX Word\t: %#llx \n" "Invald TX Word" (.hex fun f => f.stats.invalidTxWordCount),
   field " Loss of Sync\t: %#llx \n" "Loss of Sync" (.hex fun f => f.stats.lossOfSyncCount),
   field " Loss of Signal\t: %#llx \n" "Loss of Signal" (.hex fun f => f.stats.lossOfSignalCount),
   field " Link Failure\t: %#llx \n" "Link Failure" (.hex fun f => f.stats.linkFailureCount),
   field " Invalid CRC\t: %#llx \n" "Invalid CRC" (.hex fun f => f.stats.invalidCrcCount),
   .note "\n ----- FPIN Diagnostic Statistics ----- \n",
   .note "\n",
   field " fpin_dn\t\t\t: %#llx \n" "fpin_dn" (.hex fun f => f.stats.fpinDn),
   field " fpin_dn_device_specific\t: %#llx \n" "fpin_dn_device_specific"
     (.hex fun f => f.stats.fpinDnDeviceSpecific),
   field " fpin_dn_timeout\t\t: %#llx \n" "fpin_dn_timeout" (.hex fun f => f.stats.fpinDnTimeout),
   field " fpin_dn_unable_to_route\t: %#llx \n" "fpin_dn_unable_to_route"
     (.hex fun f => f.stats.fpinDnUnableToRoute),
   field " fpin_dn_unknown\t\t: %#llx \n" "fpin_dn_unknown" (.hex fun f => f.stats.fpinDnUnknown),
   .note "\n ----- FPIN Link Integrity Statistics ----- \n",
   .note "\n",
   field " fpin_li\t\t\t: %#llx\n" "fpin_li" (.hex fun f => f.stats.fpinLi),
   field " fpin_li_device_specific\t: %#llx \n" "fpin_li_device_specific"
     (.hex fun f => f.stats.fpinLiDeviceSpecific),
   field " fpin_li_failure_unknown\t: %#llx \n" "fpin_li_failure_unknown"
     (.hex fun f => f.stats.fpinLiFailureUnknown),
   field " fpin_li_invalid_crc_count\t: %#llx \n" "fpin_li_invalid_crc_count"
     (.hex fun f => f.stats.fpinLiInvalidCrcCount),
   field " fpin_li_invalid_tx_word_count\t: %#llx \n" "fpin_li_invalid_tx_word_count"
     (.hex fun f => f.stats.fpinLiInvalidTxWordCount),
   field " fpin_li_link_failure_count\t: %#llx \n" "fpin_li_link_failure_count"
     (.hex fun f => f.stats.fpinLiLinkFailureCount),
   field " fpin_li_loss_of_signals_count\t: %#llx \n" "fpin_li_loss_of_signals_count"
     (.hex fun f => f.stats.fpinLiLossOfSignalsCount),
   field " fpin_li_loss_of_sync_count\t: %#llx \n" "fpin_li_loss_of_sync_count"
     (.hex fun f => f.stats.fpinLiLossOfSyncCount),
   field " fpin_li_prim_seq_err_count\t: %#llx \n" "fpin_li_prim_seq_err_count"
     (.hex fun f => f.stats.fpinLiPrimSeqErrCount),
   .note "\n ----- FPIN Congestion Statistics ----- \n",
   .note "\n",
   field " cn_sig_alarm\t\t\t: %#llx\n" "cn_sig_alarm" (.hex fun f => f.stats.cnSigAlarm),
   field " cn_sig_warn\t\t\t: %#llx\n" "cn_sig_warn" (.hex fun f => f.stats.cnSigWarn),
   field " fpin_cn\t\t\t: %#llx\n" "fpin_cn" (.hex fun f => f.stats.fpinCn),
   field " fpin_cn_device_specific\t: %#llx \n" "fpin_cn_device_specific"
     (.hex fun f => f.stats.fpinCnDeviceSpecific),
   field " fpin_cn_credit_stall\t\t: %#llx \n" "fpin_cn_credit_stall"
     (.hex fun f => f.stats.fpinCnCreditStall),
   field " fpin_cn_lost_credits\t\t: %#llx \n" "fpin_cn_lost_credits"
     (.hex fun f => f.stats.fpinCnLostCredit),
   field " fpin_cn_oversubscription\t: %#llx \n" "fpin_cn_oversubscription"
     (.hex fun f => f.stats.fpinCnOversubscription),
   .note "\n"]

def printFcPortStats (f : FcDeviceInfo) : Option Str :=
  calls [heading "\n%-.48s\n" "\tFCP Statistics: %s" f.hostName,printParts f fcPortStatsParts]

def sessionParts : List (Fields.Part IscsiSession) :=
  [.note " \n",
   field " Target Name\t\t:\t%-s \n" "Target Name" (.text fun s => s.targetname),
   field " Target State\t\t:\t%-s \n" "Target State" (.text fun s => s.targetState),
   field " Session State\t\t:\t%-s \n" "Session State" (.text fun s => s.state),
   field " Abort Timeout\t\t:\t%d \n" "Abort Timeout" (.signed fun s => s.abortTmo),
   field " Creator ID\t\t:\t%-d \n" "Creator ID" (.signed fun s => s.creator),
   field " Data PDU In Order\t:\t%d \n" "Data PDU In Order" (.signed fun s => s.dataPduInOrder),
   field " Data SEQ In Order\t:\t%d \n" "Data SEQ In Order" (.signed fun s => s.dataSeqInOrder),
   field " Error Recovery Level\t:\t%d \n" "Error Recovery Level" (.signed fun s => s.errLevel),
   field " Fast Abort\t\t:\t%d \n" "Fast Abort" (.signed fun s => s.fastAbort),
   field " First Burst Len\t:\t%d \n" "First Burst Len" (.signed fun s => s.firstBurstLen),
   field " ifacename\t\t:\t%s \n" "ifacename" (.text fun s => s.ifacename),
   field " immediate Data\t\t:\t%d \n" "immediate Data" (.signed fun s => s.immediateData),
   field " Initial R2T\t\t:\t%d \n" "Initial R2T" (.signed fun s => s.initialR2t),
   field " Lun Reset Timeout\t:\t%d \n" "Lun Reset Timeout" (.signed fun s => s.luResetTmo),
   field " Max Burst Len\t\t:\t%d \n" "Max Burst Len" (.signed fun s => s.maxBurstLen),
   field " Max Outstanding R2T\t:\t%d \n" "Max Outstanding R2T"
     (.signed fun s => s.maxOutstandingR2t),
   field " Recovery Timeout\t:\t%d \n" "Recovery Timeout" (.signed fun s => s.recoveryTmo),
   .note "\n"]

def printIscsiSessionInfo (s : IscsiSession) : Option Str := printParts s sessionParts

/-- The conversion of the persistent address is followed by a letter. -/
def connectionParts : List (Fields.Part IscsiConnection) :=
  [.note " \n",
   field " State\t\t\t:\t%s \n" "State" (.text fun c => c.state),
   field " Port\t\t\t:\t%d \n" "Port" (.signed fun c => c.port),
   field " Ping Timeout\t\t:\t%-d \n" "Ping Timeout" (.signed fun c => c.pingTmo),
   field " Recv Timeout\t\t:\t%d \n" "Recv Timeout" (.signed fun c => c.recvTmo),
   .field ⟨" Persistent Addr\t:\t%si \n","Persistent Addr",.text fun c => c.persistentAddress,"i"⟩,
   field " Persistent Port\t:\t%d \n" "Persistent Port" (.signed fun c => c.persistentPort),
   field " Header Digest\t\t:\t%d \n" "Header Digest" (.signed fun c => c.headerDigest),
   field " Data Digest\t\t:\t%d \n" "Data Digest" (.signed fun c => c.dataDigest),
   field " Expected StatSN\t:\t%d \n" "Expected StatSN" (.signed fun c => c.expStatsn),
   field " Max Recv datalen\t:\t%d \n" "Max Recv datalen" (.signed fun c => c.maxRecvDlength),
   field " Max Xmit datalen\t:\t%d \n" "Max Xmit datalen" (.signed fun c => c.maxXmitDlength),
   field " Address\t\t:\t%s \n" "Address" (.text fun c => c.address),
   .note " \n\n"]

def printIscsiConnectionInfo (c : IscsiConnection) : Option Str := printParts c connectionParts

/-! ## Reading a report back -/

def sessionLines (s : IscsiSession) : List Line :=
  [⟨"Target Name",.text s.targetname⟩,
   ⟨"Target State",.text s.targetState⟩,
   ⟨"Session State",.text s.state⟩,
   ⟨"Abort Timeout",.signed s.abortTmo⟩,
   ⟨"Creator ID",.signed s.creator⟩,
   ⟨"Data PDU In Order",.signed s.dataPduInOrder⟩,
   ⟨"Data SEQ In Order",.signed s.dataSeqInOrder⟩,
   ⟨"Error Recovery Level",.signed s.errLevel⟩,
   ⟨"Fast Abort",.signed s.fastAbort⟩,
   ⟨"First Burst Len",.signed s.firstBurstLen⟩,
   ⟨"ifacename",.text s.ifacename⟩,
   ⟨"immediate Data",.signed s.immediateData⟩,
   ⟨"Initial R2T",.signed s.initialR2t⟩,
   ⟨"Lun Reset Timeout",.signed s.luResetTmo⟩,
   ⟨"Max Burst Len",.signed s.maxBurstLen⟩,
   ⟨"Max Outstanding R2T",.signed s.maxOutstandingR2t⟩,
   ⟨"Recovery Timeout",.signed s.recoveryTmo⟩]

/-- The labels with what is shown under them, without blanks at the ends. -/
def pairs (ls : List Line) : List (Str × Str) :=
  ls.filterMap fun l => l.value.shows.map fun t => (l.label,strip blank t)

theorem hexOf_digits (n : ℕ) :
    hexOf n = if n = 0 then ['0'] else '0' :: 'x' :: Nat.toDigits 16 n := by
  simp [hexOf, hexText, lit]

theorem parts_ok : (∀ p ∈ diskStatsParts, p.ok = true) ∧ (∀ p ∈ fcPortStatsParts, p.ok = true) ∧
    (∀ p ∈ sessionParts, p.ok = true) ∧ ∀ p ∈ connectionParts, p.ok = true := by
  decide +kernel

section
variable {σ : Type}

def shownBy (s : σ) (ps : List (Fields.Part σ)) : List (Str × Str) :=
  (fieldsOf ps).map fun F => (F.label,strip blank (F.shown s))

theorem shownBy_nil (s : σ) : shownBy s [] = [] := rfl

theorem shownBy_note (s : σ) (f : Str) (ps : List (Fields.Part σ)) :
    shownBy s (.note f :: ps) = shownBy s ps := rfl

theorem shownBy_cons (s : σ) (F : Fields.Field σ) (ps : List (Fields.Part σ)) :
    shownBy s (.field F :: ps) = (F.label,strip blank (F.shown s)) :: shownBy s ps := rfl

theorem shownBy_field (s : σ) (format label : Str) (m : Member σ) (ps : List (Fields.Part σ)) :
    shownBy s (field format label m :: ps) = (label,strip blank (m.shown s)) :: shownBy s ps := by
  rw [field, shownBy_cons, Fields.Field.shown, List.append_nil]

end

theorem shownBy_diskStats (s : DiskStats) :
    shownBy s diskStatsParts = pairs (Printing.printDiskStats s) := by
  simp only [diskStatsParts, shownBy_nil, shownBy_note, shownBy_field, Member.shown]
  rfl

theorem shownBy_fcPortStats (f : FcDeviceInfo) :
    shownBy f fcPortStatsParts = pairs (Printing.printFcPortStats f.stats) := by
  simp only [fcPortStatsParts, shownBy_nil, shownBy_note, shownBy_field, Member.shown,
    ← hexOf_digits]
  rfl

theorem shownBy_session (s : IscsiSession) : shownBy s sessionParts = pairs (sessionLines s) := by
  simp only [sessionParts, shownBy_nil, shownBy_note, shownBy_field, Member.shown]
  rfl

theorem shownBy_connection (c : IscsiConnection) :
    shownBy c connectionParts = pairs (Printing.printIscsiConnectionInfo c) := by
  simp only [connectionParts, shownBy_nil, shownBy_note, shownBy_field, shownBy_cons,
    Fields.Field.shown, Member.shown]
  rfl

/-! ## Headings -/

structure Heads (rule title : Str) : Prop where
  rule : ∃ r, printf rule [.str dash] = some ('\n' :: (r ++ ['\n'])) ∧ '\n' ∉ r ∧ readField r = none
  title : ∃ t, pieces none title = some (('\t' :: t).map Piece.char ++ [Piece.str {}]) ∧ '\n' ∉ t

theorem heads : Heads "\n %-.48s\n" "\tIO Statistics for %s" ∧
    Heads "\n%-.48s\n" "\tFCP Statistics: %s" :=
  ⟨⟨⟨' ' :: List.replicate 48 '-',by decide +kernel⟩,⟨"IO Statistics for ",by decide +kernel⟩⟩,
    ⟨⟨List.replicate 48 '-',by decide +kernel⟩,⟨"FCP Statistics: ",by decide +kernel⟩⟩⟩

/-- No line of a heading is a field, whatever name stands in it. -/
theorem read_heading {rule title : Str} (h : Heads rule title) {name : Option Str}
    (hn : '\n' ∉ orNull name) :
    ∃ u, heading rule title name = some u ∧ Lines u ∧ readFields u = [] := by
  obtain ⟨r,hr,hrn,hrf⟩ := h.rule
  obtain ⟨t,ht,htn⟩ := h.title
  have he : readField [] = none := by simp [readField]
  have hL : Lines ('\n' :: (r ++ ['\n'])) := .inr ⟨'\n' :: r,rfl⟩
  -- the first newline of a rule ends the line before it
  have hb : readLines readField (r ++ ['\n']) = [] := by
    rw [readLines_line he hrn, hrf]
    rfl
  have hl : readLines readField ('\n' :: (r ++ ['\n'])) = [] := by
    rw [← List.nil_append ('\n' :: _), readLines_append_newline, readLines_nil he, hb]
    rfl
  have hp : printf title [.str name] = some ('\t' :: t ++ orNull name) := by
    rw [printf_of_pieces ht, render_chars, render_str, render_nil, strText_whole, pad_zero]
    simp [orNull]
  refine ⟨'\n' :: (r ++ ['\n']) ++ (('\t' :: t ++ orNull name) ++ '\n' :: (r ++ ['\n'])),?_,?_,?_⟩
  · simp [heading, calls, hr, hp]
  · exact lines_append hL (.inr ⟨'\t' :: t ++ orNull name ++ '\n' :: r,by simp⟩)
  · rw [readFields, readLines_append he hL, hl, readLines_append_newline, hb,
      readLines_single (by simp [htn, hn])]
    simp [readField]

/-! ## Whole reports -/

def reportOf : Out → Option Str
  | .diskStats s name => printDiskStats s name
  | .fcPortStats f => printFcPortStats f
  | .iscsiSessionInfo s => printIscsiSessionInfo s
  | .iscsiConnectionInfo c => printIscsiConnectionInfo c
  | _ => none

def reportText : Event → Option Str
  | .out o => reportOf o
  | _ => none

def linesOf : Out → Option (List Line)
  | .diskStats s _ => some (Printing.printDiskStats s)
  | .fcPortStats f => some (Printing.printFcPortStats f.stats)
  | .iscsiSessionInfo s => some (sessionLines s)
  | .iscsiConnectionInfo c => some (Printing.printIscsiConnectionInfo c)
  | _ => none

def textsIn : Out → List (Option Str)
  | .diskStats _ name => [some name]
  | .fcPortStats f => [f.hostName]
  | .iscsiSessionInfo s => [s.targetname,s.targetState,s.state,s.ifacename]
  | .iscsiConnectionInfo c => [c.state,c.persistentAddress,c.address]
  | _ => []

/-! ## Reports of a run -/

section
variable {env : Env}

def Silent (e : Event) : Prop := reportText e = none

theorem silent_of_gathers {e : Event} (h : Gathers e) : Silent e := by
  cases e with
  | out o => cases o <;> first | rfl | cases h
  | _ => rfl

theorem silent_gathers {α : Type} {m : Tool α} (h : Emits Gathers m env) : Emits Silent m env :=
  emits_mono h fun _ => silent_of_gathers

theorem observed_silent {α : Type} {m : Tool α} (h : Emits Silent m env) :
    observed reportText m env = [] := observed_of_emits _ h fun _ => id

theorem quiet_reportText : Quiet reportText := by
  refine ⟨fun e he => ?_,fun _ => rfl,fun _ => rfl,rfl⟩
  cases e <;> first | rfl | cases he

end

/-! ## One report -/

theorem read_headed {σ : Type} {rule title : Str} (h : Heads rule title) {name : Option Str}
    (hn : '\n' ∉ orNull name) {ps : List (Fields.Part σ)} (hp : ∀ p ∈ ps, p.ok = true) {s : σ}
    (hs : ∀ t ∈ textsOf s ps, '\n' ∉ t.getD "(null)") :
    ∃ t, calls [heading rule title name,printParts s ps] = some t ∧
      readFields t = shownBy s ps := by
  obtain ⟨u,hu,hl,hr⟩ := read_heading h hn
  obtain ⟨t,ht,-,hv⟩ := read_report hp hs
  refine ⟨u ++ t,by simp [calls, hu, ht],?_⟩
  rw [readFields] at hr hv ⊢
  rw [readLines_append (by simp [readField]) hl, hr, hv]
  rfl

theorem read_diskStats (s : DiskStats) {name : Str} (h : '\n' ∉ name) :
    ∃ t, printDiskStats s name = some t ∧ readFields t = pairs (Printing.printDiskStats s) := by
  obtain ⟨t,hp,hr⟩ := read_headed heads.1 (show '\n' ∉ orNull (some name) from h) parts_ok.1
    (show ∀ t ∈ textsOf s diskStatsParts, '\n' ∉ t.getD "(null)" from List.forall_mem_nil _)
  exact ⟨t,hp,hr.trans (shownBy_diskStats s)⟩

theorem read_fcPortStats {f : FcDeviceInfo} (h : '\n' ∉ orNull f.hostName) :
    ∃ t, printFcPortStats f = some t ∧
      readFields t = pairs (Printing.printFcPortStats f.stats) := by
  obtain ⟨t,hp,hr⟩ := read_headed heads.2 h parts_ok.2.1
    (show ∀ t ∈ textsOf f fcPortStatsParts, '\n' ∉ t.getD "(null)" from List.forall_mem_nil _)
  exact ⟨t,hp,hr.trans (shownBy_fcPortStats f)⟩

theorem read_session {s : IscsiSession} (h : ∀ t ∈ textsIn (.iscsiSessionInfo s), '\n' ∉ orNull t) :
    ∃ t, printIscsiSessionInfo s = some t ∧ readFields t = pairs (sessionLines s) := by
  obtain ⟨t,hp,-,hr⟩ := read_report parts_ok.2.2.1 (show ∀ t ∈ textsOf s sessionParts, _ from h)
  exact ⟨t,hp,hr.trans (shownBy_session s)⟩

theorem read_connection {c : IscsiConnection}
    (h : ∀ t ∈ textsIn (.iscsiConnectionInfo c), '\n' ∉ orNull t) :
    ∃ t, printIscsiConnectionInfo c = some t ∧
      readFields t = pairs (Printing.printIscsiConnectionInfo c) := by
  obtain ⟨t,hp,-,hr⟩ := read_report parts_ok.2.2.2 (show ∀ t ∈ textsOf c connectionParts, _ from h)
  exact ⟨t,hp,hr.trans (shownBy_connection c)⟩

/-- Where no text has a newline a report is read back as its lines. -/
theorem report_read_back {o : Out} {ls : List Line} (hl : linesOf o = some ls)
    (ht : ∀ t ∈ textsIn o, '\n' ∉ orNull t) :
    ∃ t, reportOf o = some t ∧ readFields t = pairs ls := by
  cases o with
  | diskStats s name =>
    obtain rfl := Option.some.inj hl
    exact read_diskStats s (ht (some name) (by simp [textsIn]))
  | fcPortStats f =>
    obtain rfl := Option.some.inj hl
    exact read_fcPortStats (ht f.hostName (by simp [textsIn]))
  | iscsiSessionInfo s =>
    obtain rfl := Option.some.inj hl
    exact read_session ht
  | iscsiConnectionInfo c =>
    obtain rfl := Option.some.inj hl
    exact read_connection ht
  | _ => cases hl

def busyStats : DiskStats :=
  { ios := (120,45), merges := (3,8), sectors := (9600,720), ticks := (35,61), ioTicks := 80
    timeInQueue := 96 }

def loggedIn : IscsiConnection :=
  { address := some "10.0.0.2", maxRecvDlength := 262144, maxXmitDlength := 65536, dataDigest := 0
    expStatsn := 1207, headerDigest := 1, persistentAddress := some "10.0.0.1"
    persistentPort := 3260, pingTmo := 5, port := 3261, recvTmo := -1, state := some "logged in" }

theorem busy_sda_read_back :
    (∃ t, reportOf (.diskStats busyStats (lit "sda")) = some t ∧
      readFields t = pairs (Printing.printDiskStats busyStats)) ∧
    ∃ t, reportOf (.iscsiConnectionInfo loggedIn) = some t ∧
      readFields t = pairs (Printing.printIscsiConnectionInfo loggedIn) :=
  ⟨report_read_back rfl (by simp [textsIn, orNull, lit]),
    report_read_back rfl (by simp [textsIn, orNull, loggedIn, lit])⟩

end ScsiCli.PrintedReports
