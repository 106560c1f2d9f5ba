import ScsiCli.AttributeNumbers
import ScsiCli.Printing

/-!
# The statistics of a Fibre Channel host

Each counter has a file, a field and a label. All three agree, for every
counter; but the conversion is the signed one, so that the upper half of the
values arrives as the largest signed value.
-/

set_option autoImplicit false

namespace ScsiCli.FcStatistics
open ScsiCli.RunTrace ScsiCli.ByteString ScsiCli.NumberText ScsiCli.NumberReading
open ScsiCli.Records ScsiCli.Machine ScsiCli.SysfsUtils ScsiCli.FcpUtils ScsiCli.MachineRules
open ScsiCli.LiteralCopies ScsiCli.AttributeNumbers ScsiCli.Printing

variable {env : Env}

structure Counter where
  file : Str
  label : Str
  field : FcHostStatistics → ℕ

def counters : List Counter :=
  [⟨"tx_frames","TX Frames",fun s => s.txFrames⟩,
   ⟨"tx_words","TX Words",fun s => s.txWords⟩,
   ⟨"rx_frames","RX Frames",fun s => s.rxFrames⟩,
   ⟨"rx_words","RX Words",fun s => s.rxWords⟩,
   ⟨"lip_count","LIP Count",fun s => s.lipCount⟩,
   ⟨"nos_count","NOS Count",fun s => s.nosCount⟩,
   ⟨"error_frames","Error Frames",fun s => s.errorFrames⟩,
   ⟨"dumped_frames","Dumped Frames",fun s => s.dumpedFrames⟩,
   ⟨"invalid_tx_word_count","Invald TX Word",fun s => s.invalidTxWordCount⟩,
   ⟨"loss_of_sync_count","Loss of Sync",fun s => s.lossOfSyncCount⟩,
   ⟨"loss_of_signal_count","Loss of Signal",fun s => s.lossOfSignalCount⟩,
   ⟨"link_failure_count","Link Failure",fun s => s.linkFailureCount⟩,
   ⟨"invalid_crc_count","Invalid CRC",fun s => s.invalidCrcCount⟩,
   ⟨"fpin_dn","fpin_dn",fun s => s.fpinDn⟩,
   ⟨"fpin_dn_device_specific","fpin_dn_device_specific",fun s => s.fpinDnDeviceSpecific⟩,
   ⟨"fpin_dn_timeout","fpin_dn_timeout",fun s => s.fpinDnTimeout⟩,
   ⟨"fpin_dn_unable_to_route","fpin_dn_unable_to_route",fun s => s.fpinDnUnableToRoute⟩,
   ⟨"fpin_dn_unknown","fpin_dn_unknown",fun s => s.fpinDnUnknown⟩,
   ⟨"fpin_li","fpin_li",fun s => s.fpinLi⟩,
   ⟨"fpin_li_device_specific","fpin_li_device_specific",fun s => s.fpinLiDeviceSpecific⟩,
   ⟨"fpin_li_failure_unknown","fpin_li_failure_unknown",fun s => s.fpinLiFailureUnknown⟩,
   ⟨"fpin_li_invalid_crc_count","fpin_li_invalid_crc_count",fun s => s.fpinLiInvalidCrcCount⟩,
   ⟨"fpin_li_invalid_tx_word_count","fpin_li_invalid_tx_word_count",
     fun s => s.fpinLiInvalidTxWordCount⟩,
   ⟨"fpin_li_link_failure_count","fpin_li_link_failure_count",
     fun s => s.fpinLiLinkFailureCount⟩,
   ⟨"fpin_li_loss_of_signals_count","fpin_li_loss_of_signals_count",
     fun s => s.fpinLiLossOfSignalsCount⟩,
   ⟨"fpin_li_loss_of_sync_count","fpin_li_loss_of_sync_count",
     fun s => s.fpinLiLossOfSyncCount⟩,
   ⟨"fpin_li_prim_seq_err_count","fpin_li_prim_seq_err_count",
     fun s => s.fpinLiPrimSeqErrCount⟩,
   ⟨"cn_sig_alarm","cn_sig_alarm",fun s => s.cnSigAlarm⟩,
   ⟨"cn_sig_warn","cn_sig_warn",fun s => s.cnSigWarn⟩,
   ⟨"fpin_cn","fpin_cn",fun s => s.fpinCn⟩,
   ⟨"fpin_cn_device_specific","fpin_cn_device_specific",fun s => s.fpinCnDeviceSpecific⟩,
   ⟨"fpin_cn_credit_stall","fpin_cn_credit_stall",fun s => s.fpinCnCreditStall⟩,
   ⟨"fpin_cn_lost_credit","fpin_cn_lost_credits",fun s => s.fpinCnLostCredit⟩,
   ⟨"fpin_cn_oversubscription","fpin_cn_oversubscription",fun s => s.fpinCnOversubscription⟩]

def statisticsDir (name : Str) : Str := SYSFS_FC_HOST_PATH ++ "/" ++ name ++ "/statistics"

def Reported (env : Env) (name : Str) (v : FcHostStatistics) : Prop :=
  ∀ c ∈ counters, c.field v < 2^64 ∧
    Holds env (statisticsDir name ++ "/" ++ c.file) (hexText (c.field v))

/-- Every counter has its value in its field and on its line. -/
def RoundTrip (v s : FcHostStatistics) : Prop :=
  ∀ c ∈ counters, c.field s = c.field v ∧
    shownAt (printFcPortStats s) c.label = some (hexOf (c.field v))

theorem plain_statRows : ∀ a ∈ statRows, Plain a := by
  simp [statRows, statRow, Plain]

theorem counters_read : (statRows.map Attr.file).Perm (counters.map Counter.file) := by
  decide +kernel

theorem field_loaded (pathOf : Str → Str) (f : FcDeviceInfo) :
    ∀ c ∈ counters, c.field (loaded env pathOf statRows f).stats =
      uint64 (strtol (copied env 64 (pathOf c.file))) := by
  simp only [counters, List.forall_mem_cons]
  repeat' constructor
  simp

theorem printed_counters (s : FcHostStatistics) :
    printFcPortStats s = counters.map fun c => ⟨c.label,.hex (c.field s)⟩ := rfl

theorem nodup_labels : (counters.map Counter.label).Nodup := by decide +kernel

theorem shown_counter (s : FcHostStatistics) {c : Counter} (hc : c ∈ counters) :
    shownAt (printFcPortStats s) c.label = some (hexOf (c.field s)) := by
  have hn : ((printFcPortStats s).map Line.label).Nodup := by
    rw [printed_counters, List.map_map]
    exact nodup_labels
  have hm : (⟨c.label,.hex (c.field s)⟩ : Line) ∈ printFcPortStats s := by
    rw [printed_counters]
    exact List.mem_map_of_mem (f := fun c => (⟨c.label,.hex (c.field s)⟩ : Line)) hc
  exact shownAt_of_mem hn hm

theorem length_file_le : ∀ c ∈ counters, c.file.length ≤ 29 := by decide +kernel

theorem statFile_eq {name : Str} (hp : (statisticsDir name).length < 256) {c : Counter}
    (hc : c ∈ counters) : statFile name c.file = statisticsDir name ++ "/" ++ c.file := by
  have hf := length_file_le c hc
  have hs : (lit "/").length = 1 := by simp [lit]
  have hd : cut 256 (SYSFS_FC_HOST_PATH ++ lit "/" ++ name ++ lit "/statistics") =
      statisticsDir name := cut_of_length_lt hp
  rw [statFile, hd]
  apply cut_of_length_lt
  simp only [List.length_append, hs]
  omega

theorem counter_loaded {name : Str} {v : FcHostStatistics} (hp : (statisticsDir name).length < 256)
    (h : Reported env name v) (f : FcDeviceInfo) : ∀ c ∈ counters,
    c.field (loaded env (statFile name) statRows f).stats = min (2^63-1) (c.field v) := by
  intro c hc
  obtain ⟨hv,hf⟩ := h c hc
  rw [← statFile_eq hp hc] at hf
  rw [field_loaded (statFile name) f c hc, copied_number (numberLine_hexText hv) (by omega) hf,
    uint64_strtol_hexText]

theorem roundTrip_iff {v s : FcHostStatistics}
    (h : ∀ c ∈ counters, c.field s = min (2^63-1) (c.field v)) :
    RoundTrip v s ↔ ∀ c ∈ counters, c.field v < 2^63 := by
  constructor
  · intro hr c hc
    have h1 := (hr c hc).1
    have h2 := h c hc
    omega
  · intro hv c hc
    have h1 : c.field s = c.field v := by
      have := hv c hc
      have := h c hc
      omega
    exact ⟨h1,h1 ▸ shown_counter s hc⟩

theorem returns_getFcDevStats (name : Str) (f : FcDeviceInfo) (p : ℤ × FcDeviceInfo) :
    Returns (getFcDevStats name f) env p ↔
      p = (0,loaded env (statFile name) statRows { f with hostName := some name }) := by
  simp only [getFcDevStats, returns_bind, returns_emit, true_and, exists_const,
    returns_loadAll_plain plain_statRows, exists_eq_left, returns_pure]

/-- The statistics make the round trip where no value reaches the upper half of its range. -/
theorem fc_round_trip_iff {name : Str} {v : FcHostStatistics}
    (hp : (statisticsDir name).length < 256) (h : Reported env name v) (f : FcDeviceInfo) :
    (∃ t, Returns (getFcDevStats name f) env (0,t) ∧ RoundTrip v t.stats) ↔
      ∀ c ∈ counters, c.field v < 2^63 := by
  rw [← roundTrip_iff (counter_loaded hp h { f with hostName := some name })]
  constructor
  · rintro ⟨t,ht,hr⟩
    have he := (returns_getFcDevStats name f _).mp ht
    rw [Prod.mk.injEq] at he
    rwa [he.2] at hr
  · intro hr
    exact ⟨_,(returns_getFcDevStats name f _).mpr rfl,hr⟩

def uniform (n : ℕ) : FcHostStatistics :=
  ⟨n,n,n,n,n,n,n,n,n,n,n,n,n,n,n,n,n,n,n,n,n,n,n,n,n,n,n,n,n,n,n,n,n,n⟩

theorem reported_uniform (name : Str) {n : ℕ} (h : n < 2^64) :
    Reported (filesHolding (hexText n ++ ['\n'])) name (uniform n) := by
  have hu : ∀ c ∈ counters, c.field (uniform n) = n := by
    simp [counters, uniform]
  intro c hc
  rw [hu c hc]
  exact ⟨h,filesHolding_line _⟩

theorem five_round_trip : ∃ t, Returns (getFcDevStats (lit "host3") {})
    (filesHolding (hexText 5 ++ ['\n'])) (0,t) ∧ RoundTrip (uniform 5) t.stats :=
  (fc_round_trip_iff (by simp [statisticsDir, SYSFS_FC_HOST_PATH, lit])
    (reported_uniform _ (by omega)) {}).mpr (by simp [counters, uniform])

theorem all_ones_saturate :
    Reported (filesHolding (hexText (2^64-1) ++ ['\n'])) (lit "host3") (uniform (2^64-1)) ∧
      ¬∃ t, Returns (getFcDevStats (lit "host3") {})
        (filesHolding (hexText (2^64-1) ++ ['\n'])) (0,t) ∧
          RoundTrip (uniform (2^64-1)) t.stats := by
  have h := @reported_uniform (lit "host3") (2^64-1) (by omega)
  refine ⟨h,?_⟩
  rintro ⟨t,ht,hr⟩
  have he := (returns_getFcDevStats _ _ _).mp ht
  rw [Prod.mk.injEq] at he
  rw [he.2] at hr
  have hl := counter_loaded (by simp [statisticsDir, SYSFS_FC_HOST_PATH, lit]) h
    { hostName := some (lit "host3") }
  have hc := (roundTrip_iff hl).mp hr _ (List.mem_cons_self : _ ∈ counters)
  exact absurd hc (by decide)

end ScsiCli.FcStatistics
