import ScsiCli.AttributeNumbers
import ScsiCli.IscsiCompletion
import ScsiCli.Printing

/-!
# The numbers of a connection

A number goes from its file through a conversion of 64 bits without a sign to
a field of 32 bits with one, and from there to the report. The conversion and
the report are faithful; the field turns the upper half of the values into
negative numbers.
-/

set_option autoImplicit false

namespace ScsiCli.ConnectionNumbers
open ScsiCli.RunTrace ScsiCli.ByteString ScsiCli.NumberText ScsiCli.NumberReading
open ScsiCli.Records ScsiCli.Machine ScsiCli.SysfsUtils ScsiCli.IscsiUtils ScsiCli.MachineRules
open ScsiCli.LiteralCopies ScsiCli.AttributeNumbers ScsiCli.Gatherers ScsiCli.Completion
open ScsiCli.IscsiCompletion ScsiCli.Printing

variable {env : Env}

structure Number where
  file : Str
  label : Str
  field : IscsiConnection → ℤ

def numbers : List Number :=
  [⟨"exp_statsn","Expected StatSN",fun c => c.expStatsn⟩,
   ⟨"max_recv_dlength","Max Recv datalen",fun c => c.maxRecvDlength⟩,
   ⟨"max_xmit_dlength","Max Xmit datalen",fun c => c.maxXmitDlength⟩,
   ⟨"ping_tmo","Ping Timeout",fun c => c.pingTmo⟩,
   ⟨"recv_tmo","Recv Timeout",fun c => c.recvTmo⟩,
   ⟨"port","Port",fun c => c.port⟩,
   ⟨"persistent_port","Persistent Port",fun c => c.persistentPort⟩]

def connectionInfo : Event → Option IscsiConnection
  | .out (.iscsiConnectionInfo c) => some c
  | _ => none

/-! ## The record and its lines -/

theorem field_loaded (pathOf : Str → Str) (c : IscsiConnection) : ∀ n ∈ numbers,
    n.field (loaded env pathOf connectionRows c) =
      int32 (strtoull ((line env (pathOf n.file)).getD [])) := by
  simp only [numbers, List.forall_mem_cons]
  repeat' constructor
  simp

theorem nodup_labels (c : IscsiConnection) :
    ((printIscsiConnectionInfo c).map Line.label).Nodup := by
  have h : ((printIscsiConnectionInfo Env.bare.mallocConnection).map Line.label).Nodup := by
    decide +kernel
  exact h

theorem shown_number (c : IscsiConnection) {n : Number} (hn : n ∈ numbers) :
    shownAt (printIscsiConnectionInfo c) n.label = some (decimal (n.field c)) := by
  have hm : (⟨n.label,.signed (n.field c)⟩ : Line) ∈ printIscsiConnectionInfo c := by
    revert n
    simp [numbers, printIscsiConnectionInfo]
  exact shownAt_of_mem (nodup_labels c) hm

/-! ## The report -/

theorem quiet_connectionInfo {e : Event} (h : Gathers e) : connectionInfo e = none := by
  cases e with
  | out o => cases o <;> first | rfl | cases h
  | _ => rfl

theorem observed_connectionInfo (i : IscsiDevInfo) (c : IscsiConnection) :
    observed connectionInfo (getIscsiConnectionInfo i c) env =
      if Readable env (connectionFile i) connectionRows then
        [loaded env (connectionFile i) connectionRows c] else [] := by
  have hs : Returns (store .iscsiConnectionPath (connectionDir i)) env (connectionDir i) := by simp
  have hq : observed connectionInfo (store .iscsiConnectionPath (connectionDir i)) env = [] :=
    observed_of_emits connectionInfo (show Emits Gathers _ _ by simp [ofArgument])
      fun _ => quiet_connectionInfo
  have hg : observed connectionInfo (loadAllInto .iscsiConnectionConnStr (connectionFile i)
      connectionRows c) env = [] :=
    observed_of_emits connectionInfo (gathers_loadAllInto _ rfl _ _
      (by simp [connectionRows, connText, connInt, Gatherers.CopyIn, ofArgument]))
      fun _ => quiet_connectionInfo
  have hr := @survives_loadAllInto_iff env _ .iscsiConnectionConnStr (connectionFile i)
    connectionRows c
  have he : getIscsiConnectionInfo i c = (do
      let connPath ← store .iscsiConnectionPath (connectionDir i)
      let c ← loadAllInto .iscsiConnectionConnStr (fun file => connPath ++ "/" ++ file)
        connectionRows c
      print (.iscsiHeader "Connection" i.connectionName)
      print (.iscsiConnectionInfo c)
      pure (0,c)) := rfl
  rw [he, observed_bind_of_returns _ _ hs, hq]
  change [] ++ observed connectionInfo (loadAllInto .iscsiConnectionConnStr (connectionFile i)
    connectionRows c >>= _) env = _
  by_cases h : Readable env (connectionFile i) connectionRows
  · obtain ⟨t,ht⟩ := hr.mpr h
    have hl := eq_loaded ((returns_loadAllInto _ _ _ _ _).mp ht)
    rw [observed_bind_of_returns _ _ ht, hg, if_pos h, hl]
    simp [print, connectionInfo]
  · rw [if_neg h]
    exact observed_bind_eq_nil _ hg fun t ht => (h (hr.mp ⟨t,ht⟩)).elim

theorem printed_loaded {i : IscsiDevInfo} {c r : IscsiConnection}
    (h : r ∈ observed connectionInfo (getIscsiConnectionInfo i c) env) :
    r = loaded env (connectionFile i) connectionRows c := by
  rw [observed_connectionInfo] at h
  split at h
  · exact List.mem_singleton.mp h
  · cases h

/-! ## The number on the line -/

theorem line_decimal {path : Str} {v : ℕ} (hv : v < 2^64)
    (h : Holds env path (Nat.toDigits 10 v)) : line env path = some (Nat.toDigits 10 v) := by
  rcases line_of_holds (numberLine_decimal hv).row h with hl | ⟨hl,-⟩
  · exact hl
  · exact absurd hl Nat.toDigits_ne_nil

theorem number_printed {i : IscsiDevInfo} {c r : IscsiConnection} {n : Number} (hn : n ∈ numbers)
    {v : ℕ} (hv : v < 2^32) (hf : Holds env (connectionDir i ++ "/" ++ n.file) (Nat.toDigits 10 v))
    (hr : r ∈ observed connectionInfo (getIscsiConnectionInfo i c) env) :
    shownAt (printIscsiConnectionInfo r) n.label = some (decimal (int32 v)) := by
  have hl := @field_loaded env (connectionFile i) c n hn
  rw [connectionFile, ← connectionDir, line_decimal (by omega) hf, Option.getD_some,
    strtoull_decimal (by omega)] at hl
  rw [shown_number r hn, printed_loaded hr, hl]

theorem decimal_int32_iff {v : ℕ} (hv : v < 2^32) :
    decimal (int32 v) = Nat.toDigits 10 v ↔ v < 2^31 := by
  have hd : Nat.toDigits 10 v = decimal (v : ℤ) := by simp [decimal]
  rw [hd, decimal_inj]
  unfold int32
  omega

/-- A number comes out as it was written where it fits the field that takes it. -/
theorem connection_number_iff {i : IscsiDevInfo} {c r : IscsiConnection} {n : Number}
    (hn : n ∈ numbers) {v : ℕ} (hv : v < 2^32)
    (hf : Holds env (connectionDir i ++ "/" ++ n.file) (Nat.toDigits 10 v))
    (hr : r ∈ observed connectionInfo (getIscsiConnectionInfo i c) env) :
    shownAt (printIscsiConnectionInfo r) n.label = some (Nat.toDigits 10 v) ↔ v < 2^31 := by
  rw [number_printed hn hv hf hr, Option.some.injEq, decimal_int32_iff hv]

/-! ## Two connections -/

theorem printed_filesHolding {v : ℕ} (hv : v < 2^64) (i : IscsiDevInfo) (c : IscsiConnection) :
    ∃ r, r ∈ observed connectionInfo (getIscsiConnectionInfo i c)
      (filesHolding (Nat.toDigits 10 v ++ ['\n'])) := by
  have hr : Readable (filesHolding (Nat.toDigits 10 v ++ ['\n'])) (connectionFile i)
      connectionRows := by
    intro a ha
    have hl := line_decimal hv (filesHolding_line (connectionFile i a.file))
    have hs : ∀ b ∈ connectionRows, b.strip = false := by
      simp [connectionRows, connText, connInt]
    rw [Attr.text, hs a ha]
    cases a.copy <;> simp [Copy.text, hl]
  rw [observed_connectionInfo, if_pos hr]
  exact ⟨_,List.mem_singleton_self _⟩

def statsn : Number := ⟨"exp_statsn","Expected StatSN",fun c => c.expStatsn⟩

theorem statsn_largest : ∃ r, r ∈ observed connectionInfo
      (getIscsiConnectionInfo {} Env.bare.mallocConnection)
      (filesHolding (Nat.toDigits 10 (2^31-1) ++ ['\n'])) ∧
    shownAt (printIscsiConnectionInfo r) statsn.label = some (Nat.toDigits 10 (2^31-1)) := by
  obtain ⟨r,hr⟩ := printed_filesHolding (v := 2^31-1) (by omega) {} Env.bare.mallocConnection
  exact ⟨r,hr,(connection_number_iff (n := statsn) (by simp [numbers, statsn]) (by omega)
    (filesHolding_line _) hr).mpr (by omega)⟩

theorem statsn_negative : ∃ r, r ∈ observed connectionInfo
      (getIscsiConnectionInfo {} Env.bare.mallocConnection)
      (filesHolding (Nat.toDigits 10 (2^31) ++ ['\n'])) ∧
    shownAt (printIscsiConnectionInfo r) statsn.label = some (decimal (-2^31)) ∧
    decimal (-2^31) ≠ Nat.toDigits 10 (2^31) := by
  obtain ⟨r,hr⟩ := printed_filesHolding (v := 2^31) (by omega) {} Env.bare.mallocConnection
  have hs := number_printed (n := statsn) (by simp [numbers, statsn]) (by omega)
    (filesHolding_line _) hr
  have hi : int32 ((2^31 : ℕ) : ℤ) = -2^31 := by decide
  rw [hi] at hs
  refine ⟨r,hr,hs,?_⟩
  rw [← hi, ne_eq, decimal_int32_iff (by omega)]
  omega

end ScsiCli.ConnectionNumbers
