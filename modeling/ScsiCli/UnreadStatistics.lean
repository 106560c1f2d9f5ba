import ScsiCli.BlockStatistics
import ScsiCli.Requests

/-!
# Statistics that cannot be read

A file that is missing or empty gives a negative status, a line of too few
numbers a positive one. The handler tests for the first kind, prints the report
after the second, and returns zero either way. The last counter of the report
is one that no conversion is made for.
-/

set_option autoImplicit false

namespace ScsiCli.UnreadStatistics
open ScsiCli.RunTrace ScsiCli.ByteString ScsiCli.NumberText ScsiCli.Records ScsiCli.Machine
open ScsiCli.SysfsUtils ScsiCli.DiskUtils ScsiCli.Commands ScsiCli.MachineRules
open ScsiCli.LiteralCopies ScsiCli.Dispatch ScsiCli.CommandGrammar ScsiCli.ArgumentCopies
open ScsiCli.Requests ScsiCli.Printing ScsiCli.BlockStatistics

variable {env : Env}

def statsOf : Event → Option (DiskStats × Str)
  | .out (.diskStats s name) => some (s,name)
  | _ => none

def statText (env : Env) (diskStr : Str) : Option Str :=
  (stream env (cut 256 (statPath diskStr))).bind (fgets 256)

def numbersRead (env : Env) (diskStr : Str) : List ℕ :=
  ((statText env diskStr).map (scanU64s 10)).getD []

def diskStr (name : Str) : Str := cut (statsSize name) name

/-- The counter under the label is one of the `n` converted numbers, whatever they are. -/
def Converted (n : ℕ) (label : Str) : Prop :=
  ∃ i < n, ∀ (s : DiskStats) (vs : List ℕ), vs.length = n →
    valueAt (printDiskStats (assignStats s vs)) label = (vs[i]?).map Conv.unsigned

def labels : List Str := (printDiskStats {}).map Line.label

/-- Too few numbers give no report and a negative status, and a report shows under the labels
what was converted. -/
structure Honest (env : Env) (argv : Argv) (name : Str) (labels : List Str) : Prop where
  failed : (numbersRead env (diskStr name)).length < 10 →
    observed statsOf (cmdStats argv) env = [] ∧ ∃ r < 0, Returns (cmdStats argv) env r
  converted : observed statsOf (cmdStats argv) env ≠ [] →
    ∀ label ∈ labels, Converted (numbersRead env (diskStr name)).length label

/-! ## The handler -/

def gathered (env : Env) (diskStr : Str) : ℤ × ScsiDeviceInfo :=
  match statText env diskStr with
  | none => (-eio,allocScsiDev)
  | some p =>
    (if (scanU64s 10 p).length ≠ 10 then 1 else 0,
      { allocScsiDev with dstat := assignStats allocScsiDev.dstat (scanU64s 10 p) })

theorem returns_getDiskStats_gathered (name : Str) :
    Returns (getDiskStats allocScsiDev name) env (gathered env name) := by
  have hp : lit "/sys/block/" ++ name ++ lit "/stat" = statPath name := rfl
  simp only [getDiskStats, returns_bind, returns_emit, true_and, exists_const, hp,
    returns_fopenRead, exists_eq_left, gathered, statText]
  cases stream env (cut 256 (statPath name)) with
  | none => simp
  | some f => cases hf : fgets 256 f <;> simp [hf]

theorem quiet_statsOf : Quiet statsOf := by
  refine ⟨fun e he => ?_,fun _ => rfl,fun _ => rfl,rfl⟩
  cases e <;> first | rfl | cases he

theorem quiet_getDiskStats {β : Type} {p : Event → Option β} (hp : Quiet p) (d : ScsiDeviceInfo)
    (name : Str) : observed p (getDiskStats d name) env = [] := by
  have ho : ∀ h k, p (.opened h k) = none := fun h k => hp.output (.opened h k) rfl
  have hc : ∀ h, p (.closed h) = none := fun h => hp.output (.closed h) rfl
  have hd : ∀ f arg, p (.device f arg) = none := fun f arg => hp.output (.device f arg) rfl
  rw [observed_eq_nil_iff]
  simp only [getDiskStats, emits_bind, emits_emit, returns_emit, emits_fopenRead,
    returns_fopenRead, forall_eq, hd, ho, true_and, implies_true, forall_const]
  split
  · simp [hp.info]
  · split <;> simp [hc]

/-- A status that is not negative lets the report through. -/
theorem reports_statsDisk (name : Str) : observed statsOf (statsDisk name) env =
    if (gathered env name).1 < 0 then [] else [((gathered env name).2.dstat,name)] := by
  rw [statsDisk, observed_bind_of_returns _ _ (returns_getDiskStats_gathered name),
    quiet_getDiskStats quiet_statsOf]
  cases gathered env name with
  | mk err d => by_cases h : err < 0 <;> simp [h, statsFailed, printErr, statsOf]

theorem returns_statsDisk (name : Str) : Returns (statsDisk name) env () := by
  rw [statsDisk, returns_bind]
  refine ⟨_,returns_getDiskStats_gathered name,?_⟩
  cases gathered env name with
  | mk err d => by_cases h : err < 0 <;> simp [h, statsFailed]

theorem status_negative_iff (name : Str) :
    (gathered env name).1 < 0 ↔ statText env name = none := by
  unfold gathered
  cases statText env name with
  | none => simp [eio]
  | some p =>
    simp only [reduceCtorEq, iff_false]
    split <;> omega

theorem supported_stats : supportedPair (lit "stats") (lit "disk") = true := by
  simp [supportedPair, subCmdStr]

theorem cmdStats_disk (a₀ name : Str) (rest : List Str) :
    cmdStats (a₀ :: lit "stats" :: lit "disk" :: name :: rest) = (do
      emit (.handler .cmdStats)
      emit (.validated (lit "stats") (lit "disk") true)
      storeBytes .statsDiskStr (stored (statsSize name) name)
      statsDisk (diskStr name)
      pure 0) := by
  have hf : strncmpEq (lit "disk") (lit "fc_port") 7 = false := by simp [strncmpEq, lit]
  simp [cmdStats, validateSubcommand_cons, supported_stats, prog_bind_assoc, copyArg_bind, orNull,
    hf, diskStr, statsSize]

theorem returns_cmdStats (a₀ name : Str) (rest : List Str) (r : ℤ) :
    Returns (cmdStats (a₀ :: lit "stats" :: lit "disk" :: name :: rest)) env r ↔ r = 0 := by
  have hr : Returns (cmdStats (a₀ :: lit "stats" :: lit "disk" :: name :: rest)) env 0 := by
    rw [cmdStats_disk]
    simp only [returns_bind, returns_emit, returns_storeBytes, returns_pure, true_and,
      exists_const, and_true]
    exact ⟨(),returns_statsDisk _⟩
  constructor
  · intro h
    exact returns_unique h hr
  · rintro rfl
    exact hr

theorem reports_cmdStats (a₀ name : Str) (rest : List Str) :
    observed statsOf (cmdStats (a₀ :: lit "stats" :: lit "disk" :: name :: rest)) env =
      if statText env (diskStr name) = none then []
      else [((gathered env (diskStr name)).2.dstat,diskStr name)] := by
  rw [cmdStats_disk, observed_emit_bind, observed_emit_bind, observed_storeBytes_bind _ rfl,
    observed_bind_of_returns _ _ (returns_statsDisk _), reports_statsDisk]
  simp only [status_negative_iff]
  simp [statsOf]

/-! ## The counters -/

theorem nodup_labels (s : DiskStats) : ((printDiskStats s).map Line.label).Nodup := by
  have h : ((printDiskStats {}).map Line.label).Nodup := by decide +kernel
  exact h

theorem length_scanU64s_le (n : ℕ) (s : Str) : (scanU64s n s).length ≤ n := by
  induction n generalizing s with
  | zero => simp [scanU64s]
  | succ n ih =>
    rw [scanU64s]
    split
    · simp
    · simpa using ih _

theorem length_numbersRead_le (env : Env) (name : Str) : (numbersRead env name).length ≤ 10 := by
  unfold numbersRead
  cases statText env name with
  | none => simp
  | some p => exact length_scanU64s_le 10 p

theorem converted_ten {label : Str} {i : ℕ} (hi : i < 10) (g : DiskStats → ℕ)
    (hp : ∀ s, (⟨label,.unsigned (g s)⟩ : Line) ∈ printDiskStats s)
    (hg : ∀ s vs, vs.length = 10 → vs[i]? = some (g (assignStats s vs))) : Converted 10 label := by
  refine ⟨i,hi,fun s vs hv => ?_⟩
  have hl := valueAt_of_mem (nodup_labels (assignStats s vs)) (hp (assignStats s vs))
  rw [hl, hg s vs hv]
  rfl

theorem assignStats_ten (s : DiskStats) {vs : List ℕ} (h : vs.length = 10) :
    assignStats s vs =
      { s with
        ios := (vs.getD 0 0,vs.getD 4 0), merges := (vs.getD 1 0,vs.getD 5 0)
        sectors := (vs.getD 2 0,vs.getD 6 0), ticks := (vs.getD 3 0,vs.getD 7 0)
        ioTicks := vs.getD 8 0, timeInQueue := vs.getD 9 0 } := by
  match vs, h with
  | [_,_,_,_,_,_,_,_,_,_], _ => rfl

theorem converted_labels : ∀ label ∈ labels.take 10, Converted 10 label := by
  have hn : ∀ (vs : List ℕ), vs.length = 10 → ∀ i < 10, vs[i]? = some (vs.getD i 0) := by
    intro vs hv i hi
    rw [List.getD_eq_getElem?_getD, List.getElem?_eq_getElem (by omega)]
    rfl
  simp only [labels, printDiskStats, List.map_cons, List.map_nil, List.take_succ_cons,
    List.take_zero, List.forall_mem_cons]
  refine ⟨converted_ten (show 0 < 10 by omega) (fun s => s.ios.1) ?_ ?_,
    converted_ten (show 4 < 10 by omega) (fun s => s.ios.2) ?_ ?_,
    converted_ten (show 1 < 10 by omega) (fun s => s.merges.1) ?_ ?_,
    converted_ten (show 5 < 10 by omega) (fun s => s.merges.2) ?_ ?_,
    converted_ten (show 2 < 10 by omega) (fun s => s.sectors.1) ?_ ?_,
    converted_ten (show 6 < 10 by omega) (fun s => s.sectors.2) ?_ ?_,
    converted_ten (show 3 < 10 by omega) (fun s => s.ticks.1) ?_ ?_,
    converted_ten (show 7 < 10 by omega) (fun s => s.ticks.2) ?_ ?_,
    converted_ten (show 8 < 10 by omega) (fun s => s.ioTicks) ?_ ?_,
    converted_ten (show 9 < 10 by omega) (fun s => s.timeInQueue) ?_ ?_,by simp⟩ <;> intro s
  all_goals first
    | simp [printDiskStats]
    | intro vs hv
      rw [assignStats_ten s hv]
      exact hn vs hv _ (by omega)

/-- The last counter keeps what the record held. -/
theorem msec_not_converted : ¬Converted 10 "Time spent/IO" := by
  rintro ⟨i,hi,h⟩
  have hp : (⟨lit "Time spent/IO",.unsigned 1⟩ : Line) ∈
      printDiskStats (assignStats { msec := 1 } (List.replicate 10 0)) := by
    simp [printDiskStats, assignStats_ten]
  have hl := valueAt_of_mem (nodup_labels _) hp
  rw [h _ _ (List.length_replicate ..), List.getElem?_replicate_of_lt hi] at hl
  simp at hl

theorem msec_label : lit "Time spent/IO" ∈ labels := by simp [labels, printDiskStats]

/-! ## Honest reports -/

theorem statText_of_ten {name : Str} (h : (numbersRead env name).length = 10) :
    statText env name ≠ none := by
  intro hn
  simp [numbersRead, hn] at h

/-- The whole report is never honest; without its last counter it is on ten numbers. -/
theorem stats_honest_iff (env : Env) (a₀ name : Str) (rest : List Str) :
    ¬Honest env (a₀ :: lit "stats" :: lit "disk" :: name :: rest) name labels ∧
      (Honest env (a₀ :: lit "stats" :: lit "disk" :: name :: rest) name (labels.take 10) ↔
        (numbersRead env (diskStr name)).length = 10) := by
  have hle := length_numbersRead_le env (diskStr name)
  -- no status is negative, so a file of too few numbers is answered wrongly whatever is printed
  have hten : ∀ {ls : List Str},
      Honest env (a₀ :: lit "stats" :: lit "disk" :: name :: rest) name ls →
        (numbersRead env (diskStr name)).length = 10 := by
    intro ls h
    by_contra hc
    obtain ⟨-,r,hr,hret⟩ := h.failed (by omega)
    have := (returns_cmdStats a₀ name rest r).mp hret
    omega
  constructor
  · intro h
    have h10 := hten h
    have hne : observed statsOf (cmdStats (a₀ :: lit "stats" :: lit "disk" :: name :: rest)) env ≠
        [] := by
      rw [reports_cmdStats, if_neg (statText_of_ten h10)]
      simp
    have hm := h.converted hne _ msec_label
    rw [h10] at hm
    exact msec_not_converted hm
  · constructor
    · exact hten
    · intro h
      constructor
      · omega
      · intro _
        rw [h]
        exact converted_labels

theorem three_numbers_reported :
    numbersRead (filesHolding (lit "7 8 9\n")) (diskStr (lit "sda")) = [7,8,9] ∧
    observed statsOf (cmdStats [lit "scsi-cli",lit "stats",lit "disk",lit "sda"])
      (filesHolding (lit "7 8 9\n")) ≠ [] ∧
    ¬Honest (filesHolding (lit "7 8 9\n")) [lit "scsi-cli",lit "stats",lit "disk",lit "sda"]
      (lit "sda") labels := by
  have hn : numbersRead (filesHolding (lit "7 8 9\n")) (diskStr (lit "sda")) = [7,8,9] := by
    decide +kernel
  have ht : statText (filesHolding (lit "7 8 9\n")) (diskStr (lit "sda")) ≠ none := by
    intro h
    simp [numbersRead, h] at hn
  constructor
  · exact hn
  constructor
  · rw [reports_cmdStats, if_neg ht]
    simp
  · intro h
    obtain ⟨-,r,hr,hret⟩ := h.failed (by simp [hn])
    have := (returns_cmdStats _ _ _ r).mp hret
    omega

end ScsiCli.UnreadStatistics
