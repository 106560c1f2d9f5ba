import ScsiCli.ArrayBounds
import ScsiCli.PrintedReports
import ScsiCli.UnreadStatistics

/-!
# The report on the statistics of a disk

From the kernel's line to the printed text and back. The columns are there under
the labels, but for the last three, which are the columns before theirs.
-/

set_option autoImplicit false

namespace ScsiCli.DiskStatsReport
open ScsiCli.RunTrace ScsiCli.ByteString ScsiCli.NumberText ScsiCli.NumberReading
open ScsiCli.Records ScsiCli.Machine ScsiCli.DiskUtils ScsiCli.Commands ScsiCli.MachineRules
open ScsiCli.LiteralCopies ScsiCli.CommandGrammar ScsiCli.Dispatch ScsiCli.ArgumentCopies
open ScsiCli.Requests ScsiCli.BlockStatistics ScsiCli.UnreadStatistics ScsiCli.TextLines
open ScsiCli.Fields ScsiCli.PrintedReports ScsiCli.ArrayBounds

variable {env : Env}

def shownColumns (k : BlockStat) : List (Str × ℕ) :=
  [("Read IO",k.readIos),
   ("Write IO",k.writeIos),
   ("Merged Read",k.readMerges),
   ("Merged Write",k.writeMerges),
   ("Read Sectors",k.readSectors),
   ("Write Sectors",k.writeSectors),
   ("Read IO ticks",k.readTicks),
   ("Write IO ticks",k.writeTicks),
   ("Total IO tikcs",k.inFlight),
   ("Time spent in IO queue",k.ioTicks),
   ("Time spent/IO",0)]

theorem strip_digits (n : ℕ) : strip blank (Nat.toDigits 10 n) = Nat.toDigits 10 n := by
  refine strip_eq_self fun c hc => ?_
  obtain ⟨d,hd,rfl⟩ := mem_toDigits (show 1 < 10 by omega) hc
  have hs := (digitChar_plain (show d < 16 by omega)).1
  simp only [blank, Bool.or_eq_false_iff, decide_eq_false_iff_not]
  constructor <;> intro he <;> rw [he] at hs <;> cases hs

theorem pairs_shifted (k : BlockStat) : pairs (Printing.printDiskStats (shifted k {})) =
    (shownColumns k).map fun p => (p.1,Nat.toDigits 10 p.2) := by
  have h0 : strip blank ['0'] = ['0'] := strip_digits 0
  simp [pairs, Printing.printDiskStats, Printing.Conv.shows, shifted, shownColumns, strip_digits,
    h0]

theorem observed_statsDisk {k : BlockStat} {l name : Str} (hl : StatLine k l)
    (hp : (statPath name).length < 256) (hf : Holds env (statPath name) l) :
    observed reportText (statsDisk name) env = (printDiskStats (shifted k {}) name).toList := by
  rw [statsDisk, observed_bind_of_returns _ _ ((returns_getDiskStats hl hp hf _ _).mpr rfl),
    quiet_getDiskStats quiet_reportText]
  simp [reportText, reportOf, allocScsiDev]

theorem diskStr_short {name : Str} (h : name.length ≤ 31) : diskStr name = name := by
  have hi : int32 (name.length+2) = name.length+2 := by
    unfold int32
    omega
  refine cut_of_length_lt ?_
  rw [statsSize, hi, uint64]
  omega

theorem inArrays_cmdStats {name : Str} (h : name.length ≤ 31) (a₀ : Str) (rest : List Str) :
    Emits InArrays (cmdStats (a₀ :: lit "stats" :: lit "disk" :: name :: rest)) env := by
  have hs : stored (statsSize name) name ≤ 32 := (stats_stored_iff name).mpr (.inl h)
  rw [cmdStats_disk]
  simp [InArrays, Buf.size, hs, inArrays_reports (reports_statsDisk (diskStr name))]

/-- `stats disk` prints one report, which is read back as the columns of the kernel's line. -/
theorem disk_stats_read_back {k : BlockStat} {l name : Str} (hl : StatLine k l)
    (hs : name.length ≤ 31) (hn : '\n' ∉ name) (hf : Holds env (statPath name) l)
    (a₀ : Str) (rest : List Str) :
    (observed reportText (main (a₀ :: "stats" :: "disk" :: name :: rest)) env).map readFields =
        [(shownColumns k).map fun p => (p.1,Nat.toDigits 10 p.2)] ∧
      Ends (main (a₀ :: "stats" :: "disk" :: name :: rest)) env 0 := by
  obtain ⟨ha,hw⟩ := @known_word .cmdStats (lit "stats") (by simp [cmdStr])
  obtain ⟨ho,hr⟩ := @main_parsed env Str a₀ "stats" ("disk" :: name :: rest) ha
  have hc : parseCmd (a₀ :: lit "stats" :: lit "disk" :: name :: rest) =
      cmdStats (a₀ :: lit "stats" :: lit "disk" :: name :: rest) := hw _ _
  have hp : (statPath name).length < 256 := by
    simp [statPath, lit]
    omega
  obtain ⟨t,ht,htr⟩ := read_diskStats (shifted k {}) hn
  refine ⟨?_,(inArrays_main a₀ _ ha).mpr ?_,hr.mpr ?_⟩
  · rw [ho _ quiet_reportText, hc, cmdStats_disk, observed_emit_bind, observed_emit_bind,
      observed_storeBytes_bind _ rfl, observed_bind_of_returns _ _ (returns_statsDisk _),
      diskStr_short hs, observed_statsDisk hl hp hf, ht]
    simp [reportText, htr, pairs_shifted]
  · rw [hc]
    exact inArrays_cmdStats hs a₀ rest
  · rw [hc]
    exact (returns_cmdStats a₀ name rest 0).mpr rfl

theorem busy_read_back :
    (observed reportText (main ["scsi-cli","stats","disk","sda"])
      (filesHolding (kernelLine busy ++ ['\n']))).map readFields =
        [(shownColumns busy).map fun p => (p.1,Nat.toDigits 10 p.2)] :=
  (disk_stats_read_back (statLine_kernelLine (by simp [busy, BlockStat.numbers]))
    (by simp [lit]) (by simp [lit]) (filesHolding_line _) (lit "scsi-cli") []).1

end ScsiCli.DiskStatsReport
