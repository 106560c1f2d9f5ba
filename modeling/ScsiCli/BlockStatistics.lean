import ScsiCli.LiteralCopies
import ScsiCli.Printing

/-!
# The statistics line of a disk

The kernel writes eleven columns. Ten conversions read them, into the fields of
a record that has no place for the ninth, so that the ninth column reaches the
field of the tenth and the tenth that of the eleventh.
-/

set_option autoImplicit false

namespace ScsiCli.BlockStatistics
open ScsiCli.RunTrace ScsiCli.ByteString ScsiCli.NumberText ScsiCli.NumberReading
open ScsiCli.Records ScsiCli.Machine ScsiCli.SysfsUtils ScsiCli.DiskUtils ScsiCli.MachineRules
open ScsiCli.LiteralCopies ScsiCli.Printing

variable {env : Env}

/-- The columns of `/sys/block/X/stat`, in their order. -/
structure BlockStat where
  readIos : ℕ
  readMerges : ℕ
  readSectors : ℕ
  readTicks : ℕ
  writeIos : ℕ
  writeMerges : ℕ
  writeSectors : ℕ
  writeTicks : ℕ
  inFlight : ℕ
  ioTicks : ℕ
  timeInQueue : ℕ

def BlockStat.numbers (k : BlockStat) : List ℕ :=
  [k.readIos, k.readMerges, k.readSectors, k.readTicks, k.writeIos, k.writeMerges,
   k.writeSectors, k.writeTicks, k.inFlight, k.ioTicks, k.timeInQueue]

/-- A line of the columns, possibly with more after them, that fits the 255 bytes read. -/
structure StatLine (k : BlockStat) (l : Str) : Prop where
  columns : ∃ cs after, Table cs ∧ cs.map Prod.snd = k.numbers ∧
    l = columns cs ++ after ∧ startsDigit 10 after = false
  no_newline : '\n' ∉ l
  no_nul : nul ∉ l
  fits : l.length ≤ 255

def statPath (diskName : Str) : Str := "/sys/block/" ++ diskName ++ "/stat"

def BlockStat.labelled (k : BlockStat) : List (Str × ℕ) :=
  [("Read IO",k.readIos), ("Write IO",k.writeIos), ("Merged Read",k.readMerges),
   ("Merged Write",k.writeMerges), ("Read Sectors",k.readSectors),
   ("Write Sectors",k.writeSectors), ("Read IO ticks",k.readTicks),
   ("Write IO ticks",k.writeTicks), ("Total IO tikcs",k.ioTicks),
   ("Time spent in IO queue",k.timeInQueue)]

structure Decodes (k : BlockStat) (s : DiskStats) : Prop where
  ios : s.ios = (k.readIos,k.writeIos)
  merges : s.merges = (k.readMerges,k.writeMerges)
  sectors : s.sectors = (k.readSectors,k.writeSectors)
  ticks : s.ticks = (k.readTicks,k.writeTicks)
  ioTicks : s.ioTicks = k.ioTicks
  timeInQueue : s.timeInQueue = k.timeInQueue
  shown : ∀ p ∈ k.labelled, shownAt (printDiskStats s) p.1 = some (Nat.toDigits 10 p.2)

/-- What the ten conversions leave. -/
def shifted (k : BlockStat) (s : DiskStats) : DiskStats where
  ios := (k.readIos,k.writeIos)
  merges := (k.readMerges,k.writeMerges)
  sectors := (k.readSectors,k.writeSectors)
  ticks := (k.readTicks,k.writeTicks)
  ioTicks := k.inFlight
  timeInQueue := k.ioTicks
  msec := s.msec

theorem startsDigit_newline {after tail : Str} (ha : startsDigit 10 after = false)
    (ht : startsDigit 10 tail = false) : startsDigit 10 (after ++ tail) = false := by
  cases after with
  | nil => exact ht
  | cons c s => exact ha

theorem scan_statLine {k : BlockStat} {l tail : Str} (hl : StatLine k l)
    (ht : startsDigit 10 tail = false) : scanU64s 10 (l ++ tail) = k.numbers.take 10 := by
  obtain ⟨cs,after,hc,hn,rfl,ha⟩ := hl.columns
  have hk : 10 ≤ cs.length := by
    rw [← List.length_map Prod.snd, hn]
    simp [BlockStat.numbers]
  rw [List.append_assoc, scanU64s_columns hc (startsDigit_newline ha ht) hk, hn]

theorem fgets_statLine {k : BlockStat} {l rest : Str} (hl : StatLine k l)
    (hr : rest = [] ∨ rest.head? = some '\n') :
    ∃ tail, fgets 256 (some (l ++ rest)) = some (l ++ tail) ∧ startsDigit 10 tail = false := by
  have hne : l ++ rest ≠ [] := by
    intro h
    have hs := @scan_statLine k l [] hl rfl
    rw [(List.append_eq_nil_iff.mp h).1] at hs
    simp [scanU64s, scanU64, startsDigit, sign, BlockStat.numbers] at hs
  refine ⟨(rest.take 1).take (255-l.length),?_,?_⟩
  · rw [fgets_line 256 hl.no_newline hl.no_nul hr, if_neg hne, List.take_append,
      List.take_of_length_le hl.fits]
  · rcases hr with rfl | hr
    · simp [startsDigit]
    · cases rest with
      | nil => cases hr
      | cons c rest =>
        obtain rfl : c = '\n' := by simpa using hr
        cases 255-l.length <;> simp [startsDigit, digit]

theorem returns_getDiskStats {k : BlockStat} {l name : Str} (hl : StatLine k l)
    (hp : (statPath name).length < 256) (hf : Holds env (statPath name) l) (d : ScsiDeviceInfo)
    (p : ℤ × ScsiDeviceInfo) : Returns (getDiskStats d name) env p ↔
      p = (0,{ d with dstat := shifted k d.dstat }) := by
  obtain ⟨rest,hb,hr⟩ := hf
  obtain ⟨tail,ht,hd⟩ := fgets_statLine hl hr
  have hs : stream env (statPath name) = some (some (l ++ rest)) := by simp [stream, hb]
  have hc : cut 256 (lit "/sys/block/" ++ name ++ lit "/stat") = statPath name :=
    cut_of_length_lt hp
  have hv := scan_statLine hl hd
  simp only [getDiskStats, returns_bind, returns_emit, true_and, exists_const, hc,
    returns_fopenRead, hs, exists_eq_left, ht, returns_fclose, returns_pure, hv]
  rfl

theorem decodes_shifted_iff (k : BlockStat) (s : DiskStats) :
    Decodes k (shifted k s) ↔ k.inFlight = k.ioTicks ∧ k.ioTicks = k.timeInQueue := by
  constructor
  · intro h
    exact ⟨h.ioTicks,h.timeInQueue⟩
  · rintro ⟨hi,ht⟩
    refine ⟨rfl,rfl,rfl,rfl,hi,ht,?_⟩
    simp [BlockStat.labelled, shownAt, valueAt, printDiskStats, shifted, Conv.shows, lit, hi, ht]

/-- The line is decoded where the columns that are shifted are equal. -/
theorem stat_decodes_iff (d : ScsiDeviceInfo) {k : BlockStat} {l name : Str} (hl : StatLine k l)
    (hp : (statPath name).length < 256) (hf : Holds env (statPath name) l) :
    (∃ t, Returns (getDiskStats d name) env (0,t) ∧ Decodes k t.dstat) ↔
      k.inFlight = k.ioTicks ∧ k.ioTicks = k.timeInQueue := by
  rw [← decodes_shifted_iff k d.dstat]
  constructor
  · rintro ⟨t,ht,hd⟩
    have he := (returns_getDiskStats hl hp hf d _).mp ht
    rw [Prod.mk.injEq] at he
    rwa [he.2] at hd
  · intro h
    exact ⟨_,(returns_getDiskStats hl hp hf d _).mpr rfl,h⟩

/-! ## Lines with single blanks -/

def blankBefore (n : ℕ) : Str × ℕ := ([' '],n)

def spaced : List ℕ → List (Str × ℕ)
  | [] => []
  | n :: ns => ([],n) :: ns.map blankBefore

def kernelLine (k : BlockStat) : Str := columns (spaced k.numbers)

theorem mem_columns {cs : List (Str × ℕ)} {c : Char} (h : c ∈ columns cs) :
    ∃ p ∈ cs, c ∈ p.1 ∨ c ∈ Nat.toDigits 10 p.2 := by
  induction cs with
  | nil => cases h
  | cons p cs ih =>
    obtain ⟨w,n⟩ := p
    rw [columns, List.mem_append, List.mem_append] at h
    rcases h with h | h
    · exact ⟨(w,n),by simp,h⟩
    · obtain ⟨q,hq,hc⟩ := ih h
      exact ⟨q,by simp [hq],hc⟩

theorem blank_of_spaced {ns : List ℕ} {p : Str × ℕ} (h : p ∈ spaced ns) :
    (p.1 = [] ∨ p.1 = [' ']) ∧ p.2 ∈ ns := by
  cases ns with
  | nil => cases h
  | cons n ns =>
    rcases List.mem_cons.mp h with rfl | h
    · simp
    · obtain ⟨m,hm,rfl⟩ := List.mem_map.mp h
      exact ⟨.inr rfl,by simp [blankBefore, hm]⟩

theorem spaced_table {ns : List ℕ} (h : ∀ n ∈ ns, n < 2^64) : Table (spaced ns) where
  white p hp c hc := by
    rcases (blank_of_spaced hp).1 with hw | hw
    · simp [hw] at hc
    · rw [hw, List.mem_singleton] at hc
      simp [hc, isspace]
  bounded p hp := h _ (blank_of_spaced hp).2
  apart p hp := by
    cases ns with
    | nil => cases hp
    | cons n ns =>
      obtain ⟨m,-,rfl⟩ := List.mem_map.mp hp
      simp [blankBefore]

theorem numbers_spaced (ns : List ℕ) : (spaced ns).map Prod.snd = ns := by
  cases ns with
  | nil => rfl
  | cons n ns => simp [spaced, blankBefore, Function.comp_def]

theorem length_columns_le {cs : List (Str × ℕ)} (h : ∀ p ∈ cs, p.1.length ≤ 1 ∧ p.2 < 2^64) :
    (columns cs).length ≤ 21*cs.length := by
  induction cs with
  | nil => simp [columns]
  | cons p cs ih =>
    obtain ⟨w,n⟩ := p
    obtain ⟨hw,hn⟩ := h (w,n) (by simp)
    have hd : (Nat.toDigits 10 n).length ≤ 20 := (length_toDigits_lt hn).1
    have hi := ih fun p hp => h p (by simp [hp])
    simp only [columns, List.length_append, List.length_cons] at hw hi ⊢
    omega

theorem statLine_kernelLine {k : BlockStat} (h : ∀ n ∈ k.numbers, n < 2^64) :
    StatLine k (kernelLine k) := by
  have hm : ∀ c ∈ kernelLine k, c = ' ' ∨ ∃ n, c ∈ Nat.toDigits 10 n := by
    intro c hc
    obtain ⟨p,hp,hc⟩ := mem_columns hc
    rcases hc with hc | hc
    · rcases (blank_of_spaced hp).1 with hw | hw <;> simp_all
    · exact .inr ⟨p.2,hc⟩
  refine ⟨⟨spaced k.numbers,[],spaced_table h,numbers_spaced _,by simp [kernelLine],rfl⟩,?_,?_,?_⟩
  · intro hc
    rcases hm _ hc with hc | ⟨n,hc⟩
    · exact absurd hc (by decide)
    · exact (not_mem_toDigits (by omega) (by omega) n).2.1 hc
  · intro hc
    rcases hm _ hc with hc | ⟨n,hc⟩
    · exact absurd hc (by decide)
    · exact (not_mem_toDigits (by omega) (by omega) n).2.2 hc
  · have hl := @length_columns_le (spaced k.numbers) fun p hp => by
      obtain ⟨hw,hn⟩ := blank_of_spaced hp
      refine ⟨?_,h _ hn⟩
      rcases hw with hw | hw <;> simp [hw]
    have hs : (spaced k.numbers).length = 11 := by simp [spaced, BlockStat.numbers]
    unfold kernelLine
    omega

def idle : BlockStat := ⟨5,0,40,0,0,0,0,0,0,0,0⟩

def busy : BlockStat := ⟨5,0,40,120,3,1,32,180,2,300,310⟩

theorem idle_decoded : ∃ t,
    Returns (getDiskStats {} (lit "sda")) (filesHolding (kernelLine idle ++ ['\n'])) (0,t) ∧
      Decodes idle t.dstat :=
  (stat_decodes_iff {} (statLine_kernelLine (by simp [idle, BlockStat.numbers]))
    (by simp [statPath, lit]) (filesHolding_line _)).mpr ⟨rfl,rfl⟩

theorem busy_shifted : StatLine busy (kernelLine busy) ∧
    Holds (filesHolding (kernelLine busy ++ ['\n'])) (statPath (lit "sda")) (kernelLine busy) ∧
      ¬∃ t, Returns (getDiskStats {} (lit "sda"))
        (filesHolding (kernelLine busy ++ ['\n'])) (0,t) ∧ Decodes busy t.dstat := by
  have hl : StatLine busy (kernelLine busy) :=
    statLine_kernelLine (by simp [busy, BlockStat.numbers])
  refine ⟨hl,filesHolding_line _,?_⟩
  rintro ⟨t,ht,hd⟩
  have he := (returns_getDiskStats hl (by simp [statPath, lit]) (filesHolding_line _) _ _).mp ht
  rw [Prod.mk.injEq] at he
  rw [he.2] at hd
  exact absurd ((decodes_shifted_iff busy _).mp hd).1 (by decide)

end ScsiCli.BlockStatistics
