import ScsiCli.AttributeNumbers
import ScsiCli.Printing

/-!
# The queue data of a disk

Twenty-eight attributes of the queue directory have a line in the report. All
but one of their fields are filled from the file of the same name; what a field
tells of its file depends on how the kernel writes it: a number is kept, a word
is read as the number zero, and a line of text is cut.
-/

set_option autoImplicit false

namespace ScsiCli.QueueReport
open ScsiCli.RunTrace ScsiCli.ByteString ScsiCli.NumberText ScsiCli.NumberReading
open ScsiCli.Records ScsiCli.Machine ScsiCli.SysfsUtils ScsiCli.DiskDetails ScsiCli.MachineRules
open ScsiCli.LiteralCopies ScsiCli.AttributeNumbers ScsiCli.Printing

variable {env : Env}

/-- A number shown as a size or as it is, the one number that may be negative, a word, a
line of text. -/
inductive Kind where
  | size
  | number
  | delay
  | word
  | text
  deriving DecidableEq

structure Attribute where
  file : Str
  label : Str
  kind : Kind
  deriving DecidableEq

def granularity : Attribute := ⟨"discard_granularity","Discard Granularity",.size⟩

def filledOwn : List Attribute :=
  [⟨"scheduler","Scheduler",.text⟩,
   ⟨"physical_block_size","Physical Block Size",.size⟩,
   ⟨"logical_block_size","Logical Block Size",.size⟩,
   ⟨"minimum_io_size","Minimum IO Size",.size⟩,
   ⟨"optimal_io_size","Optimal IO Size",.size⟩,
   ⟨"zone_append_max_bytes","Zoned Append Max Bytes",.size⟩,
   ⟨"zone_write_granularity","Zone Write Granularity",.size⟩,
   ⟨"discard_max_bytes","Discard Max Bytes",.size⟩,
   ⟨"discard_max_hw_bytes","Discard max HW bytes",.size⟩,
   ⟨"discard_zeroes_data","Discard zeroes data",.size⟩,
   ⟨"io_poll","IO Poll",.number⟩,
   ⟨"io_poll_delay","IO Poll Delay",.delay⟩,
   ⟨"stable_writes","stable_writes",.number⟩,
   ⟨"wbt_lat_usec","wbt_lat_usec",.number⟩,
   ⟨"rq_affinity","rq_affinity",.number⟩,
   ⟨"dax","DAX",.number⟩,
   ⟨"add_random","add_random",.number⟩,
   ⟨"fua","FUA",.number⟩,
   ⟨"nomerges","nomerges",.number⟩,
   ⟨"max_segments","Segments",.number⟩,
   ⟨"max_segment_size","Segment Size",.size⟩,
   ⟨"zoned","Zoned",.word⟩,
   ⟨"nr_zones","nr_zones",.number⟩,
   ⟨"read_ahead_kb","Readahead",.number⟩,
   ⟨"write_cache","Write Cache",.text⟩,
   ⟨"write_same_max_bytes","WriteSame",.size⟩,
   ⟨"write_zeroes_max_bytes","Write Zeroes",.size⟩]

def attributes : List Attribute := granularity :: filledOwn

def Word (l : Str) : Prop :=
  (∃ c s, l = c :: s ∧ 'a' ≤ c ∧ c ≤ 'z') ∧ ∀ c ∈ l, 'a' ≤ c ∧ c ≤ 'z' ∨ c = '-'

/-- What the kernel writes for an attribute. -/
def Kind.Writes : Kind → Str → Prop
  | .size, l | .number, l => ∃ n < 2^64, l = Nat.toDigits 10 n
  | .delay, l => ∃ n : ℤ, -2^31 ≤ n ∧ n < 2^31 ∧ l = decimal n
  | .word, l => Word l
  | .text, l => l ≠ [] ∧ '\n' ∉ l ∧ nul ∉ l

def Kind.conv : Kind → Str → Conv
  | .size, t => .size (strtoull t)
  | .text, t => .text (some t)
  | _, t => .signed (int64 (strtoull t))

def Kind.copy (k : Kind) (env : Env) (path : Str) : Str :=
  match k with
  | .text => cut 32 (orNull (line env path))
  | _ => copied env 32 path

def queueFile (diskPath file : Str) : Str := diskPath ++ "/queue" ++ "/" ++ file

/-- What the line of an attribute is given after the queue data has been gathered. -/
def LineValue (env : Env) (d : ScsiDeviceInfo) (a : Attribute) (v : Option Conv) : Prop :=
  ∃ t, Returns (getDiskQueueData d) env t ∧ valueAt (printScsiQueueData t.qData) a.label = v

/-- The line of the attribute is alike in both trees exactly when the attribute is. -/
def Determines (a : Attribute) (env env' : Env) (d : ScsiDeviceInfo) (l l' : Str) : Prop :=
  ∃ v v', LineValue env d a v ∧ LineValue env' d a v' ∧ (v = v' ↔ l = l')

/-- What is kept apart of two texts of an attribute: of the field that is never filled and
of words nothing, of a line of text the bytes that fit. -/
def Apart (a : Attribute) (l l' : Str) : Prop :=
  (a = granularity ∨ a.kind = .word → l = l') ∧
    (a.kind = .text → l.take 31 = l'.take 31 → l = l')

theorem nodup_labels (q : DiskQueueData) : ((printScsiQueueData q).map Line.label).Nodup := by
  have h : ((printScsiQueueData {}).map Line.label).Nodup := by decide +kernel
  exact h

/-- A line with its field: where the line is, and which file the field is filled from. -/
structure Filled (env : Env) (a : Attribute) (g : DiskQueueData → Conv) : Prop where
  printed : ∀ q, (⟨a.label,g q⟩ : Line) ∈ printScsiQueueData q
  filled : ∀ pathOf d, g (loaded env pathOf queueRows d).qData =
    a.kind.conv (a.kind.copy env (pathOf a.file))

theorem filled_own : ∀ a ∈ filledOwn, ∃ g, Filled env a g := by
  simp only [filledOwn, List.forall_mem_cons]
  refine ⟨⟨fun q => .text q.scheduler,?_,fun _ _ => rfl⟩,
    ⟨fun q => .size q.physicalBlockSize,?_,fun _ _ => rfl⟩,
    ⟨fun q => .size q.logicalBlockSize,?_,fun _ _ => rfl⟩,
    ⟨fun q => .size q.minimumIoSize,?_,fun _ _ => rfl⟩,
    ⟨fun q => .size q.optimalIoSize,?_,fun _ _ => rfl⟩,
    ⟨fun q => .size q.zoneAppendMaxBytes,?_,fun _ _ => rfl⟩,
    ⟨fun q => .size q.zoneWriteGranularity,?_,fun _ _ => rfl⟩,
    ⟨fun q => .size q.discardMaxBytes,?_,fun _ _ => rfl⟩,
    ⟨fun q => .size q.discardMaxHwBytes,?_,fun _ _ => rfl⟩,
    ⟨fun q => .size q.discardZeroesData,?_,fun _ _ => rfl⟩,
    ⟨fun q => .signed (int64 q.ioPoll),?_,fun _ _ => rfl⟩,
    ⟨fun q => .signed (int64 q.ioPollDelay),?_,fun _ _ => rfl⟩,
    ⟨fun q => .signed (int64 q.stableWrites),?_,fun _ _ => rfl⟩,
    ⟨fun q => .signed (int64 q.wbtLatUsec),?_,fun _ _ => rfl⟩,
    ⟨fun q => .signed (int64 q.rqAffinity),?_,fun _ _ => rfl⟩,
    ⟨fun q => .signed (int64 q.dax),?_,fun _ _ => rfl⟩,
    ⟨fun q => .signed (int64 q.addRandom),?_,fun _ _ => rfl⟩,
    ⟨fun q => .signed (int64 q.fua),?_,fun _ _ => rfl⟩,
    ⟨fun q => .signed (int64 q.nomerges),?_,fun _ _ => rfl⟩,
    ⟨fun q => .signed (int64 q.maxSegments),?_,fun _ _ => rfl⟩,
    ⟨fun q => .size q.maxSegmentSize,?_,fun _ _ => rfl⟩,
    ⟨fun q => .signed (int64 q.zoned),?_,fun _ _ => rfl⟩,
    ⟨fun q => .signed (int64 q.nrZones),?_,fun _ _ => rfl⟩,
    ⟨fun q => .signed (int64 q.readAheadKb),?_,fun _ _ => rfl⟩,
    ⟨fun q => .text q.writeCache,?_,fun _ _ => rfl⟩,
    ⟨fun q => .size q.writeSameMaxBytes,?_,fun _ _ => rfl⟩,
    ⟨fun q => .size q.writeZeroesMaxBytes,?_,fun _ _ => rfl⟩,
    by simp⟩ <;> intro q <;> simp [printScsiQueueData]

theorem lineValue_filled {a : Attribute} {g : DiskQueueData → Conv} (h : Filled env a g)
    (d : ScsiDeviceInfo) (v : Option Conv) : LineValue env d a v ↔
      v = some (a.kind.conv (a.kind.copy env (queuePath d a.file))) := by
  have hl := fun q => valueAt_of_mem (nodup_labels q) (h.printed q)
  simp only [LineValue, getDiskQueueData, returns_loadAll_plain plain_queueRows, exists_eq_left,
    hl, h.filled, eq_comm]

theorem granularity_kept (pathOf : Str → Str) (d : ScsiDeviceInfo) :
    (loaded env pathOf queueRows d).qData.discardGranularity = d.qData.discardGranularity := rfl

/-- The granularity's line is given what the record held before. -/
theorem lineValue_granularity (d : ScsiDeviceInfo) (v : Option Conv) :
    LineValue env d granularity v ↔ v = some (.size d.qData.discardGranularity) := by
  have hp : ∀ q : DiskQueueData,
      (⟨granularity.label,.size q.discardGranularity⟩ : Line) ∈ printScsiQueueData q := by
    intro q
    simp [printScsiQueueData, granularity]
  have hl := fun q => valueAt_of_mem (nodup_labels q) (hp q)
  simp only [LineValue, getDiskQueueData, returns_loadAll_plain plain_queueRows, exists_eq_left,
    hl, granularity_kept, eq_comm]

/-! ## What a copy tells of its file -/

theorem int64_strtoull_decimal {n : ℤ} (h : -2^31 ≤ n) (h' : n < 2^31) :
    int64 (strtoull (decimal n)) = n := by
  unfold decimal
  split
  · rw [strtoull_minus (by omega)]
    unfold int64
    split <;> omega
  · rw [strtoull_decimal (by omega)]
    unfold int64
    split <;> omega

theorem digit_letter {c : Char} (h : 'a' ≤ c) (h' : c ≤ 'z') : digit 10 c = none := by
  have h1 : 97 ≤ c.toNat := h
  have h9 : ¬c ≤ '9' := by
    intro h9
    have : c.toNat ≤ 57 := h9
    omega
  simp only [digit, h, h', h9, decide_true, decide_false, Bool.and_true, Bool.and_false,
    Bool.false_eq_true, if_false, if_true]
  rw [if_neg (by omega)]

theorem strtoull_letter {c : Char} (h : 'a' ≤ c) (h' : c ≤ 'z') (s : Str) :
    strtoull (c :: s) = 0 := by
  have h1 : 97 ≤ c.toNat := h
  have hne : ∀ x : Char, x.toNat < 97 → c ≠ x := by
    rintro x hx rfl
    omega
  have hs : isspace c = false := by
    simp only [isspace, hne ' ' (by decide), decide_false, Bool.false_or, Bool.and_eq_false_iff,
      decide_eq_false_iff_not]
    omega
  have hu : Unsigned (c :: s) := by
    constructor
    · simp [hs]
    · unfold sign
      split
      · exact absurd (List.cons.inj ‹_›).1 (hne '-' (by decide))
      · exact absurd (List.cons.inj ‹_›).1 (hne '+' (by decide))
      · rfl
  have ha : autoDigits (c :: s) = 0 := by
    unfold autoDigits
    split
    · exact absurd (List.cons.inj ‹_›).1 (hne '0' (by decide))
    · simp [digits, digit_letter h h']
  rw [strtoull_unsigned hu, ha]
  rfl

theorem copied_word {path l : Str} (h : Word l) (hf : Holds env path l) :
    strtoull (copied env 32 path) = 0 := by
  obtain ⟨⟨c,s,rfl,hc,hc'⟩,hm⟩ := h
  have hn : ∀ x : Char, x.toNat < 97 → x ≠ '-' → x ∉ c :: s := by
    intro x hx hd hxm
    rcases hm x hxm with h | h
    · have : 97 ≤ x.toNat := h.1
      omega
    · exact hd h
  rw [copied_plain (hn '\n' (by decide) (by decide)) (hn nul (by decide) (by decide))
    (hn '%' (by decide) (by decide)) hf]
  exact strtoull_letter hc hc' _

theorem copied_text {path l : Str} (h : Kind.text.Writes l) (hf : Holds env path l) :
    cut 32 (orNull (line env path)) = l.take 31 := by
  rcases line_of_text h.2.1 h.2.2 hf with hr | ⟨hl,-⟩
  · rw [hr]
    simp [orNull, cut, List.take_take]
  · exact absurd hl h.1

theorem copied_decimal {path : Str} {n : ℕ} (h : n < 2^64)
    (hf : Holds env path (Nat.toDigits 10 n)) : strtoull (copied env 32 path) = n := by
  rw [copied_number (numberLine_decimal h) (by omega) hf, strtoull_decimal h]

theorem copied_delay {path : Str} {n : ℤ} (h : -2^31 ≤ n) (h' : n < 2^31)
    (hf : Holds env path (decimal n)) : int64 (strtoull (copied env 32 path)) = n := by
  rw [copied_number (numberLine_int h h') (by omega) hf, int64_strtoull_decimal h h']

def Kind.Same : Kind → Str → Str → Prop
  | .word, _, _ => True
  | .text, l, l' => l.take 31 = l'.take 31
  | _, l, l' => l = l'

theorem conv_copy_iff {env' : Env} {k : Kind} {path l l' : Str} (h : k.Writes l)
    (h' : k.Writes l') (hf : Holds env path l) (hf' : Holds env' path l') :
    k.conv (k.copy env path) = k.conv (k.copy env' path) ↔ k.Same l l' := by
  cases k with
  | size =>
    obtain ⟨n,hn,rfl⟩ := h
    obtain ⟨m,hm,rfl⟩ := h'
    simp only [Kind.conv, Kind.copy, Kind.Same, copied_decimal hn hf, copied_decimal hm hf',
      Conv.size.injEq]
    exact ⟨fun he => he ▸ rfl,toDigits_inj⟩
  | number =>
    obtain ⟨n,hn,rfl⟩ := h
    obtain ⟨m,hm,rfl⟩ := h'
    simp only [Kind.conv, Kind.copy, Kind.Same, copied_decimal hn hf, copied_decimal hm hf',
      Conv.signed.injEq, int64_inj hn hm]
    exact ⟨fun he => he ▸ rfl,toDigits_inj⟩
  | delay =>
    obtain ⟨n,hn,hn',rfl⟩ := h
    obtain ⟨m,hm,hm',rfl⟩ := h'
    simp only [Kind.conv, Kind.copy, Kind.Same, copied_delay hn hn' hf, copied_delay hm hm' hf',
      Conv.signed.injEq, decimal_inj]
  | word =>
    simp only [Kind.conv, Kind.copy, Kind.Same, copied_word h hf, copied_word h' hf']
  | text =>
    simp only [Kind.conv, Kind.copy, Kind.Same, copied_text h hf, copied_text h' hf',
      Conv.text.injEq, Option.some.injEq]

theorem length_file_le : ∀ a ∈ attributes, a.file.length ≤ 22 := by decide +kernel

theorem queuePath_eq {d : ScsiDeviceInfo} {p : Str} (hd : d.diskPath = some p)
    (hp : (p ++ lit "/queue").length < 256) {a : Attribute} (ha : a ∈ attributes) :
    queuePath d a.file = queueFile p a.file := by
  have hf := length_file_le a ha
  have hs : (lit "/").length = 1 := by simp [lit]
  have hq : cut 256 (orNull d.diskPath ++ lit "/queue") = p ++ lit "/queue" := by
    rw [hd]
    exact cut_of_length_lt hp
  rw [queuePath, hq]
  apply cut_of_length_lt
  simp only [List.length_append] at hp ⊢
  omega

/-- A line that says something else of equal texts, or the same of two that differ. -/
theorem determines_iff {a : Attribute} {env' : Env} {d : ScsiDeviceInfo} {l l' : Str}
    {c c' : Option Conv} (h : ∀ v, LineValue env d a v ↔ v = c)
    (h' : ∀ v, LineValue env' d a v ↔ v = c') :
    Determines a env env' d l l' ↔ (c = c' ↔ l = l') := by
  simp only [Determines, h, h']
  constructor
  · rintro ⟨v,v',rfl,rfl,he⟩
    exact he
  · intro he
    exact ⟨c,c',rfl,rfl,he⟩

theorem apart_own_iff {a : Attribute} (ha : a ≠ granularity) (l l' : Str) :
    (a.kind.Same l l' ↔ l = l') ↔ Apart a l l' := by
  have hr : l = l' → l.take 31 = l'.take 31 := fun h => h ▸ rfl
  unfold Apart
  cases hk : a.kind with
  | text =>
    simp only [Kind.Same, ha, false_or, true_imp_iff, reduceCtorEq, false_imp_iff, true_and]
    exact ⟨Iff.mp,fun h => ⟨h,hr⟩⟩
  | word => simp [Kind.Same]
  | _ => simp [Kind.Same, ha]

/-- The attributes whose line tells one content from another. -/
theorem queue_line_iff {d : ScsiDeviceInfo} {p : Str} (hd : d.diskPath = some p)
    (hp : (p ++ lit "/queue").length < 256) {a : Attribute} (ha : a ∈ attributes) {env' : Env}
    {l l' : Str} (hl : a.kind.Writes l) (hl' : a.kind.Writes l')
    (hf : Holds env (queueFile p a.file) l) (hf' : Holds env' (queueFile p a.file) l') :
    Determines a env env' d l l' ↔ Apart a l l' := by
  by_cases hg : a = granularity
  · rw [hg, determines_iff (lineValue_granularity d) (lineValue_granularity d)]
    simp [Apart, granularity]
  · have ho : a ∈ filledOwn := by simpa [attributes, hg] using ha
    obtain ⟨g,h⟩ := @filled_own env a ho
    obtain ⟨g',h'⟩ := @filled_own env' a ho
    rw [← queuePath_eq hd hp ha] at hf hf'
    rw [determines_iff (lineValue_filled h d) (lineValue_filled h' d), Option.some.injEq,
      conv_copy_iff hl hl' hf hf', apart_own_iff hg]

def sda : ScsiDeviceInfo := { diskPath := some "/sys/block/sda" }

theorem sda_short : (lit "/sys/block/sda" ++ lit "/queue").length < 256 := by simp [lit]

abbrev holding (l : Str) : Env := filesHolding (l ++ ['\n'])

theorem nomerges_determined :
    Determines ⟨lit "nomerges",lit "nomerges",.number⟩ (holding (Nat.toDigits 10 0))
      (holding (Nat.toDigits 10 2)) sda (Nat.toDigits 10 0) (Nat.toDigits 10 2) := by
  have hw : ∀ n < 2^64, Kind.number.Writes (Nat.toDigits 10 n) := fun n hn => ⟨n,hn,rfl⟩
  apply (queue_line_iff rfl sda_short (by simp [attributes, filledOwn]) (hw 0 (by omega))
    (hw 2 (by omega)) (filesHolding_line _) (filesHolding_line _)).mpr
  simp [Apart, granularity]

theorem granularity_not_determined :
    Kind.size.Writes (Nat.toDigits 10 0) ∧ Kind.size.Writes (Nat.toDigits 10 4096) ∧
      ¬Determines granularity (holding (Nat.toDigits 10 0)) (holding (Nat.toDigits 10 4096)) sda
        (Nat.toDigits 10 0) (Nat.toDigits 10 4096) := by
  refine ⟨⟨0,by omega,rfl⟩,⟨4096,by omega,rfl⟩,?_⟩
  rw [determines_iff (lineValue_granularity sda) (lineValue_granularity sda)]
  intro h
  exact absurd (toDigits_inj (h.mp rfl)) (by omega)

end ScsiCli.QueueReport
