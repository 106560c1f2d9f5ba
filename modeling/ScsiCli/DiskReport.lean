import Mathlib.Data.List.Nodup
import ScsiCli.AttributeNumbers
import ScsiCli.Gatherers
import ScsiCli.Printing

/-!
# The event and counter lines of one disk

Six event flags and five counters have an attribute, a field and a line each.
Ten of the lines are filled from the attribute their label names; the last one
repeats the flag of the first. Two trees that differ in one of the attributes
are told apart by its line and by no other, but for these two flags.
-/

set_option autoImplicit false

namespace ScsiCli.DiskReport
open ScsiCli.RunTrace ScsiCli.ByteString ScsiCli.NumberText ScsiCli.NumberReading
open ScsiCli.Records ScsiCli.Machine ScsiCli.SysfsUtils ScsiCli.DiskUtils ScsiCli.DiskDetails
open ScsiCli.MachineRules ScsiCli.LiteralCopies ScsiCli.AttributeNumbers ScsiCli.Gatherers
open ScsiCli.Printing

variable {env : Env}

inductive Kind where
  | flag
  | hex
  | dec
  deriving DecidableEq

structure Attribute where
  file : Str
  label : Str
  kind : Kind
  deriving DecidableEq

def capacity : Attribute :=
  ⟨"device/evt_capacity_change_reported","Capacity Change Reported",.flag⟩

def softThreshold : Attribute :=
  ⟨"device/evt_soft_threshold_reached","Soft Threshold Reached",.flag⟩

def counterBits : Attribute := ⟨"device/iocounterbits","IO Counter bits",.dec⟩

def timeouts : Attribute := ⟨"device/iotmo_cnt","IO Timeout",.dec⟩

def shownOwn : List Attribute :=
  [⟨"device/iodone_cnt","IO Done cnt",.hex⟩,
   ⟨"device/ioerr_cnt","IO error cnt",.hex⟩,
   ⟨"device/iorequest_cnt","IO Request cnt",.hex⟩,
   counterBits,
   timeouts,
   capacity,
   ⟨"device/evt_inquiry_change_reported","Inquiry Change Reported",.flag⟩,
   ⟨"device/evt_lun_change_reported","LUN Change Reported",.flag⟩,
   ⟨"device/evt_media_change","Media Change",.flag⟩,
   ⟨"device/evt_mode_parameter_change_reported","Mode Parameter Change Reported",.flag⟩]

def attributes : List Attribute := softThreshold :: shownOwn

/-- The values an attribute can have: an `int`, or 64 bits. -/
def Kind.Valid : Kind → ℤ → Prop
  | .flag, n => -2^31 ≤ n ∧ n < 2^31
  | _, n => 0 ≤ n ∧ n < 2^64

def Kind.written : Kind → ℤ → Str
  | .flag, n => decimal n
  | _, n => hexText n.toNat

def Kind.named : Kind → ℤ → Str
  | .hex, n => hexOf n.toNat
  | _, n => decimal n

def Kind.conv : Kind → Str → Conv
  | .flag, t => .signed (int32 (strtoull t))
  | .hex, t => .hex (strtoull t)
  | .dec, t => .signed (int64 (strtoull t))

def blockFile (name file : Str) : Str := SYSFS_BLOCK_PATH ++ "/" ++ name ++ "/" ++ file

def Assigned (env : Env) (name : Str) (v : Str → ℤ) : Prop :=
  ∀ a ∈ attributes, a.kind.Valid (v a.file) ∧
    Holds env (blockFile name a.file) (a.kind.written (v a.file))

def reportOf : Event → Option (List Printing.Line)
  | .out (.scsiDiskDetails d) => some (printScsiDiskDetails d)
  | _ => none

def lineText (env : Env) (name : Str) (d : ScsiDeviceInfo) (a : Attribute) : Option Str :=
  match observed reportOf (getSingleScsiDiskDetails name d) env with
  | [ls] => shownAt ls a.label
  | _ => none

/-- Every line shows the value of the attribute its label names. -/
def ShowsNamed (env : Env) (name : Str) (d : ScsiDeviceInfo) (v : Str → ℤ) : Prop :=
  ∀ a ∈ attributes, lineText env name d a = some (a.kind.named (v a.file))

def DifferAt (a : Attribute) (v w : Str → ℤ) : Prop :=
  ∀ b ∈ attributes, v b.file = w b.file ↔ b ≠ a

def ToldApartBy (a : Attribute) (env env' : Env) (name : Str) (d : ScsiDeviceInfo) : Prop :=
  ∀ b ∈ attributes, lineText env name d b = lineText env' name d b ↔ b ≠ a

/-! ## The report -/

def gathered (env : Env) (name : Str) (d : ScsiDeviceInfo) : ScsiDeviceInfo :=
  let t := loaded env (underDisk (scsiDisk name d)) scsiRows (scsiDisk name d)
  loaded env (queuePath t) queueRows t

theorem quiet_reportOf {e : Event} (h : Gathers e) : reportOf e = none := by
  cases e with
  | out o => cases o <;> first | rfl | cases h
  | _ => rfl

theorem reports_gathered (name : Str) (d : ScsiDeviceInfo) :
    observed reportOf (getSingleScsiDiskDetails name d) env =
      [printScsiDiskDetails (gathered env name d)] := by
  have hs : Returns (loadAll (underDisk (scsiDisk name d)) scsiRows (scsiDisk name d)) env
      (loaded env (underDisk (scsiDisk name d)) scsiRows (scsiDisk name d)) :=
    (returns_loadAll_plain plain_scsiRows _ _).mpr rfl
  have hq : ∀ t, Returns (getDiskQueueData t) env (loaded env (queuePath t) queueRows t) :=
    fun t => (returns_loadAll_plain plain_queueRows t _).mpr rfl
  rw [getSingleScsiDiskDetails, observed_bind_of_returns _ _ hs,
    observed_of_emits reportOf (gathers_scsiRows _ _) fun _ => quiet_reportOf,
    observed_bind_of_returns _ _ (hq _),
    observed_of_emits reportOf (gathers_getDiskQueueData _) fun _ => quiet_reportOf]
  rfl

theorem nodup_labels (d : ScsiDeviceInfo) : ((printScsiDiskDetails d).map Line.label).Nodup := by
  have h : ((printScsiDiskDetails {}).map Line.label).Nodup := by decide +kernel
  exact h

/-- A line with its field: where the line is, that the queue data is not the field's, and
which file the field is filled from. -/
structure Filled (env : Env) (label file : Str) (k : Kind) (g : ScsiDeviceInfo → Conv) : Prop where
  printed : ∀ d, (⟨label,g d⟩ : Line) ∈ printScsiDiskDetails d
  frame : ∀ d q, g { d with qData := q } = g d
  filled : ∀ pathOf d, g (loaded env pathOf scsiRows d) = k.conv (copied env 64 (pathOf file))

theorem filled_own : ∀ a ∈ shownOwn, ∃ g, Filled env a.label a.file a.kind g := by
  simp only [shownOwn, counterBits, timeouts, capacity, List.forall_mem_cons]
  refine ⟨⟨fun d => .hex d.iodoneCnt,?_,fun _ _ => rfl,fun _ _ => rfl⟩,
    ⟨fun d => .hex d.ioerrCnt,?_,fun _ _ => rfl,fun _ _ => rfl⟩,
    ⟨fun d => .hex d.iorequestCnt,?_,fun _ _ => rfl,fun _ _ => rfl⟩,
    ⟨fun d => .signed (int64 d.iocounterbits),?_,fun _ _ => rfl,fun _ _ => rfl⟩,
    ⟨fun d => .signed (int64 d.iotmoCnt),?_,fun _ _ => rfl,fun _ _ => rfl⟩,
    ⟨fun d => .signed d.evtCapacityChangeReported,?_,fun _ _ => rfl,fun _ _ => rfl⟩,
    ⟨fun d => .signed d.evtInquiryChangeReported,?_,fun _ _ => rfl,fun _ _ => rfl⟩,
    ⟨fun d => .signed d.evtLunChangeReported,?_,fun _ _ => rfl,fun _ _ => rfl⟩,
    ⟨fun d => .signed d.evtMediaChange,?_,fun _ _ => rfl,fun _ _ => rfl⟩,
    ⟨fun d => .signed d.evtModeParameterChangeReported,?_,fun _ _ => rfl,fun _ _ => rfl⟩,
    by simp⟩ <;> intro d <;> simp [printScsiDiskDetails]

/-- The line of the soft threshold is given the flag of the capacity change. -/
theorem filled_softThreshold :
    ∃ g, Filled env softThreshold.label capacity.file softThreshold.kind g := by
  refine ⟨fun d => .signed d.evtCapacityChangeReported,?_,fun _ _ => rfl,fun _ _ => rfl⟩
  intro d
  simp [printScsiDiskDetails, softThreshold]

theorem lineText_filled {a : Attribute} {file : Str} {g : ScsiDeviceInfo → Conv}
    (h : Filled env a.label file a.kind g) (name : Str) (d : ScsiDeviceInfo) :
    lineText env name d a =
      (a.kind.conv (copied env 64 (underDisk (scsiDisk name d) file))).shows := by
  have hl := valueAt_of_mem (nodup_labels (gathered env name d)) (h.printed (gathered env name d))
  rw [lineText, reports_gathered]
  change (valueAt _ _).bind Conv.shows = _
  rw [hl, Option.bind_some, gathered, queueRows_frame g h.frame, h.filled]

/-! ## Values on their lines -/

def Kind.given : Kind → ℤ → Str
  | .dec, n => decimal (int64 n.toNat)
  | k, n => k.named n

theorem numberLine_written {k : Kind} {n : ℤ} (h : k.Valid n) : NumberLine (k.written n) := by
  cases k with
  | flag => exact numberLine_int h.1 h.2
  | hex | dec =>
    have hn : n.toNat < 2^64 := by
      have := h.2
      omega
    exact numberLine_hexText hn

theorem conv_written {k : Kind} {n : ℤ} (h : k.Valid n) :
    (k.conv (k.written n)).shows = some (k.given n) := by
  cases k with
  | flag =>
    change some (decimal (int32 (strtoull (decimal n)))) = _
    rw [int32_strtoull_decimal h.1 h.2]
    rfl
  | hex =>
    change some (hexOf (strtoull (hexText n.toNat))) = _
    rw [strtoull_hexText (by have := h.2; omega)]
    rfl
  | dec =>
    change some (decimal (int64 (strtoull (hexText n.toNat)))) = _
    rw [strtoull_hexText (by have := h.2; omega)]
    rfl

/-- The decimal counters are shown through a signed conversion. -/
theorem given_eq_named_iff {k : Kind} {n : ℤ} (h : k.Valid n) :
    k.given n = k.named n ↔ (k = .dec → n < 2^63) := by
  cases k with
  | dec =>
    obtain ⟨h0,h1⟩ := h
    have hn := @int64_eq_iff n.toNat (by omega)
    change decimal _ = decimal _ ↔ _
    rw [decimal_inj, show ((n.toNat : ℕ) : ℤ) = n by omega] at *
    rw [hn]
    simp only [true_imp_iff]
    omega
  | _ => simp [Kind.given]

theorem given_inj {k : Kind} {m n : ℤ} (hm : k.Valid m) (hn : k.Valid n) :
    k.given m = k.given n ↔ m = n := by
  cases k with
  | flag => exact decimal_inj m n
  | hex =>
    obtain ⟨h0,h1⟩ := hm
    obtain ⟨h2,h3⟩ := hn
    change hexOf _ = hexOf _ ↔ _
    rw [hexOf_inj]
    omega
  | dec =>
    obtain ⟨h0,h1⟩ := hm
    obtain ⟨h2,h3⟩ := hn
    change decimal _ = decimal _ ↔ _
    rw [decimal_inj, int64_inj (by omega) (by omega)]
    omega

theorem length_file_le : ∀ a ∈ attributes, a.file.length ≤ 43 := by decide +kernel

theorem underDisk_eq {name : Str} (hp : (SYSFS_BLOCK_PATH ++ lit "/" ++ name).length < 128)
    (d : ScsiDeviceInfo) {a : Attribute} (ha : a ∈ attributes) :
    underDisk (scsiDisk name d) a.file = blockFile name a.file := by
  have hf := length_file_le a ha
  have hs : (lit "/").length = 1 := by simp [lit]
  have hd : orNull (scsiDisk name d).diskPath = SYSFS_BLOCK_PATH ++ lit "/" ++ name :=
    cut_of_length_lt hp
  rw [underDisk, hd]
  apply cut_of_length_lt
  simp only [List.length_append] at hp ⊢
  omega

theorem lineText_assigned {name : Str} (hp : (SYSFS_BLOCK_PATH ++ lit "/" ++ name).length < 128)
    {v : Str → ℤ} (hv : Assigned env name v) (d : ScsiDeviceInfo) {a b : Attribute}
    (hb : b ∈ attributes) (hk : b.kind = a.kind) {g : ScsiDeviceInfo → Conv}
    (h : Filled env a.label b.file a.kind g) :
    lineText env name d a = some (a.kind.given (v b.file)) := by
  obtain ⟨hn,hf⟩ := hv b hb
  rw [hk] at hn hf
  rw [← underDisk_eq hp d hb] at hf
  rw [lineText_filled h, copied_number (numberLine_written hn) (by omega) hf, conv_written hn]

section
variable {name : Str} (hp : (SYSFS_BLOCK_PATH ++ lit "/" ++ name).length < 128)
variable {v w : Str → ℤ} (hv : Assigned env name v) (d : ScsiDeviceInfo)
include hp hv

theorem lineText_own {a : Attribute} (ha : a ∈ shownOwn) :
    lineText env name d a = some (a.kind.given (v a.file)) := by
  obtain ⟨g,hg⟩ := @filled_own env a ha
  exact lineText_assigned hp hv d (List.mem_cons_of_mem _ ha) rfl hg

theorem lineText_softThreshold :
    lineText env name d softThreshold = some (decimal (v capacity.file)) := by
  obtain ⟨g,hg⟩ := @filled_softThreshold env
  exact lineText_assigned hp hv d (by simp [attributes, shownOwn]) rfl hg

theorem showsNamed_iff : ShowsNamed env name d v ↔ v softThreshold.file = v capacity.file ∧
    v counterBits.file < 2^63 ∧ v timeouts.file < 2^63 := by
  have hs : lineText env name d softThreshold =
      some (softThreshold.kind.named (v softThreshold.file)) ↔
        v softThreshold.file = v capacity.file := by
    rw [lineText_softThreshold hp hv d, Option.some.injEq, eq_comm (b := v capacity.file)]
    exact decimal_inj _ _
  have ho : ∀ a ∈ shownOwn, (lineText env name d a = some (a.kind.named (v a.file)) ↔
      (a.kind = .dec → v a.file < 2^63)) := by
    intro a ha
    rw [lineText_own hp hv d ha, Option.some.injEq]
    exact given_eq_named_iff (hv a (List.mem_cons_of_mem _ ha)).1
  unfold ShowsNamed attributes
  rw [List.forall_mem_cons, hs, forall₂_congr ho]
  simp [shownOwn, counterBits, timeouts, capacity]

theorem own_line_eq_iff {env' : Env} (hw : Assigned env' name w) {a : Attribute}
    (ha : a ∈ shownOwn) :
    lineText env name d a = lineText env' name d a ↔ v a.file = w a.file := by
  have hm := List.mem_cons_of_mem softThreshold ha
  rw [lineText_own hp hv d ha, lineText_own hp hw d ha, Option.some.injEq]
  exact given_inj (hv a hm).1 (hw a hm).1

theorem toldApart_iff {env' : Env} (hw : Assigned env' name w) {a : Attribute}
    (h : DifferAt a v w) :
    ToldApartBy a env env' name d ↔ a ≠ capacity ∧ a ≠ softThreshold := by
  have hc : capacity ∈ attributes := by simp [attributes, shownOwn]
  have hne : capacity ≠ softThreshold := by decide +kernel
  have hs : lineText env name d softThreshold = lineText env' name d softThreshold ↔
      capacity ≠ a := by
    rw [lineText_softThreshold hp hv d, lineText_softThreshold hp hw d, Option.some.injEq,
      decimal_inj, h capacity hc]
  have ho : ∀ b ∈ shownOwn,
      (lineText env name d b = lineText env' name d b ↔ b ≠ a) := by
    intro b hb
    rw [own_line_eq_iff hp hv d hw hb, h b (List.mem_cons_of_mem _ hb)]
  unfold ToldApartBy attributes
  rw [List.forall_mem_cons, hs]
  constructor
  · rintro ⟨h1,-⟩
    constructor
    · rintro rfl
      exact h1.mpr hne.symm rfl
    · rintro rfl
      exact h1.mp hne rfl
  · rintro ⟨h1,h2⟩
    exact ⟨iff_of_true h1.symm h2.symm,ho⟩

end

/-- When the lines show what they name, and which attribute is told apart by its line. -/
theorem report_names_iff {name : Str} (hp : (SYSFS_BLOCK_PATH ++ lit "/" ++ name).length < 128)
    (d : ScsiDeviceInfo) :
    (∀ env v, Assigned env name v → (ShowsNamed env name d v ↔
      v softThreshold.file = v capacity.file ∧ v counterBits.file < 2^63 ∧
        v timeouts.file < 2^63)) ∧
    ∀ env env' v w, Assigned env name v → Assigned env' name w → ∀ a ∈ attributes,
      DifferAt a v w → (ToldApartBy a env env' name d ↔ a ≠ capacity ∧ a ≠ softThreshold) :=
  ⟨fun _ _ hv => showsNamed_iff hp hv d,fun _ _ _ _ hv hw _ _ => toldApart_iff hp hv d hw⟩

def treeOf (name : Str) (v : Str → ℤ) : Env :=
  { Env.bare with
    file := fun path =>
      match attributes.find? fun a => blockFile name a.file = path with
      | some a => .bytes (a.kind.written (v a.file) ++ ['\n'])
      | none => .absent }

theorem assigned_treeOf (name : Str) {v : Str → ℤ} (h : ∀ a ∈ attributes, a.kind.Valid (v a.file)) :
    Assigned (treeOf name v) name v := by
  have hf : (attributes.map Attribute.file).Nodup := by decide +kernel
  have hn : (attributes.map fun a => blockFile name a.file).Nodup := by
    have hb := List.Nodup.map (f := blockFile name) (fun _ _ h => List.append_cancel_left h) hf
    rwa [List.map_map] at hb
  intro a ha
  refine ⟨h a ha,['\n'],?_,.inr rfl⟩
  have hfind := find?_of_nodup (fun a : Attribute => blockFile name a.file) hn ha
  simp only [treeOf, hfind]

theorem valid_small (k : Kind) {n : ℤ} (h : 0 ≤ n) (h' : n < 2^31) : k.Valid n := by
  cases k <;> constructor <;> omega

def only (a : Attribute) (n : ℤ) : Str → ℤ := fun file => if file = a.file then n else 0

theorem assigned_only (name : Str) (a : Attribute) {n : ℤ} (h : 0 ≤ n) (h' : n < 2^31) :
    Assigned (treeOf name (only a n)) name (only a n) := by
  apply assigned_treeOf
  intro b _
  unfold only
  split
  · exact valid_small _ h h'
  · exact valid_small _ le_rfl (by omega)

def mediaChange : Attribute := ⟨"device/evt_media_change","Media Change",.flag⟩

theorem media_change_named :
    ShowsNamed (treeOf (lit "sda") (only mediaChange 1)) (lit "sda") {} (only mediaChange 1) ∧
      ToldApartBy mediaChange (treeOf (lit "sda") (only mediaChange 0))
        (treeOf (lit "sda") (only mediaChange 1)) (lit "sda") {} := by
  have hm := fun n => @assigned_only (lit "sda") mediaChange n
  have hp : (SYSFS_BLOCK_PATH ++ lit "/" ++ lit "sda").length < 128 := by
    simp [SYSFS_BLOCK_PATH, lit]
  have hd : DifferAt mediaChange (only mediaChange 0) (only mediaChange 1) := by
    unfold DifferAt
    decide +kernel
  constructor
  · apply ((report_names_iff hp {}).1 _ _ (hm 1 (by omega) (by omega))).mpr
    decide +kernel
  · apply ((report_names_iff hp {}).2 _ _ _ _ (hm 0 (by omega) (by omega))
      (hm 1 (by omega) (by omega)) mediaChange (by simp [attributes, shownOwn, mediaChange]) hd).mpr
    decide +kernel

theorem soft_threshold_not_shown :
    Assigned (treeOf (lit "sda") (only softThreshold 1)) (lit "sda") (only softThreshold 1) ∧
      ¬ShowsNamed (treeOf (lit "sda") (only softThreshold 1)) (lit "sda") {}
        (only softThreshold 1) := by
  have ha := @assigned_only (lit "sda") softThreshold 1 (by omega) (by omega)
  refine ⟨ha,fun h => ?_⟩
  have hp : (SYSFS_BLOCK_PATH ++ lit "/" ++ lit "sda").length < 128 := by
    simp [SYSFS_BLOCK_PATH, lit]
  exact absurd ((showsNamed_iff hp ha {}).mp h).1 (by decide +kernel)

end ScsiCli.DiskReport
