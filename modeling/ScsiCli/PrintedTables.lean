import ScsiCli.BusIds
import ScsiCli.Columns
import ScsiCli.RowIsolation

/-!
# The tables of the listings on standard output

What the print functions of the block, generic, multipath and enclosure tables
write, from their formats. On a machine whose names and attributes have no tab,
the output of a listing that succeeds is read back as the rows it printed: no
cell runs into another, and no heading or notice is taken for a row.
-/

set_option autoImplicit false

namespace ScsiCli.PrintedTables
open ScsiCli.RunTrace ScsiCli.ByteString ScsiCli.NumberText ScsiCli.Records ScsiCli.Machine
open ScsiCli.SysfsUtils ScsiCli.DiskUtils ScsiCli.Commands ScsiCli.MachineRules
open ScsiCli.CommandGrammar ScsiCli.Dispatch ScsiCli.Gatherers ScsiCli.Completion
open ScsiCli.IscsiCompletion ScsiCli.Requests ScsiCli.Listings ScsiCli.Printing
open ScsiCli.SessionLuns ScsiCli.BusIds ScsiCli.Printf ScsiCli.TextLines ScsiCli.Columns

/-! ## The print functions -/

def dash : Option Str := some (List.replicate 224 '-')

def calls (ts : List (Option Str)) : Option Str := (ts.mapM id).map List.flatten

def printCommandLabel (label : Str) : Option Str :=
  calls [printf "\nDisplaying All %s devices on the system.\n" [.str (some label)],
    printf "%-.64s\n" [.str dash]]

def header (titles rule : Str) (names : List Str) : Option Str :=
  calls [printf "\n" [], printf titles (names.map fun n => .str (some n)),
    printf rule (names.map fun _ => .str dash)]

def printDiskHeader : Option Str :=
  header "%-12s\t%-16s\t%-16s\t%-8s\t%-5s\t%-5s\t%-16s\t%-8s\t%-24s\n"
    "%-.12s\t%-.16s\t%-.16s\t%-.8s\t%-.5s\t%-.5s\t%-.16s\t%-.8s\t%-.24s\n"
    ["BUS ID      ", "Vendor", "Model", "Revision", "Major", "Minor", "Disk Type", "Disk Name",
     "Device Path"]

def printNvmeDiskHeader : Option Str :=
  header "%-12s\t%-32s\t%-12s\t%-5s\t%-5s\t%-16s\t%-8s\t%-24s\n"
    "%-.12s\t%-.32s\t%-.12s\t%-.5s\t%-.5s\t%-.16s\t%-.8s\t%-.24s\n"
    ["BUS ID      ", "Model ", "Revision", "Major", "Minor", "Disk Type", "Disk Name",
     "Device Path"]

def printGenericDiskHeader : Option Str :=
  header "%-12s\t%-5s\t%-5s\t%-16s\t%-8s\t%-24s\n" "%-.12s\t%-.5s\t%-.5s\t%-.16s\t%-.8s\t%-.24s\n"
    ["BUS ID ", "Major", "Minor", "Disk Type", "Disk Name", "Device Path"]

def printMpathDiskHeader : Option Str :=
  header "%-12s\t%-5s\t%-5s\t%-8s\t%-24s\n" "%-.12s\t%-.5s\t%-.5s\t%-.8s\t%-.24s\n"
    ["BUS ID", "Major", "Minor", "Disk Name", "Device Path"]

def printEnclosureHeader : Option Str :=
  header "%-12s\t%-16s\t%-16s\t%-16s\t%-16s\n" "%-.12s\t%-.16s\t%-.16s\t%-.16s\t%-.16s\n"
    [" BUS ID", "Vendor", "Model", "Device Type", "Device Path"]

def printDiskInfo (d : ScsiDeviceInfo) : Option Str :=
  printf "[%d:%d:%d:%d]\t%-16s\t%-8s\t%-8s\t%-5d\t%-5d\t%-16s\t%-8s\t%-24s\n"
    [.int d.host,.int d.bus,.int d.target,.int d.lun,.str d.vendor,.str d.model,.str d.rev,
     .int (int32 d.major),.int (int32 d.minor),.str (some d.diskType),.str d.diskName,
     .str d.diskPath]

def printNvmeDiskInfo (d : ScsiDeviceInfo) : Option Str :=
  printf "[N:%d:%d:%d]\t%-32s\t%-12s\t%5d\t%5d\t%-16s\t%-8s\t%-24s\n"
    [.int d.bus,.int d.target,.int d.lun,.str d.model,.str d.rev,.int (int32 d.major),
     .int (int32 d.minor),.str (some d.diskType),.str d.diskName,.str d.diskPath]

def printGenericDiskInfo (d : ScsiDeviceInfo) : Option Str :=
  printf "[%d:%d:%d:%d]\t%-5d\t%-5d\t%-16s\t%-8s\t%-24s\n"
    [.int d.host,.int d.bus,.int d.target,.int d.lun,.int (int32 d.major),.int (int32 d.minor),
     .str (some d.diskType),.str d.diskName,.str d.diskPath]

def printMpathDiskInfo (d : ScsiDeviceInfo) : Option Str :=
  printf "[%d:%d:%d:%d]\t%-5d\t%-5d\t%-8s\t%-24s\n"
    [.int d.host,.int d.bus,.int d.target,.int d.lun,.int (int32 d.major),.int (int32 d.minor),
     .str d.diskName,.str d.diskPath]

def printEnclosureInfo (d : ScsiDeviceInfo) : Option Str :=
  printf "[%-s]\t%-16s\t%-16s\t%-16s\t%-16s \n"
    [.str d.diskName,.str d.vendor,.str d.model,.str (some d.diskType),.str d.diskPath]

def textOf : Out → Option Str
  | .commandLabel label => printCommandLabel label
  | .diskHeader => printDiskHeader
  | .nvmeDiskHeader => printNvmeDiskHeader
  | .genericDiskHeader => printGenericDiskHeader
  | .mpathDiskHeader => printMpathDiskHeader
  | .enclosureHeader => printEnclosureHeader
  | .diskInfo d => printDiskInfo d
  | .nvmeDiskInfo d => printNvmeDiskInfo d
  | .genericDiskInfo d => printGenericDiskInfo d
  | .mpathDiskInfo d => printMpathDiskInfo d
  | .enclosureInfo d => printEnclosureInfo d
  | .info t => some (t ++ ['\n'])
  | .error _ => some []
  | _ => none

def told : Event → Option Str
  | .out o => textOf o
  | _ => none

def stdout {α : Type} (m : Tool α) (env : Env) : Str := (observed told m env).flatten

/-! ## The cells of a row -/

def nvmeBusId (d : ScsiDeviceInfo) : Str :=
  bracketed ('N' :: ':' :: (decimal d.bus ++ ':' :: (decimal d.target ++ ':' :: decimal d.lun)))

def numbersCells (d : ScsiDeviceInfo) : List Str :=
  [decimal (int32 d.major),decimal (int32 d.minor)]

def nodeCells (d : ScsiDeviceInfo) : List Str := [orNull d.diskName,orNull d.diskPath]

def diskCells (d : ScsiDeviceInfo) : List Str :=
  [busId d,orNull d.vendor,orNull d.model,orNull d.rev] ++ numbersCells d ++
    d.diskType :: nodeCells d

def nvmeCells (d : ScsiDeviceInfo) : List Str :=
  [nvmeBusId d,orNull d.model,orNull d.rev] ++ numbersCells d ++ d.diskType :: nodeCells d

def genericCells (d : ScsiDeviceInfo) : List Str :=
  busId d :: (numbersCells d ++ d.diskType :: nodeCells d)

def mpathCells (d : ScsiDeviceInfo) : List Str := busId d :: (numbersCells d ++ nodeCells d)

def enclosureCells (d : ScsiDeviceInfo) : List Str :=
  [bracketed (orNull d.diskName),orNull d.vendor,orNull d.model,d.diskType,orNull d.diskPath]

def cellsOf : Event → Option (List Str)
  | .out (.diskInfo d) => some (diskCells d)
  | .out (.nvmeDiskInfo d) => some (nvmeCells d)
  | .out (.genericDiskInfo d) => some (genericCells d)
  | .out (.mpathDiskInfo d) => some (mpathCells d)
  | .out (.enclosureInfo d) => some (enclosureCells d)
  | _ => none

theorem cellsOf_quiet : Quiet cellsOf := by
  refine ⟨fun e he => ?_,fun _ => rfl,fun _ => rfl,rfl⟩
  cases e <;> first | rfl | cases he

def PrintsRow (t : Option Str) (cells : List Str) : Prop :=
  ∃ ts, t = some (tabbed ts ++ ['\n']) ∧ (tabbed ts).head? = some '[' ∧
    List.Forall₂ Padded ts cells

def wide (w : ℕ) : Piece := .str ⟨true,false,false,w,none⟩

def number (left : Bool) : Piece := .int ⟨left,false,false,5,none⟩

def busPieces : List Piece :=
  [.char '[',.int {},.char ':',.int {},.char ':',.int {},.char ':',.int {},.char ']']

def nvmeBusPieces : List Piece :=
  [.char '[',.char 'N',.char ':',.int {},.char ':',.int {},.char ':',.int {},.char ']']

theorem render_bus (h b t l : ℤ) (ps : List Piece) (as : List Arg) :
    render (busPieces ++ ps) ([.int h,.int b,.int t,.int l] ++ as) =
      (render ps as).map (bracketed (hctl h b t l) ++ ·) := by
  have hi : ∀ n : ℤ, intText {} n = decimal n := fun n => by rw [intText_blanks, pad_zero]
  simp only [busPieces, List.cons_append, List.nil_append, render_char, render_int, hi]
  cases render ps as <;> simp [bracketed, hctl]

theorem render_nvmeBus (b t l : ℤ) (ps : List Piece) (as : List Arg) :
    render (nvmeBusPieces ++ ps) ([.int b,.int t,.int l] ++ as) = (render ps as).map
      (bracketed ('N' :: ':' :: (decimal b ++ ':' :: (decimal t ++ ':' :: decimal l))) ++ ·) := by
  have hi : ∀ n : ℤ, intText {} n = decimal n := fun n => by rw [intText_blanks, pad_zero]
  simp only [nvmeBusPieces, List.cons_append, List.nil_append, render_char, render_int, hi]
  cases render ps as <;> simp [bracketed]

theorem printsRow_columns {f s : Str} {first : List Piece} {as : List Arg} (cols : List Column)
    (ps : List Piece) (hf : pieces none f = some (first ++ (tabs ps ++ [.char '\n'])))
    (hc : cols.map Column.piece = ps)
    (ht : ∀ qs bs, render (first ++ qs) (as ++ bs) = (render qs bs).map (bracketed s ++ ·)) :
    PrintsRow (printf f (as ++ cols.map Column.arg)) (bracketed s :: cols.map Column.cell) := by
  refine ⟨_,printf_columns cols ps hf hc ht,head?_tabbed _,?_⟩
  rw [List.forall₂_cons, List.forall₂_map_left_iff, List.forall₂_map_right_iff,
    List.forall₂_same]
  exact ⟨padded_refl _,fun c _ => c.padded⟩

theorem printsRow_device (d : ScsiDeviceInfo) :
    PrintsRow (printDiskInfo d) (diskCells d) ∧ PrintsRow (printNvmeDiskInfo d) (nvmeCells d) ∧
      PrintsRow (printGenericDiskInfo d) (genericCells d) ∧
        PrintsRow (printMpathDiskInfo d) (mpathCells d) := by
  refine ⟨?_,?_,?_,?_⟩
  · exact printsRow_columns
      [.text 16 d.vendor,.text 8 d.model,.text 8 d.rev,.number true 5 (int32 d.major),
       .number true 5 (int32 d.minor),.text 16 (some d.diskType),.text 8 d.diskName,
       .text 24 d.diskPath]
      [wide 16,wide 8,wide 8,number true,number true,wide 16,wide 8,wide 24]
      (by decide +kernel) rfl (render_bus _ _ _ _)
  · exact printsRow_columns
      [.text 32 d.model,.text 12 d.rev,.number false 5 (int32 d.major),
       .number false 5 (int32 d.minor),.text 16 (some d.diskType),.text 8 d.diskName,
       .text 24 d.diskPath]
      [wide 32,wide 12,number false,number false,wide 16,wide 8,wide 24]
      (by decide +kernel) rfl (render_nvmeBus _ _ _)
  · exact printsRow_columns
      [.number true 5 (int32 d.major),.number true 5 (int32 d.minor),.text 16 (some d.diskType),
       .text 8 d.diskName,.text 24 d.diskPath]
      [number true,number true,wide 16,wide 8,wide 24]
      (by decide +kernel) rfl (render_bus _ _ _ _)
  · exact printsRow_columns
      [.number true 5 (int32 d.major),.number true 5 (int32 d.minor),.text 8 d.diskName,
       .text 24 d.diskPath]
      [number true,number true,wide 8,wide 24]
      (by decide +kernel) rfl (render_bus _ _ _ _)

theorem printsRow_enclosure (d : ScsiDeviceInfo) :
    PrintsRow (printEnclosureInfo d) (enclosureCells d) := by
  have hp : pieces none (lit "[%-s]\t%-16s\t%-16s\t%-16s\t%-16s \n") = some [.char '[',wide 0,
      .char ']',.char '\t',wide 16,.char '\t',wide 16,.char '\t',wide 16,.char '\t',wide 16,
      .char ' ',.char '\n'] := by
    decide +kernel
  have ha : ∀ (c : Char) (s t : Str), c :: s ++ t = c :: (s ++ t) := fun _ _ _ => by simp
  have hn : ∀ t : Str, [] ++ t = t := fun _ => by simp
  refine ⟨[bracketed (orNull d.diskName),pad true 16 (orNull d.vendor),
    pad true 16 (orNull d.model),pad true 16 (orNull (some d.diskType)),
    pad true 16 (orNull d.diskPath) ++ [' ']],?_,head?_tabbed _,?_⟩
  · rw [printEnclosureInfo, printf_of_pieces hp]
    simp only [wide, render_nil, render_char, render_str, strText_whole, pad_zero, orNull,
      tabbed_cons, tabbed_singleton, bracketed, Option.map_some, List.append_assoc, ha, hn]
  · simp [enclosureCells, padded_pad, padded_refl, padded_blank, orNull]

/-! ## Reading a table back -/

/-- The output stands on lines of its own, of which a reader of rows sees its cells. -/
structure Reads (o : Out) (t : Str) : Prop where
  lines : Lines t
  rows : readTable '[' t = (cellsOf (.out o)).toList.map (·.map trim)

def Tabular (e : Event) : Prop := ∀ o, e = .out o → ∃ t, textOf o = some t ∧ Reads o t

theorem reads_row {o : Out} {cells : List Str} (hp : PrintsRow (textOf o) cells)
    (hc : cellsOf (.out o) = some cells) (h : ∀ c ∈ cells, Clean c) : Tabular (.out o) := by
  obtain ⟨ts,ht,hm,hp⟩ := hp
  intro o' ho
  obtain rfl : o = o' := Event.out.inj ho
  refine ⟨_,ht,.inr ⟨_,rfl⟩,?_⟩
  rw [readTable_padded hm hp h, hc]
  rfl

theorem reads_closed {o : Out} (hc : cellsOf (.out o) = none)
    (h : ((textOf o).map fun t => (t.getLast?,readTable '[' t)) = some (some '\n',[])) :
    Tabular (.out o) := by
  intro o' ho
  obtain rfl : o = o' := Event.out.inj ho
  obtain ⟨t,ht,he⟩ := Option.map_eq_some_iff.mp h
  obtain ⟨hl,hr⟩ := Prod.mk.inj he
  obtain ⟨s,hs⟩ := List.getLast?_eq_some_iff.mp hl
  exact ⟨t,ht,.inr ⟨s,hs⟩,by rw [hr, hc]; rfl⟩

theorem reads_info {t : Str} (h : readTable '[' (t ++ ['\n']) = []) : Tabular (.out (.info t)) := by
  intro o ho
  obtain rfl : Out.info t = o := Event.out.inj ho
  exact ⟨_,rfl,.inr ⟨t,rfl⟩,h⟩

theorem tabular_of_isOut {e : Event} (h : isOut e = false) : Tabular e := by
  intro o ho
  rw [ho] at h
  cases h

@[simp] theorem tabular_opened (h : Handle) (m : Mode) : Tabular (.opened h m) :=
  tabular_of_isOut rfl

@[simp] theorem tabular_closed (h : Handle) : Tabular (.closed h) := tabular_of_isOut rfl

@[simp] theorem tabular_nullUse (s : Sink) : Tabular (.nullUse s) := tabular_of_isOut rfl

@[simp] theorem tabular_overrun (b : Buf) : Tabular (.overrun b) := tabular_of_isOut rfl

@[simp] theorem tabular_device (f : Device) (arg : Option Str) : Tabular (.device f arg) :=
  tabular_of_isOut rfl

@[simp] theorem tabular_error (t : Str) : Tabular (.out (.error t)) := by
  intro o ho
  obtain rfl : Out.error t = o := Event.out.inj ho
  exact ⟨[],rfl,.inl rfl,readTable_nil⟩

theorem reading_tabular : Reading Tabular := ⟨by simp,by simp,by simp⟩

/-- The output of a table's run is read back as the cells of the rows that were printed. -/
theorem read_stdout {α : Type} {m : Tool α} {env : Env} (h : Emits Tabular m env) :
    readTable '[' (stdout m env) = (observed cellsOf m env).map (·.map trim) := by
  unfold stdout observed
  have hl : ∀ es : List Event, (∀ e ∈ es, Tabular e) →
      readTable '[' (es.filterMap told).flatten = (es.filterMap cellsOf).map (·.map trim) := by
    intro es
    induction es with
    | nil => simp
    | cons e es ih =>
      intro he
      rw [List.forall_mem_cons] at he
      cases e with
      | out o =>
        obtain ⟨t,ht,hr⟩ := he.1 o rfl
        rw [List.filterMap_cons_some (show told (.out o) = some t from ht), List.flatten_cons,
          readTable_append hr.lines, hr.rows, ih he.2]
        cases hc : cellsOf (.out o) with
        | none => rw [List.filterMap_cons_none hc]; rfl
        | some cells => rw [List.filterMap_cons_some hc]; rfl
      | _ => exact ih he.2
  exact hl _ h

/-! ## Records of a tidy machine -/

variable {env : Env}

/-- A machine whose names, attributes and undefined texts stay within a cell. -/
structure Tidy (env : Env) : Prop where
  names : ∀ path l, env.dir path = some l → ∀ e ∈ l.entries, Clean e.dName
  files : ∀ path b, env.file path = .bytes b → '\t' ∉ b
  wild : ∀ s, Clean (env.wild.text s)

theorem clean_sublist {s t : Str} (h : Clean t) (hs : s.Sublist t) : Clean s :=
  ⟨fun hm => h.1 (hs.mem hm),fun hm => h.2 (hs.mem hm)⟩

theorem clean_append {s t : Str} (hs : Clean s) (ht : Clean t) : Clean (s ++ t) :=
  ⟨by simp [hs.1, ht.1],by simp [hs.2, ht.2]⟩

theorem clean_texts : (∀ p ∈ devTypeStr, Clean p.2) ∧
    ∀ s ∈ [lit "(null)",lit "/",lit "/dev/",lit " Invalid disk name ",lit "NVMe Generic",
      lit "SCSI Generic",lit "Unknow Device",SYSFS_BLOCK_PATH,SYSFS_SCSI_GEN_PATH,DEV_DIR_PATH,
      SYSFS_ENCLOSURE_PATH], Clean s := by
  decide +kernel

theorem clean_decimal (n : ℤ) : Clean (decimal n) :=
  ⟨mark_not_mem_decimal (by unfold Mark; decide) n,mark_not_mem_decimal (by unfold Mark; decide) n⟩

theorem lineBytes_sublist (k : ℕ) (b : Str) : (lineBytes k b).Sublist b := by
  induction k generalizing b with
  | zero => simp [lineBytes]
  | succ k ih =>
    cases b with
    | nil => simp [lineBytes]
    | cons c b =>
      rw [lineBytes]
      split
      · simp
      · exact (ih b).cons_cons c

theorem clean_line (hT : Tidy env) {path p : Str} (h : line env path = some p) : Clean p := by
  obtain ⟨q,hq,rfl⟩ := Option.map_eq_some_iff.mp h
  obtain ⟨fp,hs,hf⟩ := Option.bind_eq_some_iff.mp hq
  refine ⟨fun hm => ?_,fun hm => by simpa using List.mem_takeWhile_imp hm⟩
  have hm : '\t' ∈ q := (List.takeWhile_sublist _).mem hm
  unfold stream at hs
  cases hb : env.file path with
  | absent => simp [hb] at hs
  | unreadable =>
    obtain rfl : fp = none := by simpa [hb, eq_comm] using hs
    cases hf
  | bytes b =>
    obtain rfl : fp = some b := by simpa [hb, eq_comm] using hs
    cases b with
    | nil => cases hf
    | cons c b =>
      obtain rfl : cString (lineBytes 63 (c :: b)) = q := Option.some.inj hf
      have ht : '\t' ∈ lineBytes 63 (c :: b) := (List.takeWhile_sublist _).mem hm
      exact hT.files path _ hb ((lineBytes_sublist _ _).mem ht)

theorem expand_sublist {s t : Str} (h : expand s = some t) : t.Sublist s := by
  fun_induction expand s generalizing t with
  | case1 =>
    obtain rfl : [] = t := Option.some.inj h
    exact .slnil
  | case2 s ih =>
    obtain ⟨t',ht,rfl⟩ := Option.map_eq_some_iff.mp h
    exact ((ih ht).cons _).cons_cons _
  | case3 => cases h
  | case4 c s hc ih =>
    obtain ⟨t',ht,rfl⟩ := Option.map_eq_some_iff.mp h
    exact (ih ht).cons_cons c

theorem clean_format (hT : Tidy env) {p : Str} (hp : Clean p) : Clean (env.format p) := by
  unfold Env.format
  cases h : expand p with
  | none => exact hT.wild p
  | some t => exact clean_sublist hp (expand_sublist h)

theorem clean_cut {s : Str} (h : Clean s) (size : ℕ) : Clean (cut size s) :=
  clean_sublist h (List.take_sublist _ _)

theorem clean_text (hT : Tidy env) {σ : Type} {a : Attr σ} (ha : Plain a) {path u : Str}
    (hu : Attr.text env path a = some u) : Clean u := by
  have hf : Clean (((line env path).map env.format).getD []) := by
    cases h : line env path with
    | none => exact ⟨List.not_mem_nil,List.not_mem_nil⟩
    | some p => exact clean_format hT (clean_line hT h)
  have hn : Clean (orNull (line env path)) := by
    cases h : line env path with
    | none => exact clean_texts.2 (lit "(null)") (by simp)
    | some p => exact clean_line hT h
  rw [Attr.text, ha.1, if_neg (by simp)] at hu
  cases hc : a.copy with
  | bounded size =>
    rw [hc] at hu
    exact Option.some.inj hu ▸ clean_cut hf size
  | unbounded b =>
    rw [hc] at hu
    exact Option.some.inj hu ▸ hf
  | argument size =>
    rw [hc] at hu
    exact Option.some.inj hu ▸ clean_cut hn size
  | direct => exact absurd hc ha.2

structure Neat (d : ScsiDeviceInfo) : Prop where
  vendor : Clean (orNull d.vendor)
  model : Clean (orNull d.model)
  rev : Clean (orNull d.rev)
  diskType : Clean d.diskType
  name : Clean (orNull d.diskName)
  path : Clean (orNull d.diskPath)

theorem neat_loadAll (hT : Tidy env) {pathOf : Str → Str} {rows : List (Attr ScsiDeviceInfo)}
    (hp : ∀ a ∈ rows, Plain a ∧ ∀ u d, Clean u → Neat d → Neat (a.store u d))
    {d t : ScsiDeviceInfo} (hd : Neat d) (ht : Returns (loadAll pathOf rows d) env t) : Neat t := by
  induction rows generalizing d with
  | nil =>
    obtain rfl : t = d := (returns_pure _ _ _).mp ht
    exact hd
  | cons a rows ih =>
    rw [List.forall_mem_cons] at hp
    rw [loadAll, List.foldlM_cons, returns_bind] at ht
    obtain ⟨s,hs,ht⟩ := ht
    obtain ⟨u,hu,rfl⟩ := (returns_load _ _ _ _).mp hs
    exact ih hp.2 (hp.1.2 u d (clean_text hT hp.1.1 hu) hd) ht

theorem neat_row {a : Attr ScsiDeviceInfo} (h : a ∈ [vendorRow 32,modelRow 32,
      revRow "device/rev" 32,revRow "device/firmware_rev" 32,vendorRow 8,modelRow 8,typeRow,
      enclosureTypeRow]) :
    Plain a ∧ ∀ u d, Clean u → Neat d → Neat (a.store u d) := by
  simp only [List.mem_cons, List.not_mem_nil, or_false] at h
  rcases h with rfl | rfl | rfl | rfl | rfl | rfl | rfl | rfl
  all_goals refine ⟨by simp [vendorRow, modelRow, revRow, typeRow, enclosureTypeRow, Plain],?_⟩
  all_goals rintro u d hu ⟨h1,h2,h3,h4,h5,h6⟩
  · exact ⟨hu,h2,h3,h4,h5,h6⟩
  · exact ⟨h1,hu,h3,h4,h5,h6⟩
  · exact ⟨h1,h2,hu,h4,h5,h6⟩
  · exact ⟨h1,h2,hu,h4,h5,h6⟩
  · exact ⟨hu,h2,h3,h4,h5,h6⟩
  · exact ⟨h1,hu,h3,h4,h5,h6⟩
  all_goals
    have hn : ∀ n, Neat { d with deviceType := n } := fun _ => ⟨h1,h2,h3,h4,h5,h6⟩
    exact hn _

theorem neat_named {path : Str} (hp : Clean path) {e : Dirent} (he : Clean e.dName) :
    Neat (named path e) := by
  have hn : Clean (orNull none) := clean_texts.2 (lit "(null)") (by simp)
  have hs : Clean (lit "/") := clean_texts.2 _ (by simp)
  exact ⟨hn,hn,hn,⟨List.not_mem_nil,List.not_mem_nil⟩,he,
    clean_cut (clean_append (clean_append hp hs) he) 512⟩

theorem neat_nameDiskType {d : ScsiDeviceInfo} (h : Neat d) : Neat (nameDiskType d) := by
  have hc : Clean (devTypeToDevName d.deviceType) := by
    unfold devTypeToDevName
    split
    · rename_i p hp
      exact clean_texts.1 p (List.mem_of_find?_eq_some hp)
    · exact clean_texts.2 _ (by simp)
  exact ⟨h.vendor,h.model,h.rev,clean_cut hc 32,h.name,h.path⟩

theorem neat_deviceNumbers (name : Str) {d : ScsiDeviceInfo} (hd : Neat d) :
    ∃ t, Returns (getDeviceNumbers name d) env t ∧ Neat t := by
  simp only [getDeviceNumbers, returns_bind, returns_store, exists_eq_left, returns_ask]
  generalize env.openFd _ = n
  generalize env.stat _ = o
  by_cases h0 : n = 0
  · exact ⟨d,by simp [h0],hd⟩
  · cases o with
    | none => exact ⟨d,by simp [h0],hd⟩
    | some p =>
      exact ⟨{ d with major := p.1, minor := p.2 },by simp [h0],
        hd.vendor,hd.model,hd.rev,hd.diskType,hd.name,hd.path⟩

theorem neat_assignHctl {d : ScsiDeviceInfo} (hd : Neat d) (xs : List ℤ) :
    Neat (assignHctl d xs) := by
  obtain ⟨h1,h2,h3,h4,h5,h6⟩ := hd
  unfold assignHctl
  split <;> exact ⟨h1,h2,h3,h4,h5,h6⟩

theorem neat_hctlLoop (es : List Dirent) {d : ScsiDeviceInfo} (hd : Neat d) :
    Neat (hctlLoop es d).2 := by
  induction es generalizing d with
  | nil => exact hd
  | cons e es ih =>
    rw [hctlLoop]
    split
    · exact ih hd
    · dsimp only
      split
      · exact neat_assignHctl hd _
      · exact ih (neat_assignHctl hd _)

theorem neat_locate {e : Dirent} {d t : ScsiDeviceInfo} (hd : Neat d)
    (ht : Returns (locate e d) env t) : Neat t := by
  obtain ⟨s,hs,hn⟩ := @neat_deviceNumbers env e.dName d hd
  have hi : ∃ r u, Returns (getHctlInfo s) env (r,u) ∧ Neat u := by
    simp only [getHctlInfo, returns_bind, returns_opendir, exists_eq_left]
    generalize cut 256 _ = path
    cases env.dir path with
    | none => exact ⟨-enodev,s,by simp,hn⟩
    | some l => exact ⟨_,_,by simp; rfl,neat_hctlLoop l.entries hn⟩
  obtain ⟨r,u,hu,hnu⟩ := hi
  have hl : Returns (locate e d) env u := by
    simp only [locate, returns_bind]
    exact ⟨s,hs,(r,u),hu,by simp⟩
  exact returns_unique hl ht ▸ hnu

/-! ## The runs -/

theorem tabular_invalidName {name : Str} (h : Clean name) : Tabular (.out (.info
    ("\n Invalid disk name " ++ ("/dev/" ++ name) ++ "/" ++ name ++ "\n"))) := by
  have ht : lit "\n Invalid disk name " ++ (lit "/dev/" ++ name) ++ lit "/" ++ name ++ lit "\n" ++
      ['\n'] = [] ++ '\n' :: (((lit " Invalid disk name " ++ (lit "/dev/" ++ name) ++ lit "/" ++
        name) ++ ['\n']) ++ '\n' :: []) := by
    simp [lit]
  have hl : Clean (lit " Invalid disk name " ++ (lit "/dev/" ++ name) ++ lit "/" ++ name) := by
    have hc := clean_texts.2
    exact clean_append (clean_append (clean_append (hc _ (by simp))
      (clean_append (hc _ (by simp)) h)) (hc _ (by simp))) h
  have hh : (lit " Invalid disk name " ++ (lit "/dev/" ++ name) ++ lit "/" ++ name).head? =
      some ' ' := by
    simp [lit]
  apply reads_info
  rw [ht, readTable_append_newline, readTable_append_newline, readTable_line hl.2, hh]
  simp

theorem tabular_locate {e : Dirent} (he : Clean e.dName) (d : ScsiDeviceInfo) :
    Emits Tabular (locate e d) env := by
  have hi := tabular_invalidName he
  simp only [List.append_assoc] at hi
  have hn : Emits Tabular (getDeviceNumbers e.dName d) env := by
    simp only [getDeviceNumbers]
    cases h : env.stat (lit "/dev/" ++ e.dName) <;> simp [h, hi]
  have hh : ∀ t, Emits Tabular (getHctlInfo t) env := fun t => by
    simp only [getHctlInfo, emits_bind, returns_opendir, forall_eq]
    split <;> simp
  simp [locate, hn, hh]

theorem tabular_loadAll (pathOf : Str → Str) (d : ScsiDeviceInfo)
    {rows : List (Attr ScsiDeviceInfo)} :
    Emits Tabular (loadAll pathOf rows d) env := emits_loadAll reading_tabular _ _ (by simp)

theorem clean_bracketed {s : Str} (h : Clean s) : Clean (bracketed s) := by
  obtain ⟨ht,hn⟩ := h
  constructor <;> simp [bracketed, ht, hn]

theorem clean_busId (d : ScsiDeviceInfo) : Clean (busId d) := by
  have hd := clean_decimal
  apply clean_bracketed
  constructor <;> simp [hctl, (hd _).1, (hd _).2]

theorem clean_nvmeBusId (d : ScsiDeviceInfo) : Clean (nvmeBusId d) := by
  have hd := clean_decimal
  apply clean_bracketed
  constructor <;> simp [(hd _).1, (hd _).2]

/-- The records that the print functions are given fill cells only. -/
theorem tabular_print {d : ScsiDeviceInfo} (h : Neat d) :
    Tabular (.out (.diskInfo d)) ∧ Tabular (.out (.nvmeDiskInfo d)) ∧
      Tabular (.out (.genericDiskInfo d)) ∧ Tabular (.out (.mpathDiskInfo d)) ∧
        Tabular (.out (.enclosureInfo d)) := by
  have hb := clean_busId d
  have hv := clean_nvmeBusId d
  have hd := clean_decimal
  have he := clean_bracketed h.name
  obtain ⟨h1,h2,h3,h4,h5,h6⟩ := h
  obtain ⟨p1,p2,p3,p4⟩ := printsRow_device d
  refine ⟨reads_row p1 rfl ?_,reads_row p2 rfl ?_,reads_row p3 rfl ?_,reads_row p4 rfl ?_,
    reads_row (printsRow_enclosure d) rfl ?_⟩
  all_goals simp [diskCells, nvmeCells, genericCells, mpathCells, enclosureCells, numbersCells,
    nodeCells, *]

theorem neat_getDiskType (hT : Tidy env) {d t : ScsiDeviceInfo} (h : Neat d)
    (ht : Returns (getDiskType d) env t) : Neat t :=
  neat_loadAll hT (by simp only [List.forall_mem_cons]; exact ⟨neat_row (by simp),by simp⟩) h ht

theorem neat_vendorModel (hT : Tidy env) {d t : ScsiDeviceInfo} (h : Neat d)
    (ht : Returns (getDiskVendorModel d) env t) : Neat t :=
  neat_loadAll hT (fun a ha => neat_row (by simp at ha ⊢; tauto)) h ht

theorem neat_nvmeModel (hT : Tidy env) {d t : ScsiDeviceInfo} (h : Neat d)
    (ht : Returns (getNvmeDeviceModel d) env t) : Neat t :=
  neat_loadAll hT (fun a ha => neat_row (by simp at ha ⊢; tauto)) h ht

theorem tabular_blockRow (hT : Tidy env) {e : Dirent} (he : Clean e.dName) :
    Emits Tabular (blockRow e) env := by
  simp only [blockRow, emits_bind, emits_print]
  refine ⟨tabular_loadAll _ _,fun d hd => ⟨tabular_locate he _,fun s hs =>
    ⟨tabular_loadAll _ _,fun t ht => (tabular_print ?_).1⟩⟩⟩
  have h1 := neat_getDiskType hT (neat_named (clean_texts.2 SYSFS_BLOCK_PATH (by simp)) he) hd
  exact neat_vendorModel hT (neat_locate (neat_nameDiskType h1) hs) ht

theorem tabular_nvmeRow (hT : Tidy env) {e : Dirent} (he : Clean e.dName) :
    Emits Tabular (nvmeRow e) env := by
  have hn := neat_named (clean_texts.2 SYSFS_BLOCK_PATH (by simp)) he
  have h1 : Neat (nameDiskType
      { named SYSFS_BLOCK_PATH e with deviceType := DIRECT_ACCESS_BLOCK_DEVICE }) :=
    neat_nameDiskType ⟨hn.vendor,hn.model,hn.rev,hn.diskType,hn.name,hn.path⟩
  simp only [nvmeRow, emits_bind, emits_print]
  exact ⟨tabular_locate he _,fun s hs => ⟨tabular_loadAll _ _,fun t ht =>
    (tabular_print (neat_nvmeModel hT (neat_locate h1 hs) ht)).2.1⟩⟩

theorem tabular_genericRow (hT : Tidy env) {e : Dirent} (he : Clean e.dName) :
    Emits Tabular (genericRow e) env := by
  have hn := neat_named (clean_texts.2 DEV_DIR_PATH (by simp)) he
  have h1 : Neat { named DEV_DIR_PATH e with deviceType := GENERIC_DEV } :=
    ⟨hn.vendor,hn.model,hn.rev,hn.diskType,hn.name,hn.path⟩
  have hc : Clean
      (if strncmpEq e.dName "ng" 2 then lit "NVMe Generic" else lit "SCSI Generic") := by
    split <;> exact clean_texts.2 _ (by simp)
  simp only [genericRow, emits_bind, emits_print]
  refine ⟨tabular_locate he _,fun s hs => ⟨tabular_loadAll _ _,fun t ht =>
    (tabular_print ?_).2.2.1⟩⟩
  obtain ⟨g1,g2,g3,-,g5,g6⟩ := neat_locate h1 hs
  have h2 : Neat { s with
      diskType := if strncmpEq e.dName "ng" 2 then lit "NVMe Generic" else lit "SCSI Generic" } :=
    ⟨g1,g2,g3,hc,g5,g6⟩
  exact neat_vendorModel hT h2 ht

theorem tabular_mpathRow (hT : Tidy env) {e : Dirent} (he : Clean e.dName) :
    Emits Tabular (mpathRow e) env := by
  have hn := neat_named (clean_texts.2 SYSFS_BLOCK_PATH (by simp)) he
  have h1 : Neat { named SYSFS_BLOCK_PATH e with deviceType := UNKNOWN_DEVICE } :=
    ⟨hn.vendor,hn.model,hn.rev,hn.diskType,hn.name,hn.path⟩
  simp only [mpathRow, emits_bind, emits_print]
  exact ⟨tabular_locate he _,fun s hs => ⟨tabular_loadAll _ _,fun t ht =>
    (tabular_print (neat_vendorModel hT (neat_locate h1 hs) ht)).2.2.2.1⟩⟩

theorem tabular_controllerRow (hT : Tidy env) {e : Dirent} (he : Clean e.dName) :
    Emits Tabular (controllerRow e) env := by
  simp only [controllerRow, emits_bind]
  refine ⟨tabular_loadAll _ _,fun d hd => ⟨tabular_locate he _,fun s hs =>
    ⟨tabular_loadAll _ _,fun t ht => ?_⟩⟩⟩
  have h1 := neat_getDiskType hT (neat_named (clean_texts.2 SYSFS_SCSI_GEN_PATH (by simp)) he) hd
  have h2 := tabular_print (neat_vendorModel hT (neat_locate (neat_nameDiskType h1) hs) ht)
  split
  · exact (emits_print _).mpr h2.1
  · exact emits_pure _ _ _

theorem neat_enclosureRecord {e : Dirent} (he : Clean e.dName) : Neat (enclosureRecord e) := by
  have h0 : Neat allocScsiDev := by
    have hn : Clean (orNull none) := clean_texts.2 (lit "(null)") (by simp)
    have h0 : Clean [] := ⟨List.not_mem_nil,List.not_mem_nil⟩
    exact ⟨hn,hn,hn,h0,hn,hn⟩
  have hs : Clean (lit "/") := clean_texts.2 _ (by simp)
  obtain ⟨h1,h2,h3,h4,-,-⟩ := neat_assignHctl h0 (scanColon 4 e.dName)
  exact ⟨h1,h2,h3,h4,he,
    clean_cut (clean_append (clean_append (clean_texts.2 SYSFS_ENCLOSURE_PATH (by simp)) hs) he)
      128⟩

theorem tabular_enclosureLoop (hT : Tidy env) {es : List Dirent} (he : ∀ e ∈ es, Clean e.dName) :
    Emits Tabular (enclosureLoop es) env := by
  induction es with
  | nil => simp [enclosureLoop]
  | cons e es ih =>
    rw [List.forall_mem_cons] at he
    have hv : Emits Tabular (validateEnclosureType (enclosureRecord e)) env := by
      simp [validateEnclosureType, tabular_loadAll]
    have hg : ∀ d, Emits Tabular (getEnclosureDetails d) env := fun d => by
      simp [getEnclosureDetails, tabular_loadAll]
    rw [enclosureLoop, emits_ite]
    refine ⟨fun _ => ?_,fun _ => ih he.2⟩
    rw [emits_bind]
    refine ⟨hv,fun p hp => ?_⟩
    have hn : Neat p.2 := by
      simp only [validateEnclosureType, returns_bind] at hp
      obtain ⟨d,hd,hp⟩ := hp
      have h1 : Neat d := neat_loadAll hT
        (by simp only [List.forall_mem_cons]; exact ⟨neat_row (by simp),by simp⟩)
        (neat_enclosureRecord he.1) hd
      split at hp
      · obtain rfl : p = _ := (returns_pure _ _ _).mp hp
        exact neat_nameDiskType h1
      · obtain rfl : p = _ := (returns_pure _ _ _).mp hp
        exact h1
    dsimp only
    rw [emits_ite]
    refine ⟨fun _ => emits_pure _ _ _,fun _ => ?_⟩
    rw [emits_bind]
    refine ⟨hg _,fun q hq => ?_⟩
    have hm : Neat q.2 := by
      simp only [getEnclosureDetails, returns_bind] at hq
      obtain ⟨_,-,_,-,hq⟩ := hq
      split at hq
      · obtain rfl : q = _ := (returns_pure _ _ _).mp hq
        exact hn
      · rw [returns_bind] at hq
        obtain ⟨d,hd,hq⟩ := hq
        obtain rfl : q = _ := (returns_pure _ _ _).mp hq
        exact neat_loadAll hT (fun a ha => neat_row (by simp at ha ⊢; tauto)) hn hd
    rw [emits_bind, emits_print]
    refine ⟨(tabular_print hm).2.2.2.2,fun _ _ => ?_⟩
    rw [emits_ite]
    exact ⟨fun _ => by simp,fun _ => ih he.2⟩

theorem tabular_rows (hT : Tidy env) {path : Str} {l : Listing} (hl : env.dir path = some l)
    {test : Dirent → Bool} {body : Dirent → Tool Unit}
    (hb : ∀ e, Clean e.dName → Emits Tabular (body e) env) :
    Emits Tabular (rows test body l.entries) env := by
  refine emits_foldlM _ _ _ _ _ fun _ e he => ?_
  have hc : Clean e.dName := hT.names path l hl e (List.mem_of_mem_filter he)
  cases test e <;> simp [hb e hc]

theorem tabular_headers : (∀ o ∈ [Out.diskHeader,.nvmeDiskHeader,.genericDiskHeader,
      .mpathDiskHeader,.enclosureHeader], Tabular (.out o)) ∧
    (∀ l ∈ [lit "block",lit "nvme-block",lit "Multipath Devices",lit "Generic Devices",
      lit "Disk Controller",lit "Enclosure"], Tabular (.out (.commandLabel l))) ∧
    Tabular (.out (.info "\n No Block device configured \n")) := by
  simp only [List.forall_mem_cons]
  refine ⟨⟨?_,?_,?_,?_,?_,by simp⟩,⟨?_,?_,?_,?_,?_,?_,by simp⟩,reads_info (by decide +kernel)⟩
  all_goals exact reads_closed rfl (by decide +kernel)

theorem tabular_listing (hT : Tidy env) {f : Device} {path label : Str} {header : Out}
    {test : Dirent → Bool} {body : Dirent → Tool Unit} (hl : Tabular (.out (.commandLabel label)))
    (hh : Tabular (.out header)) (hb : ∀ e, Clean e.dName → Emits Tabular (body e) env) :
    Emits Tabular (listing f path label header test body) env := by
  cases hd : env.dir path with
  | none => simp [listing, hd]
  | some l => simp [listing, hd, hl, hh, tabular_rows hT hd hb]

def tables : List Str := ["disk","multipath","generic","controller","enclosure"]

theorem tabular_table (hT : Tidy env) {sub : Str} (hs : sub ∈ tables) :
    ∃ m, Lists sub m ∧ Emits Tabular m env := by
  obtain ⟨hh,hl,hi⟩ := tabular_headers
  simp only [tables, List.mem_cons, List.not_mem_nil, or_false] at hs
  rcases hs with rfl | rfl | rfl | rfl | rfl
  · refine ⟨_,.disk,?_⟩
    cases hd : env.dir SYSFS_BLOCK_PATH with
    | none => simp [listBlockDevs, hd, hi]
    | some l =>
      have hr := fun test => @tabular_rows env hT _ l hd test _ fun e he => tabular_blockRow hT he
      have hn := fun test => @tabular_rows env hT _ l hd test _ fun e he => tabular_nvmeRow hT he
      simp [listBlockDevs, hd, hr, hn, hh, hl]
  · exact ⟨_,.multipath,tabular_listing hT (hl _ (by simp)) (hh _ (by simp))
      fun _ => tabular_mpathRow hT⟩
  · exact ⟨_,.generic,tabular_listing hT (hl _ (by simp)) (hh _ (by simp))
      fun _ => tabular_genericRow hT⟩
  · exact ⟨_,.controller,tabular_listing hT (hl _ (by simp)) (hh _ (by simp))
      fun _ => tabular_controllerRow hT⟩
  · refine ⟨_,.enclosure,?_⟩
    cases hd : env.dir SYSFS_ENCLOSURE_PATH with
    | none => simp [listEnclosure, hd]
    | some l =>
      have he := tabular_enclosureLoop hT (hT.names _ _ hd)
      simp [listEnclosure, hd, he, hh, hl]

theorem emits_main_lists {Q : Event → Prop} {sub : Str} {m : Tool ℤ} (h : Lists sub m)
    {a₀ : Str} {rest : List Str} (h0 : Returns (main (a₀ :: "list" :: sub :: rest)) env 0)
    (hq : Q (.handler .cmdList) ∧ Q (.validated "list" sub true)) (hm : Emits Q m env) :
    Emits Q (main (a₀ :: "list" :: sub :: rest)) env := by
  obtain ⟨hw,hl⟩ := @known_word .cmdList (lit "list") (by simp [cmdStr])
  have hr : Returns m env 0 := (@run_lists env Unit sub m h a₀ rest).2.mp h0
  have hc : parseCmd (a₀ :: lit "list" :: sub :: rest) =
      cmdList (a₀ :: lit "list" :: sub :: rest) := hl _ _
  have hp : Returns (parseCmd (a₀ :: lit "list" :: sub :: rest)) env 0 := by
    rw [hc, cmdList_lists h]
    simpa using hr
  have hh : Returns (handleCmd (a₀ :: lit "list" :: sub :: rest)) env 0 := by
    simpa using returns_handleCmd_parse hw.1 hw.2 hp
  have he : Emits Q (handleCmd (a₀ :: lit "list" :: sub :: rest)) env := by
    rw [handleCmd_parse hw.1 hw.2, emits_bind_at hp, hc, cmdList_lists h]
    simp [hq.1, hq.2, hm]
  simp only [main, List.length_cons]
  rw [if_neg (by omega), emits_bind_at hh]
  exact ⟨he,by simp [enotty]⟩

def paddedVendor : Env :=
  { Env.bare with
    dir := fun p => if p = SYSFS_BLOCK_PATH then
      some (Listing.ofEntries [RowIsolation.sda] (by simp) (by simp [RowIsolation.sda, lit])
        (by simp [RowIsolation.sda, lit])) else none
    file := fun p =>
      if p = lit "/sys/block/sda/device/vendor" then .bytes (lit "ACME    \n") else .absent }

theorem tidy_paddedVendor : Tidy paddedVendor := by
  refine ⟨fun path l hl e he => ?_,fun path b hb => ?_,fun _ => ⟨List.not_mem_nil,List.not_mem_nil⟩⟩
  · have hc : ∀ e ∈ [dotEntry,dotdotEntry,RowIsolation.sda], Clean e.dName := by decide +kernel
    simp only [paddedVendor] at hl
    split at hl
    · obtain rfl := Option.some.inj hl
      exact hc e he
    · cases hl
  · simp only [paddedVendor] at hb
    split at hb
    · obtain rfl := FileState.bytes.inj hb
      decide +kernel
    · cases hb

theorem list_paddedVendor : Returns (main ["scsi-cli","list","disk"]) paddedVendor 0 := by
  have hs : Returns listBlockDevs paddedVendor 0 := by
    simpa [paddedVendor] using @status_listBlockDevs paddedVendor
  exact (@run_lists paddedVendor Unit _ _ .disk (lit "scsi-cli") []).2.mpr hs

end ScsiCli.PrintedTables
