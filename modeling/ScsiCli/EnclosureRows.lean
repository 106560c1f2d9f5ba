import ScsiCli.IscsiRows
import ScsiCli.Listings

/-!
# Rows of the enclosures

The type of an enclosure is read from a path that is cut to 31 bytes, of which
the directory of the class alone takes most, and the loop over the entries ends
at the first it takes.
-/

set_option autoImplicit false

namespace ScsiCli.EnclosureRows
open ScsiCli.RunTrace ScsiCli.ByteString ScsiCli.NumberText ScsiCli.Records ScsiCli.Machine
open ScsiCli.SysfsUtils ScsiCli.DiskUtils ScsiCli.MachineRules ScsiCli.Gatherers
open ScsiCli.Completion ScsiCli.Requests ScsiCli.Listings ScsiCli.IscsiRows

variable {env : Env}

def rowOf : Event → Option (Option Str × Str)
  | .out (.enclosureInfo d) => some (enclosureRow d)
  | _ => none

def rowsShown (env : Env) : List (Option Str × Str) := observed rowOf listEnclosure env

def enclosures (env : Env) : List Dirent :=
  (allEntries env SYSFS_ENCLOSURE_PATH).filter fun e => e.dType ≠ .dir

def ownType (env : Env) (e : Dirent) : ℤ :=
  int32 (strtol (firstLine env (SYSFS_ENCLOSURE_PATH ++ "/" ++ e.dName ++ "/device/type")))

def rowsDue (env : Env) : List (Option Str × Str) :=
  ((enclosures env).filter fun e => knownType (ownType env e)).map fun e =>
    (some e.dName,devTypeToDevName (ownType env e))

/-- Every path is the disk path and the file, and the rows are those that are due. -/
structure ListsAll (env : Env) : Prop where
  paths : ∀ e ∈ enclosures env, enclosureTypePath (enclosureRecord e) "device/type" =
    orNull (enclosureRecord e).diskPath ++ "/device/type"
  rows : rowsShown env = rowsDue env

/-- The first enclosure is the only one with a row due and gets its name from the cut path,
or none is due and none is shown. -/
def FirstOnly (env : Env) : Prop :=
  match enclosures env with
  | [] => True
  | e :: _ =>
    if knownType (enclosureType env e) then
      rowsDue env = [(some e.dName,devTypeToDevName (enclosureType env e))]
    else rowsDue env = []

/-! ## The rows that are shown -/

theorem rowOf_quiet : Quiet rowOf := by
  refine ⟨fun e he => ?_,fun _ => rfl,fun _ => rfl,rfl⟩
  cases e <;> first | rfl | cases he

theorem length_devTypeToDevName_lt (n : ℤ) : (devTypeToDevName n).length < 32 := by
  have ht : ∀ d ∈ devTypeStr, d.2.length < 32 := by decide +kernel
  unfold devTypeToDevName
  split
  · next d hd => exact ht d (List.mem_of_find?_eq_some hd)
  · simp [lit]

theorem typedRow_eq (e : Dirent) :
    typedRow env e = (some e.dName,devTypeToDevName (enclosureType env e)) :=
  congrArg (Prod.mk _) (cut_of_length_lt (length_devTypeToDevName_lt _))

theorem rowsShown_eq (env : Env) : rowsShown env =
    match enclosures env with
    | [] => []
    | e :: _ => if knownType (enclosureType env e) then
        [(some e.dName,devTypeToDevName (enclosureType env e))] else [] := by
  have ho := (@returns_opendir env SYSFS_ENCLOSURE_PATH _).mpr rfl
  rw [rowsShown, listEnclosure, observed_emit_bind, rowOf_quiet.output _ rfl,
    observed_bind_of_returns _ _ ho, quiet_gathers rowOf_quiet (by simp : Emits Gathers
      (opendir SYSFS_ENCLOSURE_PATH) env), enclosures, allEntries]
  cases env.dir SYSFS_ENCLOSURE_PATH with
  | none => rfl
  | some l =>
    have hl := @observed_enclosureLoop env _ _ rowOf_quiet some (fun _ => rfl) l.entries
    have hh : rowOf (.out .enclosureHeader) = none := rfl
    have hc : rowOf (.out (.commandLabel "Enclosure")) = none := rfl
    simp only [Option.map_some, Option.getD_some, print, observed_emit_bind, hh, hc, hl,
      typedRow_eq, ← List.head?_filter]
    cases l.entries.filter fun e => decide (e.dType ≠ .dir) <;> rfl

theorem rows_iff (env : Env) : rowsShown env = rowsDue env ↔ FirstOnly env := by
  rw [rowsShown_eq, FirstOnly]
  cases he : enclosures env with
  | nil => simp [rowsDue, he]
  | cons e es =>
    dsimp only
    split
    · exact eq_comm
    · exact eq_comm

/-! ## The paths that are opened -/

theorem path_cut (e : Dirent) : enclosureTypePath (enclosureRecord e) "device/type" ≠
    orNull (enclosureRecord e).diskPath ++ "/device/type" := by
  have hd : (orNull (enclosureRecord e).diskPath).length = min 127 (21+e.dName.length) := by
    simp [orNull, enclosureRecord, cut, SYSFS_ENCLOSURE_PATH, lit]
    omega
  have ht : (lit "/device/type").length = 12 := by simp [lit]
  intro h
  have hl := congrArg List.length h
  have hc := cut_length_le 32 (orNull (enclosureRecord e).diskPath ++ "/" ++ lit "device/type")
  rw [List.length_append] at hl
  unfold enclosureTypePath at hl
  omega

/-- Everything is as it should be where there is no enclosure; the rows alone are where at most
the first has one. -/
theorem enclosures_listed_iff (env : Env) :
    (ListsAll env ↔ ∀ e ∈ allEntries env SYSFS_ENCLOSURE_PATH, e.dType = .dir) ∧
      (rowsShown env = rowsDue env ↔ FirstOnly env) := by
  have hn : (∀ e ∈ allEntries env SYSFS_ENCLOSURE_PATH, e.dType = .dir) ↔ enclosures env = [] := by
    simp [enclosures, List.filter_eq_nil_iff]
  constructor
  · rw [hn]
    constructor
    · intro h
      cases he : enclosures env with
      | nil => rfl
      | cons e es => exact absurd (h.paths e (by simp [he])) (path_cut e)
    · intro he
      constructor
      · simp [he]
      · rw [rows_iff, FirstOnly, he]
        trivial
  · exact rows_iff env

/-! ## Two enclosures -/

def first : Dirent := ⟨lit "0:0:8:0",.lnk,by decide +kernel⟩

def second : Dirent := ⟨lit "0:0:9:0",.lnk,by decide +kernel⟩

def twoEnclosures : Env :=
  { Env.bare with
    dir := fun _ => some (Listing.ofEntries [first,second] (by decide +kernel) (by decide +kernel)
      (by decide +kernel))
    file := fun _ => .bytes (lit "13\n") }

theorem two_enclosures_not_listed : (rowsDue twoEnclosures).length = 2 ∧
    (rowsShown twoEnclosures).length = 1 ∧ ¬ListsAll twoEnclosures := by
  have hd : (rowsDue twoEnclosures).length = 2 := by decide +kernel
  have hs : (rowsShown twoEnclosures).length = 1 := by
    rw [rowsShown_eq]
    decide +kernel
  refine ⟨hd,hs,fun h => ?_⟩
  rw [h.rows] at hs
  omega

end ScsiCli.EnclosureRows
