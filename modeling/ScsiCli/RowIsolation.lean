import ScsiCli.DeviceReach
import ScsiCli.Listings

/-!
# One device's files are one row's business

The rows of a listing are made one by one from fresh records. What the files of
one device say, and whether they are there at all, is seen in the row of that
device and in no other. The order in which a directory is read is the order of
the rows, and changes nothing else in them.
-/

set_option autoImplicit false

namespace ScsiCli.RowIsolation
open ScsiCli.RunTrace ScsiCli.Footprint ScsiCli.ByteString ScsiCli.NumberText ScsiCli.Records
open ScsiCli.Machine ScsiCli.SysfsUtils ScsiCli.DiskUtils ScsiCli.Commands ScsiCli.MachineRules
open ScsiCli.Gatherers ScsiCli.Completion ScsiCli.Requests ScsiCli.Listings ScsiCli.Reach
open ScsiCli.DeviceReach

variable {env env' : Env}

/-! ## The files of one device -/

/-- The entry of a device in the directory of its class, and its node. -/
def Owned (path name p : Str) : Prop :=
  Extends (path ++ lit "/" ++ name) p ∨ p = lit "/dev" ++ lit "/" ++ name

def childOf (path p : Str) : Str := (p.drop (path.length+1)).takeWhile (· ≠ '/')

theorem childOf_extends {path name p : Str} (hn : '/' ∉ name)
    (h : Extends (path ++ lit "/" ++ name) p) : childOf path p = name := by
  have hd : ∀ rest : Str, (path ++ lit "/" ++ rest).drop (path.length+1) = rest := fun rest => by
    have hl : (path ++ lit "/").length = path.length+1 := by simp [lit]
    rw [← hl, List.drop_left]
  have hc : ∀ c ∈ name, decide (c ≠ '/') = true := fun c hc =>
    decide_eq_true fun he => hn (he ▸ hc)
  rcases h with rfl | ⟨rest,rfl⟩
  · rw [childOf, hd, List.takeWhile_eq_self_iff]
    exact hc
  · have hr : path ++ lit "/" ++ name ++ lit "/" ++ rest =
        path ++ lit "/" ++ (name ++ '/' :: rest) := by simp [lit]
    rw [childOf, hr, hd, List.takeWhile_append_of_pos hc]
    simp

theorem prefix_of_extends {root p : Str} (h : Extends root p) : root <+: p := by
  rcases h with rfl | h
  · exact List.prefix_refl _
  · exact (List.prefix_append _ _).trans h

theorem extends_apart {root root' p : Str} (k : ℕ) (hr : k ≤ root.length) (hr' : k ≤ root'.length)
    (hk : root.take k ≠ root'.take k) (h : Extends root p) (h' : Extends root' p) : False := by
  obtain ⟨s,hs⟩ := prefix_of_extends h
  obtain ⟨s',hs'⟩ := prefix_of_extends h'
  have ht := congrArg (List.take k) (hs.trans hs'.symm)
  rw [List.take_append_of_le_length hr, List.take_append_of_le_length hr'] at ht
  exact hk ht

def rowClasses : List (Str × Str) :=
  [("disk",SYSFS_BLOCK_PATH), ("multipath",SYSFS_BLOCK_PATH), ("controller",SYSFS_SCSI_GEN_PATH),
   ("generic",DEV_DIR_PATH)]

theorem class_path {sub path : Str} (h : (sub,path) ∈ rowClasses) :
    path = SYSFS_BLOCK_PATH ∨ path = SYSFS_SCSI_GEN_PATH ∨ path = DEV_DIR_PATH := by
  simp only [rowClasses, List.mem_cons, Prod.mk.injEq, List.not_mem_nil, or_false] at h
  rcases h with ⟨-,rfl⟩ | ⟨-,rfl⟩ | ⟨-,rfl⟩ | ⟨-,rfl⟩ <;> simp

theorem rowAdmits_other {path : Str}
    (hp : path = SYSFS_BLOCK_PATH ∨ path = SYSFS_SCSI_GEN_PATH ∨ path = DEV_DIR_PATH)
    {e e₀ : Dirent} (he : e.dName ≠ e₀.dName) :
    RowAdmits (fun p => ¬Owned path e₀.dName p) path e.dName := by
  have hn := e.name_ok.2.1
  have hn₀ := e₀.name_ok.2.1
  -- A path below the entries of both devices would have both names first.
  have hne : ∀ dir p, Extends (dir ++ lit "/" ++ e.dName) p →
      ¬Extends (dir ++ lit "/" ++ e₀.dName) p := fun dir p h h₀ =>
    he ((childOf_extends hn h).symm.trans (childOf_extends hn₀ h₀))
  -- The directory of nodes and those of classes part at their second byte.
  have hdev : ∀ name name' p, Extends (lit "/dev" ++ lit "/" ++ name) p →
      Extends (path ++ lit "/" ++ name') p → path = DEV_DIR_PATH := fun name name' p h h' => by
    rcases hp with rfl | rfl | rfl
    · exact (extends_apart 2 (by simp [lit]) (by simp [SYSFS_BLOCK_PATH, lit])
        (by simp [SYSFS_BLOCK_PATH, lit]) h h').elim
    · exact (extends_apart 2 (by simp [lit]) (by simp [SYSFS_SCSI_GEN_PATH, lit])
        (by simp [SYSFS_SCSI_GEN_PATH, lit]) h h').elim
    · rfl
  refine ⟨fun p h ho => ?_,fun ho => ?_,fun p h ho => ?_⟩
  · rcases ho with h₀ | rfl
    · exact hne path p h h₀
    · obtain rfl := hdev _ _ _ (extends_refl _) h
      exact hne _ _ h (extends_refl _)
  · rcases ho with h₀ | h₀
    · obtain rfl := hdev _ _ _ (extends_refl _) h₀
      exact hne _ _ (extends_refl _) h₀
    · exact hne (lit "/dev") _ (extends_refl _) (h₀ ▸ extends_refl _)
  · rcases ho with h₀ | rfl
    · rcases hp with rfl | rfl | rfl
      · exact extends_apart 6 (by simp [lit]) (by simp [SYSFS_BLOCK_PATH, lit])
          (by simp [SYSFS_BLOCK_PATH, lit]) h h₀
      · exact extends_apart 6 (by simp [lit]) (by simp [SYSFS_SCSI_GEN_PATH, lit])
          (by simp [SYSFS_SCSI_GEN_PATH, lit]) h h₀
      · exact extends_apart 2 (by simp [lit]) (by simp [DEV_DIR_PATH, lit])
          (by simp [DEV_DIR_PATH, lit]) h h₀
    · exact extends_apart 2 (by simp [lit]) (by simp [lit]) (by simp [lit]) h
        (extends_refl (lit "/dev" ++ lit "/" ++ e₀.dName))

theorem class_not_owned {path : Str}
    (hp : path = SYSFS_BLOCK_PATH ∨ path = SYSFS_SCSI_GEN_PATH ∨ path = DEV_DIR_PATH)
    (name : Str) : ¬Owned path name path := by
  rintro (h | h)
  · have hl := (prefix_of_extends h).length_le
    simp only [List.length_append, lit] at hl
    simp at hl
    omega
  · rcases hp with rfl | rfl | rfl
    · simp [SYSFS_BLOCK_PATH, lit] at h
    · simp [SYSFS_SCSI_GEN_PATH, lit] at h
    · simp [DEV_DIR_PATH, lit] at h

/-! ## Rows -/

def rowOf : Event → Option (Option Str × Out)
  | .out (.diskInfo d) => some (d.diskName,.diskInfo d)
  | .out (.nvmeDiskInfo d) => some (d.diskName,.nvmeDiskInfo d)
  | .out (.genericDiskInfo d) => some (d.diskName,.genericDiskInfo d)
  | .out (.mpathDiskInfo d) => some (d.diskName,.mpathDiskInfo d)
  | _ => none

theorem rowOf_quiet : Quiet rowOf := by
  refine ⟨fun e he => ?_,fun _ => rfl,fun _ => rfl,rfl⟩
  cases e <;> first | rfl | cases he

theorem lineOf_of_rowOf {ev : Event} {r : Option Str × Out} (h : rowOf ev = some r) :
    lineOf ev = some (.row r.1) := by
  cases ev with
  | out o => cases o <;> simp_all [rowOf, lineOf] <;> rw [← h]
  | _ => simp [rowOf] at h

theorem name_of_row {m : Tool Unit} {n : Option Str}
    (hl : ∀ l ∈ observed lineOf m env, l = .row n) {r : Option Str × Out}
    (hr : r ∈ observed rowOf m env) : r.1 = n := by
  obtain ⟨ev,hev,he⟩ := List.mem_filterMap.mp hr
  have hm : Line.row r.1 ∈ observed lineOf m env :=
    List.mem_filterMap.mpr ⟨ev,hev,lineOf_of_rowOf he⟩
  exact Line.row.inj (hl _ hm)

def others (name : Str) (env : Env) {α : Type} (m : Tool α) : List (Option Str × Out) :=
  (observed rowOf m env).filter fun r => r.1 ≠ some name

/-- A body that prints rows about its entry and reads only what belongs to the entry. -/
structure RowBody (path : Str) (body : Dirent → Tool Unit) : Prop where
  survives : ∀ env e, Survives (body e) env
  named : ∀ env e, ∀ l ∈ observed lineOf (body e) env, l = .row (some e.dName)
  stays : ∀ {P env env'}, AlikeOn P env env' → ∀ {e}, RowAdmits P path e.dName →
    Stays P env env' none (body e)

theorem rowBody_blockRow : RowBody SYSFS_BLOCK_PATH blockRow :=
  ⟨fun _ => survives_blockRow,fun _ e l hl => by simpa [lines_blockRow] using hl,
    fun h _ hp => stays_blockRow h hp⟩

theorem rowBody_nvmeRow : RowBody SYSFS_BLOCK_PATH nvmeRow :=
  ⟨fun _ => survives_nvmeRow,fun _ e l hl => by simpa [lines_nvmeRow] using hl,
    fun h _ hp => stays_nvmeRow h hp⟩

theorem rowBody_mpathRow : RowBody SYSFS_BLOCK_PATH mpathRow :=
  ⟨fun _ => survives_mpathRow,fun _ e l hl => by simpa [lines_mpathRow] using hl,
    fun h _ hp => stays_mpathRow h hp⟩

theorem rowBody_genericRow : RowBody DEV_DIR_PATH genericRow :=
  ⟨fun _ => survives_genericRow,fun _ e l hl => by simpa [lines_genericRow] using hl,
    fun h _ hp => stays_genericRow h hp⟩

theorem rowBody_controllerRow : RowBody SYSFS_SCSI_GEN_PATH controllerRow := by
  refine ⟨fun _ => survives_controllerRow,fun env e l hl => ?_,
    fun h _ hp => stays_controllerRow h hp⟩
  rw [lines_controllerRow] at hl
  split at hl
  · exact List.mem_singleton.mp hl
  · cases hl

theorem rows_listing (env : Env) {path : Str} {body : Dirent → Tool Unit} (hb : RowBody path body)
    (f : Device) (label : Str) {header : Out} (hh : rowOf (.out header) = none)
    (test : Dirent → Bool) : observed rowOf (listing f path label header test body) env =
      ((env.dir path).map fun l => observed rowOf (rows test body l.entries) env).getD [] := by
  have hr := @observed_rows env _ rowOf body _ (hb.survives env) (fun _ => rfl) test
  have hl : rowOf (.out (.commandLabel label)) = none := rfl
  simp only [observed_listing (hb.survives env) (fun _ => rfl) rowOf_quiet, hl, hh, hr]
  rfl

section
variable {path : Str} {e₀ : Dirent}
variable (hc : path = SYSFS_BLOCK_PATH ∨ path = SYSFS_SCSI_GEN_PATH ∨ path = DEV_DIR_PATH)
variable (h : AlikeOn (fun p => ¬Owned path e₀.dName p) env env')
include hc h

/-- Two machines that differ in one device only have the same rows but for its own. -/
theorem others_row {body : Dirent → Tool Unit} (hb : RowBody path body) (e : Dirent) :
    others e₀.dName env' (body e) = others e₀.dName env (body e) := by
  by_cases he : e.dName = e₀.dName
  · have hn : ∀ env, others e₀.dName env (body e) = [] := fun env => by
      rw [others, List.filter_eq_nil_iff]
      intro r hr
      simpa [he] using name_of_row (hb.named env e) hr
    rw [hn, hn]
  · have hs := (hb.stays h (rowAdmits_other hc he)).same
    rw [others, others, observed, observed, hs]

theorem others_rows {body : Dirent → Tool Unit} (hb : RowBody path body) (test : Dirent → Bool)
    (es : List Dirent) :
    others e₀.dName env' (rows test body es) = others e₀.dName env (rows test body es) := by
  have hr := fun env => observed_rows (hb.survives env) (fun e => rfl : ∀ e,
    observed rowOf (body e) env = observed rowOf (body e) env) test es
  rw [others, others, hr, hr, List.filter_flatMap, List.filter_flatMap]
  refine List.flatMap_congr fun e _ => ?_
  cases test e with
  | false => rfl
  | true => exact others_row hc h hb e

theorem others_listing {body : Dirent → Tool Unit} (hb : RowBody path body) (f : Device)
    (label : Str) {header : Out} (hh : rowOf (.out header) = none) (test : Dirent → Bool) :
    others e₀.dName env' (listing f path label header test body) =
      others e₀.dName env (listing f path label header test body) := by
  have ho := fun env => rows_listing env hb f label hh test
  rw [others, others, ho, ho, h.dir path (class_not_owned hc _)]
  cases env.dir path with
  | none => rfl
  | some l => exact others_rows hc h hb test l.entries

end

theorem observed_listBlockDevs {β : Type} {p : Event → Option β} (hp : Quiet p)
    (hl : ∀ t, p (.out (.commandLabel t)) = none) (hh : p (.out .diskHeader) = none)
    (hn : p (.out .nvmeDiskHeader) = none) (env : Env) : observed p listBlockDevs env =
    ((env.dir SYSFS_BLOCK_PATH).map fun l => observed p (rows isSd blockRow l.entries) env ++
      observed p (rows isNvme nvmeRow l.entries) env).getD [] := by
  have hd := hp.output (.device .listBlockDevs none) rfl
  have hc := hp.output (.closed (.dir SYSFS_BLOCK_PATH)) rfl
  have ho := (@returns_opendir env SYSFS_BLOCK_PATH _).mpr rfl
  have hq : observed p (opendir SYSFS_BLOCK_PATH) env = [] := quiet_gathers hp (by simp)
  rw [listBlockDevs, observed_emit_bind, hd, observed_bind_of_returns _ _ ho, hq]
  cases hb : env.dir SYSFS_BLOCK_PATH with
  | none => simp [printInfo, print, hp.info]
  | some l =>
    obtain ⟨u,hu⟩ := survives_rows (@survives_blockRow env) isSd l.entries
    rw [hb] at ho
    simp only [Option.map_some, Option.getD_some, print, closedir, observed_emit_bind] at ho ⊢
    rw [observed_bind_of_returns _ _ hu, observed_emit_bind, observed_bind_of_returns _ _ ho, hq]
    simp only [observed_emit_bind]
    rw [observed_bind_of_silent]
    · simp [hl, hh, hn, hc]
    · simp [hc]

theorem others_listBlockDevs {e₀ : Dirent}
    (h : AlikeOn (fun p => ¬Owned SYSFS_BLOCK_PATH e₀.dName p) env env') :
    others e₀.dName env' listBlockDevs = others e₀.dName env listBlockDevs := by
  have hc : SYSFS_BLOCK_PATH = SYSFS_BLOCK_PATH ∨ SYSFS_BLOCK_PATH = SYSFS_SCSI_GEN_PATH ∨
    SYSFS_BLOCK_PATH = DEV_DIR_PATH := .inl rfl
  have ho := observed_listBlockDevs rowOf_quiet (fun _ => rfl) rfl rfl
  rw [others, others, ho, ho, h.dir SYSFS_BLOCK_PATH (class_not_owned hc _)]
  cases env.dir SYSFS_BLOCK_PATH with
  | none => rfl
  | some l =>
    have hs := others_rows hc h rowBody_blockRow isSd l.entries
    have hn := others_rows hc h rowBody_nvmeRow isNvme l.entries
    simp only [others] at hs hn
    simp only [Option.map_some, Option.getD_some, List.filter_append, hs, hn]

def sda : Dirent := ⟨lit "sda",.lnk,by simp [lit, nul]⟩

def sdb : Dirent := ⟨lit "sdb",.lnk,by simp [lit, nul]⟩

def vendorMachine (vendor : FileState) : Env :=
  { Env.bare with
    dir := fun p => if p = SYSFS_BLOCK_PATH then
      some (Listing.ofEntries [sda,sdb] (by simp [sda, sdb, lit]) (by simp [sda, sdb, lit])
        (by simp [sda, sdb, lit])) else none
    file := fun p => if p = lit "/sys/block/sdb/device/vendor" then vendor else .absent }

/-- The directory has the same entries in both machines, or is in neither. -/
def SameEntries (path : Str) (env env' : Env) : Prop :=
  Option.Rel (fun l l' : Listing => l.entries.Perm l'.entries) (env.dir path) (env'.dir path)

theorem rowAdmits_class {path : Str}
    (hp : path = SYSFS_BLOCK_PATH ∨ path = SYSFS_SCSI_GEN_PATH ∨ path = DEV_DIR_PATH)
    (name : Str) : RowAdmits (fun p => p ≠ path) path name := by
  have hn := class_not_owned hp name
  refine ⟨fun p h he => hn (.inl (he ▸ h)),fun he => hn (.inr he.symm),fun p h he => ?_⟩
  have hl := (prefix_of_extends h).length_le
  subst he
  rcases hp with rfl | rfl | rfl
  · exact absurd hl (by simp [SYSFS_BLOCK_PATH, lit])
  · exact extends_apart 6 (by simp [lit]) (by simp [SYSFS_SCSI_GEN_PATH, lit])
      (by simp [SYSFS_SCSI_GEN_PATH, lit]) h (extends_refl SYSFS_SCSI_GEN_PATH)
  · exact absurd hl (by simp [DEV_DIR_PATH, lit])

section
variable {path : Str}
variable (hc : path = SYSFS_BLOCK_PATH ∨ path = SYSFS_SCSI_GEN_PATH ∨ path = DEV_DIR_PATH)
variable (h : AlikeOn (fun p => p ≠ path) env env')
include hc h

theorem perm_rows {body : Dirent → Tool Unit} (hb : RowBody path body) (test : Dirent → Bool)
    {es es' : List Dirent} (hp : es.Perm es') :
    (observed rowOf (rows test body es') env').Perm (observed rowOf (rows test body es) env) := by
  have hs : ∀ e, observed rowOf (body e) env' = observed rowOf (body e) env := fun e => by
    rw [observed, observed, (hb.stays h (rowAdmits_class hc _)).same]
  rw [observed_rows (hb.survives env') hs, observed_rows (hb.survives env) fun _ => rfl]
  exact ((hp.filter _).flatMap_right _).symm

theorem perm_listing (hd : SameEntries path env env') {body : Dirent → Tool Unit}
    (hb : RowBody path body) (f : Device) (label : Str) {header : Out}
    (hh : rowOf (.out header) = none) (test : Dirent → Bool) :
    (observed rowOf (listing f path label header test body) env').Perm
      (observed rowOf (listing f path label header test body) env) := by
  rw [rows_listing env' hb f label hh, rows_listing env hb f label hh]
  unfold SameEntries at hd
  generalize env.dir path = o, env'.dir path = o' at hd
  cases hd with
  | none => exact .refl _
  | some hp => exact perm_rows hc h hb test hp

end

theorem perm_listBlockDevs (h : AlikeOn (fun p => p ≠ SYSFS_BLOCK_PATH) env env')
    (hd : SameEntries SYSFS_BLOCK_PATH env env') :
    (observed rowOf listBlockDevs env').Perm (observed rowOf listBlockDevs env) := by
  have ho := observed_listBlockDevs rowOf_quiet (fun _ => rfl) rfl rfl
  have hb := fun es es' => @perm_rows env env' _ (.inl rfl) h _ rowBody_blockRow isSd es es'
  have hn := fun es es' => @perm_rows env env' _ (.inl rfl) h _ rowBody_nvmeRow isNvme es es'
  rw [ho, ho]
  unfold SameEntries at hd
  generalize env.dir SYSFS_BLOCK_PATH = o, env'.dir SYSFS_BLOCK_PATH = o' at hd
  cases hd with
  | none => exact .refl _
  | some hp => exact (hb _ _ hp).append (hn _ _ hp)

def twoDisks (first : Bool) : Env :=
  { Env.bare with
    dir := fun p => if p = SYSFS_BLOCK_PATH then
      some (if first then Listing.ofEntries [sda,sdb] (by simp [sda, sdb, lit])
        (by simp [sda, sdb, lit]) (by simp [sda, sdb, lit])
      else Listing.ofEntries [sdb,sda] (by simp [sda, sdb, lit]) (by simp [sda, sdb, lit])
        (by simp [sda, sdb, lit])) else none }

end ScsiCli.RowIsolation
