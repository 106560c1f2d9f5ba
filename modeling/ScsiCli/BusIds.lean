import Mathlib.Data.List.GetD
import ScsiCli.DiskRows
import ScsiCli.HctlLookup

/-!
# Bus ids of generic devices

A row's bus id is looked up by the numbers of the node, in the directory of
the block devices. A generic device is a character device: what is found there
is the address of another device, or nothing, and then the id stays zero.
-/

set_option autoImplicit false

namespace ScsiCli.BusIds
open ScsiCli.RunTrace ScsiCli.ByteString ScsiCli.NumberText ScsiCli.Records ScsiCli.Machine
open ScsiCli.SysfsUtils ScsiCli.DiskUtils ScsiCli.MachineRules ScsiCli.Gatherers
open ScsiCli.Completion ScsiCli.Requests ScsiCli.Listings ScsiCli.Printing ScsiCli.SessionLuns
open ScsiCli.HctlLookup

variable {env : Env}

def bracketed (s : Str) : Str := '[' :: (s ++ [']'])

def busId (d : ScsiDeviceInfo) : Str := bracketed (hctl d.host d.bus d.target d.lun)

def rowOf : Event → Option (Option Str × Str)
  | .out (.diskInfo d) | .out (.genericDiskInfo d) => some (d.diskName,busId d)
  | _ => none

def sgName (n : ℕ) : Str := lit "sg" ++ Nat.toDigits 10 n

def rowsShown (env : Env) : List (Option Str × Str) :=
  observed rowOf listControllers env ++ observed rowOf listGenericDevs env

def Node (env : Env) (n : ℕ) : Prop :=
  (∃ e ∈ allEntries env SYSFS_SCSI_GEN_PATH, e.dName = sgName n) ∨
    ∃ e ∈ allEntries env DEV_DIR_PATH, e.dName = sgName n

def sgAddressPath (n : ℕ) : Str :=
  SYSFS_SCSI_GEN_PATH ++ "/" ++ sgName n ++ "/device/scsi_device"

structure Addressed (env : Env) (addr : ℕ → SessionLuns.Address) : Prop where
  own : ∀ n, Node env n → ∃ e ∈ allEntries env (sgAddressPath n), Names e (addr n)
  distinct : ∀ m n, Node env m → Node env n → addr m = addr n → m = n

/-- Each row of a node shows its address, and no two nodes' rows are alike. -/
structure Identifies (env : Env) (addr : ℕ → SessionLuns.Address) : Prop where
  own : ∀ n t, (some (sgName n),t) ∈ rowsShown env → t = bracketed (addr n).name
  apart : ∀ m n t, (some (sgName m),t) ∈ rowsShown env → (some (sgName n),t) ∈ rowsShown env →
    m = n

def HasRow (env : Env) (n : ℕ) : Prop :=
  (∃ e ∈ allEntries env SYSFS_SCSI_GEN_PATH, e.dName = sgName n ∧
    entryType env SYSFS_SCSI_GEN_PATH e = STORAGE_ARRAY_CNTROLLER) ∨
    ∃ e ∈ allEntries env DEV_DIR_PATH, e.dName = sgName n

/-- The numbers of a node, zero where they cannot be had. -/
def deviceNumbers (env : Env) (name : Str) : ℕ × ℕ :=
  if env.openFd ("/dev/" ++ name) = 0 then (0,0) else (env.stat ("/dev/" ++ name)).getD (0,0)

def blockPath (p : ℕ × ℕ) : Str := hctlPath { major := p.1, minor := p.2 }

/-- The address is found under the numbers of a block device: as the first one listed there, in
the last numbers read in each place, or as zeros. -/
def LeadsTo (env : Env) (p : ℕ × ℕ) (a : SessionLuns.Address) : Prop :=
  match env.dir (blockPath p) with
  | none => a = ⟨0,0,0,0⟩
  | some l =>
    match l.entries.find? readsFour with
    | some e => scanColon 4 e.dName = numbers a
    | none => ∀ k < 4, (readAt k l.entries).getLast?.getD 0 = (numbers a).getD k 0

/-! ## The lookup -/

def found (env : Env) (p : ℕ × ℕ) : List ℤ :=
  match env.dir (blockPath p) with
  | none => [0,0,0,0]
  | some l => fields (hctlLoop l.entries {}).2

theorem fields_hctlLoop_congr {d t : ScsiDeviceInfo} (h : fields d = fields t)
    (entries : List Dirent) :
    fields (hctlLoop entries d).2 = fields (hctlLoop entries t).2 := by
  cases hf : entries.find? readsFour with
  | none =>
    apply List.ext_getElem?
    intro k
    rw [(hctlLoop_missed hf d).2, (hctlLoop_missed hf t).2, h]
  | some e => rw [(hctlLoop_found hf d).2, (hctlLoop_found hf t).2]

theorem length_found (env : Env) (p : ℕ × ℕ) : (found env p).length = 4 := by
  unfold found
  split <;> rfl

theorem eq_iff_getD {xs ys : List ℤ} (hx : xs.length = 4) (hy : ys.length = 4) :
    xs = ys ↔ ∀ k < 4, xs.getD k 0 = ys.getD k 0 := by
  constructor
  · intro h k _
    rw [h]
  · intro h
    apply List.ext_getElem (by omega)
    intro k hk hk'
    have := h k (by omega)
    rwa [List.getD_eq_getElem _ _ hk, List.getD_eq_getElem _ _ hk'] at this

theorem fields_missed {entries : List Dirent} (h : entries.find? readsFour = none) {k : ℕ}
    (hk : k < 4) :
    (fields (hctlLoop entries {}).2).getD k 0 = (readAt k entries).getLast?.getD 0 := by
  have hz : ∀ k < 4, (fields {})[k]? = some 0 := by decide
  rw [List.getD_eq_getElem?_getD, (hctlLoop_missed h {}).2, hz k hk]
  cases (readAt k entries).getLast? <;> rfl

theorem numbers_zero (a : SessionLuns.Address) : [0,0,0,0] = numbers a ↔ a = ⟨0,0,0,0⟩ := by
  obtain ⟨h,c,t,l⟩ := a
  simp only [numbers, List.cons.injEq, and_true, SessionLuns.Address.mk.injEq]
  omega

theorem found_iff (env : Env) (p : ℕ × ℕ) (a : SessionLuns.Address) :
    found env p = numbers a ↔ LeadsTo env p a := by
  unfold found LeadsTo
  cases env.dir (blockPath p) with
  | none => exact numbers_zero a
  | some l =>
    dsimp only
    cases hf : l.entries.find? readsFour with
    | some e => rw [(hctlLoop_found hf {}).2]
    | none =>
      rw [eq_iff_getD rfl rfl]
      exact forall₂_congr fun k hk => by rw [fields_missed hf hk]

theorem returns_getDeviceNumbers {d : ScsiDeviceInfo} (hn : d.major = 0 ∧ d.minor = 0)
    (name : Str) : Returns (getDeviceNumbers name d) env
      { d with major := (deviceNumbers env name).1, minor := (deviceNumbers env name).2 } := by
  have hd : { d with major := 0, minor := 0 } = d :=
    congrArg₂ (fun a b => { d with major := a, minor := b }) hn.1.symm hn.2.symm
  simp only [getDeviceNumbers, returns_bind, returns_store, exists_eq_left, returns_ask,
    deviceNumbers]
  by_cases h0 : env.openFd (lit "/dev/" ++ name) = 0
  · simp [h0, hd]
  · cases env.stat (lit "/dev/" ++ name) with
    | none => simp [h0, hd]
    | some p => simp [h0]

theorem returns_locate {d : ScsiDeviceInfo} (hn : d.major = 0 ∧ d.minor = 0)
    (hf : fields d = [0,0,0,0]) (e : Dirent) :
    ∃ t, Returns (locate e d) env t ∧ place t = place d ∧
      fields t = found env (deviceNumbers env e.dName) := by
  have hd := @returns_getDeviceNumbers env d hn e.dName
  generalize hp : deviceNumbers env e.dName = p at hd ⊢
  have hfd : fields { d with major := p.1, minor := p.2 } = fields {} := hf
  cases hl : env.dir (blockPath p) with
  | none =>
    have hg : Returns (getHctlInfo { d with major := p.1, minor := p.2 }) env
        (-enodev,{ d with major := p.1, minor := p.2 }) := by
      have hl' : env.dir (cut 256 (lit "/sys/dev/block/" ++ decimal (int32 p.1) ++ lit ":" ++
        decimal (int32 p.2) ++ lit "/device/scsi_device")) = none := hl
      simp only [getHctlInfo, returns_bind, returns_opendir, exists_eq_left, hl', Option.map_none,
        returns_pure]
    refine ⟨{ d with major := p.1, minor := p.2 },?_,rfl,?_⟩
    · rw [locate, returns_bind_at hd, returns_bind_at hg, returns_pure]
    · rw [found, hl, hfd]
      rfl
  | some l =>
    have hg := (@returns_getHctlInfo env { d with major := p.1, minor := p.2 } l hl _).mpr rfl
    refine ⟨(hctlLoop l.entries { d with major := p.1, minor := p.2 }).2,?_,?_,?_⟩
    · rw [locate, returns_bind_at hd, returns_bind_at hg, returns_pure]
    · exact place_hctlLoop _ _
    · rw [found, hl]
      exact fields_hctlLoop_congr hfd _

/-! ## The rows -/

theorem rowOf_quiet : Quiet rowOf := by
  refine ⟨fun e he => ?_,fun _ => rfl,fun _ => rfl,rfl⟩
  cases e <;> first | rfl | cases he

def idText : List ℤ → Str
  | [h,b,t,l] => bracketed (hctl h b t l)
  | _ => []

theorem busId_eq (d : ScsiDeviceInfo) : busId d = idText (fields d) := rfl

theorem bracketed_inj {s t : Str} (h : bracketed s = bracketed t) : s = t :=
  List.append_cancel_right (List.cons.inj h).2

theorem idText_iff {xs : List ℤ} (h : xs.length = 4) (a : SessionLuns.Address) :
    idText xs = bracketed a.name ↔ xs = numbers a := by
  match xs, h with
  | [_,_,_,_], _ =>
    constructor
    · intro he
      obtain ⟨rfl,rfl,rfl,rfl⟩ := hctl_inj (bracketed_inj he)
      rfl
    · intro he
      rw [he]
      rfl

def rowFor (env : Env) (name : Str) : Option Str × Str :=
  (some name,idText (found env (deviceNumbers env name)))

theorem vendorModel_row (d : ScsiDeviceInfo) : ∃ t, Returns (getDiskVendorModel d) env t ∧
    place t = place d ∧ fields t = fields d := by
  obtain ⟨t,ht⟩ := @survives_getDiskVendorModel env d
  have hf := loadAll_frame (fun d => (place d,fields d)) (by
    simp only [List.forall_mem_cons]
    exact ⟨fun _ _ => rfl,fun _ _ => rfl,fun _ _ => rfl,by simp⟩) ht
  exact ⟨t,ht,(Prod.mk.inj hf).1,(Prod.mk.inj hf).2⟩

theorem rows_genericRow (e : Dirent) :
    observed rowOf (genericRow e) env = [rowFor env e.dName] := by
  obtain ⟨t,ht,hp,hf⟩ := @returns_locate env { named DEV_DIR_PATH e with deviceType := GENERIC_DEV }
    ⟨rfl,rfl⟩ rfl e
  obtain ⟨u,hu,hq,hg⟩ := @vendorModel_row env { t with
    diskType := if strncmpEq e.dName "ng" 2 then "NVMe Generic" else "SCSI Generic" }
  have hname : u.diskName = some e.dName := congrArg (·.1) (hq.trans hp)
  have hid : fields u = found env (deviceNumbers env e.dName) := hg.trans hf
  rw [genericRow, observed_bind_of_returns _ _ ht, quiet_gathers rowOf_quiet (gathers_locate _ _),
    observed_bind_of_returns _ _ hu, quiet_gathers rowOf_quiet (gathers_getDiskVendorModel _)]
  simp [rowOf, rowFor, busId_eq, hname, hid]

theorem rows_controllerRow (e : Dirent) : observed rowOf (controllerRow e) env =
    if entryType env SYSFS_SCSI_GEN_PATH e = STORAGE_ARRAY_CNTROLLER then [rowFor env e.dName]
    else [] := by
  have hr : ∀ a ∈ [typeRow], Plain a := by simp [typeRow, Plain]
  have hd : Returns (getDiskType (named SYSFS_SCSI_GEN_PATH e)) env
      { named SYSFS_SCSI_GEN_PATH e with deviceType := entryType env SYSFS_SCSI_GEN_PATH e } :=
    (returns_loadAll_plain hr _ _).mpr rfl
  obtain ⟨t,ht,hp,hf⟩ := @returns_locate env (nameDiskType
    { named SYSFS_SCSI_GEN_PATH e with deviceType := entryType env SYSFS_SCSI_GEN_PATH e })
      ⟨rfl,rfl⟩ rfl e
  obtain ⟨u,hu,hq,hg⟩ := @vendorModel_row env t
  have hname : u.diskName = some e.dName := congrArg (·.1) (hq.trans hp)
  have htype : u.deviceType = entryType env SYSFS_SCSI_GEN_PATH e := congrArg (·.2.2) (hq.trans hp)
  rw [controllerRow, observed_bind_of_returns _ _ hd, quiet_gathers rowOf_quiet
      (gathers_getDiskType _), observed_bind_of_returns _ _ ht,
    quiet_gathers rowOf_quiet (gathers_locate _ _), observed_bind_of_returns _ _ hu,
    quiet_gathers rowOf_quiet (gathers_getDiskVendorModel _), htype]
  split <;> simp [rowOf, rowFor, busId_eq, hname, hg.trans hf]

theorem sgName_listed {e : Dirent} {n : ℕ} (h : e.dName = sgName n) :
    isGeneric e = true ∧ e.dName ≠ lit "." ∧ e.dName ≠ lit ".." := by
  rw [isGeneric, h]
  simp [strncmpEq, sgName, lit]

theorem node_entries (path : Str) (n : ℕ) (P : Dirent → Prop) :
    (∃ e ∈ entriesOf env path, e.dName = sgName n ∧ P e) ↔
      ∃ e ∈ allEntries env path, e.dName = sgName n ∧ P e := by
  unfold entriesOf allEntries
  cases env.dir path with
  | none => simp
  | some l =>
    simp only [Option.map_some, Option.getD_some, forEachDir, List.mem_filter]
    constructor
    · rintro ⟨e,⟨he,-⟩,hn,hp⟩
      exact ⟨e,he,hn,hp⟩
    · rintro ⟨e,he,hn,hp⟩
      obtain ⟨-,h1,h2⟩ := sgName_listed hn
      exact ⟨e,⟨he,by simp [h1, h2]⟩,hn,hp⟩

theorem eq_rowFor_iff (name : Str) (n : ℕ) (t : Str) : (some (sgName n),t) = rowFor env name ↔
    name = sgName n ∧ t = idText (found env (deviceNumbers env (sgName n))) := by
  rw [rowFor, Prod.mk.injEq, Option.some.injEq]
  constructor
  · rintro ⟨rfl,ht⟩
    exact ⟨rfl,ht⟩
  · rintro ⟨rfl,ht⟩
    exact ⟨rfl,ht⟩

theorem mem_controllers (env : Env) (n : ℕ) (t : Str) :
    (some (sgName n),t) ∈ observed rowOf listControllers env ↔
      (∃ e ∈ allEntries env SYSFS_SCSI_GEN_PATH, e.dName = sgName n ∧
        entryType env SYSFS_SCSI_GEN_PATH e = STORAGE_ARRAY_CNTROLLER) ∧
      t = idText (found env (deviceNumbers env (sgName n))) := by
  have hc := mem_listing (@survives_controllerRow env) rows_controllerRow rowOf_quiet
    .listControllers SYSFS_SCSI_GEN_PATH "Disk Controller" .diskHeader (fun _ => true) rfl rfl
    (some (sgName n),t)
  have ho : ∀ e : Dirent, (some (sgName n),t) ∈
      (if entryType env SYSFS_SCSI_GEN_PATH e = STORAGE_ARRAY_CNTROLLER then [rowFor env e.dName]
        else []) ↔ e.dName = sgName n ∧ entryType env SYSFS_SCSI_GEN_PATH e =
          STORAGE_ARRAY_CNTROLLER ∧ t = idText (found env (deviceNumbers env (sgName n))) := by
    intro e
    split
    · next h => simp [eq_rowFor_iff, h]
    · next h => simp [h]
  simp only [ho, true_and] at hc
  rw [listControllers, hc, node_entries]
  simp only [← and_assoc, ← exists_and_right]

theorem mem_generics (env : Env) (n : ℕ) (t : Str) :
    (some (sgName n),t) ∈ observed rowOf listGenericDevs env ↔
      (∃ e ∈ allEntries env DEV_DIR_PATH, e.dName = sgName n) ∧
      t = idText (found env (deviceNumbers env (sgName n))) := by
  have hg := mem_listing (@survives_genericRow env) rows_genericRow rowOf_quiet
    .listGenericDevs DEV_DIR_PATH "Generic Devices" .genericDiskHeader isGeneric rfl rfl
    (some (sgName n),t)
  have ho : ∀ e : Dirent, isGeneric e = true ∧ (some (sgName n),t) ∈ [rowFor env e.dName] ↔
      e.dName = sgName n ∧ t = idText (found env (deviceNumbers env (sgName n))) := by
    intro e
    rw [List.mem_singleton, eq_rowFor_iff]
    constructor
    · exact And.right
    · intro h
      exact ⟨(sgName_listed h.1).1,h⟩
  simp only [ho] at hg
  rw [listGenericDevs, hg, node_entries]
  simp only [← and_assoc, ← exists_and_right]

theorem mem_rowsShown (env : Env) (n : ℕ) (t : Str) : (some (sgName n),t) ∈ rowsShown env ↔
    HasRow env n ∧ t = idText (found env (deviceNumbers env (sgName n))) := by
  rw [rowsShown, List.mem_append, mem_controllers, mem_generics, HasRow, or_and_right]

theorem node_of_row {n : ℕ} (h : HasRow env n) : Node env n := by
  rcases h with ⟨e,he,hn,-⟩ | h
  · exact .inl ⟨e,he,hn⟩
  · exact .inr h

/-- The rows show the addresses of their own devices exactly when the lookup of each node that has
a row leads there. -/
theorem bus_ids_iff {addr : ℕ → SessionLuns.Address} (h : Addressed env addr) :
    Identifies env addr ↔
      ∀ n, HasRow env n → LeadsTo env (deviceNumbers env (sgName n)) (addr n) := by
  have ht : ∀ n, LeadsTo env (deviceNumbers env (sgName n)) (addr n) ↔
      idText (found env (deviceNumbers env (sgName n))) = bracketed (addr n).name := by
    intro n
    rw [idText_iff (length_found _ _), found_iff]
  constructor
  · intro hi n hr
    exact (ht n).mpr (hi.own n _ ((mem_rowsShown env n _).mpr ⟨hr,rfl⟩))
  · intro hl
    have hown : ∀ n t, (some (sgName n),t) ∈ rowsShown env → t = bracketed (addr n).name := by
      intro n t hm
      obtain ⟨hr,rfl⟩ := (mem_rowsShown env n t).mp hm
      exact (ht n).mp (hl n hr)
    constructor
    · exact hown
    · intro m n t hm hn
      have hname : (addr m).name = (addr n).name :=
        bracketed_inj ((hown m t hm).symm.trans (hown n t hn))
      obtain ⟨h1,h2,h3,h4⟩ := hctl_inj hname
      have ha : addr m = addr n := by
        cases hm : addr m
        cases hn : addr n
        simp only [hm, hn] at h1 h2 h3 h4
        simp only [SessionLuns.Address.mk.injEq]
        omega
      exact h.distinct m n (node_of_row ((mem_rowsShown env m t).mp hm).1)
        (node_of_row ((mem_rowsShown env n t).mp hn).1) ha

/-! ## Two controllers -/

def sg2 : Dirent := ⟨sgName 2,.lnk,by decide +kernel⟩

def sg4 : Dirent := ⟨sgName 4,.lnk,by decide +kernel⟩

def address2 : Dirent := ⟨(SessionLuns.Address.mk 2 0 0 0).name,.dir,by decide +kernel⟩

def address4 : Dirent := lun0

def controllers : Env :=
  { Env.bare with
    dir := fun p =>
      if p = SYSFS_SCSI_GEN_PATH then
        some (Listing.ofEntries [sg2,sg4] (by decide +kernel) (by decide +kernel)
          (by decide +kernel))
      else if p = sgAddressPath 2 then
        some (HctlLookup.listing address2 (by decide +kernel) (by decide +kernel))
      else if p = sgAddressPath 4 then
        some (HctlLookup.listing address4 (by decide +kernel) (by decide +kernel))
      else none
    file := fun _ => .bytes (lit "12\n")
    openFd := fun _ => 3
    stat := fun p => if p = lit "/dev/sg2" then some (21,2) else some (21,4) }

def addressOf (n : ℕ) : SessionLuns.Address := if n = 2 then ⟨2,0,0,0⟩ else ⟨3,0,0,0⟩

theorem sgName_inj {m n : ℕ} (h : sgName m = sgName n) : m = n :=
  toDigits_inj (List.append_cancel_left h)

theorem node_controllers {n : ℕ} (h : Node controllers n) : n = 2 ∨ n = 4 := by
  have hs : allEntries controllers SYSFS_SCSI_GEN_PATH = [dotEntry,dotdotEntry,sg2,sg4] := by
    decide +kernel
  have hd : allEntries controllers DEV_DIR_PATH = [] := by decide +kernel
  rcases h with ⟨e,he,hn⟩ | ⟨e,he,-⟩
  · obtain ⟨-,h1,h2⟩ := sgName_listed hn
    rw [hs] at he
    simp only [List.mem_cons, List.not_mem_nil, or_false] at he
    rcases he with rfl | rfl | rfl | rfl
    · exact absurd rfl h1
    · exact absurd rfl h2
    · exact .inl (sgName_inj hn).symm
    · exact .inr (sgName_inj hn).symm
  · rw [hd] at he
    cases he

theorem addressed_controllers : Addressed controllers addressOf where
  own := by
    intro n h
    rcases node_controllers h with rfl | rfl
    · exact ⟨address2,by decide +kernel,rfl,rfl,by decide,by decide,by decide,by decide⟩
    · exact ⟨address4,by decide +kernel,rfl,rfl,by decide,by decide,by decide,by decide⟩
  distinct := by
    intro m n hm hn ha
    rcases node_controllers hm with rfl | rfl <;> rcases node_controllers hn with rfl | rfl <;>
      simp [addressOf] at ha ⊢

theorem bus_ids_iff_controllers : Identifies controllers addressOf ↔ ∀ n, HasRow controllers n →
    LeadsTo controllers (deviceNumbers controllers (sgName n)) (addressOf n) :=
  bus_ids_iff addressed_controllers

theorem controllers_not_identified :
    Addressed controllers addressOf ∧ ¬Identifies controllers addressOf := by
  have h2 : HasRow controllers 2 := .inl ⟨sg2,by decide +kernel,rfl,by decide +kernel⟩
  have h4 : HasRow controllers 4 := .inl ⟨sg4,by decide +kernel,rfl,by decide +kernel⟩
  have hf : found controllers (deviceNumbers controllers (sgName 4)) =
      found controllers (deviceNumbers controllers (sgName 2)) := by decide +kernel
  refine ⟨addressed_controllers,fun h => ?_⟩
  have hr2 := (mem_rowsShown controllers 2 _).mpr ⟨h2,rfl⟩
  have hr4 := (mem_rowsShown controllers 4 _).mpr ⟨h4,rfl⟩
  rw [hf] at hr4
  exact absurd (h.apart 2 4 _ hr2 hr4) (by omega)

end ScsiCli.BusIds
