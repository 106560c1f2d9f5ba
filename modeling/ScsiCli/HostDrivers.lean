import ScsiCli.AttributeNumbers
import ScsiCli.ArrayBounds

/-!
# The driver of a Fibre Channel host

The names of an adapter's attributes depend on its driver. The driver is taken
from the directory of all of them, without a look at the host: the first of
two names that comes there is the driver of every host. A host that cannot be
followed to its record ends the run, for the hosts after it as well.
-/

set_option autoImplicit false

namespace ScsiCli.HostDrivers
open ScsiCli.RunTrace ScsiCli.ByteString ScsiCli.Records ScsiCli.Machine ScsiCli.SysfsUtils
open ScsiCli.FcpUtils ScsiCli.MachineRules ScsiCli.AttributeNumbers ScsiCli.Gatherers
open ScsiCli.Completion ScsiCli.RemotePorts ScsiCli.ArrayBounds ScsiCli.Requests
open ScsiCli.LiteralCopies

variable {env : Env}

inductive Driver where
  | qla2xxx
  | lpfc
  deriving DecidableEq

def Driver.name : Driver → Str
  | .qla2xxx => "qla2xxx"
  | .lpfc => "lpfc"

def adapter (f : FcDeviceInfo) : List (Option Str) :=
  [f.modelDesc, f.productName, f.drvVersion, f.fwVersion, f.portSpeed, f.serialNum]

/-- The same, from the files that the driver of the host keeps it in. -/
def Driver.adapter (env : Env) (f : FcDeviceInfo) : Driver → List (Option Str)
  | .qla2xxx =>
    [some (copied env 64 (scsiHostFile f "model_desc")),
     some (copied env 128 (scsiHostFile f "model_name")),
     some (copied env 128 (scsiHostFile f "driver_version")),
     some (copied env 128 (scsiHostFile f "fw_version")),
     some (copied env 128 (scsiHostFile f "port_speed")),
     some (copied env 128 (scsiHostFile f "serial_num"))]
  | .lpfc =>
    [some (copied env 128 (scsiHostFile f "modeldesc")),
     some (copied env 128 (scsiHostFile f "modelname")),
     some (copied env 128 (moduleFile "lpfc" "version")),
     some (copied env 128 (scsiHostFile f "fwrev")),
     removeSpace (copied env 128 (hostFile f "speed")),
     some (copied env 128 (scsiHostFile f "serialnum"))]

/-- The record is that of the host, with the driver and the attributes of the adapter that
the driver keeps there. -/
structure Own (env : Env) (d : Driver) (name : Str) (f : FcDeviceInfo) : Prop where
  host : f.hostName = some name
  driver : f.driverName = some d.name
  adapter : adapter f = d.adapter env (fcHost name)

def hosts (env : Env) : List Str := (entriesOf env SYSFS_FC_HOST_PATH).map Dirent.dName

def listed : Event → Option FcDeviceInfo
  | .out (.listFcDev f) => some f
  | _ => none

def detailed : Event → Option FcDeviceInfo
  | .out (.fcInfo f) => some f
  | _ => none

/-- The listing has a record of every host, in the order of their class, and the details of
every host come to their end with one; each has the driver of its host. -/
structure OwnDriver (env : Env) (bound : Str → Driver) : Prop where
  listed : List.Forall₂ (fun h f => Own env (bound h) h f) (hosts env)
    (observed listed listFcAdapters env)
  detailed : ∀ h ∈ hosts env, Ends (showFcPortDetails h) env 0 ∧
    ∃ f, observed detailed (showFcPortDetails h) env = [f] ∧ Own env (bound h) h f

/-! ## The attributes that are read -/

theorem adapter_getLinkInfo {f g : FcDeviceInfo} {s : ℤ}
    (h : Returns (getLinkInfo f) env (s,g)) : adapter g = adapter f := by
  have hr : ∀ a ∈ activeModeRow :: hostRows, Frames adapter a := by
    simp [activeModeRow, hostRows, fcText, Frames, adapter]
  rw [frame_getLinkInfo adapter hr h]
  cases linkLine env f <;> rfl

theorem speed_loaded {f g : FcDeviceInfo}
    (h : Returns (loadAll (hostFile f) [lpfcSpeedRow] f) env g) :
    ∃ u, removeSpace (copied env 128 (hostFile f "speed")) = some u ∧
      g = { f with portSpeed := some u } := by
  rw [loadAll, List.foldlM_cons, returns_bind] at h
  obtain ⟨k,hk,h⟩ := h
  obtain rfl : g = k := by simpa using h
  obtain ⟨u,hu,rfl⟩ := (returns_load _ _ _ _).mp hk
  exact ⟨u,hu,rfl⟩

theorem adapter_getFcInfo {d : Driver} {f g : FcDeviceInfo} {s : ℤ}
    (hd : f.driverName = some d.name) (h : Returns (getFcInfo f) env (s,g)) :
    adapter g = d.adapter env f := by
  have hq : ∀ a ∈ qlaRows, Plain a := by simp [qlaRows, fcText, Plain]
  have hl : ∀ a ∈ lpfcRows, Plain a := by simp [lpfcRows, fcText, Plain]
  have hv : ∀ a ∈ [lpfcVersionRow], Plain a := by simp [lpfcVersionRow, fcText, Plain]
  unfold getFcInfo at h
  simp only [hd] at h
  cases d with
  | qla2xxx =>
    rw [Driver.name, if_pos (by simp [lit])] at h
    obtain ⟨f₁,h₁,h⟩ := (returns_bind _ _ _ _).mp h
    rw [adapter_getLinkInfo h, (returns_loadAll_plain hq _ _).mp h₁]
    rfl
  | lpfc =>
    rw [Driver.name, if_neg (by simp [lit, strncmpEq]), if_pos (by simp [lit])] at h
    obtain ⟨f₁,h₁,h⟩ := (returns_bind _ _ _ _).mp h
    obtain ⟨f₂,h₂,h⟩ := (returns_bind _ _ _ _).mp h
    obtain ⟨f₃,h₃,h⟩ := (returns_bind _ _ _ _).mp h
    have ho := loadAll_frame origin (fun a ha => origin_driverRows.2 a (by simp_all)) h₁
    obtain ⟨u,hu,h₂⟩ := speed_loaded h₂
    rw [hostFile_congr ho] at hu
    rw [adapter_getLinkInfo h, (returns_loadAll_plain hv _ _).mp h₃, h₂,
      (returns_loadAll_plain hl _ _).mp h₁, Driver.adapter, hu]
    rfl

theorem own_getFcInfo {name : Str} {f g : FcDeviceInfo} {s : ℤ}
    (hp : f.sysDevPath = some (hostDir name)) (hn : f.hostName = some name)
    (hf : f.driverName = driver env) (h : Returns (getFcInfo f) env (s,g)) (d : Driver) :
    Own env d name g ↔ driver env = some d.name := by
  have ho := origin_getFcInfo h
  have hd : g.driverName = driver env := (congrArg (·.2.2.1) ho).trans hf
  have hs : scsiHostFile f = scsiHostFile (fcHost name) := by
    funext file
    rw [scsiHostFile, hp, hn]
    rfl
  have hh : hostFile f = hostFile (fcHost name) := by
    funext file
    rw [hostFile, underHost, hp]
    rfl
  constructor
  · exact fun hg => hd.symm.trans hg.driver
  · intro he
    refine ⟨(congrArg (·.2.1) ho).trans hn,hd.trans he,?_⟩
    rw [adapter_getFcInfo (hf.trans he) h]
    cases d <;> simp only [Driver.adapter, hs, hh]

/-! ## What the reports record -/

theorem listed_quiet : Quiet listed := by
  refine ⟨fun e he => ?_,fun _ => rfl,fun _ => rfl,rfl⟩
  cases e <;> first | rfl | cases he

theorem detailed_quiet : Quiet detailed := by
  refine ⟨fun e he => ?_,fun _ => rfl,fun _ => rfl,rfl⟩
  cases e <;> first | rfl | cases he

theorem gathers_identify (name : Str) :
    Emits Gathers (do let f ← getSymbolicName (fcHost name); getDriverInfo f) env := by
  simp [gathers_getSymbolicName, gathers_getDriverInfo]

theorem listed_row_lives {e : Dirent} (h : HostLives env e.dName) :
    ∃ f, observed listed (fcAdapterRow e) env = [f] ∧
      ∀ d : Driver, Own env d e.dName f ↔ driver env = some d.name := by
  obtain ⟨hd,hi⟩ := h
  obtain ⟨⟨s,f⟩,hf⟩ := (survives_getFcInfo_iff (knownHost env e.dName)).mpr hi
  refine ⟨f,?_,own_getFcInfo rfl rfl rfl hf⟩
  rw [fcAdapterRow_eq, observed_bind_of_returns _ _ ((returns_identify _ _).mpr ⟨hd,rfl⟩),
    quiet_gathers listed_quiet (gathers_identify _), observed_bind_of_returns _ _ hf,
    quiet_gathers listed_quiet (gathers_getFcInfo _)]
  simp [listed]

theorem listed_row_ends {e : Dirent} (h : ¬HostLives env e.dName) :
    observed listed (fcAdapterRow e) env = [] := by
  rw [fcAdapterRow_eq]
  apply observed_bind_eq_nil _ (quiet_gathers listed_quiet (gathers_identify _))
  intro f hf
  obtain ⟨hd,rfl⟩ := (returns_identify _ _).mp hf
  apply observed_bind_eq_nil _ (quiet_gathers listed_quiet (gathers_getFcInfo _))
  intro p hp
  exact (h ⟨hd,(survives_getFcInfo_iff _).mp ⟨p,hp⟩⟩).elim

/-- The hosts are gone through in turn, as far as one can be followed. -/
theorem listed_rows_iff (bound : Str → Driver) (es : List Dirent) :
    List.Forall₂ (fun e f => Own env (bound e.dName) e.dName f) es
        (observed listed (es.foldlM (fun (_ : Unit) e => fcAdapterRow e) ()) env) ↔
      ∀ e ∈ es, HostLives env e.dName ∧ driver env = some (bound e.dName).name := by
  induction es with
  | nil => simp
  | cons e es ih =>
    rw [List.foldlM_cons, List.forall_mem_cons, ← ih]
    by_cases h : HostLives env e.dName
    · obtain ⟨f,hf,ho⟩ := listed_row_lives h
      obtain ⟨u,hu⟩ := (survives_fcAdapterRow_iff e).mpr h
      rw [observed_bind_of_returns _ _ hu, hf, List.singleton_append, List.forall₂_cons, ho]
      simp [h]
    · have hn : observed listed (fcAdapterRow e >>= fun u =>
          es.foldlM (fun (_ : Unit) e => fcAdapterRow e) u) env = [] :=
        observed_bind_eq_nil _ (listed_row_ends h) fun u hu =>
          (h ((survives_fcAdapterRow_iff e).mp ⟨u,hu⟩)).elim
      rw [hn]
      simp [h]

theorem listed_iff (bound : Str → Driver) :
    List.Forall₂ (fun h f => Own env (bound h) h f) (hosts env)
        (observed listed listFcAdapters env) ↔
      ∀ h ∈ hosts env, HostLives env h ∧ driver env = some (bound h).name := by
  have hr := @listed_rows_iff env bound (entriesOf env SYSFS_FC_HOST_PATH)
  have ho := (@returns_opendir env SYSFS_FC_HOST_PATH _).mpr rfl
  have hq : observed listed (opendir SYSFS_FC_HOST_PATH) env = [] :=
    quiet_gathers listed_quiet (by simp)
  have he : observed listed listFcAdapters env = observed listed
      ((entriesOf env SYSFS_FC_HOST_PATH).foldlM (fun (_ : Unit) e => fcAdapterRow e) ()) env := by
    rw [listFcAdapters, observed_emit_bind, observed_bind_of_returns _ _ ho, hq, entriesOf]
    cases env.dir SYSFS_FC_HOST_PATH with
    | none => rfl
    | some l =>
      simp only [Option.map_some, Option.getD_some, print, observed_emit_bind]
      rw [observed_bind_of_silent _ (by simp [closedir, listed])]
      rfl
  rw [he, hosts, List.forall₂_map_left_iff, hr]
  simp

theorem detailed_lives {name : Str} (h : PortLives env name) :
    ∃ f, observed detailed (showFcPortDetails name) env = [f] ∧
      ∀ d : Driver, Own env d name f ↔ driver env = some d.name := by
  obtain ⟨k,hk⟩ := (survives_getAdapterDetails_iff _).mpr h.host
  have ho := origin_getAdapterDetails hk
  obtain ⟨⟨s,f⟩,hf⟩ := (survives_getFcInfo_iff k).mpr ((infoReadable_congr ho).mpr h.info)
  have ht : observed detailed (if 0 < f.noRports then do
      let _ ← listRportAdapters f
      pure (0 : ℤ)
    else pure 0) env = [] := by
    split
    · refine observed_bind_eq_nil _ ((observed_eq_nil_iff _ _ _).mpr ?_) fun _ _ => rfl
      exact emits_listRportAdapters (fun _ => quiet_of_gathers detailed_quiet) rfl (fun _ => rfl) f
    · rfl
  have hp : k.sysDevPath = some (hostDir name) := congrArg (·.1) ho
  have hn : k.hostName = some name := congrArg (·.2.1) ho
  have hd : k.driverName = driver env := congrArg (·.2.2.1) ho
  refine ⟨f,?_,own_getFcInfo hp hn hd hf⟩
  rw [showFcPortDetails_eq, observed_emit_bind, observed_bind_of_returns _ _
    ((adapter_spec name k).mpr ⟨h.driverDir,hk⟩), quiet_gathers detailed_quiet
    (gathers_adapter name), finish, observed_bind_of_returns _ _ hf,
    quiet_gathers detailed_quiet (gathers_getFcInfo k)]
  dsimp only
  rw [print, observed_emit_bind, ht]
  simp [detailed]

theorem detailed_iff (name : Str) (d : Driver) :
    (Ends (showFcPortDetails name) env 0 ∧
      ∃ f, observed detailed (showFcPortDetails name) env = [f] ∧ Own env d name f) ↔
    PortLives env name ∧ LinesFit env (underHost (fcHost name)) adapterRows ∧
      driver env = some d.name := by
  rw [Ends, returns_showFcPortDetails_iff, and_iff_left rfl]
  by_cases h : PortLives env name
  · obtain ⟨f,hf,ho⟩ := detailed_lives h
    rw [inArrays_showFcPortDetails h.driverDir h.host, hf]
    simp only [h, true_and, List.cons.injEq, and_true, exists_eq_left', ho]
    rfl
  · simp [h]

/-! ## The first directory -/

/-- The driver's directory comes before any other that begins with one of the two names. -/
def Leads (env : Env) (d : Driver) : Prop :=
  ∃ before e after, allEntries env PCI_DRIVER_PATH = before ++ e :: after ∧
    e.dType = .dir ∧ e.dName = d.name ∧ ∀ x ∈ before, isDriver x = false

theorem isDriver_of_name {e : Dirent} {d : Driver} (ht : e.dType = .dir) (hn : e.dName = d.name) :
    isDriver e = true := by
  rw [isDriver, ht, hn]
  cases d <;> simp [Driver.name, lit]

theorem driver_eq (env : Env) :
    driver env = ((allEntries env PCI_DRIVER_PATH).find? isDriver).map Dirent.dName := by
  unfold driver allEntries
  cases env.dir PCI_DRIVER_PATH <;> rfl

theorem leads_iff (d : Driver) : Leads env d ↔ driver env = some d.name := by
  rw [driver_eq, Option.map_eq_some_iff]
  constructor
  · rintro ⟨before,e,after,he,ht,hn,hb⟩
    refine ⟨e,?_,hn⟩
    rw [List.find?_eq_some_iff_append]
    exact ⟨isDriver_of_name ht hn,before,after,he,fun x hx => by simp [hb x hx]⟩
  · rintro ⟨e,he,hn⟩
    obtain ⟨hd,before,after,he,hb⟩ := List.find?_eq_some_iff_append.mp he
    have ht : e.dType = .dir := by
      simp only [isDriver, Bool.and_eq_true, decide_eq_true_eq] at hd
      exact hd.1
    exact ⟨before,e,after,he,ht,hn,fun x hx => by simpa using hb x hx⟩

/-- What must be there for the two runs to come to the record of a host: its numbers and what
is freed of leading blanks, and lines that fit the array they are printed into. -/
structure Followed (env : Env) (d : Driver) (name : Str) : Prop where
  speed : d = .lpfc → Readable env (hostFile (fcHost name)) [lpfcSpeedRow]
  host : HostReadable env (fcHost name)
  fits : LinesFit env (underHost (fcHost name)) adapterRows

theorem infoReadable_iff {d : Driver} (hd : driver env = some d.name) (name : Str) :
    InfoReadable env (knownHost env name) ↔
      (d = .lpfc → Readable env (hostFile (fcHost name)) [lpfcSpeedRow]) := by
  have hk : (knownHost env name).driverName = some d.name := hd
  rw [InfoReadable, hk]
  cases d with
  | qla2xxx => simp [Driver.name, lit]
  | lpfc =>
    have hq : strncmpEq (lit "lpfc") "qla2xxx" 7 = false := by simp [strncmpEq, lit]
    simp only [Driver.name, Option.some.injEq, exists_eq_left', hq, forall_true_left]
    simp
    rfl

theorem driver_opens {d : Str} (h : driver env = some d) : (env.dir PCI_DRIVER_PATH).isSome := by
  unfold driver at h
  cases hp : env.dir PCI_DRIVER_PATH with
  | none => simp [hp] at h
  | some l => rfl

theorem ownDriver_iff_driver (bound : Str → Driver) :
    OwnDriver env bound ↔
      ∀ h ∈ hosts env, driver env = some (bound h).name ∧ Followed env (bound h) h := by
  have hh : OwnDriver env bound ↔ ∀ h ∈ hosts env,
      (HostLives env h ∧ driver env = some (bound h).name) ∧ PortLives env h ∧
        LinesFit env (underHost (fcHost h)) adapterRows ∧ driver env = some (bound h).name := by
    rw [forall₂_and, ← listed_iff]
    simp only [← detailed_iff]
    exact ⟨fun h => ⟨h.1,h.2⟩,fun h => ⟨h.1,h.2⟩⟩
  rw [hh]
  refine forall₂_congr fun h _ => ⟨?_,?_⟩
  · rintro ⟨⟨hl,hd⟩,hp,hf,-⟩
    exact ⟨hd,(infoReadable_iff hd h).mp hl.2,hp.host,hf⟩
  · rintro ⟨hd,hs,hr,hf⟩
    have hi := (infoReadable_iff hd h).mpr hs
    exact ⟨⟨⟨driver_opens hd,hi⟩,hd⟩,⟨driver_opens hd,hr,hi⟩,hf,hd⟩

/-! ## Other orders -/

/-- A program that looks into no directory. -/
def Blind {α : Type} (m : Tool α) : Prop := ∀ env dir, m { env with dir := dir } = m env

variable {α β σ : Type} {env' : Env}

theorem blind_bind {m : Tool α} {f : α → Tool β} (hm : Blind m) (hf : ∀ a, Blind (f a)) :
    Blind (m >>= f) := fun env dir => same_bind (hm env dir) fun a _ => hf a env dir

theorem blind_emit (e : Event) : Blind (emit e : Tool Unit) := fun _ _ => rfl

theorem blind_pure (a : α) : Blind (pure a : Tool α) := fun _ _ => rfl

theorem blind_fopenRead (path : Str) : Blind (fopenRead path) := by
  intro env dir
  apply same_ask
  dsimp only
  cases env.file path <;> rfl

theorem blind_snprintfFmt (size : ℕ) (p : Option Str) : Blind (snprintfFmt size p) := by
  cases p <;> exact fun _ _ => rfl

theorem blind_store (b : Buf) (s : Str) : Blind (store b s) := by
  unfold store storeBytes
  split <;> exact fun _ _ => rfl

theorem blind_sprintfFmt (b : Buf) (p : Option Str) : Blind (sprintfFmt b p) := by
  cases p with
  | none => exact fun _ _ => rfl
  | some fmt => exact fun env dir => same_ask (blind_store b (env.format fmt) env dir)

theorem blind_openSysfsStatsFile (path : Str) : Blind (openSysfsStatsFile path) := by
  apply blind_bind (blind_fopenRead path)
  intro fp
  cases fp with
  | none => exact blind_pure _
  | some fp =>
    dsimp only
    cases fgets 64 fp <;> exact fun _ _ => rfl

theorem blind_fetch (path : Str) (c : Copy) : Blind (c.fetch path) := by
  cases c with
  | bounded size => exact blind_bind (blind_openSysfsStatsFile path) (blind_snprintfFmt size)
  | unbounded b => exact blind_bind (blind_openSysfsStatsFile path) (blind_sprintfFmt b)
  | argument size => exact blind_bind (blind_openSysfsStatsFile path) fun _ => blind_pure _
  | direct =>
    apply blind_bind (blind_openSysfsStatsFile path)
    intro p
    cases p <;> exact fun _ _ => rfl

theorem blind_load (pathOf : Str → Str) (s : σ) (a : Attr σ) : Blind (Attr.load pathOf s a) := by
  apply blind_bind (blind_fetch _ a.copy)
  intro t
  apply blind_bind
  · unfold stripped
    split
    · cases removeSpace t <;> exact fun _ _ => rfl
    · exact blind_pure t
  · exact fun u => blind_pure _

theorem blind_foldlM {f : σ → α → Tool σ} (hf : ∀ s a, Blind (f s a)) (xs : List α) (s : σ) :
    Blind (xs.foldlM f s) :=
  fun env dir => same_foldlM (fun s a _ => hf s a env dir) s

theorem blind_loadAll (pathOf : Str → Str) (rows : List (Attr σ)) (s : σ) :
    Blind (loadAll pathOf rows s) := blind_foldlM (blind_load pathOf) rows s

theorem blind_loadAllInto (b : Buf) (pathOf : Str → Str) (rows : List (Attr σ)) (s : σ) :
    Blind (loadAllInto b pathOf rows s) :=
  blind_foldlM (fun s a => blind_bind (blind_store b _) fun _ => blind_load _ s a) rows s

/-! ## The parts of the reports -/

theorem blind_getSymbolicName (f : FcDeviceInfo) : Blind (getSymbolicName f) := by
  unfold getSymbolicName
  split
  · exact fun _ _ => rfl
  · apply blind_bind (blind_fopenRead _)
    intro fp
    cases fp with
    | none => exact fun _ _ => rfl
    | some fp =>
      dsimp only
      cases fgets 256 fp <;> exact fun _ _ => rfl

theorem blind_loadLinkState (f : FcDeviceInfo) : Blind (loadLinkState f) := by
  apply blind_bind (blind_fopenRead _)
  intro fp
  cases fp with
  | none => exact blind_pure _
  | some fp =>
    dsimp only
    cases fgets 64 fp with
    | none => exact fun _ _ => rfl
    | some p => exact blind_bind (blind_snprintfFmt _ _) fun _ _ _ => rfl

theorem blind_getLinkInfo (f : FcDeviceInfo) : Blind (getLinkInfo f) := by
  apply blind_bind (blind_loadLinkState f)
  intro g
  cases g with
  | none => exact blind_pure _
  | some g =>
    exact blind_bind (blind_loadAll _ _ _) fun _ => blind_bind (blind_loadAll _ _ _) fun _ =>
      blind_pure _

theorem blind_getFcInfo (f : FcDeviceInfo) : Blind (getFcInfo f) := by
  unfold getFcInfo
  cases f.driverName with
  | none => exact fun _ _ => rfl
  | some d =>
    dsimp only
    split_ifs
    · exact blind_bind (blind_loadAll _ _ _) blind_getLinkInfo
    · exact blind_bind (blind_loadAll _ _ _) fun _ => blind_bind (blind_loadAll _ _ _) fun _ =>
        blind_bind (blind_loadAll _ _ _) blind_getLinkInfo
    · exact fun _ _ => rfl

theorem blind_rportEntry (e : Dirent) : Blind (rportEntry e) := by
  unfold rportEntry
  split
  · exact blind_bind (blind_loadAll _ _ _) fun _ => blind_emit _
  · exact blind_pure _

structure OffDrivers (env env' : Env) : Prop where
  parts : env' = { env with dir := env'.dir }
  dir : ∀ path, path ≠ PCI_DRIVER_PATH → env'.dir path = env.dir path

theorem OffDrivers.same (h : OffDrivers env env') {m : Tool α} (hm : Blind m) :
    m env' = m env := by
  rw [h.parts]
  exact hm env _

theorem OffDrivers.opened (h : OffDrivers env env') {path : Str} (hp : path ≠ PCI_DRIVER_PATH) :
    opendir path env' = opendir path env := by
  apply same_ask
  rw [h.dir path hp]
  cases env.dir path <;> rfl

theorem ne_drivers {path : Str} (h : SYSFS_FC_HOST_PATH <+: path) : path ≠ PCI_DRIVER_PATH := by
  rintro rfl
  exact absurd h (by decide +kernel)

theorem hosts_hostDir (name : Str) : SYSFS_FC_HOST_PATH <+: hostDir name := by
  have hl : SYSFS_FC_HOST_PATH.length ≤ 63 := by simp [SYSFS_FC_HOST_PATH, lit]
  rw [hostDir, cut, List.append_assoc]
  exact List.prefix_take_iff.mpr ⟨List.prefix_append _ _,hl⟩

theorem getDriverInfo_closed (f : FcDeviceInfo) (h : env.dir PCI_DRIVER_PATH = none) :
    getDriverInfo f env = (printErr PCI_DRIVER_PATH >>= fun _ => nullFault .readdir) env := by
  have ho : opendir PCI_DRIVER_PATH env = ⟨[],some none⟩ := by
    simp only [opendir, bind_apply, ask, Run.andThen, h]
    rfl
  rw [getDriverInfo, bind_apply, ho]
  rfl

theorem getDriverInfo_open (f : FcDeviceInfo) {l : Listing}
    (h : env.dir PCI_DRIVER_PATH = some l) : getDriverInfo f env =
      ⟨[.opened (.dir PCI_DRIVER_PATH) .read, .closed (.dir PCI_DRIVER_PATH)],
        some ((driver env).elim f fun d => { f with driverName := some d })⟩ := by
  have ho : opendir PCI_DRIVER_PATH env =
      ⟨[.opened (.dir PCI_DRIVER_PATH) .read],some (some l.entries)⟩ := by
    simp only [opendir, bind_apply, ask, Run.andThen, h]
    rfl
  rw [getDriverInfo, bind_apply, ho]
  simp only [Run.andThen, driver, h, Option.bind_some]
  cases l.entries.find? isDriver <;> rfl

theorem same_getDriverInfo (f : FcDeviceInfo)
    (hs : (env'.dir PCI_DRIVER_PATH).isSome = (env.dir PCI_DRIVER_PATH).isSome)
    (hd : driver env' = driver env) : getDriverInfo f env' = getDriverInfo f env := by
  cases hp : env.dir PCI_DRIVER_PATH with
  | none =>
    have hp' : env'.dir PCI_DRIVER_PATH = none := by simpa [hp] using hs
    rw [getDriverInfo_closed f hp, getDriverInfo_closed f hp']
    rfl
  | some l =>
    obtain ⟨l',hp'⟩ : ∃ l', env'.dir PCI_DRIVER_PATH = some l' :=
      Option.isSome_iff_exists.mp (by simpa [hp] using hs)
    rw [getDriverInfo_open f hp, getDriverInfo_open f hp', hd]

theorem same_getAdapterDetails (h : OffDrivers env env') {name : Str} {f : FcDeviceInfo}
    (hf : f.sysDevPath = some (hostDir name)) :
    getAdapterDetails f env' = getAdapterDetails f env := by
  apply same_bind (h.same (blind_loadAll _ _ _))
  intro f₁ h₁
  have ho₁ := loadAll_frame origin (fun a ha => origin_adapterRows a (by simp_all)) h₁
  apply same_bind (h.same (blind_loadAllInto _ _ _ _))
  intro f₂ h₂
  have ho₂ := loadAll_frame origin (fun a ha => origin_adapterRows a (by simp_all))
    ((returns_loadAllInto _ _ _ _ _).mp h₂)
  have hp : f₂.sysDevPath = some (hostDir name) := (congrArg (·.1) (ho₂.trans ho₁)).trans hf
  apply same_bind (h.same (blind_store _ _))
  intro path hpath
  obtain rfl := (returns_store _ _ _).mp hpath
  apply same_bind
  · apply h.opened (ne_drivers _)
    rw [underHost, hp]
    exact ((hosts_hostDir name).trans (List.prefix_append _ _)).trans (List.prefix_append _ _)
  · intro o _
    cases o <;> rfl

theorem same_listRportAdapters (h : OffDrivers env env') {name : Str} {f : FcDeviceInfo}
    (hf : f.sysDevPath = some (hostDir name)) :
    listRportAdapters f env' = listRportAdapters f env := by
  have hl : SYSFS_FC_HOST_PATH.length ≤ 63 := by simp [SYSFS_FC_HOST_PATH, lit]
  apply same_bind
  · apply h.opened (ne_drivers _)
    rw [hf]
    exact List.prefix_take_iff.mpr ⟨(hosts_hostDir name).trans (List.prefix_append _ _),hl⟩
  · intro o _
    cases o with
    | none => rfl
    | some es =>
      exact h.same (blind_bind (blind_emit _) fun _ =>
        blind_bind (blind_foldlM (fun _ => blind_rportEntry) _ _) fun _ _ _ => rfl)

structure SameFirst (env env' : Env) : Prop extends OffDrivers env env' where
  opens : (env'.dir PCI_DRIVER_PATH).isSome = (env.dir PCI_DRIVER_PATH).isSome
  first : driver env' = driver env

theorem same_fcAdapterRow (h : SameFirst env env') (e : Dirent) :
    fcAdapterRow e env' = fcAdapterRow e env := by
  apply same_bind (h.same (blind_getSymbolicName _))
  intro f _
  apply same_bind (same_getDriverInfo f h.opens h.first)
  intro g _
  exact h.same (blind_bind (blind_getFcInfo g) fun _ => blind_emit _)

theorem same_listFcAdapters (h : OffDrivers env env') (hf : hosts env ≠ [] → SameFirst env env') :
    listFcAdapters env' = listFcAdapters env := by
  have hp : SYSFS_FC_HOST_PATH ≠ PCI_DRIVER_PATH := ne_drivers (List.prefix_refl _)
  apply same_bind (h.same (blind_emit _))
  intro _ _
  apply same_bind (h.opened hp)
  intro o ho
  cases o with
  | none => rfl
  | some es =>
    have hr : ∀ e ∈ forEachDir es, fcAdapterRow e env' = fcAdapterRow e env := by
      intro e he
      apply same_fcAdapterRow (hf _)
      have hes : entriesOf env SYSFS_FC_HOST_PATH = forEachDir es := by
        have ho := (returns_opendir _ _).mp ho
        rw [entriesOf]
        cases hl : env.dir SYSFS_FC_HOST_PATH <;> simp_all
      rw [hosts, hes]
      simpa using List.ne_nil_of_mem he
    apply same_bind (h.same (blind_emit _))
    intro _ _
    apply same_bind (h.same (blind_emit _))
    intro _ _
    apply same_bind (same_foldlM (fun _ e he => hr e he) _)
    intro _ _
    exact h.same (blind_bind (blind_emit _) fun _ => blind_pure _)

theorem same_showFcPortDetails (h : SameFirst env env') (name : Str) :
    showFcPortDetails name env' = showFcPortDetails name env := by
  apply same_bind (h.same (blind_emit _))
  intro _ _
  apply same_bind (h.same (blind_getSymbolicName _))
  intro f hf
  obtain rfl := (returns_getSymbolicName name f).mp hf
  apply same_bind (same_getDriverInfo _ h.opens h.first)
  intro g hg
  have hg : g.sysDevPath = some (hostDir name) := by
    obtain ⟨-,rfl⟩ := (returns_getDriverInfo rfl g).mp hg
    rfl
  apply same_bind (same_getAdapterDetails h.toOffDrivers hg)
  intro k hk
  have hk : k.sysDevPath = some (hostDir name) :=
    (congrArg (·.1) (origin_getAdapterDetails hk)).trans hg
  apply same_bind (h.same (blind_getFcInfo k))
  rintro ⟨s,m⟩ hm
  have hm : m.sysDevPath = some (hostDir name) := (congrArg (·.1) (origin_getFcInfo hm)).trans hk
  apply same_bind (h.same (blind_emit _))
  intro _ _
  split
  · exact same_bind (same_listRportAdapters h.toOffDrivers hm) fun _ _ => rfl
  · rfl

/-! ## Every order -/

def withDrivers (env : Env) (l : Listing) : Env :=
  { env with dir := fun path => if path = PCI_DRIVER_PATH then some l else env.dir path }

def Bound (env : Env) (bound : Str → Driver) : Prop :=
  ∀ h ∈ hosts env, ∃ e ∈ allEntries env PCI_DRIVER_PATH, e.dType = .dir ∧ e.dName = (bound h).name

/-- In whatever order the drivers are listed, every host has its own and the runs are the same. -/
structure InEveryOrder (env : Env) (bound : Str → Driver) : Prop where
  own : ∀ l : Listing, l.entries.Perm (allEntries env PCI_DRIVER_PATH) →
    OwnDriver (withDrivers env l) bound
  listing : ∀ l : Listing, l.entries.Perm (allEntries env PCI_DRIVER_PATH) →
    listFcAdapters (withDrivers env l) = listFcAdapters env
  details : ∀ l : Listing, l.entries.Perm (allEntries env PCI_DRIVER_PATH) →
    ∀ h ∈ hosts env, showFcPortDetails h (withDrivers env l) = showFcPortDetails h env

theorem hosts_withDrivers (env : Env) (l : Listing) : hosts (withDrivers env l) = hosts env := by
  have hp : SYSFS_FC_HOST_PATH ≠ PCI_DRIVER_PATH := ne_drivers (List.prefix_refl _)
  simp [hosts, entriesOf, withDrivers, hp]

theorem allEntries_withDrivers (env : Env) (l : Listing) :
    allEntries (withDrivers env l) PCI_DRIVER_PATH = l.entries := by
  simp [allEntries, withDrivers]

theorem driver_of_single {d : Driver}
    (hp : (allEntries env' PCI_DRIVER_PATH).Perm (allEntries env PCI_DRIVER_PATH))
    (hb : ∃ e ∈ allEntries env PCI_DRIVER_PATH, e.dType = .dir ∧ e.dName = d.name)
    (hs : ∀ e ∈ allEntries env PCI_DRIVER_PATH, isDriver e = true → e.dName = d.name) :
    driver env' = some d.name := by
  rw [driver_eq]
  obtain ⟨e,he,ht,hn⟩ := hb
  cases hf : (allEntries env' PCI_DRIVER_PATH).find? isDriver with
  | none =>
    have := List.find?_eq_none.mp hf e (hp.mem_iff.mpr he)
    exact absurd (isDriver_of_name ht hn) this
  | some x =>
    have hx := hs x (hp.mem_iff.mp (List.mem_of_find?_eq_some hf)) (List.find?_some hf)
    rw [Option.map_some, hx]

def reordered (l : Listing) (es : List Dirent) (h : es.Perm l.entries) : Listing where
  entries := es
  nodup := (h.map Dirent.dName).nodup_iff.mpr l.nodup
  dot := (h.map Dirent.dName).mem_iff.mpr l.dot
  dotdot := (h.map Dirent.dName).mem_iff.mpr l.dotdot

theorem offDrivers_withDrivers (env : Env) (l : Listing) : OffDrivers env (withDrivers env l) where
  parts := rfl
  dir := fun _ hp => if_neg hp

theorem followed_withDrivers (l : Listing) (d : Driver) (name : Str) :
    Followed (withDrivers env l) d name ↔ Followed env d name :=
  ⟨fun h => ⟨h.speed,h.host,h.fits⟩,fun h => ⟨h.speed,h.host,h.fits⟩⟩

theorem dir_of_mem {path : Str} {e : Dirent} (h : e ∈ allEntries env path) :
    ∃ l, env.dir path = some l ∧ allEntries env path = l.entries := by
  cases hl : env.dir path with
  | none => simp [allEntries, hl] at h
  | some l => exact ⟨l,rfl,by simp [allEntries, hl]⟩

/-- Any driver can come first, so that it has to be the one of every host. -/
theorem single_of_every {bound : Str → Driver} (h : InEveryOrder env bound) {host : Str}
    (hh : host ∈ hosts env) {e : Dirent} (he : e ∈ allEntries env PCI_DRIVER_PATH)
    (hd : isDriver e = true) : e.dName = (bound host).name := by
  obtain ⟨l,-,hes⟩ := dir_of_mem he
  rw [hes] at he
  have hp : (e :: l.entries.erase e).Perm l.entries := (List.perm_cons_erase he).symm
  have ho := h.own (reordered l _ hp) (by rwa [hes])
  have hdr := ((ownDriver_iff_driver bound).mp ho host (by rwa [hosts_withDrivers])).1
  rw [driver_eq, allEntries_withDrivers, reordered, List.find?_cons_of_pos hd] at hdr
  exact Option.some.inj hdr

theorem followed_of_every {bound : Str → Driver} (hb : Bound env bound)
    (h : InEveryOrder env bound) {host : Str} (hh : host ∈ hosts env) :
    Followed env (bound host) host := by
  obtain ⟨e,he,-⟩ := hb host hh
  obtain ⟨l,-,hes⟩ := dir_of_mem he
  have ho := h.own l (by rw [hes])
  rw [ownDriver_iff_driver, hosts_withDrivers] at ho
  exact (followed_withDrivers l _ host).mp (ho host hh).2

theorem every_of_single {bound : Str → Driver} (hb : Bound env bound)
    (hf : ∀ h ∈ hosts env, Followed env (bound h) h)
    (hs : ∀ h ∈ hosts env, ∀ e ∈ allEntries env PCI_DRIVER_PATH, isDriver e = true →
      e.dName = (bound h).name) : InEveryOrder env bound := by
  have hd : ∀ l : Listing, l.entries.Perm (allEntries env PCI_DRIVER_PATH) → ∀ h ∈ hosts env,
      driver (withDrivers env l) = some (bound h).name := by
    intro l hl h hh
    exact driver_of_single (by rwa [allEntries_withDrivers]) (hb h hh) (hs h hh)
  have hm : ∀ l : Listing, l.entries.Perm (allEntries env PCI_DRIVER_PATH) → ∀ h ∈ hosts env,
      SameFirst env (withDrivers env l) := by
    intro l hl h hh
    refine ⟨offDrivers_withDrivers env l,?_,?_⟩
    · obtain ⟨e,he,-⟩ := hb h hh
      obtain ⟨k,hk,-⟩ := dir_of_mem he
      simp [withDrivers, hk]
    · rw [hd l hl h hh, driver_of_single (List.Perm.refl _) (hb h hh) (hs h hh)]
  constructor
  · intro l hl
    rw [ownDriver_iff_driver, hosts_withDrivers]
    exact fun h hh => ⟨hd l hl h hh,(followed_withDrivers l _ h).mpr (hf h hh)⟩
  · intro l hl
    apply same_listFcAdapters (offDrivers_withDrivers env l)
    intro hne
    obtain ⟨h,hh⟩ := List.exists_mem_of_ne_nil _ hne
    exact hm l hl h hh
  · intro l hl h hh
    exact same_showFcPortDetails (hm l hl h hh) h

/-- A host has its own driver where that comes first, and in every order where no other of
the two names is loaded. -/
theorem own_driver_iff {bound : Str → Driver} (hb : Bound env bound) :
    (OwnDriver env bound ↔
      ∀ h ∈ hosts env, Leads env (bound h) ∧ Followed env (bound h) h) ∧
    (InEveryOrder env bound ↔
      ∀ h ∈ hosts env, (∀ e ∈ allEntries env PCI_DRIVER_PATH, isDriver e = true →
        e.dName = (bound h).name) ∧ Followed env (bound h) h) := by
  constructor
  · simp only [ownDriver_iff_driver, leads_iff]
  · constructor
    · intro h host hh
      exact ⟨fun e he hd => single_of_every h hh he hd,followed_of_every hb h hh⟩
    · exact fun h => every_of_single hb (fun x hx => (h x hx).2) fun x hx => (h x hx).1

/-! ## Two hosts -/

theorem entry_name (d : Driver) :
    d.name ≠ [] ∧ '/' ∉ d.name ∧ nul ∉ d.name ∧ d.name.length ≤ 255 := by
  cases d <;> decide +kernel

def lpfcDir : Dirent := ⟨lit "lpfc",.dir,entry_name .lpfc⟩

def qlaDir : Dirent := ⟨lit "qla2xxx",.dir,entry_name .qla2xxx⟩

def twoHosts : Listing :=
  Listing.ofEntries [⟨lit "host1",.lnk,by simp [lit, nul]⟩, ⟨lit "host2",.lnk,by simp [lit, nul]⟩]
    (by simp [lit]) (by simp [lit]) (by simp [lit])

def oneDriver : Listing :=
  Listing.ofEntries [lpfcDir] (by simp) (by simp [lpfcDir, lit]) (by simp [lpfcDir, lit])

def twoDrivers : Listing :=
  Listing.ofEntries [lpfcDir, qlaDir] (by simp [lpfcDir, qlaDir, lit])
    (by simp [lpfcDir, qlaDir, lit]) (by simp [lpfcDir, qlaDir, lit])

def system (drivers : Listing) : Env :=
  { Env.bare with
    file := fun _ => .bytes (lit "8\n")
    dir := fun path => if path = SYSFS_FC_HOST_PATH then some twoHosts
      else if path = PCI_DRIVER_PATH then some drivers else none }

theorem hosts_system (drivers : Listing) : hosts (system drivers) = [lit "host1", lit "host2"] := by
  simp [hosts, entriesOf, system, twoHosts]

theorem drivers_system (drivers : Listing) :
    allEntries (system drivers) PCI_DRIVER_PATH = drivers.entries := by
  have hp : SYSFS_FC_HOST_PATH ≠ PCI_DRIVER_PATH := ne_drivers (List.prefix_refl _)
  simp [allEntries, system, hp.symm]

theorem line_system (drivers : Listing) (path : Str) :
    line (system drivers) path = some (lit "8") ∧ (system drivers).format (lit "8") = lit "8" := by
  have hl : AttributeLine (lit "8") := ⟨by simp [lit],by simp [lit, nul],by simp [lit]⟩
  have hh : Holds (system drivers) path (lit "8") := ⟨lit "\n",by simp [system, lit],.inr (by simp [lit])⟩
  refine ⟨(line_of_holds hl hh).resolve_right (by simp [lit]),?_⟩
  rw [Env.format, expand_plain (by simp [lit]), Option.getD_some]

theorem text_system (drivers : Listing) (path : Str) :
    ∀ a ∈ lpfcSpeedRow :: portIdRow :: adapterRows,
      Attr.text (system drivers) path a = some (lit "8") := by
  obtain ⟨hl,hf⟩ := line_system drivers path
  have hs : removeSpace (lit "8") = some (lit "8") :=
    removeSpace_of_blanks_le (by simp [lit, nul]) (by simp [blanks, lit, NumberText.isspace])
  have hc : cut 128 (lit "8") = lit "8" := cut_of_length_lt (by simp [lit])
  simp [lpfcSpeedRow, portIdRow, adapterRows, portNameRow, hostText, fcText, Attr.text,
    Copy.text, hl, hf, hs, hc]

theorem followed_system (drivers : Listing) (d : Driver) (name : Str) :
    Followed (system drivers) d name := by
  have hr : ∀ path, ∀ a ∈ lpfcSpeedRow :: portIdRow :: adapterRows,
      (Attr.text (system drivers) path a).isSome := by
    intro path a ha
    rw [text_system drivers path a ha, Option.isSome_some]
  refine ⟨fun _ a ha => hr _ a (by simp_all),
    ⟨fun a ha => hr _ a (by simp_all),fun a ha => hr _ a (by simp_all)⟩,?_⟩
  intro a _
  cases a.copy with
  | unbounded b =>
    intro p hp
    obtain ⟨hl,hf⟩ := line_system drivers (underHost (fcHost name) a.file)
    obtain rfl : p = lit "8" := by simpa [hl, eq_comm] using hp
    rw [hf]
    cases b <;> simp [Buf.size, lit]
  | _ => trivial

theorem lpfc_in_every_order : InEveryOrder (system oneDriver) fun _ => .lpfc := by
  have hb : Bound (system oneDriver) fun _ => .lpfc := by
    intro h _
    rw [drivers_system]
    exact ⟨lpfcDir,by simp [oneDriver, Listing.ofEntries],rfl,rfl⟩
  apply (own_driver_iff hb).2.mpr
  refine fun h _ => ⟨?_,followed_system _ _ h⟩
  rw [drivers_system]
  decide +kernel

def mixed (h : Str) : Driver := if h = "host1" then .lpfc else .qla2xxx

theorem second_host_differs :
    Bound (system twoDrivers) mixed ∧ ¬OwnDriver (system twoDrivers) mixed := by
  constructor
  · intro h _
    rw [drivers_system]
    unfold mixed
    split
    · exact ⟨lpfcDir,by simp [twoDrivers, Listing.ofEntries],rfl,rfl⟩
    · exact ⟨qlaDir,by simp [twoDrivers, Listing.ofEntries],rfl,rfl⟩
  · intro ho
    have hd := ((ownDriver_iff_driver mixed).mp ho (lit "host2") (by simp [hosts_system])).1
    rw [driver_eq, drivers_system] at hd
    exact absurd hd (by decide +kernel)

end ScsiCli.HostDrivers
