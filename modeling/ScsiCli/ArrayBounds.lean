import ScsiCli.Listings
import ScsiCli.RemotePorts

/-!
# Stores that stay in their arrays

Beside the copies of the argument, an array is written without a bound with a
path or with what a line formats to. The path of a device node takes a name of
at most 250 bytes. The paths of a host fit where its name does, since what is
put behind it is a name from a directory; what a line formats to is as long as
the line, but where its conversions have no arguments it can have any length.
-/

set_option autoImplicit false

namespace ScsiCli.ArrayBounds
open ScsiCli.RunTrace ScsiCli.ByteString ScsiCli.NumberText ScsiCli.Records ScsiCli.Machine
open ScsiCli.SysfsUtils ScsiCli.DiskUtils ScsiCli.DiskDetails ScsiCli.FcpUtils
open ScsiCli.IscsiUtils ScsiCli.MachineRules ScsiCli.Gatherers ScsiCli.Completion
open ScsiCli.IscsiCompletion ScsiCli.Requests ScsiCli.RemotePorts ScsiCli.Commands
open ScsiCli.CommandGrammar ScsiCli.ArgumentCopies ScsiCli.Dispatch

variable {env : Env} {α σ : Type}

def NoArray (_ : Buf) : Prop := False

theorem inArrays_of_reports {e : Event} (h : ReportsIn NoArray e) : InArrays e := by
  cases e <;> first | exact h | trivial

theorem inArrays_reports {m : Tool α} (h : Emits (ReportsIn NoArray) m env) :
    Emits InArrays m env := emits_mono h fun _ => inArrays_of_reports

theorem inArrays_gathers {m : Tool α} (h : Emits (GathersIn NoArray) m env) :
    Emits InArrays m env := inArrays_reports (reports_emits h)

theorem inArrays_store (b : Buf) (s : Str) :
    Emits InArrays (store b s) env ↔ s.length < b.size := by
  rw [emits_store]
  exact ⟨fun h => not_le.mp fun hl => h (by omega),fun h hl => absurd hl (by omega)⟩

theorem inArrays_after {m : Tool σ} {f : σ → Tool α} {P : Prop} (hm : Emits InArrays m env)
    (hs : Survives m env) (hf : ∀ a, Returns m env a → (Emits InArrays (f a) env ↔ P)) :
    Emits InArrays (m >>= f) env ↔ P := by
  rw [emits_bind_of hf]
  exact ⟨fun h => h.2 hs,fun h => ⟨hm,fun _ => h⟩⟩

theorem inArrays_before {m : Tool σ} {f : σ → Tool α} {P : Prop}
    (hm : Emits InArrays m env ↔ P) (hf : ∀ a, Returns m env a → Emits InArrays (f a) env) :
    Emits InArrays (m >>= f) env ↔ P := by
  rw [emits_bind, hm, and_iff_left hf]

/-! ## Rows of disks -/

theorem inArrays_getDeviceNumbers (name : Str) (d : ScsiDeviceInfo) :
    Emits InArrays (getDeviceNumbers name d) env ↔ name.length ≤ 250 := by
  refine (inArrays_before (inArrays_store _ _) fun p _ => ?_).trans ?_
  · cases h : env.stat p <;> simp [h, InArrays]
  · simp [Buf.size, lit]
    omega

theorem inArrays_locate (e : Dirent) (d : ScsiDeviceInfo) :
    Emits InArrays (locate e d) env ↔ e.dName.length ≤ 250 :=
  inArrays_before (inArrays_getDeviceNumbers _ _) fun d _ => by
    simp [inArrays_gathers (gathers_getHctlInfo d)]

theorem inArrays_blockRow (e : Dirent) :
    Emits InArrays (blockRow e) env ↔ e.dName.length ≤ 250 :=
  inArrays_after (inArrays_gathers (gathers_getDiskType _)) (survives_getDiskType _) fun _ _ =>
    inArrays_before (inArrays_locate e _) fun d _ => by
      simp [inArrays_gathers (gathers_getDiskVendorModel d), InArrays]

theorem inArrays_nvmeRow (e : Dirent) :
    Emits InArrays (nvmeRow e) env ↔ e.dName.length ≤ 250 :=
  inArrays_before (inArrays_locate e _) fun d _ => by
    simp [inArrays_gathers (gathers_getNvmeDeviceModel d), InArrays]

theorem inArrays_controllerRow (e : Dirent) :
    Emits InArrays (controllerRow e) env ↔ e.dName.length ≤ 250 :=
  inArrays_after (inArrays_gathers (gathers_getDiskType _)) (survives_getDiskType _) fun _ _ =>
    inArrays_before (inArrays_locate e _) fun d _ => by
      simp [inArrays_gathers (gathers_getDiskVendorModel d), InArrays]

theorem inArrays_genericRow (e : Dirent) :
    Emits InArrays (genericRow e) env ↔ e.dName.length ≤ 250 :=
  inArrays_before (inArrays_locate e _) fun d _ => by
    simp [inArrays_gathers (gathers_getDiskVendorModel _), InArrays]

theorem inArrays_mpathRow (e : Dirent) :
    Emits InArrays (mpathRow e) env ↔ e.dName.length ≤ 250 :=
  inArrays_before (inArrays_locate e _) fun d _ => by
    simp [inArrays_gathers (gathers_getDiskVendorModel d), InArrays]

/-! ## Listings -/

def ShortNames (env : Env) (path : Str) (test : Dirent → Bool) : Prop :=
  ∀ e ∈ entriesOf env path, test e = true → e.dName.length ≤ 250

section
variable {body : Dirent → Tool Unit} (hs : ∀ e, Survives (body e) env)
variable (hb : ∀ e, Emits InArrays (body e) env ↔ e.dName.length ≤ 250)
include hs hb

theorem inArrays_rows (test : Dirent → Bool) (es : List Dirent) :
    Emits InArrays (rows test body es) env ↔
      ∀ e ∈ forEachDir es, test e = true → e.dName.length ≤ 250 := by
  apply emits_foldlM_each
  · intro _ e _
    cases test e <;> simp [hb]
  · intro _ e _
    cases test e <;> simp [hs]

theorem inArrays_listing (f : Device) (path label : Str) (header : Out) (test : Dirent → Bool) :
    Emits InArrays (listing f path label header test body) env ↔ ShortNames env path test := by
  unfold listing ShortNames
  cases hd : env.dir path with
  | none => simp [hd, InArrays, entriesOf]
  | some l => simp [hd, InArrays, entriesOf, inArrays_rows hs hb]

end

theorem inArrays_listBlockDevs : Emits InArrays listBlockDevs env ↔
    ShortNames env SYSFS_BLOCK_PATH fun e => isSd e || isNvme e := by
  have hs := @inArrays_rows env _ survives_blockRow inArrays_blockRow isSd
  have hn := @inArrays_rows env _ survives_nvmeRow inArrays_nvmeRow isNvme
  unfold listBlockDevs ShortNames
  cases hd : env.dir SYSFS_BLOCK_PATH with
  | none => simp [hd, InArrays, entriesOf]
  | some l =>
    have hu : ∀ u, Returns (rows isSd blockRow l.entries) env u := fun _ =>
      (survives_rows survives_blockRow isSd l.entries).choose_spec
    simp [hd, InArrays, entriesOf, hs, hn, hu, or_imp, forall_and]

def NamesFit (env : Env) (sub : Str) : Prop :=
  if sub = "controller" then ShortNames env SYSFS_SCSI_GEN_PATH fun _ => true
  else if sub = "disk" then ShortNames env SYSFS_BLOCK_PATH fun e => isSd e || isNvme e
  else if sub = "multipath" then ShortNames env SYSFS_BLOCK_PATH fun e => isDm e || isMd e
  else if sub = "generic" then ShortNames env DEV_DIR_PATH isGeneric
  else True

theorem inArrays_listMediumChanger : Emits InArrays listMediumChanger env := by
  simp [listMediumChanger, InArrays]

theorem inArrays_listIscsiDevs (h : entriesOf env SYSFS_ISCSI_HOST_PATH = []) :
    Emits InArrays listIscsiDevs env := by
  have hn := (@returns_getDeviceCount env SYSFS_ISCSI_HOST_PATH _).mpr rfl
  rw [listIscsiDevs, emits_bind_at ((returns_emit _ _ ()).mpr trivial), emits_bind_at hn,
    if_pos ((deviceCount_neg_iff _).mpr h)]
  exact ⟨by simp [InArrays],inArrays_gathers (gathers_getDeviceCount _),by simp⟩

theorem inArrays_lists {sub : Str} {m : Tool ℤ} (h : Lists sub m)
    (hi : sub = "iscsi" → entriesOf env SYSFS_ISCSI_HOST_PATH = []) :
    Emits InArrays m env ↔ NamesFit env sub := by
  cases h with
  | fcHba => simpa [NamesFit, lit] using inArrays_reports reports_listFcAdapters
  | iscsi => simpa [NamesFit, lit] using inArrays_listIscsiDevs (hi rfl)
  | controller =>
    simpa [NamesFit, listControllers] using
      inArrays_listing survives_controllerRow inArrays_controllerRow _ _ _ _ _
  | disk => simpa [NamesFit, lit] using inArrays_listBlockDevs
  | multipath =>
    simpa [NamesFit, lit, listMultipathDevs] using
      inArrays_listing survives_mpathRow inArrays_mpathRow _ _ _ _ _
  | generic =>
    simpa [NamesFit, lit, listGenericDevs] using
      inArrays_listing survives_genericRow inArrays_genericRow _ _ _ _ _
  | enclosure => simpa [NamesFit, lit] using inArrays_reports reports_listEnclosure
  | cdRom => simpa [NamesFit, lit] using inArrays_reports reports_listCdromDevs
  | mediumChanger => simpa [NamesFit, lit] using inArrays_listMediumChanger
  | tape => simpa [NamesFit, lit] using inArrays_reports reports_listTapeDevs

/-! ## Lines printed without a bound -/

/-- What the line formats to and its terminator fit the array. -/
def CopyFits (env : Env) (path : Str) : Copy → Prop
  | .unbounded b => ∀ p, line env path = some p → (env.format p).length < b.size
  | _ => True

def LinesFit (env : Env) (pathOf : Str → Str) (rows : List (Attr σ)) : Prop :=
  ∀ a ∈ rows, CopyFits env (pathOf a.file) a.copy

theorem inArrays_fetch (path : Str) (c : Copy) :
    Emits InArrays (c.fetch path) env ↔ CopyFits env path c := by
  cases c with
  | unbounded b =>
    cases hl : line env path with
    | none => simp [Copy.fetch, CopyFits, InArrays, hl]
    | some p =>
      have h : Emits InArrays (sprintfFmt b (some p)) env ↔ (env.format p).length < b.size :=
        inArrays_store b (env.format p)
      rw [Copy.fetch, emits_bind_at ((returns_openSysfsStatsFile _ _).mpr hl.symm), h]
      simp [CopyFits, InArrays, hl]
  | direct => cases hl : line env path <;> simp [Copy.fetch, CopyFits, InArrays, hl]
  | _ => simp [Copy.fetch, CopyFits, InArrays]

theorem inArrays_load (pathOf : Str → Str) (s : σ) (a : Attr σ) :
    Emits InArrays (Attr.load pathOf s a) env ↔ CopyFits env (pathOf a.file) a.copy :=
  inArrays_before (inArrays_fetch _ _) fun t _ => by simp

theorem survives_loadInto {b : Buf} {pathOf : Str → Str} {s : σ} {a : Attr σ}
    (h : (Attr.text env (pathOf a.file) a).isSome) :
    Survives (Attr.loadInto b pathOf s a) env := by
  obtain ⟨t,ht⟩ := (survives_load_iff pathOf s a).mpr h
  exact ⟨t,(returns_loadInto b pathOf s t a).mpr ht⟩

theorem inArrays_loadAllInto {b : Buf} {pathOf : Str → Str} {rows : List (Attr σ)}
    (hr : Readable env pathOf rows) (hp : ∀ a ∈ rows, (pathOf a.file).length < b.size) (s : σ) :
    Emits InArrays (loadAllInto b pathOf rows s) env ↔ LinesFit env pathOf rows := by
  apply emits_foldlM_each
  · intro s a ha
    rw [Attr.loadInto, emits_bind_at ((returns_store _ _ _).mpr rfl), inArrays_load]
    exact and_iff_right ((inArrays_store _ _).mpr (hp a ha))
  · exact fun _ a ha => survives_loadInto (hr a ha)

/-! ## Hosts -/

theorem hostDir_length (name : Str) : (hostDir name).length ≤ 63 := cut_length_le 64 _

theorem inArrays_getAdapterDetails {name : Str} {f : FcDeviceInfo}
    (hf : f.sysDevPath = some (hostDir name)) (hr : HostReadable env f) :
    Emits InArrays (getAdapterDetails f) env ↔ LinesFit env (underHost f) adapterRows := by
  have hu : ∀ file, underHost f file = hostDir name ++ lit "/" ++ file := fun file => by
    rw [underHost, hf]
    rfl
  have hl : ∀ a ∈ adapterRows, (underHost f a.file).length < Buf.getAdapterDetailsPath.size := by
    have hd := hostDir_length name
    simp only [hu, adapterRows, portNameRow, hostText, List.forall_mem_cons, List.length_append]
    simp [Buf.size, lit]
    omega
  have hp : Emits InArrays (loadAll (fun file => cut 1024 (underHost f file)) [portIdRow] f) env :=
    inArrays_gathers (gathers_loadAll _ _ (by simp [portIdRow, CopyIn]))
  refine inArrays_after hp ((survives_loadAll_iff _ _ _).mpr hr.1) fun g hg => ?_
  have hog := loadAll_frame origin (fun a ha => origin_adapterRows a (by simp_all)) hg
  rw [underHost_congr hog]
  refine inArrays_before (inArrays_loadAllInto hr.2 hl g) fun k hk => ?_
  have hok := loadAll_frame origin (fun a ha => origin_adapterRows a (by simp_all))
    ((returns_loadAllInto _ _ _ _ _).mp hk)
  have hd : (hostDir name ++ lit "/" ++ lit "device").length < Buf.getAdapterDetailsPath.size := by
    have hd := hostDir_length name
    simp [Buf.size, lit]
    omega
  rw [underHost_congr (hok.trans hog), hu, emits_bind_at ((returns_store _ _ _).mpr rfl),
    inArrays_store]
  refine ⟨hd,?_⟩
  generalize hostDir name ++ lit "/" ++ lit "device" = path
  cases h : env.dir path <;> simp [h, InArrays]

theorem inArrays_finish (f : FcDeviceInfo) : Emits InArrays (finish f) env :=
  inArrays_reports (by
    simp [finish, reports_emits (gathers_getFcInfo _), reports_listRportAdapters])

theorem inArrays_showFcPortDetails {name : Str} (hd : (env.dir PCI_DRIVER_PATH).isSome)
    (hr : HostReadable env (knownHost env name)) :
    Emits InArrays (showFcPortDetails name) env ↔
      LinesFit env (underHost (knownHost env name)) adapterRows := by
  have hi : Returns (do let f ← getSymbolicName (fcHost name); getDriverInfo f) env
      (knownHost env name) := (returns_identify name _).mpr ⟨hd,rfl⟩
  have hg : Emits InArrays (do let f ← getSymbolicName (fcHost name); getDriverInfo f) env :=
    inArrays_gathers (by simp [gathers_getSymbolicName, gathers_getDriverInfo])
  rw [showFcPortDetails_eq, emits_bind_at ((returns_emit _ _ ()).mpr trivial), emits_emit,
    and_iff_right (by trivial)]
  refine inArrays_before ?_ fun f _ => inArrays_finish f
  rw [← prog_bind_assoc, emits_bind_at hi, and_iff_right hg]
  exact inArrays_getAdapterDetails rfl hr

/-! ## Sessions and connections -/

theorem sessionHome_length (host : Str) : (sessionHome host).length = host.length+29 := by
  simp [sessionHome, SYSFS_ISCSI_HOST_PATH, lit]

theorem inArrays_fillSessionInfo {host : Str} (hl : host.length ≤ 255) :
    Emits InArrays (fillSessionInfo (iscsiHost host)) env := by
  have ho : orNull (iscsiHost host).sysDevPath ++ lit "/" ++ orNull (iscsiHost host).hostName ++
      lit "/device" = sessionHome host := rfl
  have hh := sessionHome_length host
  simp only [fillSessionInfo, ho]
  rw [emits_bind_at ((returns_store _ _ _).mpr rfl), inArrays_store,
    emits_bind_at ((returns_opendir _ _).mpr rfl)]
  refine ⟨by simp only [Buf.size]; omega,by simp [InArrays],?_⟩
  cases env.dir (sessionHome host) with
  | none => simp [InArrays]
  | some l =>
    dsimp only [Option.map_some]
    cases (forEachDir l.entries).find? isSession with
    | none => simp [InArrays]
    | some e =>
      have he : (sessionHome host ++ lit "/" ++ e.dName).length < 1024 := by
        have hn := e.name_ok.2.2.2
        simp [lit]
        omega
      dsimp only
      rw [emits_bind_at ((returns_store _ _ _).mpr rfl), inArrays_store]
      exact ⟨he,by simp [InArrays]⟩

theorem orNull_dName_length (o : Option Dirent) : (orNull (o.map Dirent.dName)).length ≤ 255 := by
  cases o with
  | none => simp [orNull, lit]
  | some e => exact e.name_ok.2.2.2

theorem sessionName_length (host : Str) :
    (orNull (knownIscsi env host).sessionName).length ≤ 255 := by
  have hn : (knownIscsi env host).sessionName = sessionEntry env host := by
    unfold knownIscsi withSession
    cases sessionEntry env host <;> rfl
  rw [hn]
  exact orNull_dName_length _

theorem connectionName_length (host : Str) :
    (orNull (connectedIscsi env host).connectionName).length ≤ 255 := orNull_dName_length _

theorem inArrays_connectionEntry {path : Str} (hp : path.length ≤ 1023) (i : IscsiDevInfo)
    (e : Dirent) : Emits InArrays (connectionEntry path i e) env := by
  unfold connectionEntry
  split
  · have he : (path ++ lit "/" ++ e.dName).length < 2048 := by
      have hn := e.name_ok.2.2.2
      simp [lit]
      omega
    rw [emits_bind_at ((returns_store _ _ _).mpr rfl), inArrays_store]
    exact ⟨he,by simp⟩
  · simp

structure SessionFits (env : Env) (host : Str) : Prop where
  target : (env.dir (connectionHome host (knownIscsi env host).sessionName)).isSome →
    LinesFit env (sessionFile (knownIscsi env host)) [targetNameRow] ∧
      LinesFit env (connectionFile (connectedIscsi env host)) connRows
  connection : LinesFit env (fun file => connectionDir (connectedIscsi env host) ++ "/" ++ file)
    connectionRows

theorem sessionFile_length (host : Str) : ∀ a ∈ [targetNameRow],
    (sessionFile (knownIscsi env host) a.file).length < Buf.fillConnectionSessionPath.size := by
  have hs := @sessionName_length env host
  simp [sessionFile, targetNameRow, SYSFS_ISCSI_SESS_PATH, Buf.size, lit]
  omega

theorem connectionFile_length (host : Str) : ∀ a ∈ connRows,
    (connectionFile (connectedIscsi env host) a.file).length <
      Buf.fillConnectionConnectionPath.size := by
  have hc := @connectionName_length env host
  simp [connectionFile, connRows, SYSFS_ISCSI_CONN_PATH, Buf.size, lit]
  omega

theorem inArrays_connections {host path : Str} (hp : path.length ≤ 1023) {es : List Dirent}
    (hes : entriesOf env (connectionHome host (knownIscsi env host).sessionName) = es) :
    Emits InArrays (do
      let i ← es.foldlM (connectionEntry path) (knownIscsi env host)
      closedir path
      let i ← loadAllInto .fillConnectionSessionPath (sessionFile i) [targetNameRow] i
      loadAllInto .fillConnectionConnectionPath (connectionFile i) connRows i) env ↔
    LinesFit env (sessionFile (knownIscsi env host)) [targetNameRow] ∧
      LinesFit env (connectionFile (connectedIscsi env host)) connRows := by
  obtain ⟨j,hj,hsj,hcj⟩ := @connections_spec env path es (knownIscsi env host)
  obtain ⟨k,hk,hlk⟩ := @linked_loadAllInto env .fillConnectionSessionPath (sessionFile j)
    [targetNameRow] (by simp) j
  have hfj : sessionFile j = sessionFile (knownIscsi env host) := by
    have hn : j.sessionName = (knownIscsi env host).sessionName := congrArg (·.2.1) hsj
    funext file
    rw [sessionFile, sessionFile, hn]
  have hfk : connectionFile k = connectionFile (connectedIscsi env host) := by
    have hn : k.connectionName = j.connectionName := congrArg (·.2) hlk
    have hc : (connectedIscsi env host).connectionName =
        ((es.filter isConnection).getLast?).map Dirent.dName := by rw [← hes]; rfl
    funext file
    rw [connectionFile, connectionFile, hn, hcj, connectionName_knownIscsi, Option.or_none, hc]
  have hf : Emits InArrays (es.foldlM (connectionEntry path) (knownIscsi env host)) env :=
    emits_foldlM _ _ _ _ _ fun i e _ => inArrays_connectionEntry hp i e
  have ht : Readable env (sessionFile (knownIscsi env host)) [targetNameRow] :=
    readable_plain (fun a ha => plain_connRows a (by simp_all)) _
  have hr : Readable env (connectionFile (connectedIscsi env host)) connRows :=
    readable_plain (fun a ha => plain_connRows a (by simp_all)) _
  rw [emits_bind_at hj, and_iff_right hf, emits_bind_at ((returns_closedir _ ()).mpr trivial),
    emits_closedir, and_iff_right (by trivial), emits_bind_at hk, hfk, hfj,
    inArrays_loadAllInto ht (sessionFile_length host),
    inArrays_loadAllInto hr (connectionFile_length host)]

theorem inArrays_fillConnectionInfo {host : Str} (hl : host.length ≤ 255) :
    Emits InArrays (fillConnectionInfo (knownIscsi env host)) env ↔
      ((env.dir (connectionHome host (knownIscsi env host).sessionName)).isSome →
        LinesFit env (sessionFile (knownIscsi env host)) [targetNameRow] ∧
          LinesFit env (connectionFile (connectedIscsi env host)) connRows) := by
  have hs := @sessionName_length env host
  have hpath : lit "/sys/class/iscsi_host/" ++ orNull (knownIscsi env host).hostName ++
      lit "/device/" ++ orNull (knownIscsi env host).sessionName =
        connectionHome host (knownIscsi env host).sessionName := by
    rw [hostName_of_linked rfl]
    rfl
  have hh : (connectionHome host (knownIscsi env host).sessionName).length ≤ 1023 := by
    simp [connectionHome, lit]
    omega
  have hes := @inArrays_connections env host _ hh
  simp only [fillConnectionInfo, hpath]
  rw [emits_bind_at ((returns_store _ _ _).mpr rfl), inArrays_store,
    and_iff_right (show _ < Buf.fillConnectionSessionPath.size from Nat.lt_succ_of_le hh),
    emits_bind_at ((returns_opendir _ _).mpr rfl), and_iff_right (by simp [InArrays])]
  cases hd : env.dir (connectionHome host (knownIscsi env host).sessionName) with
  | none => simp [InArrays]
  | some l =>
    rw [Option.isSome_some, forall_prop_of_true rfl]
    exact hes (by rw [entriesOf, hd]; rfl)

theorem inArrays_getIscsiConnectionInfo {host : Str} {i : IscsiDevInfo}
    (hi : linked i = linked (connectedIscsi env host))
    (hr : Readable env (fun file => connectionDir (connectedIscsi env host) ++ "/" ++ file)
      connectionRows) (c : IscsiConnection) :
    Emits InArrays (getIscsiConnectionInfo i c) env ↔ LinesFit env
      (fun file => connectionDir (connectedIscsi env host) ++ "/" ++ file) connectionRows := by
  have hc := @connectionName_length env host
  have hpath : SYSFS_ISCSI_CONN_PATH ++ lit "/" ++ orNull i.connectionName =
      connectionDir (connectedIscsi env host) := connectionDir_congr hi
  have hd : (connectionDir (connectedIscsi env host)).length ≤ 300 := by
    simp [connectionDir, SYSFS_ISCSI_CONN_PATH, lit]
    omega
  have hl : ∀ a ∈ connectionRows, (connectionDir (connectedIscsi env host) ++ lit "/" ++
      a.file).length < Buf.iscsiConnectionConnStr.size := by
    simp [connectionRows, connText, connInt, Buf.size, lit]
    omega
  simp only [getIscsiConnectionInfo, hpath]
  rw [emits_bind_at ((returns_store _ _ _).mpr rfl), inArrays_store,
    and_iff_right (lt_of_le_of_lt hd (by simp [Buf.size]))]
  exact inArrays_before (inArrays_loadAllInto hr hl c) fun c _ => by simp [InArrays]

theorem inArrays_showIscsiDetails {host : Str} (hl : host.length ≤ 255)
    (hr : SessionReadable env host) :
    Emits InArrays (showIscsiDetails host) env ↔ SessionFits env host := by
  have hi : Returns (fillSessionInfo (iscsiHost host)) env (knownIscsi env host) :=
    (returns_fillSessionInfo rfl rfl _).mpr rfl
  obtain ⟨p,hs⟩ := (survives_getIscsiSessionInfo_iff (knownIscsi env host) env.mallocSession).mpr
    ⟨hr.session,hr.found⟩
  obtain ⟨j,hj,hlj⟩ := @fillConnectionInfo_known env host _ rfl
  have hg : Emits InArrays (getIscsiSessionInfo (knownIscsi env host) env.mallocSession) env :=
    inArrays_reports (reports_getIscsiSessionInfo _ _)
  have hc : Emits InArrays (do
      let _ ← getIscsiConnectionInfo j env.mallocConnection
      pure (0 : ℤ)) env ↔ _ :=
    inArrays_before (inArrays_getIscsiConnectionInfo hlj hr.connection _) fun _ _ => by simp
  rw [showIscsiDetails, emits_bind_at ((returns_emit _ _ ()).mpr trivial), emits_emit,
    and_iff_right (by trivial), emits_bind_at ((returns_ask _ _).mpr rfl),
    and_iff_right (emits_ask _ _), emits_bind_at hi, and_iff_right (inArrays_fillSessionInfo hl),
    emits_bind_at hs, and_iff_right hg, emits_bind_at hj, inArrays_fillConnectionInfo hl, hc]
  exact ⟨fun h => ⟨h.1,h.2⟩,fun h => ⟨h.1,h.2⟩⟩

/-! ## Disks -/

theorem inArrays_showDiskDetails (arg : Str) (d : ScsiDeviceInfo) :
    Emits InArrays (showDiskDetails (some arg) d) env :=
  inArrays_reports (reports_showDiskDetails _ _)

/-! ## The run of a pair -/

/-- A run ends in zero exactly where `P` holds: it stays in its arrays, returns, and the
zero is that of `P`. -/
theorem ends_iff {m : Tool ℤ} {P : Prop} : (∃ s, Ends m env s ∧ (s = 0 ↔ P)) ↔
    Emits InArrays m env ∧ Survives m env ∧ (Returns m env 0 ↔ P) := by
  constructor
  · rintro ⟨s,⟨ha,hs⟩,hp⟩
    refine ⟨ha,⟨s,hs⟩,?_⟩
    rw [← hp]
    exact ⟨fun h => returns_unique hs h,fun h => h ▸ hs⟩
  · rintro ⟨ha,⟨s,hs⟩,hp⟩
    refine ⟨s,⟨ha,hs⟩,?_⟩
    rw [← hp]
    exact ⟨fun h => h ▸ hs,fun h => returns_unique hs h⟩

theorem inArrays_reportError (argv : Argv) (err : ℤ) : Emits InArrays (reportError argv err) env := by
  simp [reportError, InArrays]

section
variable (a₀ : Str) {w : Str} (rest : List Str)
variable (hw : asksHelp (stripDashes w) = false ∧ asksVersion (stripDashes w) = false)
include hw

theorem main_eq : main (a₀ :: w :: rest) = (do
    let err ← (do
      let ret ← parseCmd (a₀ :: w :: rest)
      if ret < 0 then do
        reportError (a₀ :: w :: rest) ret
        pure (-einval)
      else pure ret)
    if err = -enotty then generalHelp
    pure (if err = 0 then 0 else 1)) := by
  rw [main, if_neg (by simp), handleCmd_parse hw.1 hw.2]

theorem inArrays_main : Emits InArrays (main (a₀ :: w :: rest)) env ↔
    Emits InArrays (parseCmd (a₀ :: w :: rest)) env := by
  rw [main_eq a₀ rest hw]
  refine inArrays_before (inArrays_before Iff.rfl fun r _ => ?_) fun err _ => ?_
  · simp [inArrays_reportError]
  · simp [generalHelp, InArrays]

theorem survives_main : Survives (main (a₀ :: w :: rest)) env ↔
    Survives (parseCmd (a₀ :: w :: rest)) env := by
  rw [main_eq a₀ rest hw, survives_bind_of (P := True) fun err _ => by simp [generalHelp],
    and_true, survives_bind_of (P := True), and_true]
  intro r _
  have hr := survives_seq ⟨(),@returns_reportError env (a₀ :: w :: rest) r⟩
    fun _ _ => survives_pure (-einval : ℤ) env
  simp [hr]

theorem main_ends {P : Prop} :
    (∃ s, Ends (main (a₀ :: w :: rest)) env s ∧ (s = 0 ↔ P)) ↔
      ∃ s, Ends (parseCmd (a₀ :: w :: rest)) env s ∧ (s = 0 ↔ P) := by
  rw [ends_iff, ends_iff, inArrays_main a₀ rest hw, survives_main a₀ rest hw,
    (@main_parsed env Unit a₀ w rest hw).2]

end

theorem list_ends {sub : Str} {m : Tool ℤ} (h : Lists sub m) (a₀ : Str) (rest : List Str)
    {P : Prop} : (∃ s, Ends (main (a₀ :: "list" :: sub :: rest)) env s ∧ (s = 0 ↔ P)) ↔
      Emits InArrays m env ∧ Survives m env ∧ (Returns m env 0 ↔ P) := by
  have hw := @known_word .cmdList (lit "list") (by simp [cmdStr])
  have hc : parseCmd (a₀ :: lit "list" :: sub :: rest) = cmdList (a₀ :: lit "list" :: sub :: rest) :=
    hw.2 _ _
  rw [main_ends a₀ (sub :: rest) hw.1, hc, cmdList_lists h, ends_iff]
  simp [InArrays]

theorem show_ends {sub arg : Str} {m : Tool ℤ} (h : Shows arg sub m) (a₀ : Str) (rest : List Str)
    {P : Prop} : (∃ s, Ends (main (a₀ :: "show" :: sub :: arg :: rest)) env s ∧ (s = 0 ↔ P)) ↔
      arg.length ≤ 16 ∧ Emits InArrays m env ∧ Survives m env ∧ (Returns m env 0 ↔ P) := by
  have hw := @known_word .cmdShow (lit "show") (by simp [cmdStr])
  have hc : parseCmd (a₀ :: lit "show" :: sub :: arg :: rest) =
      cmdShow (a₀ :: lit "show" :: sub :: arg :: rest) := hw.2 _ _
  rw [main_ends a₀ (sub :: arg :: rest) hw.1, hc, cmdShow_pair (supported_of_shows h),
    runBlocks_shows h, ends_iff]
  simp [InArrays, Buf.size, and_assoc]

end ScsiCli.ArrayBounds
