import ScsiCli.ArrayBounds
import ScsiCli.ShowDisk

/-!
# What the exit status tells

The status of a run of `list` or `show` is compared with what the run printed.
The listings that count their rows fail when they succeed, and so does the
search for a disk; the stubs and the gatherers whose statuses are not looked at
succeed when they fail. A run that a null pointer or a missing line ends has no
status, and after a store past the end of an array none is promised.
-/

set_option autoImplicit false

namespace ScsiCli.ExitStatus
open ScsiCli.RunTrace ScsiCli.ByteString ScsiCli.NumberText ScsiCli.Records ScsiCli.Machine
open ScsiCli.SysfsUtils ScsiCli.DiskUtils ScsiCli.DiskDetails ScsiCli.FcpUtils
open ScsiCli.IscsiUtils ScsiCli.Commands ScsiCli.MachineRules ScsiCli.Gatherers
open ScsiCli.Completion ScsiCli.IscsiCompletion ScsiCli.RemotePorts ScsiCli.ShowDisk
open ScsiCli.Dispatch ScsiCli.Requests ScsiCli.Listings ScsiCli.ArrayBounds

variable {env : Env}

/-! ## Details of a disk -/

def reportOf : Event → Option Shown
  | .out (.scsiDiskDetails d) | .out (.nvmeDiskDetails d) => some (d.diskName,d.diskPath)
  | _ => none

theorem reportOf_quiet : Quiet reportOf := by
  refine ⟨fun e he => ?_,fun _ => rfl,fun _ => rfl,rfl⟩
  cases e <;> first | rfl | cases he

theorem reportOf_eq (e : Event) : reportOf e = (shownOf e).bind id := by
  cases e with
  | out o => cases o <;> rfl
  | _ => rfl

theorem reports_showDiskDetails (arg : Str) (d : ScsiDeviceInfo) :
    observed reportOf (showDiskDetails (some arg) d) env =
      (List.replicate (hits env (cut 16 (env.format arg)))
        (detailsOf (cut 16 (env.format arg)))).filterMap id := by
  rw [← (showDiskDetails_spec env arg d).2, observed, observed, List.filterMap_filterMap]
  exact congrArg (fun p => List.filterMap p _) (funext reportOf_eq)

/-- The search never succeeds: one disk found is reported as one. -/
theorem showDiskDetails_fails (arg : Str) (d : ScsiDeviceInfo) :
    ¬Returns (showDiskDetails (some arg) d) env 0 := fun h => by
  have hr := returns_unique h (showDiskDetails_spec env arg d).1
  split at hr <;> simp [enodev] at hr

def DiskShown (env : Env) (m : Tool ℤ) (arg : Str) : Prop :=
  Listed env arg ∧ (some arg,some (SYSFS_BLOCK_PATH ++ "/" ++ arg)) ∈ observed reportOf m env

theorem diskShown_iff (arg : Str) (d : ScsiDeviceInfo) :
    DiskShown env (showDiskDetails (some arg) d) arg ↔
      Listed env arg ∧ cut 16 (env.format arg) = arg := by
  unfold DiskShown
  rw [reports_showDiskDetails]
  refine and_congr_right fun hl => ⟨fun h => ?_,fun h => ?_⟩
  · obtain ⟨x,hx,he⟩ := List.mem_filterMap.mp h
    obtain ⟨-,rfl⟩ := List.mem_replicate.mp hx
    have hn : some (cut 16 (env.format arg)) = some arg :=
      congrArg Prod.fst (Option.some.inj he)
    exact Option.some.inj hn
  · refine List.mem_filterMap.mpr ⟨detailsOf arg,?_,rfl⟩
    rw [h, List.mem_replicate]
    refine ⟨fun h0 => ?_,rfl⟩
    obtain ⟨e,he,rfl⟩ := hl
    exact (hits_eq_zero_iff _).mp h0 e he (List.prefix_refl _)

/-! ## Details of a Fibre Channel host -/

theorem linkState_rows :
    (∀ a ∈ portIdRow :: adapterRows, Frames FcDeviceInfo.linkState a) ∧
      (∀ a ∈ qlaRows ++ lpfcRows ++ [lpfcSpeedRow,lpfcVersionRow],
        Frames FcDeviceInfo.linkState a) ∧
        ∀ a ∈ activeModeRow :: hostRows, Frames FcDeviceInfo.linkState a := by
  have hm : ∀ n (f : FcDeviceInfo), { f with maxNpivVports := n }.linkState = f.linkState :=
    fun _ _ => rfl
  have hu : ∀ n (f : FcDeviceInfo), { f with npivVportsInuse := n }.linkState = f.linkState :=
    fun _ _ => rfl
  have hd : ∀ n (f : FcDeviceInfo), { f with devLossTmo := n }.linkState = f.linkState :=
    fun _ _ => rfl
  simp only [adapterRows, qlaRows, lpfcRows, hostRows, List.cons_append, List.nil_append,
    List.forall_mem_cons]
  refine ⟨⟨?_,?_,?_,?_,?_,fun _ f => hm _ f,fun _ f => hu _ f,?_,by simp⟩,
    ⟨?_,?_,?_,?_,?_,?_,?_,?_,?_,?_,?_,?_,by simp⟩,?_,?_,?_,fun _ f => hd _ f,by simp⟩ <;>
    exact fun _ _ => rfl

theorem linkState_getLinkInfo {f g : FcDeviceInfo} {s : ℤ} (hf : f.linkState = none)
    (h : Returns (getLinkInfo f) env (s,g)) :
    g.linkState.isSome = (linkLine env f).isSome := by
  rw [frame_getLinkInfo FcDeviceInfo.linkState linkState_rows.2.2 h]
  cases linkLine env f with
  | none => simp [hf]
  | some p => rfl

theorem driver_known {d : Str} (h : driver env = some d) :
    strncmpEq d "qla2xxx" 7 = true ∨ strncmpEq d "lpfc" 4 = true := by
  unfold driver at h
  obtain ⟨l,-,h⟩ := Option.bind_eq_some_iff.mp h
  obtain ⟨e,he,rfl⟩ := Option.map_eq_some_iff.mp h
  have ht := List.find?_some he
  simp only [isDriver, Bool.and_eq_true, Bool.or_eq_true] at ht
  exact ht.2

theorem linkState_getFcInfo {f g : FcDeviceInfo} {s : ℤ} (hf : f.linkState = none)
    (hd : f.driverName = driver env) (h : Returns (getFcInfo f) env (s,g)) :
    g.linkState.isSome = (linkLine env f).isSome := by
  have hrows := linkState_rows.2.1
  have hlink : ∀ {k}, origin k = origin f → k.linkState = none →
      Returns (getLinkInfo k) env (s,g) → g.linkState.isSome = (linkLine env f).isSome :=
    fun {k} ho hk hr => by
      rw [linkState_getLinkInfo hk hr, linkLine, linkLine, scsiHostFile_congr ho]
  unfold getFcInfo at h
  cases hn : f.driverName with
  | none => simp [hn] at h
  | some d =>
    simp only [hn] at h
    split_ifs at h with h₁ h₂
    · obtain ⟨f₁,hf₁,h⟩ := (returns_bind _ _ _ _).mp h
      exact hlink (loadAll_frame origin origin_driverRows.1 hf₁)
        ((loadAll_frame _ (fun a ha => hrows a (by simp_all)) hf₁).trans hf) h
    · obtain ⟨f₁,hf₁,h⟩ := (returns_bind _ _ _ _).mp h
      obtain ⟨f₂,hf₂,h⟩ := (returns_bind _ _ _ _).mp h
      obtain ⟨f₃,hf₃,h⟩ := (returns_bind _ _ _ _).mp h
      have ho₁ := loadAll_frame origin (fun a ha => origin_driverRows.2 a (by simp_all)) hf₁
      have ho₂ := loadAll_frame origin (fun a ha => origin_driverRows.2 a (by simp_all)) hf₂
      have ho₃ := loadAll_frame origin (fun a ha => origin_driverRows.2 a (by simp_all)) hf₃
      have hl₁ := loadAll_frame FcDeviceInfo.linkState (fun a ha => hrows a (by simp_all)) hf₁
      have hl₂ := loadAll_frame FcDeviceInfo.linkState (fun a ha => hrows a (by simp_all)) hf₂
      have hl₃ := loadAll_frame FcDeviceInfo.linkState (fun a ha => hrows a (by simp_all)) hf₃
      exact hlink (ho₃.trans (ho₂.trans ho₁)) (hl₃.trans (hl₂.trans (hl₁.trans hf))) h
    · exact absurd (driver_known (hd.symm.trans hn)) (by simp [h₁, h₂])

theorem linkState_getAdapterDetails {f g : FcDeviceInfo}
    (h : Returns (getAdapterDetails f) env g) : g.linkState = f.linkState := by
  simp only [getAdapterDetails, returns_bind, returns_loadAllInto, returns_store,
    exists_eq_left, returns_opendir] at h
  obtain ⟨f₁,h₁,f₂,h₂,h⟩ := h
  have hr := linkState_rows.1
  have hl₁ := loadAll_frame FcDeviceInfo.linkState (fun a ha => hr a (by simp_all)) h₁
  have hl₂ := loadAll_frame FcDeviceInfo.linkState (fun a ha => hr a (by simp_all)) h₂
  rw [← hl₁, ← hl₂]
  cases hd : env.dir (underHost f₂ "device") with
  | none =>
    obtain rfl : g = { f₂ with noRports := 0 } := by simpa [hd, printInfo, print] using h
    rfl
  | some l =>
    obtain rfl : g = { f₂ with noRports := countRports (forEachDir l.entries) 0 f₂.noRports } := by
      simpa [hd] using h
    rfl

/-- The host of a report, and whether its link state was gathered: without it the
gatherer gives up and reports an error. -/
def hostOf : Event → Option (Option Str × Bool)
  | .out (.fcInfo f) => some (f.hostName,f.linkState.isSome)
  | _ => none

theorem hostOf_quiet : Quiet hostOf := by
  refine ⟨fun e he => ?_,fun _ => rfl,fun _ => rfl,rfl⟩
  cases e <;> first | rfl | cases he

theorem tableOf_quiet : Quiet tableOf := by
  refine ⟨fun e he => ?_,fun _ => rfl,fun _ => rfl,rfl⟩
  cases e <;> first | rfl | cases he

theorem host_listRportAdapters (f : FcDeviceInfo) :
    observed hostOf (listRportAdapters f) env = [] :=
  (observed_eq_nil_iff _ _ _).mpr
    (emits_listRportAdapters (fun _ => quiet_of_gathers hostOf_quiet) rfl (fun _ => rfl) f)

theorem host_showFcPortDetails {name : Str} (h : PortLives env name) :
    observed hostOf (showFcPortDetails name) env =
      [(some name,(linkLine env (knownHost env name)).isSome)] := by
  obtain ⟨f,hf⟩ := (survives_getAdapterDetails_iff _).mpr h.host
  have ho := origin_getAdapterDetails hf
  obtain ⟨⟨s,g⟩,hg⟩ := (survives_getFcInfo_iff f).mpr ((infoReadable_congr ho).mpr h.info)
  have hname : g.hostName = some name := congrArg (·.2.1) ((origin_getFcInfo hg).trans ho)
  have hdriver : f.driverName = driver env := congrArg (·.2.2.1) ho
  have hlink := linkState_getFcInfo (linkState_getAdapterDetails hf) hdriver hg
  have hl : linkLine env f = linkLine env (knownHost env name) := by
    rw [linkLine, linkLine, scsiHostFile_congr ho]
    rfl
  rw [showFcPortDetails_eq, observed_emit_bind, observed_bind_of_returns _ _
    ((adapter_spec name f).mpr ⟨h.driverDir,hf⟩), quiet_gathers hostOf_quiet (gathers_adapter name),
    finish, observed_bind_of_returns _ _ hg, quiet_gathers hostOf_quiet (gathers_getFcInfo f)]
  dsimp only
  rw [print, observed_emit_bind]
  have ht : observed hostOf (if 0 < g.noRports then do
      let _ ← listRportAdapters g
      pure (0 : ℤ)
    else pure 0) env = [] := by
    split
    · exact observed_bind_eq_nil _ (host_listRportAdapters g) fun _ _ => rfl
    · rfl
  rw [ht]
  simp [hostOf, hname, hlink, hl]

/-- A remote port comes before an entry of another kind, so that some count is stored. -/
def Followed : List Dirent → Prop
  | [] => False
  | e :: es => if isRport e then ∃ x ∈ es, isRport x = false else Followed es

theorem countRports_pos_iff_other (es : List Dirent) {c n : ℤ} (hc : 0 < c) :
    0 < countRports es c n ↔ 0 < n ∨ ∃ x ∈ es, isRport x = false := by
  induction es generalizing c n with
  | nil => simp [countRports]
  | cons e es ih =>
    rw [countRports]
    cases he : isRport e with
    | true =>
      rw [if_pos rfl, ih (by omega)]
      simp [he]
    | false =>
      rw [if_neg (by simp), ih hc]
      simp [he, hc]

theorem countRports_pos_iff (es : List Dirent) : 0 < countRports es 0 0 ↔ Followed es := by
  induction es with
  | nil => simp [countRports, Followed]
  | cons e es ih =>
    rw [countRports, Followed]
    cases he : isRport e with
    | true =>
      rw [if_pos rfl, if_pos rfl, Int.zero_add, countRports_pos_iff_other es Int.one_pos]
      simp
    | false => rw [if_neg (by simp), if_neg (by simp), ih]

theorem followed_counts {es : List Dirent} (h : Followed es) : es.countP isRport ≠ 0 := by
  induction es with
  | nil => exact h.elim
  | cons e es ih =>
    cases he : isRport e with
    | true => simp [he]
    | false =>
      rw [Followed, he, if_neg (by simp)] at h
      simpa [he] using ih h

theorem rportsGiven_pos_iff (name : Str) :
    0 < rportsGiven env (knownHost env name) ↔ Followed (entriesOf env (devicePath name)) := by
  have hp : underHost (knownHost env name) "device" = devicePath name := rfl
  rw [rportsGiven, hp, entriesOf]
  cases env.dir (devicePath name) with
  | none => simp [Followed, forEachDir]
  | some l => exact countRports_pos_iff _

def fullTable (env : Env) (name : Str) : List Bool :=
  if rportCount env (devicePath name) = 0 then []
  else true :: List.replicate (rportCount env (devicePath name)) false

/-- Where there is a port, one is followed by another entry and the second path shows as many. -/
def PortsListed (env : Env) (name : Str) : Prop :=
  rportCount env (devicePath name) ≠ 0 → Followed (entriesOf env (devicePath name)) ∧
    rportCount env (tablePath name) = rportCount env (devicePath name)

theorem table_lives {name : Str} (h : PortLives env name) :
    observed tableOf (showFcPortDetails name) env = fullTable env name ↔ PortsListed env name := by
  obtain ⟨f,hf⟩ := (survives_getAdapterDetails_iff _).mpr h.host
  have ho := origin_getAdapterDetails hf
  have hn : f.noRports = rportsGiven env (knownHost env name) := congrArg (·.2.2.2.2) ho
  have hp : f.sysDevPath = some (hostDir name) := congrArg (·.1) ho
  have ht : cut 64 (orNull f.sysDevPath ++ "/device") = tablePath name := by
    rw [hp]
    rfl
  rw [table_showFcPortDetails ((adapter_spec name f).mpr ⟨h.driverDir,hf⟩),
    table_finish ((infoReadable_congr ho).mpr h.info), hn, ht, fullTable, PortsListed]
  have hpos := @rportsGiven_pos_iff env name
  by_cases hc : rportCount env (devicePath name) = 0
  · have hz : ¬0 < rportsGiven env (knownHost env name) := fun h => followed_counts (hpos.mp h) hc
    simp [hc, hz]
  · by_cases hg : 0 < rportsGiven env (knownHost env name)
    · simp [hc, hg, hpos.mp hg, table_eq_iff _ hc]
    · have hw : ¬Followed (entriesOf env (devicePath name)) := fun hw => hg (hpos.mpr hw)
      simp [hc, hg, hw]

structure PortShown (env : Env) (m : Tool ℤ) (name : Str) : Prop where
  found : ∃ e ∈ entriesOf env SYSFS_FC_HOST_PATH, e.dName = name
  report : observed hostOf m env = [(some name,true)]
  ports : observed tableOf m env = fullTable env name

structure PortTells (env : Env) (name : Str) : Prop where
  found : ∃ e ∈ entriesOf env SYSFS_FC_HOST_PATH, e.dName = name
  link : (linkLine env (knownHost env name)).isSome
  ports : PortsListed env name

theorem portShown_iff {name : Str} (h : PortLives env name) :
    PortShown env (showFcPortDetails name) name ↔ PortTells env name := by
  have hh : observed hostOf (showFcPortDetails name) env = [(some name,true)] ↔
      (linkLine env (knownHost env name)).isSome := by
    rw [host_showFcPortDetails h]
    simp
  exact ⟨fun hs => ⟨hs.1,hh.mp hs.2,(table_lives h).mp hs.3⟩,
    fun ht => ⟨ht.1,hh.mpr ht.2,(table_lives h).mpr ht.3⟩⟩

theorem shown_fcPort_iff (name : Str) :
    (Emits InArrays (showFcPortDetails name) env ∧ Survives (showFcPortDetails name) env ∧
      (Returns (showFcPortDetails name) env 0 ↔ PortShown env (showFcPortDetails name) name)) ↔
    PortLives env name ∧ LinesFit env (underHost (knownHost env name)) adapterRows ∧
      PortTells env name := by
  have hs : Survives (showFcPortDetails name) env ↔ PortLives env name := by
    simp [Survives, returns_showFcPortDetails_iff]
  by_cases h : PortLives env name
  · simp [hs, h, returns_showFcPortDetails_iff, portShown_iff h,
      inArrays_showFcPortDetails h.driverDir h.host]
  · simp [hs, h]

/-! ## Details of an iSCSI host -/

def kindOf : Event → Option Str
  | .out (.iscsiHeader kind _) => some kind
  | _ => none

theorem kindOf_quiet : Quiet kindOf := by
  refine ⟨fun e he => ?_,fun _ => rfl,fun _ => rfl,rfl⟩
  cases e <;> first | rfl | cases he

theorem kinds_attachedDisk (name : Str) (s : IscsiSession) :
    observed kindOf (attachedDisk name s) env = [] := by
  have hr : ∀ path, observed kindOf (openSysfsStatsFile path) env = [] := fun path =>
    quiet_gathers kindOf_quiet (by simp)
  have hf : ∀ n p, observed kindOf (snprintfFmt n p) env = [] := fun n p =>
    quiet_gathers kindOf_quiet (by simp)
  apply observed_bind_eq_nil _ (quiet_gathers kindOf_quiet (gathers_getDeviceEntry _))
  intro _ _
  apply observed_bind_eq_nil _ (hf _ _)
  intro _ _
  apply observed_bind_eq_nil _ (hr _)
  intro _ _
  apply observed_bind_eq_nil _ (hf _ _)
  intro _ _
  simp [print, kindOf]

theorem kinds_hctlEntry (path : Str) (s : IscsiSession) (e : Dirent) :
    observed kindOf (hctlEntry path s e) env = [] := by
  unfold hctlEntry
  split
  · rfl
  · apply observed_bind_eq_nil _ (quiet_gathers kindOf_quiet (by simp))
    intro _ _
    apply observed_bind_eq_nil _ (quiet_gathers kindOf_quiet (by simp))
    intro _ _
    split
    · split
      · exact observed_bind_eq_nil _ (kinds_attachedDisk _ _) fun _ _ => rfl
      · rfl
    · rfl

def openTarget (env : Env) (path : Str) (e : Dirent) : Bool :=
  isTarget e && (env.dir (cut 4096 (path ++ "/" ++ e.dName))).isSome

theorem kinds_targetEntry (host : Option Str) (path : Str) (s : IscsiSession) (e : Dirent) :
    observed kindOf (targetEntry host path s e) env =
      if isTarget e then if openTarget env path e then [lit "LUN"] else [] else [] := by
  unfold targetEntry openTarget
  cases isTarget e with
  | false => rfl
  | true =>
    rw [if_pos rfl, observed_bind_of_silent _ fun _ _ => rfl,
      observed_getIscsiDiskHctl kindOf (fun _ => quiet_of_gathers kindOf_quiet) _ _ _
        (kinds_hctlEntry _)]
    have hn : ∀ es : List Dirent, es.flatMap (fun _ => ([] : List Str)) = [] := by simp
    rw [hn]
    simp [kindOf]

def sessionKinds (env : Env) (path : Str) : List Str :=
  match env.dir path with
  | none => []
  | some _ => lit "Session" ::
      List.replicate ((entriesOf env path).countP (openTarget env path)) (lit "LUN")

theorem kinds_getIscsiSessionInfo {i : IscsiDevInfo} {path : Str} (h : i.sessionPath = some path)
    (hr : Readable env (sessionAttr i) sessionRows) (s : IscsiSession) :
    observed kindOf (getIscsiSessionInfo i s) env = sessionKinds env path := by
  have hk : kindOf (.out (.iscsiHeader "Session" i.sessionName)) = some (lit "Session") := rfl
  have hf : (entriesOf env path).filter (openTarget env path) =
      ((entriesOf env path).filter isTarget).filter (openTarget env path) := by
    rw [List.filter_filter]
    apply List.filter_congr
    intro e _
    cases h : isTarget e <;> simp [openTarget, h]
  rw [observed_getIscsiSessionInfo kindOf (fun _ => quiet_of_gathers kindOf_quiet) h hr s
    (fun _ => rfl) (kinds_targetEntry i.hostName path), flatMap_ite_singleton, hk, sessionKinds,
    List.countP_eq_length_filter, List.countP_eq_length_filter, hf]
  cases env.dir path <;> rfl

theorem gathers_connectionRows (i : IscsiDevInfo) (c : IscsiConnection) :
    Emits Gathers (loadAllInto .iscsiConnectionConnStr
      (fun file => connectionDir i ++ "/" ++ file) connectionRows c) env :=
  gathers_loadAllInto _ rfl _ _
    (by simp [connectionRows, connText, connInt, Gatherers.CopyIn, ofArgument])

/-- The heading comes after the numbers, so that it is missing where one of them is. -/
theorem kinds_getIscsiConnectionInfo (i : IscsiDevInfo) (c : IscsiConnection) :
    (Readable env (fun file => connectionDir i ++ "/" ++ file) connectionRows →
      observed kindOf (getIscsiConnectionInfo i c) env = [lit "Connection"]) ∧
    (¬Readable env (fun file => connectionDir i ++ "/" ++ file) connectionRows →
      observed kindOf (getIscsiConnectionInfo i c) env = []) := by
  have hs : Returns (store .iscsiConnectionPath (connectionDir i)) env (connectionDir i) := by simp
  have hq : observed kindOf (store .iscsiConnectionPath (connectionDir i)) env = [] :=
    quiet_gathers kindOf_quiet (by simp [ofArgument])
  have hg := quiet_gathers kindOf_quiet (@gathers_connectionRows env i c)
  have hr := @survives_loadAllInto_iff env _ .iscsiConnectionConnStr
    (fun file => connectionDir i ++ "/" ++ file) connectionRows c
  have he : getIscsiConnectionInfo i c = (do
      let connPath ← store .iscsiConnectionPath (connectionDir i)
      let c ← loadAllInto .iscsiConnectionConnStr (fun file => connPath ++ "/" ++ file)
        connectionRows c
      print (.iscsiHeader "Connection" i.connectionName)
      print (.iscsiConnectionInfo c)
      pure (0,c)) := rfl
  rw [he, observed_bind_of_returns _ _ hs, hq]
  constructor
  · intro h
    obtain ⟨t,ht⟩ := hr.mpr h
    rw [observed_bind_of_returns _ _ ht, hg]
    simp [print, kindOf]
  · intro h
    exact observed_bind_eq_nil _ hg fun t ht => (h (hr.mp ⟨t,ht⟩)).elim

/-- The whole report: the session, the disks of each target, the connection. -/
def fullKinds (env : Env) (path : Str) : List Str :=
  lit "Session" :: List.replicate ((entriesOf env path).countP isTarget) (lit "LUN") ++
    [lit "Connection"]

structure SessionShown (env : Env) (m : Tool ℤ) (host : Str) : Prop where
  found : ∃ e ∈ entriesOf env SYSFS_ISCSI_HOST_PATH, e.dName = host
  parts : ∃ path, (knownIscsi env host).sessionPath = some path ∧
    observed kindOf m env = fullKinds env path

structure SessionTells (env : Env) (host : Str) : Prop where
  found : ∃ e ∈ entriesOf env SYSFS_ISCSI_HOST_PATH, e.dName = host
  opens : ∃ path, (knownIscsi env host).sessionPath = some path ∧ (env.dir path).isSome ∧
    ∀ e ∈ entriesOf env path, isTarget e = true →
      (env.dir (cut 4096 (path ++ "/" ++ e.dName))).isSome

theorem countP_openTarget_iff (path : Str) (es : List Dirent) :
    es.countP (openTarget env path) = es.countP isTarget ↔ ∀ e ∈ es, isTarget e = true →
      (env.dir (cut 4096 (path ++ "/" ++ e.dName))).isSome := by
  have hle : ∀ es : List Dirent, es.countP (openTarget env path) ≤ es.countP isTarget := fun es =>
    List.countP_mono_left fun e _ h => by
      simp only [openTarget, Bool.and_eq_true] at h
      exact h.1
  induction es with
  | nil => simp
  | cons e es ih =>
    have hi : es.countP (openTarget env path) = es.countP isTarget ↔ ∀ e ∈ es,
        isTarget e = true → (env.dir (cut 4096 (path ++ "/" ++ e.dName))).isSome := ih
    rw [List.countP_cons, List.countP_cons, List.forall_mem_cons, ← hi]
    have hes := hle es
    cases ht : isTarget e with
    | false => simp [openTarget, ht]
    | true =>
      cases ho : (env.dir (cut 4096 (path ++ lit "/" ++ e.dName))).isSome with
      | false =>
        have hn : openTarget env path e = false := by rw [openTarget, ht, ho]; rfl
        simp only [hn, Bool.false_eq_true, if_false, if_true, forall_true_left, false_and,
          iff_false]
        omega
      | true =>
        have hn : openTarget env path e = true := by rw [openTarget, ht, ho]; rfl
        simp [hn]

theorem sessionKinds_full_iff (path : Str) :
    sessionKinds env path ++ [lit "Connection"] = fullKinds env path ↔ (env.dir path).isSome ∧
      ∀ e ∈ entriesOf env path, isTarget e = true →
        (env.dir (cut 4096 (path ++ "/" ++ e.dName))).isSome := by
  rw [← countP_openTarget_iff, fullKinds, List.append_left_inj, sessionKinds]
  cases env.dir path with
  | none => simp
  | some l => simp [List.replicate_inj]

theorem kinds_showIscsiDetails {host path : Str}
    (hp : (knownIscsi env host).sessionPath = some path)
    (hr : Readable env (sessionAttr (knownIscsi env host)) sessionRows) :
    ∃ j, linked j = linked (connectedIscsi env host) ∧
      observed kindOf (showIscsiDetails host) env = sessionKinds env path ++
        observed kindOf (getIscsiConnectionInfo j env.mallocConnection) env := by
  have hi : Returns (fillSessionInfo (iscsiHost host)) env (knownIscsi env host) :=
    (returns_fillSessionInfo rfl rfl _).mpr rfl
  obtain ⟨p,hs⟩ := (survives_getIscsiSessionInfo_iff (knownIscsi env host)
    env.mallocSession).mpr ⟨hr,by simp [hp]⟩
  obtain ⟨j,hj,hl⟩ := @fillConnectionInfo_known env host _ rfl
  refine ⟨j,hl,?_⟩
  rw [showIscsiDetails, observed_emit_bind, observed_ask_bind, observed_bind_of_returns _ _ hi,
    quiet_gathers kindOf_quiet (gathers_fillSessionInfo _), observed_bind_of_returns _ _ hs,
    kinds_getIscsiSessionInfo hp hr, observed_bind_of_returns _ _ hj,
    quiet_gathers kindOf_quiet (gathers_fillConnectionInfo _),
    observed_bind_of_silent _ fun _ _ => rfl]
  rfl

theorem returns_showIscsiDetails_iff (host : Str) :
    Returns (showIscsiDetails host) env 0 ↔ SessionReadable env host := by
  rw [← survives_showIscsiDetails_iff]
  refine ⟨fun h => ⟨0,h⟩,fun ⟨r,hr⟩ => ?_⟩
  have h0 : r = 0 := by
    simp only [showIscsiDetails, returns_bind, returns_pure] at hr
    obtain ⟨-,-,-,-,-,-,-,-,-,-,-,-,h0⟩ := hr
    exact h0
  exact h0 ▸ hr

theorem sessionShown_iff {host : Str} (h : SessionReadable env host) :
    SessionShown env (showIscsiDetails host) host ↔ SessionTells env host := by
  obtain ⟨path,hp⟩ := Option.isSome_iff_exists.mp h.found
  obtain ⟨j,hl,hk⟩ := kinds_showIscsiDetails hp h.session
  have hc := (kinds_getIscsiConnectionInfo j env.mallocConnection).1
    (by rw [connectionDir_congr hl]; exact h.connection)
  rw [hc] at hk
  have hparts := @sessionKinds_full_iff env path
  rw [← hk] at hparts
  constructor
  · rintro ⟨hf,path',hp',ho⟩
    obtain rfl : path' = path := Option.some.inj (hp'.symm.trans hp)
    exact ⟨hf,path',hp',hparts.mp ho⟩
  · rintro ⟨hf,path',hp',ho⟩
    obtain rfl : path' = path := Option.some.inj (hp'.symm.trans hp)
    exact ⟨hf,path',hp',hparts.mpr ho⟩

theorem shown_iscsi_iff {host : Str} (hl : host.length ≤ 16) :
    (Emits InArrays (showIscsiDetails host) env ∧ Survives (showIscsiDetails host) env ∧
      (Returns (showIscsiDetails host) env 0 ↔ SessionShown env (showIscsiDetails host) host)) ↔
    SessionReadable env host ∧ SessionFits env host ∧ SessionTells env host := by
  rw [survives_showIscsiDetails_iff]
  by_cases h : SessionReadable env host
  · simp [h, returns_showIscsiDetails_iff, sessionShown_iff h,
      inArrays_showIscsiDetails (by omega : host.length ≤ 255) h]
  · simp [h]

/-! ## The status of the process -/

inductive Requested : Argv → Prop
  | list (a₀ sub : Str) (rest : List Str) (h : supportedPair "list" sub = true) :
    Requested (a₀ :: "list" :: sub :: rest)
  | show (a₀ sub arg : Str) (rest : List Str) (h : supportedPair "show" sub = true) :
    Requested (a₀ :: "show" :: sub :: arg :: rest)

/-- The report on a named device is printed in full by a run. -/
def ShownInFull (env : Env) (sub arg : Str) (m : Tool ℤ) : Prop :=
  if sub = "disk" then DiskShown env m arg
  else if sub = "fc_port" then PortShown env m arg
  else SessionShown env m arg

def Produced (env : Env) : Argv → Prop
  | a₀ :: cmd :: sub :: rest =>
    if cmd = "list" then
      fullList env sub = some (observed lineOf (main (a₀ :: cmd :: sub :: rest)) env)
    else ∃ arg, rest[0]? = some arg ∧
      ShownInFull env sub arg (main (a₀ :: cmd :: sub :: rest))
  | _ => False

/-- The process ends, and with a zero exactly when it printed what was asked for. -/
def StatusTells (env : Env) (argv : Argv) : Prop :=
  ∃ s, Ends (main argv) env s ∧ (s = 0 ↔ Produced env argv)

/-- Where the status of a listing tells whether it is full. -/
def ListTells (env : Env) (sub : Str) : Prop :=
  NamesFit env sub ∧
  if sub = "fc_hba" then
    (∀ e ∈ entriesOf env SYSFS_FC_HOST_PATH, HostLives env e.dName) ∧ UncountedHosts env
  else if sub = "iscsi" then entriesOf env SYSFS_ISCSI_HOST_PATH = []
  else if sub = "enclosure" then AtMostOneEnclosure env
  else if sub = "cd-rom" then ∀ e ∈ entriesOf env DEV_DIR_PATH, isCdrom e = false
  else if sub = "medium-changer" then
    (env.dir SYSFS_SCSI_GEN_PATH).isSome ∧ ∀ e ∈ entriesOf env SYSFS_SCSI_GEN_PATH,
      entryType env SYSFS_SCSI_GEN_PATH e ≠ MEDIUM_CHANGER_DEVICE
  else True

/-- Where the status of a report tells whether it is full. -/
def ShowTells (env : Env) (sub arg : Str) : Prop :=
  arg.length ≤ 16 ∧
  if sub = "disk" then ¬(Listed env arg ∧ cut 16 (env.format arg) = arg)
  else if sub = "fc_port" then
    PortLives env arg ∧ LinesFit env (underHost (knownHost env arg)) adapterRows ∧
      PortTells env arg
  else SessionReadable env arg ∧ SessionFits env arg ∧ SessionTells env arg

def Truthful (env : Env) : Argv → Prop
  | _ :: cmd :: sub :: rest =>
    if cmd = "list" then ListTells env sub else ∀ arg, rest[0]? = some arg → ShowTells env sub arg
  | _ => False

theorem survives_lists {sub : Str} {m : Tool ℤ} (h : Lists sub m) : Survives m env ↔
    (sub = "fc_hba" → ∀ e ∈ entriesOf env SYSFS_FC_HOST_PATH, HostLives env e.dName) := by
  cases h with
  | fcHba => simpa using survives_listFcAdapters_iff
  | iscsi => simp [Survives, returns_listIscsiDevs, lit]
  | controller => simpa [lit] using survives_listControllers
  | disk => simpa [lit] using survives_listBlockDevs
  | multipath => simpa [lit] using survives_listMultipathDevs
  | generic => simpa [lit, listGenericDevs] using survives_listing survives_genericRow _ _ _ _ _
  | enclosure => simpa [lit] using survives_listEnclosure
  | cdRom => simpa [lit, listCdromDevs] using survives_listing survives_cdromRow _ _ _ _ _
  | mediumChanger => simp [listMediumChanger, lit]
  | tape => simpa [lit, listTapeDevs] using survives_listing survives_tapeRow _ _ _ _ _

theorem lists_tells {sub : Str} {m : Tool ℤ} (h : Lists sub m) :
    (Emits InArrays m env ∧ Survives m env ∧
      (Returns m env 0 ↔ fullList env sub = some (observed lineOf m env))) ↔ ListTells env sub := by
  have hi : (Returns m env 0 ↔ fullList env sub = some (observed lineOf m env)) → sub = "iscsi" →
      entriesOf env SYSFS_ISCSI_HOST_PATH = [] := by
    intro ht hs
    cases h with
    | iscsi => exact agrees_listIscsiDevs_iff.mp ht
    | _ => simp [lit] at hs
  rw [ListTells, and_congr_left fun ht => inArrays_lists h (hi ht.2), survives_lists h]
  refine and_congr_right fun _ => ?_
  cases h with
  | fcHba =>
    rw [if_pos rfl, forall_prop_of_true rfl]
    exact and_congr_right agrees_listFcAdapters_iff
  | iscsi => simpa [lit] using agrees_listIscsiDevs_iff
  | enclosure => simpa [lit] using agrees_listEnclosure_iff
  | cdRom => simpa [lit] using agrees_listCdromDevs_iff
  | mediumChanger => simpa [lit] using agrees_listMediumChanger_iff
  | controller => simpa [lit] using agrees_listControllers
  | disk => simpa [lit] using agrees_listBlockDevs
  | multipath => simpa [lit] using agrees_listMultipathDevs
  | generic => simpa [lit] using agrees_listGenericDevs
  | tape => simpa [lit] using agrees_listTapeDevs

theorem shows_tells {sub arg : Str} {m : Tool ℤ} (h : Shows arg sub m) :
    (arg.length ≤ 16 ∧ Emits InArrays m env ∧ Survives m env ∧
      (Returns m env 0 ↔ ShownInFull env sub arg m)) ↔ ShowTells env sub arg := by
  refine and_congr_right fun hl => ?_
  cases h with
  | disk =>
    have hd : ShownInFull env (lit "disk") arg (showDiskDetails (some arg) allocScsiDev) ↔
        DiskShown env (showDiskDetails (some arg) allocScsiDev) arg := by simp [ShownInFull]
    rw [if_pos rfl, hd, diskShown_iff, iff_false_left (showDiskDetails_fails arg _),
      and_iff_right (inArrays_showDiskDetails _ _), and_iff_right ⟨_,(showDiskDetails_spec env arg _).1⟩]
  | fcPort => simpa [ShownInFull, lit] using shown_fcPort_iff arg
  | iscsi => simpa [ShownInFull, lit] using shown_iscsi_iff hl

theorem shownInFull_congr {m m' : Tool ℤ}
    (h : ∀ {β : Type} (p : Event → Option β), Quiet p → observed p m env = observed p m' env)
    (sub arg : Str) : ShownInFull env sub arg m ↔ ShownInFull env sub arg m' := by
  have hd := h reportOf reportOf_quiet
  have hh := h hostOf hostOf_quiet
  have ht := h tableOf tableOf_quiet
  have hk := h kindOf kindOf_quiet
  have hp : PortShown env m arg ↔ PortShown env m' arg :=
    ⟨fun s => ⟨s.1,hh ▸ s.2,ht ▸ s.3⟩,fun s => ⟨s.1,hh ▸ s.2,ht ▸ s.3⟩⟩
  have hs : SessionShown env m arg ↔ SessionShown env m' arg :=
    ⟨fun s => ⟨s.1,hk ▸ s.2⟩,fun s => ⟨s.1,hk ▸ s.2⟩⟩
  unfold ShownInFull DiskShown
  rw [hd, hp, hs]

theorem exit_status_iff (env : Env) (argv : Argv) (h : Requested argv) :
    StatusTells env argv ↔ Truthful env argv := by
  cases h with
  | list a₀ sub rest h =>
    obtain ⟨m,hm⟩ := lists_of_supported h
    have ho := (@run_lists env Line _ _ hm a₀ rest).1 lineOf lineOf_quiet
    simp only [StatusTells, Produced, Truthful, if_true]
    rw [ho, list_ends hm]
    exact lists_tells hm
  | «show» a₀ sub arg rest h =>
    obtain ⟨m,hm⟩ := shows_of_supported h arg
    have ho := shownInFull_congr (fun {β} => (@run_shows env β _ _ _ hm a₀ rest).1) sub arg
    have hc : lit "show" ≠ lit "list" := by simp [lit]
    simp only [StatusTells, Produced, Truthful, if_neg hc, List.getElem?_cons_zero,
      Option.some.injEq, exists_eq_left', forall_eq', ho]
    rw [show_ends hm]
    exact shows_tells hm

def oneDisk : Env :=
  { Env.bare with
    dir := fun path =>
      if path = SYSFS_BLOCK_PATH then
        some (Listing.ofEntries [⟨lit "sda",.lnk,sda_name⟩]
          (List.nodup_singleton _) (by simp [lit]) (by simp [lit]))
      else none }

theorem entries_oneDisk :
    entriesOf oneDisk SYSFS_BLOCK_PATH = [⟨lit "sda",.lnk,sda_name⟩] := by
  simp [entriesOf, oneDisk]

theorem one_disk_list_tells : Requested ["scsi-cli","list","disk"] ∧
    Produced oneDisk ["scsi-cli","list","disk"] ∧
      StatusTells oneDisk ["scsi-cli","list","disk"] := by
  have h : Requested ["scsi-cli","list","disk"] := .list _ _ _ (by decide +kernel)
  refine ⟨h,?_,(exit_status_iff oneDisk _ h).mpr ?_⟩
  · have h0 : Returns listBlockDevs oneDisk 0 := by
      simpa [oneDisk] using @status_listBlockDevs oneDisk
    rw [Produced, if_pos rfl, (run_lists .disk _ _).1 lineOf lineOf_quiet]
    exact agrees_listBlockDevs.mp h0
  · have hn : NamesFit oneDisk (lit "disk") := by
      simp [NamesFit, ShortNames, entries_oneDisk, lit]
    simp [Truthful, ListTells, hn]
    simp [lit]

theorem one_disk_status_misleads : Requested ["scsi-cli","show","disk","sda"] ∧
    ¬StatusTells oneDisk ["scsi-cli","show","disk","sda"] := by
  refine ⟨.show _ _ _ _ (by decide +kernel),fun h => ?_⟩
  have hb : blockEntries oneDisk = [⟨lit "sda",.lnk,sda_name⟩] := by
    simp [blockEntries, oneDisk]
  have hf : cut 16 (oneDisk.format (lit "sda")) = lit "sda" := by
    have hp : '%' ∉ lit "sda" := by simp [lit]
    rw [Env.format, expand_plain hp]
    simp [cut, lit]
  have hs : DiskShown oneDisk (showDiskDetails (some (lit "sda")) allocScsiDev) (lit "sda") :=
    (diskShown_iff _ _).mpr ⟨⟨_,by rw [hb]; exact List.mem_cons_self,rfl⟩,hf⟩
  have hm := @run_shows oneDisk Shown _ (lit "sda") _ .disk "scsi-cli" []
  have hp : Produced oneDisk ["scsi-cli","show","disk","sda"] := by
    have hc : lit "show" ≠ lit "list" := by simp [lit]
    rw [Produced, if_neg hc]
    refine ⟨lit "sda",rfl,?_⟩
    rw [ShownInFull, if_pos rfl, DiskShown, hm.1 reportOf reportOf_quiet]
    exact hs
  obtain ⟨s,⟨-,hs⟩,h0⟩ := h
  obtain rfl := h0.mpr hp
  exact showDiskDetails_fails _ _ (hm.2.mp hs)

end ScsiCli.ExitStatus
