import ScsiCli.ShowDisk
import ScsiCli.Requests
import ScsiCli.NullSafety

/-!
# Null pointers in the reports and in a whole run

The details reports and the iSCSI side are decided like the listings. A run of
`list` or `show` is then free of null pointers exactly when the report it
starts is, and the overview when each of its listings is, as far as it gets.
-/

set_option autoImplicit false

namespace ScsiCli.NullRuns
open ScsiCli.RunTrace ScsiCli.ByteString ScsiCli.NumberText ScsiCli.Records ScsiCli.Machine
open ScsiCli.SysfsUtils ScsiCli.DiskUtils ScsiCli.DiskDetails ScsiCli.FcpUtils
open ScsiCli.IscsiUtils ScsiCli.Commands ScsiCli.MachineRules ScsiCli.Completion
open ScsiCli.IscsiCompletion ScsiCli.RemotePorts ScsiCli.Dispatch ScsiCli.CommandGrammar
open ScsiCli.ArgumentCopies ScsiCli.LiteralCopies ScsiCli.ShowDisk ScsiCli.Requests
open ScsiCli.NullSafety

variable {env : Env}

/-! ## Details of a disk -/

theorem detailRows_plain :
    (∀ a ∈ nvmeRows, a.strip = false) ∧ (∀ a ∈ scsiRows, a.strip = false) ∧
      ∀ a ∈ queueRows, a.strip = false :=
  ⟨fun a ha => (plain_nvmeRows a ha).1,fun a ha => (plain_scsiRows a ha).1,
    fun a ha => (plain_queueRows a ha).1⟩

theorem queuePath_congr {d t : ScsiDeviceInfo} (h : t.diskPath = d.diskPath) :
    queuePath t = queuePath d := by
  funext file
  rw [queuePath, queuePath, h]

/-- The rows of a details report and the queue rows, of which two take a missing line. -/
structure DetailsFed (env : Env) (d : ScsiDeviceInfo) (rows : List (Attr ScsiDeviceInfo)) :
    Prop where
  attributes : Supplied env (underDisk d) rows
  queue : Supplied env (queuePath d) queueRows

theorem detailsFed_congr {d t : ScsiDeviceInfo} (h : t.diskPath = d.diskPath)
    (rows : List (Attr ScsiDeviceInfo)) : DetailsFed env t rows ↔ DetailsFed env d rows := by
  have hu := underDisk_congr h
  have hq := queuePath_congr h
  exact ⟨fun hf => ⟨hu ▸ hf.1,hq ▸ hf.2⟩,fun hf => ⟨hu ▸ hf.1,hq ▸ hf.2⟩⟩

theorem noNull_report {rows : List (Attr ScsiDeviceInfo)} (hs : ∀ a ∈ rows, a.strip = false)
    (hf : ∀ a ∈ rows, Frames subject a) (d : ScsiDeviceInfo) (o : ScsiDeviceInfo → Out) :
    Emits NoNull (do
      let d ← loadAll (underDisk d) rows d
      let d ← getDiskQueueData d
      print (o d)
      pure d) env ↔ DetailsFed env d rows := by
  have hd : DetailsFed env d rows ↔
      Supplied env (underDisk d) rows ∧ Supplied env (queuePath d) queueRows :=
    ⟨fun h => ⟨h.1,h.2⟩,fun h => ⟨h.1,h.2⟩⟩
  rw [hd]
  apply noNull_rows_bind (g := subject) hs hf
  intro t ht
  have hp : t.diskPath = d.diskPath := congrArg (·.2) ht
  rw [← queuePath_congr hp, getDiskQueueData]
  exact noNull_rows_last detailRows_plain.2.2 fun _ => by simp

theorem noNull_nvmeDetails (name : Str) (d : ScsiDeviceInfo) :
    Emits NoNull (getSingleNvmeDiskDetails name d) env ↔
      DetailsFed env (nvmeDisk name d) nvmeRows :=
  noNull_report detailRows_plain.1 subject_detailRows.1 _ _

theorem noNull_scsiDetails (name : Str) (d : ScsiDeviceInfo) :
    Emits NoNull (getSingleScsiDiskDetails name d) env ↔
      DetailsFed env (scsiDisk name d) scsiRows :=
  noNull_report detailRows_plain.2.1 subject_detailRows.2 _ _

def DiskFed (env : Env) (name : Str) : Prop :=
  if strncmpEq name "nvme" 4 then DetailsFed env (nvmeDisk name allocScsiDev) nvmeRows
  else DetailsFed env (scsiDisk name allocScsiDev) scsiRows

theorem noNull_showDiskEntry (name : Str) (s : ℕ × ScsiDeviceInfo) (e : Dirent) :
    Emits NoNull (showDiskEntry name s e) env ↔ (found name e = true → DiskFed env name) := by
  have hc : strncmpEq name e.dName name.length = found name e := strncmpEq_comm _ _ _
  have hn : DetailsFed env (nvmeDisk name s.2) nvmeRows ↔
      DetailsFed env (nvmeDisk name allocScsiDev) nvmeRows :=
    detailsFed_congr (d := nvmeDisk name allocScsiDev) (t := nvmeDisk name s.2) rfl _
  have hs : DetailsFed env (scsiDisk name s.2) scsiRows ↔
      DetailsFed env (scsiDisk name allocScsiDev) scsiRows :=
    detailsFed_congr (d := scsiDisk name allocScsiDev) (t := scsiDisk name s.2) rfl _
  rw [showDiskEntry, hc]
  change Emits NoNull (if found name e && strncmpEq name "nvme" 4 then _ else _) env ↔ _
  cases found name e with
  | false => simp
  | true =>
    cases hv : strncmpEq name "nvme" 4 with
    | true => simp [DiskFed, hv, noNull_nvmeDetails, hn]
    | false => simp [DiskFed, hv, noNull_scsiDetails, hs]

def ShownDiskFed (env : Env) (arg : Str) : Prop :=
  ∀ e ∈ blockEntries env, found (cut 16 (env.format arg)) e = true →
    DiskFed env (cut 16 (env.format arg))

theorem noNull_showDiskDetails (arg : Str) (d : ScsiDeviceInfo) :
    Emits NoNull (showDiskDetails (some arg) d) env ↔ ShownDiskFed env arg := by
  have hl : ∀ es : List Dirent, Emits NoNull
      (es.foldlM (showDiskEntry (cut 16 (env.format arg))) (0,d)) env ↔
        ∀ e ∈ es, found (cut 16 (env.format arg)) e = true →
          DiskFed env (cut 16 (env.format arg)) := by
    intro es
    apply emits_foldlM_each NoNull _ env es _ (fun s e _ => noNull_showDiskEntry _ s e)
    intro s e _
    obtain ⟨⟨t,ht⟩,-⟩ := @showDiskEntry_spec env _ (cut_length_le 16 (env.format arg)) s e
    exact ⟨_,ht⟩
  cases h : env.dir SYSFS_BLOCK_PATH with
  | none => simp [showDiskDetails, h, ShownDiskFed, blockEntries]
  | some l => simp [showDiskDetails, diskNameOf, h, ShownDiskFed, blockEntries, hl]

/-! ## The iSCSI listing -/

theorem connRows_plain : (∀ a ∈ [targetNameRow], a.strip = false) ∧
    ∀ a ∈ connRows, a.strip = false := by
  simp [targetNameRow, connRows]

theorem sessionFile_congr {i j : IscsiDevInfo} (h : linked i = linked j) :
    sessionFile i = sessionFile j := by
  have hn : i.sessionName = j.sessionName := congrArg (·.1.2.1) h
  funext file
  rw [sessionFile, sessionFile, hn]

theorem connectionFile_congr {i j : IscsiDevInfo} (h : linked i = linked j) :
    connectionFile i = connectionFile j := by
  have hc : i.connectionName = j.connectionName := congrArg (·.2) h
  funext file
  rw [connectionFile, connectionFile, hc]

def ConnectionFed (env : Env) (host : Str) : Prop :=
  (env.dir (connectionHome host (knownIscsi env host).sessionName)).isSome →
    Supplied env (sessionFile (connectedIscsi env host)) [targetNameRow] ∧
      Supplied env (connectionFile (connectedIscsi env host)) connRows

theorem noNull_connections (path : Str) (es : List Dirent) (i : IscsiDevInfo) :
    Emits NoNull (es.foldlM (connectionEntry path) i) env :=
  emits_foldlM _ _ _ _ _ fun i e _ => by
    unfold connectionEntry
    split <;> simp

theorem noNull_intoRows {α : Type} {b : Buf} {rows : List (Attr IscsiDevInfo)}
    {pathOf : Str → Str} {i : IscsiDevInfo} {k : IscsiDevInfo → Tool α} {P : Prop}
    (hr : ∀ a ∈ rows, a ∈ targetNameRow :: connRows)
    (hk : ∀ j, linked j = linked i → (Emits NoNull (k j) env ↔ P)) :
    Emits NoNull (loadAllInto b pathOf rows i >>= k) env ↔ Supplied env pathOf rows ∧ P := by
  have hp : ∀ a ∈ rows, a.strip = false := fun a ha => (plain_connRows a (hr a ha)).1
  obtain ⟨j,hj,hl⟩ := @linked_loadAllInto env b pathOf rows hr i
  rw [emits_bind_at hj, hk j hl, noNull_loadAllInto, rowsFed_iff hp]

theorem linked_connected {host : Str} {i j : IscsiDevInfo}
    (hi : linked i = linked (knownIscsi env host)) (hs : session j = session i)
    (hc : j.connectionName = (connectionEntryOf env
      (connectionHome host (knownIscsi env host).sessionName)).or i.connectionName) :
    linked j = linked (connectedIscsi env host) := by
  have hk : session i = session (knownIscsi env host) := congrArg (·.1) hi
  have hn : i.connectionName = none := (congrArg (·.2) hi).trans (connectionName_knownIscsi host)
  rw [linked, hs, hc, hk, hn, Option.or_none]
  rfl

theorem noNull_fillConnectionInfo {host : Str} {i : IscsiDevInfo}
    (h : linked i = linked (knownIscsi env host)) :
    Emits NoNull (fillConnectionInfo i) env ↔ ConnectionFed env host := by
  have hn : i.sessionName = (knownIscsi env host).sessionName := congrArg (·.1.2.1) h
  have ho : lit "/sys/class/iscsi_host/" ++ orNull i.hostName ++ lit "/device/" ++
      orNull i.sessionName = connectionHome host (knownIscsi env host).sessionName := by
    rw [hostName_of_linked h, hn]
    rfl
  -- The rows are read for the connection that the search leaves.
  have hrows : ∀ path t, linked t = linked (connectedIscsi env host) → (Emits NoNull (do
      closedir path
      let i ← loadAllInto .fillConnectionSessionPath (sessionFile t) [targetNameRow] t
      loadAllInto .fillConnectionConnectionPath (connectionFile i) connRows i) env ↔
        Supplied env (sessionFile (connectedIscsi env host)) [targetNameRow] ∧
          Supplied env (connectionFile (connectedIscsi env host)) connRows) := fun path t ht => by
    have hc : ∀ u, linked u = linked t →
        (Emits NoNull (loadAllInto .fillConnectionConnectionPath (connectionFile u) connRows u) env ↔
          Supplied env (connectionFile (connectedIscsi env host)) connRows) := fun u hu => by
      rw [connectionFile_congr (hu.trans ht), noNull_loadAllInto, rowsFed_iff connRows_plain.2]
    rw [← sessionFile_congr ht]
    simpa using noNull_intoRows (b := .fillConnectionSessionPath) (by simp) hc
  rw [fillConnectionInfo, ho, emits_bind]
  simp only [emits_store, noNull_overrun, returns_store, forall_eq, implies_true, true_and]
  rw [emits_bind]
  simp only [emits_opendir, noNull_opened, returns_opendir, forall_eq, implies_true, true_and]
  unfold ConnectionFed
  cases hd : env.dir (connectionHome host (knownIscsi env host).sessionName) with
  | none => simp
  | some l =>
    obtain ⟨j,hj,hs,hc⟩ := @connections_spec env
      (connectionHome host (knownIscsi env host).sessionName) (forEachDir l.entries) i
    have hl : linked j = linked (connectedIscsi env host) := linked_connected h hs <| by
      rw [hc, connectionEntryOf, entriesOf, hd]
      rfl
    simp only [Option.map_some, Option.isSome_some, forall_true_left]
    rw [emits_bind_at hj, and_iff_right (noNull_connections _ _ _), hrows _ j hl]

theorem noNull_fillSessionInfo (i : IscsiDevInfo) : Emits NoNull (fillSessionInfo i) env := by
  simp only [fillSessionInfo, emits_bind, emits_store, noNull_overrun, returns_store, forall_eq,
    emits_opendir, noNull_opened, returns_opendir, implies_true, true_and]
  cases env.dir (orNull i.sysDevPath ++ lit "/" ++ orNull i.hostName ++ lit "/device") with
  | none => simp
  | some l => cases hf : (forEachDir l.entries).find? isSession <;> simp [hf]

theorem noNull_identified (host : Str) : Emits NoNull (identified host) env := by
  have ht : Emits NoNull (getIscsiTransport (iscsiHost host)) env := by
    simp only [getIscsiTransport, emits_bind, emits_opendir, noNull_opened, returns_opendir,
      forall_eq, implies_true, true_and]
    cases env.dir ISCSI_TRANSPORT_PATH with
    | none => simp
    | some l =>
      cases hf : (forEachDir l.entries).find? fun e => strncmpEq e.dName "tcp" 3 <;> simp [hf]
  rw [identified, emits_bind]
  exact ⟨ht,fun p _ => noNull_fillSessionInfo p.2⟩

theorem noNull_iscsiRow (e : Dirent) :
    Emits NoNull (iscsiRow e) env ↔ ConnectionFed env e.dName := by
  obtain ⟨j,hj,hl⟩ := @identified_spec env e.dName
  have hk : ∀ i, linked i = linked (knownIscsi env e.dName) → (Emits NoNull (do
      let i ← fillConnectionInfo i
      print (.listIscsiDev i)) env ↔ ConnectionFed env e.dName) := fun i hi => by
    rw [emits_bind, noNull_fillConnectionInfo hi]
    simp
  rw [iscsiRow_eq, emits_bind_at hj, and_iff_right (noNull_identified _), hk j hl]

def IscsiHostsFed (env : Env) : Prop :=
  ∀ e ∈ entriesOf env SYSFS_ISCSI_HOST_PATH, ConnectionFed env e.dName

theorem noNull_listIscsiDevs : Emits NoNull listIscsiDevs env ↔ IscsiHostsFed env := by
  have hc : Emits NoNull (getDeviceCount SYSFS_ISCSI_HOST_PATH) env := by
    simp [getDeviceCount]
  have hl : ∀ es, Emits NoNull ((forEachDir es).foldlM (fun (_ : Unit) e => iscsiRow e) ()) env ↔
      ∀ e ∈ forEachDir es, ConnectionFed env e.dName := by
    intro es
    exact emits_foldlM_each NoNull _ env _ _ (fun _ e _ => noNull_iscsiRow e)
      fun _ e _ => survives_iscsiRow e
  rw [listIscsiDevs, emits_bind, emits_bind]
  simp only [emits_emit, noNull_device, hc, returns_getDeviceCount, forall_eq, true_and,
    returns_emit, forall_const, emits_ite, deviceCount_neg_iff, emits_pure, implies_true]
  unfold IscsiHostsFed entriesOf
  cases hd : env.dir SYSFS_ISCSI_HOST_PATH with
  | none => simp
  | some l => by_cases he : forEachDir l.entries = [] <;> simp [hd, he, hl]

/-! ## The disks of a session -/

def AttachedFed (env : Env) (name : Str) : Prop :=
  (env.dir (cut 2048 ("/sys/class/scsi_disk/" ++ name ++ "/device/block"))).isSome ∧
    (line env (cut 2048 ("/sys/class/scsi_disk/" ++ name ++ "/device/state"))).isSome

theorem noNull_attachedDisk (name : Str) (s : IscsiSession) :
    Emits NoNull (attachedDisk name s) env ↔ AttachedFed env name := by
  have he : ∀ path, Emits NoNull (getDeviceEntry path) env := fun path => by
    unfold getDeviceEntry
    cases hd : env.dir path with
    | none => simp [hd]
    | some l =>
      cases hf : l.entries.find? fun e => e.dType = .dir && strncmpEq e.dName "sd" 2 <;>
        simp [hd, hf]
  have hr : ∀ path p, Returns (getDeviceEntry path) env p → p.isSome = (env.dir path).isSome := by
    intro path p hp
    simp only [getDeviceEntry, returns_bind, returns_opendir, exists_eq_left] at hp
    cases hd : env.dir path with
    | none =>
      obtain rfl : p = none := by simpa [hd] using hp
      rfl
    | some l =>
      rw [hd] at hp
      simp only [Option.map_some] at hp
      split at hp <;> simp_all
  obtain ⟨p,hp⟩ := @survives_getDeviceEntry env
    (cut 2048 (lit "/sys/class/scsi_disk/" ++ name ++ lit "/device/block"))
  unfold attachedDisk AttachedFed
  rw [← hr _ p hp, emits_bind_at hp, and_iff_right (he _), emits_bind, emits_snprintfFmt]
  simp only [not_noNull_nullUse, imp_false, ← Option.isSome_iff_ne_none, returns_snprintfFmt,
    forall_eq, noNull_read_bind]
  simp

def HctlFed (env : Env) (path : Str) (e : Dirent) : Prop :=
  e.dType = .dir → (line env (cut 1024 (path ++ "/" ++ e.dName ++ "/type"))).isSome ∧
    (int32 (strtoull (cut 32 (((line env (cut 1024 (path ++ "/" ++ e.dName ++ "/type"))).map
      env.format).getD []))) ≠ STORAGE_ARRAY_CNTROLLER →
        (scanColon 4 e.dName).length = 4 → AttachedFed env e.dName)

theorem noNull_hctlEntry (path : Str) (s : IscsiSession) (e : Dirent) :
    Emits NoNull (hctlEntry path s e) env ↔ HctlFed env path e := by
  unfold hctlEntry HctlFed
  by_cases hd : e.dType = .dir
  · rw [if_neg (not_not.mpr hd), noNull_read_bind]
    simp only [hd, forall_true_left, emits_ite, emits_bind, emits_pure, noNull_attachedDisk,
      implies_true, and_true]
  · simp [hd]

/-- Every entry of every target, the directories themselves and their parents included. -/
def TargetsFed (env : Env) (sessionPath : Str) : Prop :=
  ∀ e ∈ entriesOf env sessionPath, isTarget e = true →
    ∀ l, env.dir (cut 4096 (sessionPath ++ "/" ++ e.dName)) = some l →
      ∀ d ∈ l.entries, HctlFed env (cut 4096 (sessionPath ++ "/" ++ e.dName)) d

theorem noNull_getIscsiDiskHctl (host : Option Str) (path : Str) (s : IscsiSession) :
    Emits NoNull (getIscsiDiskHctl host path s) env ↔
      ∀ l, env.dir path = some l → ∀ d ∈ l.entries, HctlFed env path d := by
  have hl : ∀ es : List Dirent, Emits NoNull (es.foldlM (hctlEntry path) s) env ↔
      ∀ d ∈ es, HctlFed env path d := by
    intro es
    exact emits_foldlM_each NoNull _ env _ _ (fun s e _ => noNull_hctlEntry path s e)
      fun s e _ => survives_hctlEntry path s e
  cases h : env.dir path <;> simp [getIscsiDiskHctl, h, hl]

theorem noNull_getSessionScsiDisks {i : IscsiDevInfo} {path : Str}
    (hp : i.sessionPath = some path) (s : IscsiSession) :
    Emits NoNull (getSessionScsiDisks i s) env ↔ TargetsFed env path := by
  have he : ∀ s e, Emits NoNull (targetEntry i.hostName path s e) env ↔ (isTarget e = true →
      ∀ l, env.dir (cut 4096 (path ++ "/" ++ e.dName)) = some l →
        ∀ d ∈ l.entries, HctlFed env (cut 4096 (path ++ "/" ++ e.dName)) d) := fun s e => by
    unfold targetEntry
    split
    · simp_all [noNull_getIscsiDiskHctl]
    · simp_all
  have hl : ∀ es : List Dirent, Emits NoNull (es.foldlM (targetEntry i.hostName path) s) env ↔
      ∀ e ∈ es, isTarget e = true → ∀ l, env.dir (cut 4096 (path ++ "/" ++ e.dName)) = some l →
        ∀ d ∈ l.entries, HctlFed env (cut 4096 (path ++ "/" ++ e.dName)) d := by
    intro es
    exact emits_foldlM_each NoNull _ env _ _ (fun s e _ => he s e)
      fun s e _ => survives_targetEntry _ path s e
  cases h : env.dir path <;> simp [getSessionScsiDisks, hp, h, hl, TargetsFed, entriesOf]

/-! ## Details of an iSCSI host -/

theorem sessionRows_plain : (∀ a ∈ sessionRows, a.strip = false) ∧
    ∀ a ∈ connectionRows, a.strip = false := by
  simp [sessionRows, sessText, sessInt, connectionRows, connText, connInt]

theorem noNull_getIscsiSessionInfo (i : IscsiDevInfo) (s : IscsiSession) :
    Emits NoNull (getIscsiSessionInfo i s) env ↔ Supplied env (sessionAttr i) sessionRows ∧
      ∃ path, i.sessionPath = some path ∧ TargetsFed env path := by
  refine noNull_rows_bind (g := fun _ => ()) sessionRows_plain.1 (fun _ _ _ _ => rfl) fun t _ => ?_
  cases hp : i.sessionPath with
  | none => simp
  | some path =>
    have ht := @noNull_getSessionScsiDisks env _ _ hp t
    simp only [Option.some.injEq, exists_eq_left']
    cases hd : env.dir path with
    | none => simp [hd, TargetsFed, entriesOf]
    | some l =>
      have he : entriesOf env path = forEachDir l.entries := by simp [entriesOf, hd]
      have hi : (∀ e ∈ entriesOf env path, isTarget e = true → TargetsFed env path) ↔
          TargetsFed env path :=
        ⟨fun h e he hi => h e he hi e he hi,fun h _ _ _ => h⟩
      rw [← hi, he]
      simp [hd, ht]

theorem noNull_getIscsiConnectionInfo (i : IscsiDevInfo) (c : IscsiConnection) :
    Emits NoNull (getIscsiConnectionInfo i c) env ↔
      Supplied env (fun file => connectionDir i ++ "/" ++ file) connectionRows := by
  rw [getIscsiConnectionInfo, emits_bind]
  simp only [emits_store, noNull_overrun, returns_store, forall_eq, implies_true, true_and]
  rw [emits_bind_of (P := True) fun _ _ => by simp, noNull_loadAllInto,
    rowsFed_iff sessionRows_plain.2]
  simp [connectionDir]

/-- The details of a host: of its session, of its connection as the listing reads it,
and of the connection as the report reads it. -/
structure ShownIscsiFed (env : Env) (host : Str) : Prop where
  session : Supplied env (sessionAttr (knownIscsi env host)) sessionRows
  targets : ∃ path, (knownIscsi env host).sessionPath = some path ∧ TargetsFed env path
  connection : ConnectionFed env host
  details : Supplied env (fun file => connectionDir (connectedIscsi env host) ++ "/" ++ file)
    connectionRows

theorem noNull_showIscsiDetails (host : Str) :
    Emits NoNull (showIscsiDetails host) env ↔ ShownIscsiFed env host := by
  obtain ⟨j,hj,hl⟩ := @fillConnectionInfo_known env host _ rfl
  have hi : Returns (fillSessionInfo (iscsiHost host)) env (knownIscsi env host) :=
    (returns_fillSessionInfo rfl rfl _).mpr rfl
  have hn : Emits NoNull (fillSessionInfo (iscsiHost host)) env :=
    noNull_fillSessionInfo (iscsiHost host)
  have hc : Emits NoNull (do
      let i ← fillConnectionInfo (knownIscsi env host)
      let _ ← getIscsiConnectionInfo i env.mallocConnection
      pure (0 : ℤ)) env ↔ ConnectionFed env host ∧ Supplied env
        (fun file => connectionDir (connectedIscsi env host) ++ "/" ++ file) connectionRows := by
    rw [emits_bind_at hj, noNull_fillConnectionInfo rfl, emits_bind,
      noNull_getIscsiConnectionInfo, connectionDir_congr hl]
    simp
  have hs := emits_bind_of (m := getIscsiSessionInfo (knownIscsi env host) env.mallocSession)
    (r := env) fun _ _ => hc
  have he : ShownIscsiFed env host ↔ (Supplied env (sessionAttr (knownIscsi env host)) sessionRows ∧
      ∃ path, (knownIscsi env host).sessionPath = some path ∧ TargetsFed env path) ∧
        ConnectionFed env host ∧ Supplied env
          (fun file => connectionDir (connectedIscsi env host) ++ "/" ++ file) connectionRows :=
    ⟨fun h => ⟨⟨h.1,h.2⟩,h.3,h.4⟩,fun h => ⟨h.1.1,h.1.2,h.2.1,h.2.2⟩⟩
  -- With its lines there, the session is followed to the end.
  have hv : (Supplied env (sessionAttr (knownIscsi env host)) sessionRows ∧
      ∃ path, (knownIscsi env host).sessionPath = some path ∧ TargetsFed env path) →
        Survives (getIscsiSessionInfo (knownIscsi env host) env.mallocSession) env :=
    fun ⟨hf,path,hp,_⟩ => (survives_getIscsiSessionInfo_iff _ _).mpr
      ⟨fun a ha => text_of_fed (sessionRows_plain.1 a ha) (hf a ha),by simp [hp]⟩
  rw [noNull_getIscsiSessionInfo] at hs
  rw [he, showIscsiDetails, emits_bind]
  simp only [emits_emit, noNull_device, returns_emit, true_and, forall_const]
  rw [emits_bind]
  simp only [emits_ask, returns_ask, true_and, forall_eq]
  rw [emits_bind_at hi, and_iff_right hn]
  exact hs.trans (and_congr_right fun h => ⟨fun hp => hp (hv h),fun hp _ => hp⟩)

/-! ## Whole runs -/

def ListFed (env : Env) (sub : Str) : Prop :=
  if sub = "fc_hba" then FcHostsFed env
  else if sub = "iscsi" then IscsiHostsFed env
  else if sub = "controller" then ControllersFed env
  else if sub = "disk" then DisksFed env
  else if sub = "multipath" then MultipathsFed env
  else if sub = "generic" then GenericsFed env
  else if sub = "enclosure" then EnclosuresFed env
  else if sub = "cd-rom" then CdromsFed env
  else if sub = "tape" then TapesFed env
  else True

def ShowFed (env : Env) (sub arg : Str) : Prop :=
  if sub = "disk" then ShownDiskFed env arg
  else if sub = "fc_port" then PortFed env arg
  else if sub = "iscsi" then ShownIscsiFed env arg
  else True

/-- The listings of the overview in turn; the last is reached where the one before it is
followed to its end. -/
structure OverviewFed (env : Env) : Prop where
  enclosures : EnclosuresFed env
  controllers : ControllersFed env
  disks : DisksFed env
  multipaths : MultipathsFed env
  fcHosts : FcHostsFed env
  iscsiHosts : (∀ e ∈ entriesOf env SYSFS_FC_HOST_PATH, HostLives env e.dName) → IscsiHostsFed env

/-- What a run of `list` or `show` reads is there, as far as the run gets. -/
def RunFed (env : Env) (w : Str) : List Str → Prop
  | [] => OverviewFed env
  | sub :: devs =>
    (w = "list" → ListFed env sub) ∧ (w = "show" → ∀ arg ∈ devs.head?, ShowFed env sub arg)

theorem noNull_lists {sub : Str} {m : Tool ℤ} (h : Lists sub m) :
    Emits NoNull m env ↔ ListFed env sub := by
  cases h with
  | fcHba => simp [ListFed, noNull_listFcAdapters]
  | iscsi => simp [ListFed, lit, noNull_listIscsiDevs]
  | controller => simp [ListFed, lit, noNull_listControllers]
  | disk => simp [ListFed, lit, noNull_listBlockDevs]
  | multipath => simp [ListFed, lit, noNull_listMultipathDevs]
  | generic => simp [ListFed, lit, noNull_listGenericDevs]
  | enclosure => simp [ListFed, lit, noNull_listEnclosure]
  | cdRom => simp [ListFed, lit, noNull_listCdromDevs]
  | mediumChanger => simp [ListFed, lit, listMediumChanger]
  | tape => simp [ListFed, lit, noNull_listTapeDevs]

theorem noNull_shows {sub arg : Str} {m : Tool ℤ} (h : Shows arg sub m) :
    Emits NoNull m env ↔ ShowFed env sub arg := by
  cases h with
  | disk => simp [ShowFed, noNull_showDiskDetails]
  | fcPort => simp [ShowFed, lit, noNull_showFcPortDetails]
  | iscsi => simp [ShowFed, lit, noNull_showIscsiDetails]

theorem listFed_of_refused {sub : Str} (h : supportedPair "list" sub = false) :
    ListFed env sub := by
  have hn : ∀ m, ¬Lists sub m := fun m hm => by simp [supported_of_lists hm] at h
  unfold ListFed
  split_ifs <;> first | trivial | (subst_vars; exact absurd (by constructor) (hn _))

theorem showFed_of_refused {sub : Str} (h : supportedPair "show" sub = false) (arg : Str) :
    ShowFed env sub arg := by
  have hn : ∀ m, ¬Shows arg sub m := fun m hm => by simp [supported_of_shows hm] at h
  unfold ShowFed
  split_ifs <;> first | trivial | (subst_vars; exact absurd (by constructor) (hn _))

theorem noNull_handleCmdErrors (argv : Argv) :
    Emits NoNull (handleCmdErrors argv) env ↔ OverviewFed env := by
  have hf : OverviewFed env ↔ EnclosuresFed env ∧ ControllersFed env ∧ DisksFed env ∧
      MultipathsFed env ∧ FcHostsFed env ∧
        ((∀ e ∈ entriesOf env SYSFS_FC_HOST_PATH, HostLives env e.dName) → IscsiHostsFed env) :=
    ⟨fun ⟨h₁,h₂,h₃,h₄,h₅,h₆⟩ => ⟨h₁,h₂,h₃,h₄,h₅,h₆⟩,fun ⟨h₁,h₂,h₃,h₄,h₅,h₆⟩ => ⟨h₁,h₂,h₃,h₄,h₅,h₆⟩⟩
  obtain ⟨_,h₁⟩ := @survives_listEnclosure env
  obtain ⟨_,h₂⟩ := @survives_listControllers env
  obtain ⟨_,h₃⟩ := @survives_listBlockDevs env
  obtain ⟨_,h₄⟩ := @survives_listMultipathDevs env
  have h₆ : Emits NoNull (do
      let _ ← listIscsiDevs
      pure ()) env ↔ IscsiHostsFed env := by
    rw [emits_bind, noNull_listIscsiDevs]
    simp
  have h₅ := emits_bind_of (m := listFcAdapters) (r := env) fun _ _ => h₆
  rw [noNull_listFcAdapters, survives_listFcAdapters_iff] at h₅
  rw [hf, handleCmdErrors, listSubcommands, emits_bind_at ((returns_print _ ()).mpr trivial),
    emits_bind_at h₁, emits_bind_at h₂, emits_bind_at h₃, emits_bind_at h₄, h₅]
  simp only [emits_print, noNull_out, true_and]
  exact and_congr noNull_listEnclosure (and_congr noNull_listControllers
    (and_congr noNull_listBlockDevs (and_congr noNull_listMultipathDevs Iff.rfl)))

theorem noNull_refused {a₀ w sub : Str} {rest : List Str} (h : supportedPair w sub = false) :
    Emits NoNull (cmdList (a₀ :: w :: sub :: rest)) env ∧
      Emits NoNull (cmdShow (a₀ :: w :: sub :: rest)) env := by
  have hv : ∀ v, NoNull (.validated w sub v) := fun _ => rfl
  have hh : ∀ f, NoNull (.handler f) := fun _ => rfl
  simp [cmdList, cmdShow, validateSubcommand_cons, prog_bind_assoc, h, enoent, hv, hh]

theorem runFed_of_refused {w sub : Str} {devs : List Str} (h : supportedPair w sub = false) :
    RunFed env w (sub :: devs) :=
  ⟨fun hw => listFed_of_refused (hw ▸ h),fun hw _ _ => showFed_of_refused (hw ▸ h) _⟩

theorem word_of_supported {w sub : Str} (h : supportedPair w sub = true) : stripDashes w = w :=
  stripDashes_of_head (supportedPair_head h)

theorem noNull_cmdList {a₀ w : Str} {rest : List Str} (hw : stripDashes w = "list") :
    Emits NoNull (cmdList (a₀ :: w :: rest)) env ↔ RunFed env w rest := by
  have hh : NoNull (.handler .cmdList) := rfl
  cases rest with
  | nil => simp [cmdList, noNull_handleCmdErrors, RunFed, hh]
  | cons sub devs =>
    cases hp : supportedPair w sub with
    | false => exact iff_of_true (noNull_refused hp).1 (runFed_of_refused hp)
    | true =>
      obtain rfl : w = lit "list" := (word_of_supported hp).symm.trans hw
      obtain ⟨m,hm⟩ := lists_of_supported hp
      have hv : NoNull (.validated "list" sub true) := rfl
      have hne : lit "list" ≠ lit "show" := by simp [lit]
      simp [cmdList_lists hm, noNull_lists hm, RunFed, hh, hv, hne]

theorem noNull_cmdShow {a₀ w : Str} {rest : List Str} (hw : stripDashes w = "show") :
    Emits NoNull (cmdShow (a₀ :: w :: rest)) env ↔ RunFed env w rest := by
  have hh : NoNull (.handler .cmdShow) := rfl
  cases rest with
  | nil => simp [cmdShow, noNull_handleCmdErrors, RunFed, hh]
  | cons sub devs =>
    cases hp : supportedPair w sub with
    | false => exact iff_of_true (noNull_refused hp).2 (runFed_of_refused hp)
    | true =>
      obtain rfl : w = lit "show" := (word_of_supported hp).symm.trans hw
      have hv : NoNull (.validated "show" sub true) := rfl
      have hne : lit "show" ≠ lit "list" := by simp [lit]
      cases devs with
      | nil => simp [cmdShow, validateSubcommand_cons, prog_bind_assoc, hp, RunFed, hh, hv, hne]
      | cons arg devs =>
        obtain ⟨m,hm⟩ := shows_of_supported hp arg
        simp [cmdShow_pair hp, runBlocks_shows hm, noNull_shows hm, RunFed, hh, hv, hne]

def NullSafe (env : Env) (argv : Argv) : Prop := observed nullOf (main argv) env = []

theorem nullSafe_parse {a₀ w : Str} {rest : List Str}
    (hw : asksHelp (stripDashes w) = false ∧ asksVersion (stripDashes w) = false) :
    NullSafe env (a₀ :: w :: rest) ↔ Emits NoNull (parseCmd (a₀ :: w :: rest)) env := by
  rw [NullSafe, observed_main _ (fun _ => rfl), observed_handleCmd_parse _ (fun _ => rfl) hw.1 hw.2]
  exact observed_eq_nil_iff _ _ _

theorem nullSafe_list {a₀ w : Str} {rest : List Str} (hw : stripDashes w = "list") :
    NullSafe env (a₀ :: w :: rest) ↔ RunFed env w rest := by
  rw [nullSafe_parse (by simp [hw, asksHelp, asksVersion, strncmpEq, lit]),
    @parseCmd_word .cmdList a₀ w rest (by simp [hw, cmdStr])]
  exact noNull_cmdList hw

theorem nullSafe_show {a₀ w : Str} {rest : List Str} (hw : stripDashes w = "show") :
    NullSafe env (a₀ :: w :: rest) ↔ RunFed env w rest := by
  rw [nullSafe_parse (by simp [hw, asksHelp, asksVersion, strncmpEq, lit]),
    @parseCmd_word .cmdShow a₀ w rest (by simp [hw, cmdStr])]
  exact noNull_cmdShow hw

theorem null_safe_iff (env : Env) (a₀ w : Str) (rest : List Str)
    (hw : stripDashes w = "list" ∨ stripDashes w = "show") :
    NullSafe env (a₀ :: w :: rest) ↔ RunFed env w rest :=
  hw.elim nullSafe_list nullSafe_show

def writtenDisk : Env :=
  { Env.bare with
    dir := fun path =>
      if path = SYSFS_BLOCK_PATH then
        some (Listing.ofEntries [⟨lit "sdc",.lnk,by simp [lit, nul]⟩]
          (by simp) (by simp [lit]) (by simp [lit]))
      else none
    file := fun _ => .bytes (lit "0\n") }

theorem written_disk_null_safe : NullSafe writtenDisk ["scsi-cli","list","disk"] := by
  refine (null_safe_iff writtenDisk _ _ _ (.inl (by simp [stripDashes, lit]))).mpr
    ⟨fun _ => ?_,fun h => by simp [lit] at h⟩
  have hf : ∀ path c, Fed writtenDisk path c := fun path c => by
    cases c <;> simp [Fed, line, stream, writtenDisk, fgets, lit]
  have hd : DisksFed writtenDisk :=
    ⟨fun _ _ _ => ⟨fun _ _ => hf _ _,fun _ _ => hf _ _⟩,fun _ _ _ _ _ => hf _ _⟩
  simpa [ListFed, lit] using hd

def foreignHost : Env :=
  { Env.bare with
    dir := fun path =>
      if path = SYSFS_FC_HOST_PATH then
        some (Listing.ofEntries [⟨lit "host0",.lnk,by simp [lit, nul]⟩]
          (by simp) (by simp [lit]) (by simp [lit]))
      else if path = PCI_DRIVER_PATH then
        some (Listing.ofEntries [⟨lit "fnic",.dir,by simp [lit, nul]⟩]
          (by simp) (by simp [lit]) (by simp [lit]))
      else none }

/-- The name of its driver is compared before there is one. -/
theorem foreign_host_not_null_safe : ¬NullSafe foreignHost ["scsi-cli","list","fc_hba"] := by
  have he : entriesOf foreignHost SYSFS_FC_HOST_PATH = [⟨lit "host0",.lnk,by simp [lit, nul]⟩] := by
    simp [entriesOf, foreignHost]
  have hd : driver foreignHost = none := by
    have hp : PCI_DRIVER_PATH ≠ SYSFS_FC_HOST_PATH := by
      simp [PCI_DRIVER_PATH, SYSFS_FC_HOST_PATH, lit]
    simp [driver, foreignHost, hp, Listing.ofEntries, dotEntry, dotdotEntry, isDriver, strncmpEq, lit]
  rw [nullSafe_list (by simp [stripDashes, lit])]
  rintro ⟨hl,-⟩
  have hf : FcHostsFed foreignHost := by simpa [ListFed] using hl rfl
  rw [FcHostsFed, he] at hf
  obtain ⟨⟨-,d,hn,-⟩,-⟩ := hf
  rw [show (knownHost foreignHost (lit "host0")).driverName = driver foreignHost from rfl, hd] at hn
  cases hn

end ScsiCli.NullRuns
