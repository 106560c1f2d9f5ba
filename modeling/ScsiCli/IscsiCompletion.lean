import Mathlib.Data.List.Nodup
import ScsiCli.Completion

/-!
# How far the iSCSI gatherers get

A host is followed to the session and the connection that the searches leave in
its record. The listing always runs to its end; the details report needs the
numbers of a session and of a connection, and a session to look into. What the
two show is given by their loops, for any view that the gatherers do not touch.
-/

set_option autoImplicit false

namespace ScsiCli.IscsiCompletion
open ScsiCli.RunTrace ScsiCli.ByteString ScsiCli.NumberText ScsiCli.Records ScsiCli.Machine
open ScsiCli.SysfsUtils ScsiCli.IscsiUtils ScsiCli.MachineRules ScsiCli.Gatherers
open ScsiCli.Completion

variable {env : Env}

/-! ## Session and connection of a host -/

def sessionHome (host : Str) : Str := SYSFS_ISCSI_HOST_PATH ++ "/" ++ host ++ "/device"

def sessionEntry (env : Env) (host : Str) : Option Str :=
  ((entriesOf env (sessionHome host)).find? isSession).map Dirent.dName

def withSession (env : Env) (host : Str) (i : IscsiDevInfo) : IscsiDevInfo :=
  match sessionEntry env host with
  | none => i
  | some name => { i with
      sessionName := some name, sessionPath := some (sessionHome host ++ "/" ++ name)
      sessionCount := i.sessionCount+1 }

theorem returns_fillSessionInfo {host : Str} {i : IscsiDevInfo} (hh : i.hostName = some host)
    (hp : i.sysDevPath = some SYSFS_ISCSI_HOST_PATH) (j : IscsiDevInfo) :
    Returns (fillSessionInfo i) env j ↔ j = withSession env host i := by
  have ho : orNull i.sysDevPath ++ lit "/" ++ orNull i.hostName ++ lit "/device" =
      sessionHome host := by
    rw [hh, hp]
    rfl
  simp only [fillSessionInfo, ho, returns_bind, returns_store, exists_eq_left, returns_opendir,
    withSession, sessionEntry, entriesOf]
  cases env.dir (sessionHome host) with
  | none => simp
  | some l =>
    simp only [Option.map_some, Option.getD_some]
    cases (forEachDir l.entries).find? isSession <;> simp

def connectionHome (host : Str) (session : Option Str) : Str :=
  "/sys/class/iscsi_host/" ++ host ++ "/device/" ++ orNull session

def connectionEntryOf (env : Env) (path : Str) : Option Str :=
  (((entriesOf env path).filter isConnection).getLast?).map Dirent.dName

def session (i : IscsiDevInfo) : Option Str × Option Str × Option Str :=
  (i.hostName,i.sessionName,i.sessionPath)

def connected (i : IscsiDevInfo) (name path : Option Str) (n : ℤ) : IscsiDevInfo :=
  { i with connectionName := name, connectionPath := path, connectionCount := n }

theorem connectionEntry_eq (path : Str) (i : IscsiDevInfo) (e : Dirent) :
    ∃ p n, Returns (connectionEntry path i e) env
      (connected i (if isConnection e then some e.dName else i.connectionName) p n) := by
  unfold connectionEntry
  cases isConnection e with
  | false => exact ⟨i.connectionPath,i.connectionCount,by simp [connected]⟩
  | true => exact ⟨some (path ++ "/" ++ e.dName),i.connectionCount+1,by simp [connected]⟩

theorem connections_eq (path : Str) (es : List Dirent) (i : IscsiDevInfo) :
    ∃ p n, Returns (es.foldlM (connectionEntry path) i) env (connected i
      ((((es.filter isConnection).getLast?).map Dirent.dName).or i.connectionName) p n) := by
  induction es generalizing i with
  | nil => exact ⟨i.connectionPath,i.connectionCount,by simp [connected]⟩
  | cons e es ih =>
    obtain ⟨p,n,hj⟩ := @connectionEntry_eq env path i e
    obtain ⟨q,m,hk⟩ := ih (connected i (if isConnection e then some e.dName
      else i.connectionName) p n)
    refine ⟨q,m,(returns_bind _ _ _ _).mpr ⟨_,hj,?_⟩⟩
    cases he : isConnection e with
    | false => simpa [he, connected] using hk
    | true =>
      rw [List.filter_cons_of_pos he]
      cases hl : es.filter isConnection with
      | nil => simpa [he, hl, connected] using hk
      | cons x xs =>
        rw [List.getLast?_cons_cons]
        cases hx : (x :: xs).getLast? with
        | none => simp at hx
        | some y => simpa [he, hl, hx, connected] using hk

theorem connections_spec (path : Str) (es : List Dirent) (i : IscsiDevInfo) :
    ∃ j, Returns (es.foldlM (connectionEntry path) i) env j ∧ session j = session i ∧
      j.connectionName =
        (((es.filter isConnection).getLast?).map Dirent.dName).or i.connectionName := by
  obtain ⟨p,n,h⟩ := @connections_eq env path es i
  exact ⟨_,h,rfl,rfl⟩

theorem plain_connRows : ∀ a ∈ targetNameRow :: connRows, Plain a := by
  simp [targetNameRow, connRows, Plain]

def linked (i : IscsiDevInfo) : (Option Str × Option Str × Option Str) × Option Str :=
  (session i,i.connectionName)

theorem linked_connRows : ∀ a ∈ targetNameRow :: connRows, Frames linked a := by
  simp only [connRows, List.forall_mem_cons]
  exact ⟨fun _ _ => rfl,fun _ _ => rfl,fun _ _ => rfl,by simp⟩

theorem linked_loadAllInto {b : Buf} {pathOf : Str → Str} {rows : List (Attr IscsiDevInfo)}
    (h : ∀ a ∈ rows, a ∈ targetNameRow :: connRows) (i : IscsiDevInfo) :
    ∃ j, Returns (loadAllInto b pathOf rows i) env j ∧ linked j = linked i := by
  obtain ⟨j,hj⟩ := @survives_plain env _ _ (fun a ha => plain_connRows a (h a ha)) pathOf i
  exact ⟨j,(returns_loadAllInto b pathOf rows i j).mpr hj,
    loadAll_frame linked (fun a ha => linked_connRows a (h a ha)) hj⟩

theorem fillConnectionInfo_spec {host : Str} {i : IscsiDevInfo} (hh : i.hostName = some host) :
    ∃ j, Returns (fillConnectionInfo i) env j ∧ linked j = (session i,
      (connectionEntryOf env (connectionHome host i.sessionName)).or i.connectionName) := by
  have ho : lit "/sys/class/iscsi_host/" ++ orNull i.hostName ++ lit "/device/" ++
      orNull i.sessionName = connectionHome host i.sessionName := by
    rw [hh]
    rfl
  simp only [fillConnectionInfo, ho, returns_bind, returns_store, exists_eq_left,
    returns_opendir, connectionEntryOf, entriesOf]
  cases env.dir (connectionHome host i.sessionName) with
  | none => exact ⟨i,by simp [printInfo, print],by simp [linked]⟩
  | some l =>
    obtain ⟨j,hj,hs,hc⟩ := @connections_spec env (connectionHome host i.sessionName)
      (forEachDir l.entries) i
    obtain ⟨k,hk,hl⟩ := @linked_loadAllInto env .fillConnectionSessionPath (sessionFile j)
      [targetNameRow] (by simp) j
    obtain ⟨m,hm,hl'⟩ := @linked_loadAllInto env .fillConnectionConnectionPath (connectionFile k)
      connRows (by simp_all) k
    refine ⟨m,?_,?_⟩
    · simp only [Option.map_some, returns_bind, returns_closedir, true_and, exists_const]
      exact ⟨j,hj,k,hk,hm⟩
    · rw [hl', hl, linked, hs, hc]
      rfl

/-! ## The listing -/

theorem getIscsiTransport_spec (i : IscsiDevInfo) :
    ∃ r t, Returns (getIscsiTransport i) env (r,{ i with transportName := t }) := by
  simp only [getIscsiTransport, returns_bind, returns_opendir, exists_eq_left]
  cases env.dir ISCSI_TRANSPORT_PATH with
  | none => exact ⟨-einval,i.transportName,by simp⟩
  | some l =>
    cases h : (forEachDir l.entries).find? fun e => strncmpEq e.dName "tcp" 3 with
    | none => exact ⟨0,i.transportName,by simp [h]⟩
    | some e => exact ⟨0,some e.dName,by simp [h]⟩

def knownIscsi (env : Env) (host : Str) : IscsiDevInfo := withSession env host (iscsiHost host)

theorem hostName_withSession (host : Str) (i : IscsiDevInfo) :
    (withSession env host i).hostName = i.hostName := by
  unfold withSession
  split <;> rfl

theorem linked_withSession {host : Str} {i j : IscsiDevInfo} (h : linked j = linked i) :
    linked (withSession env host j) = linked (withSession env host i) := by
  unfold withSession
  split
  · exact h
  · have hh : j.hostName = i.hostName := congrArg (·.1.1) h
    have hc : j.connectionName = i.connectionName := congrArg (·.2) h
    simp [linked, session, hh, hc]

def identified (host : Str) : Tool IscsiDevInfo := do
  let (_,i) ← getIscsiTransport (iscsiHost host)
  fillSessionInfo i

theorem gathers_identified (host : Str) : Emits Gathers (identified host) env := by
  simp [identified, gathers_getIscsiTransport, gathers_fillSessionInfo]

theorem identified_eq (host : Str) : ∃ t, Returns (identified host) env
    (withSession env host { iscsiHost host with transportName := t }) := by
  obtain ⟨r,t,hj⟩ := @getIscsiTransport_spec env (iscsiHost host)
  refine ⟨t,?_⟩
  rw [identified, returns_bind]
  exact ⟨_,hj,(returns_fillSessionInfo rfl rfl _).mpr rfl⟩

theorem identified_spec (host : Str) :
    ∃ j, Returns (identified host) env j ∧ linked j = linked (knownIscsi env host) := by
  obtain ⟨t,hj⟩ := @identified_eq env host
  exact ⟨_,hj,linked_withSession rfl⟩

def connectedIscsi (env : Env) (host : Str) : IscsiDevInfo :=
  { knownIscsi env host with
    connectionName :=
      connectionEntryOf env (connectionHome host (knownIscsi env host).sessionName) }

theorem hostName_of_linked {host : Str} {i : IscsiDevInfo}
    (h : linked i = linked (knownIscsi env host)) : i.hostName = some host :=
  (congrArg (·.1.1) h).trans (hostName_withSession host (iscsiHost host))

theorem connectionName_knownIscsi (host : Str) : (knownIscsi env host).connectionName = none := by
  unfold knownIscsi withSession
  split <;> rfl

theorem fillConnectionInfo_known {host : Str} {i : IscsiDevInfo}
    (h : linked i = linked (knownIscsi env host)) :
    ∃ j, Returns (fillConnectionInfo i) env j ∧ linked j = linked (connectedIscsi env host) := by
  obtain ⟨j,hj,hl⟩ := @fillConnectionInfo_spec env _ _ (hostName_of_linked h)
  have hs : session i = session (knownIscsi env host) := congrArg (·.1) h
  have hn : i.sessionName = (knownIscsi env host).sessionName := congrArg (·.2.1) hs
  have hc : i.connectionName = none := (congrArg (·.2) h).trans (connectionName_knownIscsi host)
  refine ⟨j,hj,hl.trans ?_⟩
  rw [hs, hn, hc, Option.or_none]
  rfl

theorem iscsiRow_eq (e : Dirent) :
    iscsiRow e = (do
      let i ← identified e.dName
      let i ← fillConnectionInfo i
      print (.listIscsiDev i)) := by
  simp only [iscsiRow, identified, prog_bind_assoc]

theorem names_forEachDir (l : Listing) : (forEachDir l.entries).map Dirent.dName =
    ((l.entries.map Dirent.dName).erase "..").erase "." := by
  rw [l.nodup.erase_eq_filter, (l.nodup.filter _).erase_eq_filter, List.filter_filter,
    List.filter_map]
  rfl

theorem length_forEachDir (l : Listing) : l.entries.length = (forEachDir l.entries).length+2 := by
  have hd : lit "." ∈ (l.entries.map Dirent.dName).erase (lit "..") := by
    rw [l.nodup.mem_erase_iff]
    exact ⟨by simp [lit],l.dot⟩
  have h := congrArg List.length (names_forEachDir l)
  have h1 := List.length_pos_of_mem hd
  rw [List.length_map, List.length_erase_of_mem hd] at h
  rw [List.length_erase_of_mem l.dotdot, List.length_map] at h h1
  omega

def deviceCount (env : Env) (path : Str) : ℤ :=
  if entriesOf env path = [] then -enodev else (entriesOf env path).length

theorem returns_getDeviceCount (path : Str) (n : ℤ) :
    Returns (getDeviceCount path) env n ↔ n = deviceCount env path := by
  obtain hd | ⟨l,hd⟩ := Option.eq_none_or_eq_some (env.dir path)
  · simp [getDeviceCount, deviceCount, entriesOf, hd]
  · have he : deviceCount env path = if forEachDir l.entries = [] then -enodev
        else ((forEachDir l.entries).length : ℤ) := by simp [deviceCount, entriesOf, hd]
    have hn : ((l.entries.length : ℕ) : ℤ)-2 = (forEachDir l.entries).length := by
      rw [length_forEachDir]
      push_cast
      omega
    simp only [getDeviceCount, returns_bind, returns_scandirCount, hd, Option.map_some,
      Option.getD_some, exists_eq_left, hn, he, Nat.cast_eq_zero, List.length_eq_zero_iff]
    rw [if_neg (by omega)]
    split <;> simp

theorem deviceCount_neg_iff (path : Str) : deviceCount env path < 0 ↔ entriesOf env path = [] := by
  unfold deviceCount
  split
  · simp_all [enodev]
  · simp_all

theorem survives_iscsiRow (e : Dirent) : Survives (iscsiRow e) env := by
  obtain ⟨j,hj,hl⟩ := @identified_spec env e.dName
  obtain ⟨k,hk,-⟩ := fillConnectionInfo_known hl
  rw [iscsiRow_eq, survives_bind_at hj, survives_bind_at hk]
  exact survives_print _

theorem opens_of_entries {path : Str} (h : entriesOf env path ≠ []) :
    ∃ l, env.dir path = some l ∧ entriesOf env path = forEachDir l.entries := by
  cases hd : env.dir path with
  | none => simp [entriesOf, hd] at h
  | some l => exact ⟨l,rfl,by simp [entriesOf, hd]⟩

theorem returns_listIscsiDevs (n : ℤ) :
    Returns listIscsiDevs env n ↔ n = deviceCount env SYSFS_ISCSI_HOST_PATH := by
  have hn := (@returns_getDeviceCount env SYSFS_ISCSI_HOST_PATH _).mpr rfl
  rw [listIscsiDevs, returns_emit_bind, returns_bind_at hn]
  by_cases he : entriesOf env SYSFS_ISCSI_HOST_PATH = []
  · rw [if_pos ((deviceCount_neg_iff _).mpr he), deviceCount, if_pos he]
    simp
  · obtain ⟨l,hl,-⟩ := opens_of_entries he
    obtain ⟨u,hu⟩ : Survives ((forEachDir l.entries).foldlM (fun (_ : Unit) e => iscsiRow e) ())
        env :=
      survives_foldlM _ _ _ _ fun _ e _ => survives_iscsiRow e
    rw [if_neg (by rwa [deviceCount_neg_iff])]
    simp only [returns_bind, returns_opendir, hl, Option.map_some, exists_eq_left, returns_print,
      true_and, exists_const, returns_closedir, returns_pure]
    constructor
    · rintro ⟨-,-,h⟩
      exact h
    · exact fun h => ⟨u,hu,h⟩

theorem observed_listIscsiDevs {β : Type} (p : Event → Option β)
    (hq : ∀ e, Gathers e → p e = none) (hd : p (.device .listIscsiDevs none) = none)
    (hh : p (.out .iscsiDevHeader) = none) {o : Dirent → List β}
    (ho : ∀ e, observed p (iscsiRow e) env = o e) :
    observed p listIscsiDevs env = if entriesOf env SYSFS_ISCSI_HOST_PATH = [] then []
      else (p (.out (.commandLabel "iSCSI"))).toList ++
        (entriesOf env SYSFS_ISCSI_HOST_PATH).flatMap o := by
  have hn := (@returns_getDeviceCount env SYSFS_ISCSI_HOST_PATH _).mpr rfl
  rw [listIscsiDevs, observed_emit_bind, hd, observed_bind_of_returns _ _ hn,
    observed_of_emits p (gathers_getDeviceCount _) hq]
  by_cases he : entriesOf env SYSFS_ISCSI_HOST_PATH = []
  · rw [if_pos ((deviceCount_neg_iff _).mpr he), if_pos he]
    rfl
  · obtain ⟨l,hl,hes⟩ := opens_of_entries he
    have ho' : Returns (opendir SYSFS_ISCSI_HOST_PATH) env (some l.entries) := by simp [hl]
    have hr := observed_foldlM (r := env) p (fun (_ : Unit) e => iscsiRow e) o
      (forEachDir l.entries) () (fun _ e _ => survives_iscsiRow e) fun _ e _ => ho e
    have hc : observed p (opendir SYSFS_ISCSI_HOST_PATH) env = [] :=
      observed_of_emits p (by simp) hq
    have hz : p (.closed (.dir SYSFS_ISCSI_HOST_PATH)) = none := hq _ trivial
    rw [if_neg (by rwa [deviceCount_neg_iff]), if_neg he, observed_bind_of_returns _ _ ho', hc]
    simp only [print, observed_emit_bind, hh]
    rw [observed_bind_of_silent _ (by simp [closedir, hz]), hr, hes]
    rfl

/-! ## The details -/

theorem survives_getDeviceEntry (path : Str) : Survives (getDeviceEntry path) env := by
  apply survives_seq (survives_opendir _)
  intro o _
  cases o with
  | none => exact survives_pure _ _
  | some es =>
    cases h : es.find? fun e => e.dType = .dir && strncmpEq e.dName "sd" 2 <;> simp [h]

theorem survives_attachedDisk (name : Str) (s : IscsiSession) :
    Survives (attachedDisk name s) env := by
  apply survives_seq (survives_getDeviceEntry _)
  intro _ _
  apply survives_seq (survives_snprintfFmt _ _)
  intro _ _
  apply survives_seq (survives_openSysfsStatsFile _)
  intro _ _
  apply survives_seq (survives_snprintfFmt _ _)
  intro _ _
  simp

theorem survives_hctlEntry (path : Str) (s : IscsiSession) (e : Dirent) :
    Survives (hctlEntry path s e) env := by
  unfold hctlEntry
  split
  · exact survives_pure _ _
  · apply survives_seq (survives_openSysfsStatsFile _)
    intro _ _
    apply survives_seq (survives_snprintfFmt _ _)
    intro _ _
    split
    · split
      · exact survives_seq (survives_attachedDisk _ _) fun _ _ => survives_pure _ _
      · exact survives_pure _ _
    · exact survives_pure _ _

theorem survives_getIscsiDiskHctl (host : Option Str) (path : Str) (s : IscsiSession) :
    Survives (getIscsiDiskHctl host path s) env := by
  apply survives_seq (survives_opendir _)
  intro o _
  cases o with
  | none => exact survives_pure _ _
  | some es =>
    refine survives_seq (survives_print _) fun _ _ => survives_seq ?_ fun _ _ => by simp
    exact survives_foldlM _ _ _ _ fun s e _ => survives_hctlEntry path s e

theorem survives_targetEntry (host : Option Str) (path : Str) (s : IscsiSession) (e : Dirent) :
    Survives (targetEntry host path s e) env := by
  unfold targetEntry
  split
  · exact survives_seq (survives_getIscsiDiskHctl _ _ _) fun _ _ => survives_pure _ _
  · exact survives_pure _ _

theorem survives_getSessionScsiDisks {i : IscsiDevInfo} {path : Str}
    (h : i.sessionPath = some path) (s : IscsiSession) :
    Survives (getSessionScsiDisks i s) env := by
  unfold getSessionScsiDisks
  rw [h]
  apply survives_seq (survives_opendir _)
  intro o _
  cases o with
  | none => exact survives_pure _ _
  | some es =>
    refine survives_seq ?_ fun _ _ => by simp
    exact survives_foldlM _ _ _ _ fun s e _ => survives_targetEntry _ path s e

theorem gathers_sessionRows (i : IscsiDevInfo) (s : IscsiSession) :
    Emits Gathers (loadAll (sessionAttr i) sessionRows s) env :=
  gathers_loadAll _ _ (by simp [sessionRows, sessText, sessInt, Gatherers.CopyIn])

theorem survives_getIscsiSessionInfo_iff (i : IscsiDevInfo) (s : IscsiSession) :
    Survives (getIscsiSessionInfo i s) env ↔
      Readable env (sessionAttr i) sessionRows ∧ i.sessionPath.isSome := by
  rw [getIscsiSessionInfo, survives_bind_of (P := i.sessionPath.isSome), survives_loadAll_iff]
  intro t _
  cases hp : i.sessionPath with
  | none => simp
  | some path =>
    simp only [Option.isSome_some, iff_true]
    apply survives_seq (survives_opendir _)
    intro o _
    cases o with
    | none => exact survives_pure _ _
    | some es =>
      apply survives_seq (survives_print _)
      intro _ _
      apply survives_seq (survives_print _)
      intro _ _
      split
      · exact survives_seq (survives_getSessionScsiDisks hp t) fun _ _ => survives_pure _ _
      · exact survives_pure _ _

/-! ## What the details of a session show -/

section
variable {β : Type} (p : Event → Option β) (hq : ∀ e, Gathers e → p e = none)
include hq

theorem observed_opendir (path : Str) : observed p (opendir path) env = [] :=
  observed_of_emits p (by simp) hq

theorem observed_closedir (path : Str) : observed p (closedir path) env = [] :=
  observed_of_emits p (by simp) hq

theorem observed_getIscsiDiskHctl (host : Option Str) (target : Str) (s : IscsiSession)
    {o : Dirent → List β} (ho : ∀ s e, observed p (hctlEntry target s e) env = o e) :
    observed p (getIscsiDiskHctl host target s) env =
      if (env.dir target).isSome then (p (.out (.iscsiHeader "LUN" host))).toList ++
        (allEntries env target).flatMap o else [] := by
  rw [getIscsiDiskHctl, observed_bind_of_returns _ _ ((returns_opendir target _).mpr rfl),
    observed_opendir p hq, allEntries]
  cases env.dir target with
  | none => rfl
  | some l =>
    have hr := observed_foldlM (r := env) p (hctlEntry target) o l.entries s
      (fun s e _ => survives_hctlEntry target s e) fun s e _ => ho s e
    simp only [Option.map_some, Option.getD_some, Option.isSome_some, if_true, print,
      observed_emit_bind]
    rw [observed_bind_of_silent, hr]
    · rfl
    · intro s _
      exact observed_bind_eq_nil p (observed_closedir p hq target) fun _ _ => rfl

theorem observed_getSessionScsiDisks {i : IscsiDevInfo} {path : Str}
    (h : i.sessionPath = some path) (s : IscsiSession) {o : Dirent → List β}
    (ho : ∀ s t, observed p (targetEntry i.hostName path s t) env =
      if isTarget t then o t else []) :
    observed p (getSessionScsiDisks i s) env =
      ((entriesOf env path).filter isTarget).flatMap o := by
  rw [getSessionScsiDisks, h]
  dsimp only
  rw [observed_bind_of_returns _ _ ((returns_opendir path _).mpr rfl), observed_opendir p hq,
    entriesOf]
  cases env.dir path with
  | none => rfl
  | some l =>
    have hr := observed_foldlM (r := env) p (targetEntry i.hostName path) _ (forEachDir l.entries)
      s (fun s e _ => survives_targetEntry _ path s e) fun s e _ => ho s e
    simp only [Option.map_some, Option.getD_some]
    rw [observed_bind_of_silent, hr, flatMap_ite]
    · rfl
    · intro s _
      exact observed_bind_eq_nil p (observed_closedir p hq path) fun _ _ => rfl

theorem observed_getIscsiSessionInfo {i : IscsiDevInfo} {path : Str}
    (h : i.sessionPath = some path) (hr : Readable env (sessionAttr i) sessionRows)
    (s : IscsiSession) (hi : ∀ t, p (.out (.iscsiSessionInfo t)) = none) {o : Dirent → List β}
    (ho : ∀ s t, observed p (targetEntry i.hostName path s t) env =
      if isTarget t then o t else []) :
    observed p (getIscsiSessionInfo i s) env =
      if (env.dir path).isSome then (p (.out (.iscsiHeader "Session" i.sessionName))).toList ++
        ((entriesOf env path).filter isTarget).flatMap o else [] := by
  obtain ⟨t,ht⟩ := (survives_loadAll_iff (sessionAttr i) sessionRows s).mpr hr
  rw [getIscsiSessionInfo, observed_bind_of_returns _ _ ht,
    observed_of_emits p (gathers_sessionRows i s) hq, h]
  dsimp only
  rw [observed_bind_of_returns _ _ ((returns_opendir path _).mpr rfl), observed_opendir p hq]
  cases hd : env.dir path with
  | none => rfl
  | some l =>
    have he : entriesOf env path = forEachDir l.entries := by simp [entriesOf, hd]
    simp only [Option.map_some, Option.isSome_some, if_true, print, observed_emit_bind, hi]
    split
    · rw [observed_bind_of_silent _ fun _ _ => rfl, observed_getSessionScsiDisks p hq h t ho]
      rfl
    · next hf =>
      have hz : (entriesOf env path).filter isTarget = [] := by
        simpa [he, List.filter_eq_nil_iff] using hf
      rw [hz]
      rfl

theorem observed_unreadable {i : IscsiDevInfo}
    (hr : ¬Readable env (sessionAttr i) sessionRows) (s : IscsiSession) :
    observed p (getIscsiSessionInfo i s) env = [] := by
  rw [getIscsiSessionInfo, observed_bind_of_silent,
    observed_of_emits p (gathers_sessionRows i s) hq]
  intro t ht
  exact absurd ((survives_loadAll_iff (sessionAttr i) sessionRows s).mp ⟨t,ht⟩) hr

end

def connectionDir (i : IscsiDevInfo) : Str := SYSFS_ISCSI_CONN_PATH ++ "/" ++ orNull i.connectionName

theorem survives_getIscsiConnectionInfo_iff (i : IscsiDevInfo) (c : IscsiConnection) :
    Survives (getIscsiConnectionInfo i c) env ↔
      Readable env (fun file => connectionDir i ++ "/" ++ file) connectionRows := by
  simp only [getIscsiConnectionInfo, survives_bind, returns_store, exists_eq_left]
  simp only [← survives_bind, connectionDir]
  rw [survives_bind_of (P := True), survives_loadAllInto_iff, and_true]
  intro t _
  simp

/-- What must be readable for the details of a session and of its connection to be gathered. -/
structure SessionReadable (env : Env) (host : Str) : Prop where
  session : Readable env (sessionAttr (knownIscsi env host)) sessionRows
  found : (knownIscsi env host).sessionPath.isSome
  connection : Readable env (fun file => connectionDir (connectedIscsi env host) ++ "/" ++ file)
    connectionRows

theorem connectionDir_congr {i j : IscsiDevInfo} (h : linked i = linked j) :
    connectionDir i = connectionDir j := by
  have hc : i.connectionName = j.connectionName := congrArg (·.2) h
  rw [connectionDir, connectionDir, hc]

theorem survives_showIscsiDetails_iff (host : Str) :
    Survives (showIscsiDetails host) env ↔ SessionReadable env host := by
  obtain ⟨j,hj,hl⟩ := @fillConnectionInfo_known env host _ rfl
  have hi : Returns (fillSessionInfo (iscsiHost host)) env (knownIscsi env host) :=
    (returns_fillSessionInfo rfl rfl _).mpr rfl
  have hc : Survives (do
      let i ← fillConnectionInfo (knownIscsi env host)
      let _ ← getIscsiConnectionInfo i env.mallocConnection
      pure (0 : ℤ)) env ↔ Readable env
        (fun file => connectionDir (connectedIscsi env host) ++ "/" ++ file) connectionRows := by
    rw [survives_bind_at hj, survives_bind_of (P := True) fun _ _ => by simp, and_true,
      survives_getIscsiConnectionInfo_iff, connectionDir_congr hl]
  have hs := survives_bind_of (m := getIscsiSessionInfo (knownIscsi env host) env.mallocSession)
    (r := env) fun _ _ => hc
  rw [survives_getIscsiSessionInfo_iff] at hs
  have he : SessionReadable env host ↔ (Readable env (sessionAttr (knownIscsi env host))
      sessionRows ∧ (knownIscsi env host).sessionPath.isSome) ∧ Readable env
        (fun file => connectionDir (connectedIscsi env host) ++ "/" ++ file) connectionRows :=
    ⟨fun h => ⟨⟨h.1,h.2⟩,h.3⟩,fun h => ⟨h.1.1,h.1.2,h.2⟩⟩
  rw [he, ← hs, showIscsiDetails, survives_bind_at ((returns_emit _ _ ()).mpr trivial),
    survives_bind_at ((returns_ask _ _).mpr rfl), survives_bind_at hi]

end ScsiCli.IscsiCompletion
