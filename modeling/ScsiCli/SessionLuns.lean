import ScsiCli.AttributeNumbers
import ScsiCli.IscsiRows
import ScsiCli.Printing

/-!
# LUNs of a session

Two loops scan the session's directory for targets and a third scans each
target, itself and its parent included. The outer loop stops at the first
target, so that a directory that names a LUN is reported once; the report is
made at all where the numbers of the session can be read.
-/

set_option autoImplicit false

namespace ScsiCli.SessionLuns
open ScsiCli.RunTrace ScsiCli.ByteString ScsiCli.NumberText ScsiCli.NumberReading
open ScsiCli.Records ScsiCli.Machine ScsiCli.SysfsUtils ScsiCli.IscsiUtils ScsiCli.MachineRules
open ScsiCli.Gatherers ScsiCli.Completion ScsiCli.IscsiCompletion ScsiCli.LiteralCopies
open ScsiCli.AttributeNumbers ScsiCli.Printing ScsiCli.IscsiRows

variable {env : Env}

/-! ## Names of LUNs -/

def hctl (h c t l : ℤ) : Str :=
  decimal h ++ ':' :: (decimal c ++ ':' :: (decimal t ++ ':' :: decimal l))

theorem decimal_colon_inj {m n : ℤ} {s t : Str}
    (h : decimal m ++ ':' :: s = decimal n ++ ':' :: t) : m = n ∧ s = t :=
  decimal_mark_inj (by unfold Mark; decide) h

theorem hctl_inj {h c t l h' c' t' l' : ℤ} (he : hctl h c t l = hctl h' c' t' l') :
    h = h' ∧ c = c' ∧ t = t' ∧ l = l' := by
  obtain ⟨hh,he⟩ := decimal_colon_inj he
  obtain ⟨hc,he⟩ := decimal_colon_inj he
  obtain ⟨ht,he⟩ := decimal_colon_inj he
  exact ⟨hh,hc,ht,(decimal_inj l l').mp he⟩

structure Address where
  host : ℕ
  channel : ℕ
  target : ℕ
  lun : ℕ

def Address.name (a : Address) : Str := hctl a.host a.channel a.target a.lun

structure Address.Narrow (a : Address) : Prop where
  host : a.host < 2^31
  channel : a.channel < 2^31
  target : a.target < 2^31
  lun : a.lun < 2^31

theorem scanColon_name (a : Address) : scanColon 4 a.name =
    [kept a.host,kept a.channel,kept a.target,kept a.lun] := by
  have hd : ∀ n : ℕ, decimal n = Nat.toDigits 10 n := by
    intro n
    simp [decimal]
  rw [Address.name, hctl, hd, hd, hd, hd, scanColon_colon, scanColon_colon, scanColon_colon,
    scanColon_last]

/-! ## What is reported -/

def reportOf : Event → Option Str
  | .out (.iscsiScsiDisk s) => some (hctl s.scsiChannel s.scsiBus s.scsiId s.scsiLun)
  | _ => none

theorem quiet_reportOf {e : Event} (h : Gathers e) : reportOf e = none := by
  cases e with
  | out o => cases o <;> first | rfl | cases h
  | _ => rfl

theorem reports_gathers {α : Type} {m : Tool α} (h : Emits Gathers m env) :
    observed reportOf m env = [] := observed_of_emits _ h fun _ => quiet_reportOf

def lineFor (name : Str) : List Str :=
  match scanColon 4 name with
  | [h,c,t,l] => [hctl h c t l]
  | _ => []

def targetPath (path : Str) (t : Dirent) : Str := path ++ "/" ++ t.dName

def typePath (target : Str) (e : Dirent) : Str := target ++ "/" ++ e.dName ++ "/type"

def typeRead (env : Env) (target : Str) (e : Dirent) : ℤ :=
  int32 (strtoull (copied env 32 (cut 1024 (typePath target e))))

/-- What the run says about one entry of a target. -/
def reported (env : Env) (target : Str) (e : Dirent) : List Str :=
  if e.dType = .dir ∧ typeRead env target e ≠ STORAGE_ARRAY_CNTROLLER then lineFor e.dName
  else []

theorem reports_attachedDisk (name : Str) (s : IscsiSession) :
    observed reportOf (attachedDisk name s) env =
      [hctl s.scsiChannel s.scsiBus s.scsiId s.scsiLun] := by
  obtain ⟨entry,he⟩ := @survives_getDeviceEntry env
    (cut 2048 ("/sys/class/scsi_disk/" ++ name ++ "/device/block"))
  have hq : ∀ n p, observed reportOf (snprintfFmt n p) env = [] := fun n p =>
    reports_gathers (by simp)
  have hr : ∀ path, observed reportOf (openSysfsStatsFile path) env = [] := fun path =>
    reports_gathers (by simp)
  rw [attachedDisk, observed_bind_of_returns _ _ he, reports_gathers (gathers_getDeviceEntry _),
    observed_bind_of_returns _ _ ((returns_snprintfFmt _ _ _).mpr rfl), hq,
    observed_bind_of_returns _ _ ((returns_openSysfsStatsFile _ _).mpr rfl), hr,
    observed_bind_of_returns _ _ ((returns_snprintfFmt _ _ _).mpr rfl), hq]
  rfl

/-- Four numbers replace whatever the entries before have left. -/
theorem reports_assigned {name : Str} (h : (scanColon 4 name).length = 4) (s : IscsiSession)
    (n : ℤ) : observed reportOf (attachedDisk name
      { assignScsi s (scanColon 4 name) with lunCount := n }) env = lineFor name := by
  rw [reports_attachedDisk, lineFor]
  generalize scanColon 4 name = xs at h
  match xs, h with
  | [_,_,_,_], _ => rfl

theorem reports_hctlEntry (target : Str) (s : IscsiSession) (e : Dirent) :
    observed reportOf (hctlEntry target s e) env = reported env target e := by
  unfold hctlEntry
  by_cases hd : e.dType = .dir
  · have hp : Returns (openSysfsStatsFile (cut 1024 (target ++ "/" ++ e.dName ++ "/type"))) env
      (line env (cut 1024 (typePath target e))) := by simp [typePath]
    have ht : Returns (snprintfFmt 32 (line env (cut 1024 (typePath target e)))) env
      (copied env 32 (cut 1024 (typePath target e))) := by simp [copied]
    rw [if_neg (by simpa using hd)]
    dsimp only
    rw [observed_bind_of_returns _ _ hp, reports_gathers (by simp),
      observed_bind_of_returns _ _ ht, reports_gathers (by simp), List.nil_append, List.nil_append]
    by_cases hc : typeRead env target e = STORAGE_ARRAY_CNTROLLER
    · have hv : reported env target e = [] := if_neg fun h => h.2 hc
      rw [if_neg (by simpa [typeRead] using hc), hv]
      rfl
    · have hv : reported env target e = lineFor e.dName := if_pos ⟨hd,hc⟩
      rw [if_pos (by simpa [typeRead] using hc), hv]
      by_cases hl : (scanColon 4 e.dName).length = 4
      · rw [if_pos hl, observed_bind_of_silent _ fun _ _ => rfl]
        exact reports_assigned hl s _
      · rw [if_neg hl, lineFor]
        split
        · simp_all
        · rfl
  · have hv : reported env target e = [] := if_neg fun h => hd h.1
    rw [if_pos hd, hv]
    rfl

theorem reports_targetEntry (host : Option Str) (path : Str) (s : IscsiSession) (t : Dirent) :
    observed reportOf (targetEntry host path s t) env =
      if isTarget t then (allEntries env (cut 4096 (targetPath path t))).flatMap
        (reported env (cut 4096 (targetPath path t))) else [] := by
  have hh := observed_getIscsiDiskHctl reportOf (fun _ => quiet_reportOf) host _ s
    (@reports_hctlEntry env (cut 4096 (targetPath path t)))
  unfold targetEntry
  split
  · rw [observed_bind_of_silent _ fun _ _ => rfl]
    apply hh.trans
    cases hd : env.dir (cut 4096 (targetPath path t)) with
    | none => simp [allEntries, hd]
    | some l => rfl
  · rfl

def reportedAll (env : Env) (path : Str) : List Str :=
  ((entriesOf env path).filter isTarget).flatMap fun t =>
    (allEntries env (cut 4096 (targetPath path t))).flatMap
      (reported env (cut 4096 (targetPath path t)))

theorem reports_getIscsiSessionInfo {i : IscsiDevInfo} {path : Str}
    (h : i.sessionPath = some path) (hr : Readable env (sessionAttr i) sessionRows)
    (s : IscsiSession) :
    observed reportOf (getIscsiSessionInfo i s) env = reportedAll env path := by
  rw [observed_getIscsiSessionInfo reportOf (fun _ => quiet_reportOf) h hr s (fun _ => rfl)
    (reports_targetEntry i.hostName path), reportedAll]
  cases hd : env.dir path with
  | none => simp [entriesOf, hd]
  | some l => rfl

theorem reports_unreadable {i : IscsiDevInfo} (hr : ¬Readable env (sessionAttr i) sessionRows)
    (s : IscsiSession) : observed reportOf (getIscsiSessionInfo i s) env = [] :=
  observed_unreadable reportOf (fun _ => quiet_reportOf) hr s

/-! ## What should be reported -/

def startsFour (name : Str) : Bool := (scanColon 4 name).length = 4

/-- The LUNs of a target, its directories of storage array controllers left out. -/
def lunsOf (env : Env) (target : Str) : List Str :=
  ((allEntries env target).filter fun e => e.dType = .dir && startsFour e.dName &&
    firstLine env (typePath target e) ≠ decimal STORAGE_ARRAY_CNTROLLER).map Dirent.dName

def luns (env : Env) (path : Str) : List Str :=
  ((entriesOf env path).filter isTarget).flatMap fun t => lunsOf env (targetPath path t)

/-- A directory named by an address, whose type can be read and is an `int`. -/
structure LunDir (env : Env) (target : Str) (e : Dirent) : Prop where
  fits : (typePath target e).length < 1024
  named : ∃ a : Address, e.dName = a.name
  typed : ∃ n : ℤ, -2^31 ≤ n ∧ n < 2^31 ∧ firstLine env (typePath target e) = decimal n

/-- The directories under the targets that begin with four numbers are those of LUNs. -/
structure LunTree (env : Env) (path : Str) : Prop where
  fits : ∀ t ∈ entriesOf env path, isTarget t → (targetPath path t).length < 4096
  dirs : ∀ t ∈ entriesOf env path, isTarget t → ∀ e ∈ allEntries env (targetPath path t),
    e.dType = .dir → startsFour e.dName → LunDir env (targetPath path t) e

theorem typeRead_eq {target : Str} {e : Dirent} {n : ℤ} (hf : (typePath target e).length < 1024)
    (h : -2^31 ≤ n) (h' : n < 2^31) (ht : firstLine env (typePath target e) = decimal n) :
    typeRead env target e = n := by
  have hl := numberLine_int h h'
  have hs : (decimal n).take 63 = decimal n := List.take_of_length_le (by have := hl.short; omega)
  have hc : copied env 32 (typePath target e) = decimal n := by
    rw [copied, formatted_firstLine, ht, hs, Env.format, expand_plain hl.no_percent,
      Option.getD_some]
    exact cut_of_length_lt (by have := hl.short; omega)
  rw [typeRead, cut_of_length_lt hf, hc, int32_strtoull_decimal h h']

theorem lineFor_of_not {name : Str} (h : ¬startsFour name) : lineFor name = [] := by
  unfold lineFor
  split
  · simp_all [startsFour]
  · rfl

theorem lineFor_name {a : Address} (h : a.Narrow) : lineFor a.name = [a.name] := by
  rw [lineFor, scanColon_name, kept_of_lt h.host, kept_of_lt h.channel, kept_of_lt h.target,
    kept_of_lt h.lun]
  rfl

theorem narrow_of_mem {name : Str} {a : Address} (h : a.name ∈ lineFor name) : a.Narrow := by
  unfold lineFor at h
  split at h
  · next p q r s hs =>
    have hr : ∀ v ∈ [p,q,r,s], v < 2^31 := fun v hv => (scanColon_range (hs ▸ hv)).2
    obtain ⟨hp,hq,hr',hs'⟩ := hctl_inj (List.mem_singleton.mp h)
    have h1 := hr p (by simp)
    have h2 := hr q (by simp)
    have h3 := hr r (by simp)
    have h4 := hr s (by simp)
    constructor <;> omega
  · cases h

theorem narrow_of_reported {path : Str} {a : Address} (h : a.name ∈ reportedAll env path) :
    a.Narrow := by
  simp only [reportedAll, List.mem_flatMap, reported] at h
  obtain ⟨t,-,e,-,he⟩ := h
  split at he
  · exact narrow_of_mem he
  · cases he

theorem reported_lun {target : Str} {e : Dirent} (hd : e.dType = .dir) (h : LunDir env target e) :
    reported env target e =
      if firstLine env (typePath target e) ≠ decimal STORAGE_ARRAY_CNTROLLER then lineFor e.dName
      else [] := by
  obtain ⟨n,hn,hn',ht⟩ := h.typed
  rw [reported, typeRead_eq h.fits hn hn' ht, ht]
  simp only [hd, true_and, ne_eq, decimal_inj]

theorem reported_entry {target : Str} {e : Dirent}
    (h : e.dType = .dir → startsFour e.dName → LunDir env target e)
    (hn : ∀ a : Address, e.dName = a.name → e.dName ∈ lunsOf env target → a.Narrow)
    (he : e ∈ allEntries env target) :
    reported env target e = if (e.dType = .dir && startsFour e.dName &&
      firstLine env (typePath target e) ≠ decimal STORAGE_ARRAY_CNTROLLER) = true
      then [e.dName] else [] := by
  by_cases hd : e.dType = .dir
  · by_cases h4 : startsFour e.dName = true
    · obtain ⟨a,ha⟩ := (h hd h4).named
      rw [reported_lun hd (h hd h4)]
      by_cases hc : firstLine env (typePath target e) = decimal STORAGE_ARRAY_CNTROLLER
      · simp [hc]
      · have hm : e.dName ∈ lunsOf env target :=
          List.mem_map.mpr ⟨e,List.mem_filter.mpr ⟨he,by simp [hd, h4, hc]⟩,rfl⟩
        rw [if_pos hc, if_pos (by simp [hd, h4, hc]), ha, lineFor_name (hn a ha hm)]
    · rw [reported, lineFor_of_not h4]
      simp [h4]
  · rw [reported, if_neg (by simp [hd]), if_neg (by simp [hd])]

/-- Where all addresses fit, the report names the LUNs in the order of the directories. -/
theorem reportedAll_eq {path : Str} (ht : LunTree env path)
    (hn : ∀ a : Address, a.name ∈ luns env path → a.Narrow) :
    reportedAll env path = luns env path := by
  apply List.flatMap_congr
  intro t hm
  obtain ⟨hte,htt⟩ := List.mem_filter.mp hm
  rw [cut_of_length_lt (ht.fits t hte htt)]
  have he : ∀ e ∈ allEntries env (targetPath path t), reported env (targetPath path t) e =
      if (e.dType = .dir && startsFour e.dName && firstLine env
        (typePath (targetPath path t) e) ≠ decimal STORAGE_ARRAY_CNTROLLER) = true
      then [e.dName] else [] := by
    intro e he
    apply reported_entry (ht.dirs t hte htt e he) _ he
    intro a ha hl
    exact hn a (ha ▸ List.mem_flatMap.mpr ⟨t,hm,hl⟩)
  rw [List.flatMap_congr he, flatMap_ite]
  exact (List.map_eq_flatMap).symm

/-- Each LUN is reported once, and nothing else is, exactly where there is none, or where the
session's numbers can be read and those of the LUNs are `int`s. -/
theorem luns_reported_iff (env : Env) (i : IscsiDevInfo) (s : IscsiSession) (path : Str)
    (hp : i.sessionPath = some path) (ht : LunTree env path) :
    (observed reportOf (getIscsiSessionInfo i s) env).Perm (luns env path) ↔
      luns env path = [] ∨ Readable env (sessionAttr i) sessionRows ∧
        ∀ a : Address, a.name ∈ luns env path → a.Narrow := by
  by_cases hr : Readable env (sessionAttr i) sessionRows
  · rw [reports_getIscsiSessionInfo hp hr s]
    constructor
    · intro h
      apply Or.inr
      refine ⟨hr,fun a ha => ?_⟩
      exact narrow_of_reported (h.mem_iff.mpr ha)
    · intro h
      apply List.Perm.of_eq
      apply reportedAll_eq ht
      intro a ha
      rcases h with he | ⟨-,hn⟩
      · rw [he] at ha
        cases ha
      · exact hn a ha
  · rw [reports_unreadable hr s]
    constructor
    · intro h
      exact .inl h.nil_eq.symm
    · intro h
      rcases h with he | ⟨hr',-⟩
      · rw [he]
      · exact absurd hr' hr

/-! ## Sessions with one target -/

def target3 : Dirent := ⟨lit "target3:0:0",.dir,by simp [lit, nul]⟩

def lun0 : Dirent := ⟨(Address.mk 3 0 0 0).name,.dir,by decide +kernel⟩

def lun1 : Dirent := ⟨(Address.mk 3 0 0 1).name,.dir,by decide +kernel⟩

def wideLun : Dirent := ⟨(Address.mk 3 0 0 4294967297).name,.dir,by decide +kernel⟩

def sessionDir : Str := "/sys/class/iscsi_host/host3/device/session1"

def session1Info : IscsiDevInfo :=
  { sessionName := some (lit "session1"), sessionPath := some sessionDir }

def oneTarget (l : Listing) (missing : Str) : Env :=
  { Env.bare with
    dir := fun p =>
      if p = sessionDir then
        some (Listing.ofEntries [target3,session1] (by decide +kernel) (by decide +kernel)
          (by decide +kernel))
      else if p = targetPath sessionDir target3 then some l
      else none
    file := fun p => if p = missing then .absent else .bytes ['0','\n'] }

def twoLuns : Listing :=
  Listing.ofEntries [lun0,session1,lun1] (by decide +kernel) (by decide +kernel)
    (by decide +kernel)

def oneWide : Listing :=
  Listing.ofEntries [wideLun] (by decide +kernel) (by decide +kernel) (by decide +kernel)

theorem entriesOf_oneTarget (l : Listing) (missing : Str) :
    entriesOf (oneTarget l missing) sessionDir = [target3,session1] := by
  simp [entriesOf, oneTarget]

theorem allEntries_oneTarget (l : Listing) (missing : Str) :
    allEntries (oneTarget l missing) (targetPath sessionDir target3) = l.entries := by
  have hne : targetPath sessionDir target3 ≠ sessionDir := by decide +kernel
  simp [allEntries, oneTarget, hne]

theorem firstLine_oneTarget (l : Listing) {missing path : Str} (h : path ≠ missing) :
    firstLine (oneTarget l missing) path = decimal 0 := by
  simp [firstLine, oneTarget, h, removeNewline, cString, nul, decimal]

theorem lunTree_oneTarget {l : Listing} {missing : Str}
    (hn : ∀ e ∈ l.entries, startsFour e.dName → ∃ a : Address, e.dName = a.name)
    (hp : ∀ e ∈ l.entries, (typePath (targetPath sessionDir target3) e).length < 1024 ∧
      typePath (targetPath sessionDir target3) e ≠ missing) :
    LunTree (oneTarget l missing) sessionDir := by
  have h1 : isTarget session1 = false := by decide +kernel
  have hf : (targetPath sessionDir target3).length < 4096 := by decide +kernel
  constructor
  · intro t ht htt
    rw [entriesOf_oneTarget] at ht
    rcases List.mem_cons.mp ht with rfl | ht
    · exact hf
    · rw [List.mem_singleton.mp ht, h1] at htt
      cases htt
  · intro t ht htt e he _ h4
    rw [entriesOf_oneTarget] at ht
    rcases List.mem_cons.mp ht with rfl | ht
    · rw [allEntries_oneTarget] at he
      constructor
      · exact (hp e he).1
      · exact hn e he h4
      · exact ⟨0,by omega,by omega,firstLine_oneTarget l (hp e he).2⟩
    · rw [List.mem_singleton.mp ht, h1] at htt
      cases htt

theorem lunTree_twoLuns {missing : Str}
    (h : ∀ e ∈ twoLuns.entries, typePath (targetPath sessionDir target3) e ≠ missing) :
    LunTree (oneTarget twoLuns missing) sessionDir := by
  have hn : ∀ e ∈ twoLuns.entries, startsFour e.dName →
      e.dName = (Address.mk 3 0 0 0).name ∨ e.dName = (Address.mk 3 0 0 1).name := by
    decide +kernel
  have hl : ∀ e ∈ twoLuns.entries, (typePath (targetPath sessionDir target3) e).length < 1024 := by
    decide +kernel
  apply lunTree_oneTarget
  · intro e he h4
    rcases hn e he h4 with h | h
    · exact ⟨_,h⟩
    · exact ⟨_,h⟩
  · exact fun e he => ⟨hl e he,h e he⟩

theorem narrow_twoLuns {missing : Str} {a : Address}
    (h : a.name ∈ luns (oneTarget twoLuns missing) sessionDir)
    (hl : luns (oneTarget twoLuns missing) sessionDir = [lun0.dName,lun1.dName]) : a.Narrow := by
  have hi : ∀ n : ℕ, n < 2 → a.name = (Address.mk 3 0 0 n).name → a.Narrow := by
    intro n hn he
    obtain ⟨h1,h2,h3,h4⟩ := hctl_inj he
    dsimp only at h1 h2 h3 h4
    constructor <;> omega
  rw [hl] at h
  rcases List.mem_cons.mp h with h | h
  · exact hi 0 (by omega) h
  · exact hi 1 (by omega) (List.mem_singleton.mp h)

theorem two_luns_reported : luns (oneTarget twoLuns []) sessionDir = [lun0.dName,lun1.dName] ∧
    (observed reportOf (getIscsiSessionInfo session1Info Env.bare.mallocSession)
      (oneTarget twoLuns [])).Perm (luns (oneTarget twoLuns []) sessionDir) := by
  have hl : luns (oneTarget twoLuns []) sessionDir = [lun0.dName,lun1.dName] := by decide +kernel
  have ht : LunTree (oneTarget twoLuns []) sessionDir := lunTree_twoLuns (by decide +kernel)
  have hr : Readable (oneTarget twoLuns []) (sessionAttr session1Info) sessionRows := by
    decide +kernel
  constructor
  · exact hl
  · apply (luns_reported_iff _ session1Info _ sessionDir rfl ht).mpr
    exact .inr ⟨hr,fun a ha => narrow_twoLuns ha hl⟩

def targetId : Str := "/sys/class/iscsi_session/session1/target_id"

/-- Without the target's number nothing is reported, and a LUN of more than 32 bits is
reported under another number. -/
theorem no_target_id_not_reported : LunTree (oneTarget twoLuns targetId) sessionDir ∧
    ¬(observed reportOf (getIscsiSessionInfo session1Info Env.bare.mallocSession)
      (oneTarget twoLuns targetId)).Perm (luns (oneTarget twoLuns targetId) sessionDir) ∧
    LunTree (oneTarget oneWide []) sessionDir ∧
    ¬(observed reportOf (getIscsiSessionInfo session1Info Env.bare.mallocSession)
      (oneTarget oneWide [])).Perm (luns (oneTarget oneWide []) sessionDir) := by
  have hu : ¬Readable (oneTarget twoLuns targetId) (sessionAttr session1Info) sessionRows := by
    decide +kernel
  have hl : luns (oneTarget twoLuns targetId) sessionDir = [lun0.dName,lun1.dName] := by
    decide +kernel
  have hw : ∀ e ∈ oneWide.entries, startsFour e.dName → e.dName = wideLun.dName := by
    decide +kernel
  have hp : ∀ e ∈ oneWide.entries, (typePath (targetPath sessionDir target3) e).length < 1024 ∧
      typePath (targetPath sessionDir target3) e ≠ [] := by decide +kernel
  have hr : Readable (oneTarget oneWide []) (sessionAttr session1Info) sessionRows := by
    decide +kernel
  have hm : wideLun.dName ∈ luns (oneTarget oneWide []) sessionDir := by decide +kernel
  have ho : wideLun.dName ∉ reportedAll (oneTarget oneWide []) sessionDir := by decide +kernel
  constructor
  · exact lunTree_twoLuns (by decide +kernel)
  constructor
  · rw [reports_unreadable hu, hl]
    intro h
    cases h.nil_eq
  constructor
  · exact lunTree_oneTarget (fun e he h4 => ⟨_,hw e he h4⟩) hp
  · rw [reports_getIscsiSessionInfo rfl hr]
    intro h
    exact ho (h.mem_iff.mpr hm)

end ScsiCli.SessionLuns
