import ScsiCli.ArrayBounds
import ScsiCli.AttributeNumbers
import ScsiCli.ConnectionNumbers
import ScsiCli.PrintedReports
import ScsiCli.TargetNames

/-!
# The report on an iSCSI host

The kernel presents a session and its connection one attribute in a file. Where
every text fits the reader and every number fits its field, the report that is
printed is read back as what the kernel presented.
-/

set_option autoImplicit false

namespace ScsiCli.IscsiReport
open ScsiCli.RunTrace ScsiCli.ByteString ScsiCli.NumberText ScsiCli.NumberReading
open ScsiCli.Records ScsiCli.Machine ScsiCli.SysfsUtils ScsiCli.IscsiUtils ScsiCli.Commands
open ScsiCli.MachineRules ScsiCli.LiteralCopies ScsiCli.AttributeNumbers ScsiCli.Gatherers
open ScsiCli.Completion ScsiCli.IscsiCompletion ScsiCli.Requests ScsiCli.Fields
open ScsiCli.ArrayBounds ScsiCli.PrintedReports

variable {env : Env}

/-! ## What the kernel presents -/

inductive Value where
  | text (t : Option Str)
  | number (n : ℤ)

structure Literal (l : Str) : Prop where
  line : AttributeLine l
  no_percent : '%' ∉ l

def Value.At (env : Env) (path : Str) : Value → Prop
  | .text t => ∃ l, t = some l ∧ Literal l ∧ Holds env path l
  | .number n => -2^31 ≤ n ∧ n < 2^31 ∧ Holds env path (decimal n)

def sessionFiles (s : IscsiSession) : List (Str × Value) :=
  [("targetname",.text s.targetname),
   ("target_id",.number s.targetId),
   ("state",.text s.state),
   ("target_state",.text s.targetState),
   ("abort_tmo",.number s.abortTmo),
   ("creator",.number s.creator),
   ("data_pdu_in_order",.number s.dataPduInOrder),
   ("data_seq_in_order",.number s.dataSeqInOrder),
   ("erl",.number s.errLevel),
   ("fast_abort",.number s.fastAbort),
   ("first_burst_len",.number s.firstBurstLen),
   ("ifacename",.text s.ifacename),
   ("immediate_data",.number s.immediateData),
   ("initial_r2t",.number s.initialR2t),
   ("lu_reset_tmo",.number s.luResetTmo),
   ("max_burst_len",.number s.maxBurstLen),
   ("max_outstanding_r2t",.number s.maxOutstandingR2t),
   ("recovery_tmo",.number s.recoveryTmo)]

def connectionFiles (c : IscsiConnection) : List (Str × Value) :=
  [("address",.text c.address),
   ("max_recv_dlength",.number c.maxRecvDlength),
   ("max_xmit_dlength",.number c.maxXmitDlength),
   ("data_digest",.number c.dataDigest),
   ("exp_statsn",.number c.expStatsn),
   ("header_digest",.number c.headerDigest),
   ("persistent_address",.text c.persistentAddress),
   ("persistent_port",.number c.persistentPort),
   ("ping_tmo",.number c.pingTmo),
   ("port",.number c.port),
   ("recv_tmo",.number c.recvTmo),
   ("state",.text c.state)]

def Presents (env : Env) (dir : Str) (files : List (Str × Value)) : Prop :=
  ∀ p ∈ files, p.2.At env (dir ++ "/" ++ p.1)

/-- A host with a session and a connection, under the names that the search finds. -/
structure Presented (env : Env) (host name conn : Str) (s : IscsiSession) (c : IscsiConnection) :
    Prop where
  session_found : sessionEntry env host = some name
  short : name.length ≤ 255
  opens : (env.dir (sessionHome host ++ "/" ++ name)).isSome
  connection_found : connectionEntryOf env (connectionHome host (some name)) = some conn
  session : Presents env (SYSFS_ISCSI_SESS_PATH ++ "/" ++ name) (sessionFiles s)
  connection : Presents env (SYSFS_ISCSI_CONN_PATH ++ "/" ++ conn) (connectionFiles c)

/-! ## One attribute -/

theorem formatted_kept {path : Str} {t : Option Str} (h : (Value.text t).At env path) :
    some (((line env path).map env.format).getD []) = t ∧
      ∀ l, t = some l → l.length ≤ 63 ∧ '\n' ∉ l := by
  obtain ⟨l,rfl,hl,hh⟩ := h
  constructor
  · rw [formatted_of_holds hl.line hh, Env.format, expand_plain hl.no_percent, Option.getD_some]
  · intro k hk
    obtain rfl := Option.some.inj hk
    exact ⟨hl.line.short,hl.line.no_newline⟩

theorem copied_kept {path : Str} {t : Option Str} (h : (Value.text t).At env path) :
    some (copied env 256 path) = t := by
  obtain ⟨he,hs⟩ := formatted_kept h
  have hl := (hs _ he.symm).1
  rw [copied, cut_of_length_lt (by omega), he]

theorem line_number {path : Str} {n : ℤ} (h : (Value.number n).At env path) :
    line env path = some (decimal n) := by
  obtain ⟨hn,hn',hh⟩ := h
  rcases line_of_holds (numberLine_int hn hn').row hh with hl | ⟨hl,-⟩
  · exact hl
  · have hz := int32_strtoull_decimal hn hn'
    exfalso
    unfold decimal at hl
    split at hl
    · cases hl
    · exact Nat.toDigits_ne_nil hl

def numberAt (env : Env) (path : Str) : ℤ := int32 (strtoull ((line env path).getD []))

theorem number_kept {path : Str} {n : ℤ} (h : (Value.number n).At env path) :
    numberAt env path = n := by
  rw [numberAt, line_number h, Option.getD_some, int32_strtoull_decimal h.1 h.2.1]

theorem number_readable {path : Str} {n : ℤ} (h : (Value.number n).At env path) :
    (line env path).isSome := by rw [line_number h]; rfl

theorem value_fits {path : Str} {v : Value} (h : v.At env path) {b : Buf} (hb : b.size = 256) :
    CopyFits env path (.unbounded b) := by
  intro p hp
  cases v with
  | text t =>
    obtain ⟨l,-,hl,hh⟩ := h
    have hs := hl.line.short
    rcases line_of_holds hl.line hh with hr | ⟨-,hr⟩
    · obtain rfl : l = p := Option.some.inj (hr.symm.trans hp)
      rw [Env.format, expand_plain hl.no_percent, Option.getD_some]
      omega
    · rw [hr] at hp
      cases hp
  | number n =>
    have hn := numberLine_int h.1 h.2.1
    have hs := hn.short
    obtain rfl : decimal n = p := Option.some.inj ((line_number h).symm.trans hp)
    rw [Env.format, expand_plain hn.no_percent, Option.getD_some]
    omega

/-! ## The records -/

theorem loaded_session (pathOf : Str → Str) (t : IscsiSession) :
    loaded env pathOf sessionRows t =
      { t with
        initiatorname := some (copied env 256 (pathOf "initiatorname"))
        targetname := some (copied env 256 (pathOf "targetname"))
        targetId := numberAt env (pathOf "target_id")
        state := some (copied env 256 (pathOf "state"))
        targetState := some (copied env 256 (pathOf "target_state"))
        abortTmo := numberAt env (pathOf "abort_tmo")
        creator := numberAt env (pathOf "creator")
        dataPduInOrder := numberAt env (pathOf "data_pdu_in_order")
        dataSeqInOrder := numberAt env (pathOf "data_seq_in_order")
        errLevel := numberAt env (pathOf "erl")
        fastAbort := numberAt env (pathOf "fast_abort")
        firstBurstLen := numberAt env (pathOf "first_burst_len")
        ifacename := some (copied env 256 (pathOf "ifacename"))
        immediateData := numberAt env (pathOf "immediate_data")
        initialR2t := numberAt env (pathOf "initial_r2t")
        luResetTmo := numberAt env (pathOf "lu_reset_tmo")
        maxBurstLen := numberAt env (pathOf "max_burst_len")
        maxOutstandingR2t := numberAt env (pathOf "max_outstanding_r2t")
        recoveryTmo := numberAt env (pathOf "recovery_tmo") } := by
  simp only [loaded, sessionRows, List.foldl_cons, List.foldl_nil, sessText, sessInt, Attr.text,
    Copy.text, if_neg, Bool.false_eq_true, not_false_eq_true, Option.getD_some, copied, numberAt]

theorem loaded_connection (pathOf : Str → Str) (t : IscsiConnection) :
    loaded env pathOf connectionRows t =
      { address := some (((line env (pathOf "address")).map env.format).getD [])
        maxRecvDlength := numberAt env (pathOf "max_recv_dlength")
        maxXmitDlength := numberAt env (pathOf "max_xmit_dlength")
        dataDigest := numberAt env (pathOf "data_digest")
        expStatsn := numberAt env (pathOf "exp_statsn")
        headerDigest := numberAt env (pathOf "header_digest")
        persistentAddress :=
          some (((line env (pathOf "persistent_address")).map env.format).getD [])
        persistentPort := numberAt env (pathOf "persistent_port")
        pingTmo := numberAt env (pathOf "ping_tmo")
        port := numberAt env (pathOf "port")
        recvTmo := numberAt env (pathOf "recv_tmo")
        state := some (((line env (pathOf "state")).map env.format).getD []) } := rfl

theorem session_kept {pathOf : Str → Str} {s : IscsiSession}
    (h : ∀ p ∈ sessionFiles s, p.2.At env (pathOf p.1)) (t : IscsiSession) :
    sessionFiles (loaded env pathOf sessionRows t) = sessionFiles s := by
  rw [loaded_session]
  simp only [sessionFiles, List.forall_mem_cons] at h ⊢
  obtain ⟨h1,h2,h3,h4,h5,h6,h7,h8,h9,h10,h11,h12,h13,h14,h15,h16,h17,h18,-⟩ := h
  simp only [copied_kept h1, number_kept h2, copied_kept h3, copied_kept h4, number_kept h5,
    number_kept h6, number_kept h7, number_kept h8, number_kept h9, number_kept h10,
    number_kept h11, copied_kept h12, number_kept h13, number_kept h14, number_kept h15,
    number_kept h16, number_kept h17, number_kept h18]

theorem connection_kept {pathOf : Str → Str} {c : IscsiConnection}
    (h : ∀ p ∈ connectionFiles c, p.2.At env (pathOf p.1)) (t : IscsiConnection) :
    loaded env pathOf connectionRows t = c := by
  rw [loaded_connection]
  simp only [connectionFiles, List.forall_mem_cons] at h
  obtain ⟨h1,h2,h3,h4,h5,h6,h7,h8,h9,h10,h11,h12,-⟩ := h
  simp only [(formatted_kept h1).1, number_kept h2, number_kept h3, number_kept h4, number_kept h5,
    number_kept h6, (formatted_kept h7).1, number_kept h8, number_kept h9, number_kept h10,
    number_kept h11, (formatted_kept h12).1]

theorem session_readable {pathOf : Str → Str} {s : IscsiSession}
    (h : ∀ p ∈ sessionFiles s, p.2.At env (pathOf p.1)) : Readable env pathOf sessionRows := by
  simp only [sessionFiles, List.forall_mem_cons] at h
  obtain ⟨-,h2,-,-,h5,h6,h7,h8,h9,h10,h11,-,h13,h14,h15,h16,h17,h18,-⟩ := h
  simp [Readable, sessionRows, sessText, sessInt, Attr.text, Copy.text, number_readable h2,
    number_readable h5, number_readable h6, number_readable h7, number_readable h8,
    number_readable h9, number_readable h10, number_readable h11, number_readable h13,
    number_readable h14, number_readable h15, number_readable h16, number_readable h17,
    number_readable h18]

theorem connection_readable {pathOf : Str → Str} {c : IscsiConnection}
    (h : ∀ p ∈ connectionFiles c, p.2.At env (pathOf p.1)) :
    Readable env pathOf connectionRows := by
  simp only [connectionFiles, List.forall_mem_cons] at h
  obtain ⟨-,h2,h3,h4,h5,h6,-,h8,h9,h10,h11,-⟩ := h
  simp [Readable, connectionRows, connText, connInt, Attr.text, Copy.text, number_readable h2,
    number_readable h3, number_readable h4, number_readable h5, number_readable h6,
    number_readable h8, number_readable h9, number_readable h10, number_readable h11]

theorem lines_of_files {l s : IscsiSession} (h : sessionFiles l = sessionFiles s) :
    sessionLines l = sessionLines s ∧
      textsIn (.iscsiSessionInfo l) = textsIn (.iscsiSessionInfo s) := by
  simp only [sessionFiles, List.cons.injEq, Prod.mk.injEq, Value.text.injEq, Value.number.injEq,
    true_and, and_true] at h
  obtain ⟨h1,-,h3,h4,h5,h6,h7,h8,h9,h10,h11,h12,h13,h14,h15,h16,h17,h18⟩ := h
  constructor
  · simp only [sessionLines, h1, h3, h4, h5, h6, h7, h8, h9, h10, h11, h12, h13, h14, h15, h16,
      h17, h18]
  · simp only [textsIn, h1, h3, h4, h12]

/-! ## The disks of a session -/

theorem silent_hctlEntry (path : Str) (s : IscsiSession) (e : Dirent) :
    Emits Silent (hctlEntry path s e) env := by
  have ha : ∀ name s, Emits Silent (attachedDisk name s) env := fun name s => by
    simp [attachedDisk, silent_gathers (gathers_getDeviceEntry _), Silent, reportText, reportOf]
  simp [hctlEntry, ha, Silent, reportText]

theorem silent_targetEntry (host : Option Str) (path : Str) (s : IscsiSession) (e : Dirent) :
    Emits Silent (targetEntry host path s e) env := by
  have h : ∀ path s, Emits Silent (getIscsiDiskHctl host path s) env := fun path s => by
    simp only [getIscsiDiskHctl, emits_bind, emits_opendir, returns_opendir, forall_eq]
    split <;> simp [emits_foldlM, silent_hctlEntry, Silent, reportText, reportOf]
  simp [targetEntry, h]

theorem silent_getSessionScsiDisks (i : IscsiDevInfo) (s : IscsiSession) :
    Emits Silent (getSessionScsiDisks i s) env := by
  simp only [getSessionScsiDisks]
  split
  · simp [Silent, reportText]
  · simp only [emits_bind, emits_opendir, returns_opendir, forall_eq]
    split <;> simp [emits_foldlM, silent_targetEntry, Silent, reportText]

/-! ## The report -/

theorem sessionAttr_path {i : IscsiDevInfo} {name : Str} (hn : i.sessionName = some name)
    (hs : name.length ≤ 255) {file : Str} (hf : file.length ≤ 32) :
    sessionAttr i file = SYSFS_ISCSI_SESS_PATH ++ "/" ++ name ++ "/" ++ file := by
  have hp : (SYSFS_ISCSI_SESS_PATH ++ "/" ++ name).length < 1024 := by
    simp [SYSFS_ISCSI_SESS_PATH, lit]
    omega
  rw [sessionAttr, hn]
  change cut 2048 (cut 1024 (SYSFS_ISCSI_SESS_PATH ++ "/" ++ name) ++ "/" ++ file) = _
  rw [cut_of_length_lt hp, cut_of_length_lt]
  simp only [List.length_append] at hp ⊢
  simp [lit]
  omega

theorem short_files (s : IscsiSession) : ∀ p ∈ sessionFiles s, p.1.length ≤ 32 := by
  simp [sessionFiles, lit]

theorem observed_session {i : IscsiDevInfo} {path : Str} (h : i.sessionPath = some path)
    (hd : (env.dir path).isSome) (hr : Readable env (sessionAttr i) sessionRows)
    (s : IscsiSession) : observed reportText (getIscsiSessionInfo i s) env =
      (printIscsiSessionInfo (loaded env (sessionAttr i) sessionRows s)).toList := by
  obtain ⟨t,ht⟩ := (survives_loadAll_iff (sessionAttr i) sessionRows s).mpr hr
  obtain ⟨l,hl⟩ := Option.isSome_iff_exists.mp hd
  rw [getIscsiSessionInfo, observed_bind_of_returns _ _ ht,
    observed_silent (silent_gathers (gathers_sessionRows i s)), h, eq_loaded ht]
  dsimp only
  rw [observed_bind_of_returns _ _ ((returns_opendir path _).mpr rfl),
    observed_silent (silent_gathers (by simp)), hl]
  simp only [Option.map_some, print, observed_emit_bind, reportText, reportOf]
  have hz : observed reportText (if ((forEachDir l.entries).find? isTarget).isSome then
      getSessionScsiDisks i (loaded env (sessionAttr i) sessionRows s) >>= fun x =>
        pure ((0 : ℤ),x.2)
      else pure (0,loaded env (sessionAttr i) sessionRows s)) env = [] := by
    refine observed_silent ?_
    split <;> simp [silent_getSessionScsiDisks]
  rw [hz]
  simp

theorem observed_connection {i : IscsiDevInfo} (hr : Readable env (connectionFile i) connectionRows)
    (c : IscsiConnection) : observed reportText (getIscsiConnectionInfo i c) env =
      (printIscsiConnectionInfo (loaded env (connectionFile i) connectionRows c)).toList := by
  have hs : Returns (store .iscsiConnectionPath (connectionDir i)) env (connectionDir i) := by simp
  have hg : Emits Gathers (loadAllInto .iscsiConnectionConnStr (connectionFile i) connectionRows c)
      env :=
    gathers_loadAllInto _ rfl _ _ (by simp [connectionRows, connText, connInt, Gatherers.CopyIn,
      ofArgument])
  have he : getIscsiConnectionInfo i c = (do
      let connPath ← store .iscsiConnectionPath (connectionDir i)
      let c ← loadAllInto .iscsiConnectionConnStr (fun file => connPath ++ "/" ++ file)
        connectionRows c
      print (.iscsiHeader "Connection" i.connectionName)
      print (.iscsiConnectionInfo c)
      pure (0,c)) := rfl
  obtain ⟨t,ht⟩ := (survives_loadAllInto_iff .iscsiConnectionConnStr (connectionFile i)
    connectionRows c).mpr hr
  rw [he, observed_bind_of_returns _ _ hs,
    observed_silent (silent_gathers (by simp [ofArgument])), List.nil_append]
  change observed reportText (loadAllInto .iscsiConnectionConnStr (connectionFile i)
    connectionRows c >>= _) env = _
  rw [observed_bind_of_returns _ _ ht, observed_silent (silent_gathers hg),
    eq_loaded ((returns_loadAllInto _ _ _ _ _).mp ht)]
  simp [print, reportText, reportOf]

section
variable {host name conn : Str} {s : IscsiSession} {c : IscsiConnection}
variable (h : Presented env host name conn s c)
include h

theorem session_known : (knownIscsi env host).sessionName = some name ∧
    (knownIscsi env host).sessionPath = some (sessionHome host ++ "/" ++ name) := by
  rw [knownIscsi, withSession, h.session_found]
  exact ⟨rfl,rfl⟩

theorem connection_known : (connectedIscsi env host).connectionName = some conn := by
  rw [connectedIscsi, (session_known h).1, h.connection_found]

theorem session_at :
    ∀ p ∈ sessionFiles s, p.2.At env (sessionAttr (knownIscsi env host) p.1) := by
  intro p hp
  rw [sessionAttr_path (session_known h).1 h.short (short_files s p hp)]
  exact h.session p hp

theorem connection_at :
    ∀ p ∈ connectionFiles c, p.2.At env (connectionFile (connectedIscsi env host) p.1) := by
  intro p hp
  rw [connectionFile, connection_known h]
  exact h.connection p hp

theorem presented_readable : SessionReadable env host where
  session := session_readable (session_at h)
  found := by
    rw [(session_known h).2]
    rfl
  connection := connection_readable (connection_at h)

theorem presented_fits : SessionFits env host := by
  have ha := connection_at h
  simp only [connectionFiles, List.forall_mem_cons] at ha
  obtain ⟨h1,-,-,-,-,-,h7,-,-,h10,-,h12,-⟩ := ha
  have ht : (Value.text s.targetname).At env (sessionFile (knownIscsi env host) "targetname") := by
    rw [sessionFile, (session_known h).1]
    exact h.session (lit "targetname",.text s.targetname) (by simp [sessionFiles])
  refine ⟨fun _ => ⟨?_,?_⟩,?_⟩
  · simpa [LinesFit, targetNameRow] using value_fits ht (b := .fillConnectionStr) rfl
  · simpa [LinesFit, connRows] using
      ⟨value_fits h1 (b := .fillConnectionStr) rfl,value_fits h10 (b := .fillConnectionStr) rfl⟩
  · simp only [LinesFit, connectionRows, connText, connInt, List.forall_mem_cons]
    exact ⟨value_fits h1 rfl,trivial,trivial,trivial,trivial,trivial,value_fits h7 rfl,trivial,
      trivial,trivial,trivial,value_fits h12 rfl,List.forall_mem_nil _⟩

theorem observed_show : ∃ l, sessionFiles l = sessionFiles s ∧
    observed reportText (showIscsiDetails host) env =
      (printIscsiSessionInfo l).toList ++ (printIscsiConnectionInfo c).toList ∧
    Returns (showIscsiDetails host) env 0 := by
  have hp := (session_known h).2
  have hs := session_at h
  obtain ⟨j,hj,hl⟩ := @fillConnectionInfo_known env host _ rfl
  have hjn : j.connectionName = (connectedIscsi env host).connectionName := congrArg (·.2) hl
  have hc : ∀ p ∈ connectionFiles c, p.2.At env (connectionFile j p.1) := by
    intro p hp
    rw [connectionFile, hjn]
    exact connection_at h p hp
  have hi : Returns (fillSessionInfo (iscsiHost host)) env (knownIscsi env host) :=
    (returns_fillSessionInfo rfl rfl _).mpr rfl
  obtain ⟨t,ht⟩ := (survives_getIscsiSessionInfo_iff (knownIscsi env host) env.mallocSession).mpr
    ⟨session_readable hs,by rw [hp]; rfl⟩
  obtain ⟨u,hu⟩ := (survives_getIscsiConnectionInfo_iff j env.mallocConnection).mpr
    (connection_readable hc)
  refine ⟨_,session_kept hs env.mallocSession,?_,?_⟩
  · rw [showIscsiDetails, observed_emit_bind,
      observed_bind_of_returns _ _ ((returns_ask _ _).mpr rfl), observed_bind_of_returns _ _ hi,
      observed_silent (silent_gathers (gathers_fillSessionInfo _)),
      observed_bind_of_returns _ _ ht, observed_session hp h.opens (session_readable hs),
      observed_bind_of_returns _ _ hj,
      observed_silent (silent_gathers (gathers_fillConnectionInfo _)),
      observed_bind_of_returns _ _ hu, observed_connection (connection_readable hc),
      connection_kept hc]
    simp [reportText]
  · rw [showIscsiDetails, returns_bind_at ((returns_emit _ _ ()).mpr trivial),
      returns_bind_at ((returns_ask _ _).mpr rfl), returns_bind_at hi, returns_bind_at ht,
      returns_bind_at hj, returns_bind_at hu]
    simp

theorem ends_show (hl : host.length ≤ 16) (a₀ : Str) (rest : List Str) :
    Ends (main (a₀ :: "show" :: "iscsi" :: host :: rest)) env 0 := by
  have hr := presented_readable h
  obtain ⟨-,-,-,h0⟩ := observed_show h
  have ha := (inArrays_showIscsiDetails (by omega) hr).mpr (presented_fits h)
  obtain ⟨s,he,hs⟩ := (show_ends (P := True) .iscsi a₀ rest).mpr
    ⟨hl,ha,(survives_showIscsiDetails_iff host).mpr hr,iff_of_true h0 trivial⟩
  obtain rfl : s = 0 := hs.mpr trivial
  exact he

end

theorem one_line {dir : Str} {files : List (Str × Value)} (h : Presents env dir files)
    (file : Str) {t : Option Str} (hf : (file,Value.text t) ∈ files) : '\n' ∉ orNull t := by
  obtain ⟨l,rfl,hl,-⟩ := h _ hf
  exact hl.line.no_newline

/-- `show iscsi` prints the session and the connection that the kernel presents, as they
are read back from its text. -/
theorem iscsi_report_read_back {host name conn : Str} {s : IscsiSession} {c : IscsiConnection}
    (h : Presented env host name conn s c) (hh : host.length ≤ 16) (a₀ : Str) (rest : List Str) :
    (observed reportText (main (a₀ :: "show" :: "iscsi" :: host :: rest)) env).map readFields =
        [pairs (sessionLines s),pairs (Printing.printIscsiConnectionInfo c)] ∧
      Ends (main (a₀ :: "show" :: "iscsi" :: host :: rest)) env 0 := by
  obtain ⟨l,hl,ho,-⟩ := observed_show h
  obtain ⟨hll,hlt⟩ := lines_of_files hl
  have hr := (@run_shows env Str _ host _ .iscsi a₀ rest).1
  have hs : ∀ t ∈ textsIn (.iscsiSessionInfo l), '\n' ∉ orNull t := by
    rw [hlt]
    simp only [textsIn, List.forall_mem_cons]
    exact ⟨one_line h.session "targetname" (by simp [sessionFiles]),
      one_line h.session "target_state" (by simp [sessionFiles]),
      one_line h.session "state" (by simp [sessionFiles]),
      one_line h.session "ifacename" (by simp [sessionFiles]),List.forall_mem_nil _⟩
  have hc : ∀ t ∈ textsIn (.iscsiConnectionInfo c), '\n' ∉ orNull t := by
    simp only [textsIn, List.forall_mem_cons]
    exact ⟨one_line h.connection "state" (by simp [connectionFiles]),
      one_line h.connection "persistent_address" (by simp [connectionFiles]),
      one_line h.connection "address" (by simp [connectionFiles]),List.forall_mem_nil _⟩
  obtain ⟨u,hu,hur⟩ := read_session hs
  obtain ⟨v,hv,hvr⟩ := read_connection hc
  refine ⟨?_,ends_show h hh a₀ rest⟩
  rw [hr _ quiet_reportText, ho, hu, hv, ← hll]
  simp [hur, hvr]

/-! ## A host -/

def session7 : Dirent := ⟨lit "session7",.dir,by simp [lit, nul]⟩

def connection7 : Dirent := ⟨lit "connection7:0",.dir,by simp [lit, nul]⟩

def targetFile : Str := SYSFS_ISCSI_SESS_PATH ++ "/" ++ session7.dName ++ "/" ++ "targetname"

def host7 : Env :=
  { Env.bare with
    dir := fun p =>
      if p = sessionHome "host7" then
        some (Listing.ofEntries [session7] (by simp) (by simp [session7, lit])
          (by simp [session7, lit]))
      else if p = sessionHome "host7" ++ "/" ++ session7.dName then
        some (Listing.ofEntries [connection7] (by simp) (by simp [connection7, lit])
          (by simp [connection7, lit]))
      else none
    file := fun p => .bytes ((if p = targetFile then lit "iqn.disk" else ['7']) ++ ['\n']) }

def values7 : IscsiSession :=
  ⟨7,7,7,7,7,7,7,some ['7'],7,7,some ['7'],7,7,7,7,7,some "iqn.disk",some ['7'],some ['7'],
   0,0,0,0,0⟩

def link7 : IscsiConnection := ⟨some ['7'],7,7,7,7,7,some ['7'],7,7,7,7,some ['7']⟩

theorem at_seven {path : Str} (h : path ≠ targetFile) :
    (Value.number 7).At host7 path ∧ (Value.text (some ['7'])).At host7 path := by
  have hh : Holds host7 path ['7'] := ⟨['\n'],by simp [host7, h],.inr rfl⟩
  exact ⟨⟨by omega,by omega,hh⟩,_,rfl,⟨⟨by simp,by simp [nul],by simp⟩,by simp⟩,hh⟩

theorem presented_seven :
    Presented host7 "host7" "session7" "connection7:0" values7 link7 where
  session_found := by decide +kernel
  short := by simp [lit]
  opens := by decide +kernel
  connection_found := by decide +kernel
  session := by
    have ht : (Value.text values7.targetname).At host7 targetFile :=
      ⟨_,rfl,⟨⟨by simp [lit],by simp [lit, nul],by simp [lit]⟩,by simp [lit]⟩,['\n'],
        by simp [host7],.inr rfl⟩
    intro p hp
    simp only [sessionFiles, List.mem_cons, List.not_mem_nil, or_false] at hp
    rcases hp with rfl | rfl | rfl | rfl | rfl | rfl | rfl | rfl | rfl | rfl | rfl | rfl | rfl |
      rfl | rfl | rfl | rfl | rfl
    · exact ht
    all_goals first
      | exact (at_seven (by simp [targetFile, SYSFS_ISCSI_SESS_PATH, session7, lit])).1
      | exact (at_seven (by simp [targetFile, SYSFS_ISCSI_SESS_PATH, session7, lit])).2
  connection := by
    intro p hp
    simp only [connectionFiles, List.mem_cons, List.not_mem_nil, or_false] at hp
    rcases hp with rfl | rfl | rfl | rfl | rfl | rfl | rfl | rfl | rfl | rfl | rfl | rfl
    all_goals first
      | exact (at_seven (by
          simp [targetFile, SYSFS_ISCSI_SESS_PATH, SYSFS_ISCSI_CONN_PATH, session7, lit])).1
      | exact (at_seven (by
          simp [targetFile, SYSFS_ISCSI_SESS_PATH, SYSFS_ISCSI_CONN_PATH, session7, lit])).2

theorem host7_report :
    (observed reportText (main ["scsi-cli","show","iscsi","host7"]) host7).map readFields =
      [pairs (sessionLines values7),pairs (Printing.printIscsiConnectionInfo link7)] ∧
    Ends (main ["scsi-cli","show","iscsi","host7"]) host7 0 :=
  iscsi_report_read_back presented_seven (by simp [lit]) (lit "scsi-cli") []

end ScsiCli.IscsiReport
