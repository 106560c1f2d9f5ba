import ScsiCli.Gatherers

/-!
# From the command word to its handler

An argument vector selects at most one handler, the one its command word names
in the first table; a handler given three arguments or more starts with the
second table, which knows no command word that begins with a dash.
-/

set_option autoImplicit false

namespace ScsiCli.Dispatch
open ScsiCli.RunTrace ScsiCli.ByteString ScsiCli.NumberText ScsiCli.Records
open ScsiCli.Machine ScsiCli.SysfsUtils ScsiCli.DiskUtils ScsiCli.DiskDetails
open ScsiCli.FcpUtils ScsiCli.IscsiUtils ScsiCli.Commands ScsiCli.MachineRules
open ScsiCli.Gatherers

variable {env : Env}

def Handler.run : Handler → Argv → Tool ℤ
  | .cmdAlias => cmdAlias
  | .cmdErrors => cmdErrors
  | .cmdList => cmdList
  | .cmdOnline => cmdOnline
  | .cmdOffline => cmdOffline
  | .cmdReset => cmdReset
  | .cmdStats => cmdStats
  | .cmdShow => cmdShow
  | .cmdScan => cmdScan

/-! ## Command words -/

theorem validateCommand_known {p : SupportedCmd} (h : p ∈ cmdStr) :
    validateCommand p.cmds = 0 := by
  have hs : (cmdStr.find? fun q => p.cmds = q.cmds).isSome := by
    rw [List.find?_isSome]
    exact ⟨p,h,by simp⟩
  simp [validateCommand, hs]

theorem validateCommand_unknown {w : Str} (h : ∀ p ∈ cmdStr, w ≠ p.cmds) :
    validateCommand w = -eagain := by
  have hs : (cmdStr.find? fun q => w = q.cmds) = none := by
    simpa [List.find?_eq_none] using h
  simp [validateCommand, hs]

theorem parseTests_known {p : SupportedCmd} (h : p ∈ cmdStr) (argv : Argv) :
    (parseTests p.cmds argv).foldlM (fun err t => if t.1 then t.2 else pure err) 0 =
      Handler.run p.fn argv := by
  simp only [cmdStr, List.mem_cons, List.not_mem_nil, or_false] at h
  rcases h with rfl | rfl | rfl | rfl | rfl | rfl | rfl | rfl | rfl <;>
    simp [parseTests, strncmpEq, lit, Handler.run]

theorem parseCmd_known {p : SupportedCmd} (h : p ∈ cmdStr) {a₀ w : Str} {rest : List Str}
    (hw : stripDashes w = p.cmds) :
    parseCmd (a₀ :: w :: rest) = Handler.run p.fn (a₀ :: w :: rest) := by
  simp [parseCmd, hw, validateCommand_known h, parseTests_known h]

theorem parseCmd_word {h : Handler} {a₀ w : Str} {rest : List Str}
    (hw : (stripDashes w,h) ∈ cmdStr.map fun p => (p.cmds,p.fn)) :
    parseCmd (a₀ :: w :: rest) = Handler.run h (a₀ :: w :: rest) := by
  obtain ⟨p,hp,he⟩ := List.mem_map.mp hw
  obtain ⟨hc,rfl⟩ := Prod.mk.inj he
  exact parseCmd_known hp hc.symm

theorem known_not_asked {p : SupportedCmd} (h : p ∈ cmdStr) :
    asksHelp p.cmds = false ∧ asksVersion p.cmds = false := by
  simp only [cmdStr, List.mem_cons, List.not_mem_nil, or_false] at h
  rcases h with rfl | rfl | rfl | rfl | rfl | rfl | rfl | rfl | rfl <;>
    simp [asksHelp, asksVersion, strncmpEq, lit]

theorem stripDashes_known {p : SupportedCmd} (h : p ∈ cmdStr) : stripDashes p.cmds = p.cmds := by
  simp only [cmdStr, List.mem_cons, List.not_mem_nil, or_false] at h
  rcases h with rfl | rfl | rfl | rfl | rfl | rfl | rfl | rfl | rfl <;> simp [stripDashes, lit]

theorem known_word {h : Handler} {w : Str} (hw : (w,h) ∈ cmdStr.map fun p => (p.cmds,p.fn)) :
    (asksHelp (stripDashes w) = false ∧ asksVersion (stripDashes w) = false) ∧
      ∀ a₀ rest, parseCmd (a₀ :: w :: rest) = Handler.run h (a₀ :: w :: rest) := by
  obtain ⟨p,hp,he⟩ := List.mem_map.mp hw
  obtain ⟨rfl,rfl⟩ := Prod.mk.inj he
  rw [stripDashes_known hp]
  exact ⟨known_not_asked hp,fun _ _ => parseCmd_known hp (stripDashes_known hp)⟩

theorem parseCmd_unknown {a₀ w : Str} {rest : List Str}
    (hw : ∀ p ∈ cmdStr, stripDashes w ≠ p.cmds) :
    parseCmd (a₀ :: w :: rest) = pure (-eagain) := by
  simp [parseCmd, validateCommand_unknown hw, eagain]

/-! ## Pairs -/

theorem supportedPair_iff {w sub : Str} :
    supportedPair w sub = true ↔ ∃ p ∈ subCmdStr, w = p.cmd ∧ sub = p.subCmd := by
  simp [supportedPair, List.any_eq_true]

theorem supportedPair_command {w sub : Str} (h : supportedPair w sub = true) :
    w = lit "list" ∨ w = lit "show" ∨ w = lit "scan" ∨ w = lit "reset" ∨ w = lit "stats" := by
  obtain ⟨p,hp,rfl,-⟩ := supportedPair_iff.mp h
  simp only [subCmdStr, List.mem_cons, List.not_mem_nil, or_false] at hp
  rcases hp with rfl | rfl | rfl | rfl | rfl | rfl | rfl | rfl | rfl | rfl | rfl | rfl | rfl |
    rfl | rfl | rfl | rfl | rfl | rfl | rfl | rfl <;> simp

theorem supportedPair_head {w sub : Str} (h : supportedPair w sub = true) :
    w.head? ≠ some '-' := by
  rcases supportedPair_command h with rfl | rfl | rfl | rfl | rfl <;> simp [lit]

theorem not_supportedPair_dash (s sub : Str) : supportedPair ('-' :: s) sub = false := by
  by_contra h
  have := supportedPair_command (by simpa using h)
  simp [lit] at this

theorem validateSubcommand_cons (a₀ w sub : Str) (rest : List Str) :
    validateSubcommand (a₀ :: w :: sub :: rest) = (do
      emit (.validated w sub (supportedPair w sub))
      pure (if supportedPair w sub then 0 else -enoent)) := rfl

/-! ## What a handler can do -/

def Within : Event → Prop
  | .handler _ | .helpCmd | .versionCmd => False
  | _ => True

theorem within_of_reports {e : Event} (h : Reports e) : Within e := by
  cases e <;> first | exact h | trivial

@[simp] theorem within_validated (w sub : Str) (ok : Bool) : Within (.validated w sub ok) := trivial

@[simp] theorem within_out (o : Out) : Within (.out o) := trivial

@[simp] theorem within_overrun (b : Buf) : Within (.overrun b) := trivial

@[simp] theorem within_device (f : Device) (arg : Option Str) : Within (.device f arg) := trivial

@[simp] theorem within_opened (h : Handle) (m : Mode) : Within (.opened h m) := trivial

@[simp] theorem within_closed (h : Handle) : Within (.closed h) := trivial

@[simp] theorem within_delivered (path data : Str) : Within (.delivered path data) := trivial

@[simp] theorem within_nullUse (s : Sink) : Within (.nullUse s) := trivial

theorem reports_handleCmdErrors (argv : Argv) : Emits Reports (handleCmdErrors argv) env := by
  simp [handleCmdErrors, listSubcommands, reports_listEnclosure, reports_listControllers,
    reports_listBlockDevs, reports_listMultipathDevs, reports_listFcAdapters,
    reports_listIscsiDevs]

theorem emits_runBlocks {Q : Event → Prop} {bs : List (Bool × (ℤ → Tool ℤ))}
    (h : ∀ b ∈ bs, ∀ err, Emits Q (b.2 err) env) (err : ℤ) : Emits Q (runBlocks bs err) env := by
  induction bs generalizing err with
  | nil => simp [runBlocks]
  | cons b bs ih =>
    have hi := ih fun b hb => h b (by simp [hb])
    have hb : ∀ err, Emits Q (b.2 err) env := h b (by simp)
    simp only [runBlocks, emits_ite, emits_bind, hb, emits_pure, hi, implies_true, true_and]

theorem reports_listBlocks (sub : Str) :
    ∀ b ∈ listBlocks sub, ∀ err, Emits Reports (b.2 err) env := by
  simp [listBlocks, reports_listFcAdapters, reports_listIscsiDevs, reports_listControllers,
    reports_listBlockDevs, reports_listMultipathDevs, reports_listGenericDevs,
    reports_listEnclosure, reports_listCdromDevs, reports_listTapeDevs]

theorem reports_showBlocks (sub arg : Str) :
    ∀ b ∈ showBlocks sub arg, ∀ err, Emits Reports (b.2 err) env := by
  simp [showBlocks, reports_showDiskDetails, reports_showFcPortDetails,
    reports_showEnclosureDetails, reports_showIscsiDetails]

theorem reports_chooseOperation {sub : Str} {disk fcPort iscsi : Tool ℤ}
    (hd : Emits Reports disk env) (hf : Emits Reports fcPort env) (hi : Emits Reports iscsi env) :
    Emits Reports (chooseOperation sub disk fcPort iscsi) env := by
  simp [chooseOperation, hd, hf, hi]

theorem reports_statsDisk {S : Buf → Prop} (name : Str) :
    Emits (ReportsIn S) (statsDisk name) env := by
  simp [statsDisk, statsFailed, reports_getDiskStats]

theorem reports_statsFcPort (name : Str) : Emits Reports (statsFcPort name) env := by
  simp [statsFcPort, statsFailed, reports_getFcDevStats]

/-- What a property of events has to accept for it to hold of a handler's body. -/
structure Accepts (h : Handler) (Q : Event → Prop) : Prop where
  reports : ∀ e, Reports e → Q e
  validated : ∀ w sub ok, Q (.validated w sub ok)
  overrun : h = .cmdReset ∨ h = .cmdStats ∨ h = .cmdShow → ∀ b, Q (.overrun b)

variable {Q : Event → Prop}

theorem emits_validateSubcommand {h : Handler} (hQ : Accepts h Q) (argv : Argv) :
    Emits Q (validateSubcommand argv) env := by
  simp only [validateSubcommand]
  split
  · simpa using hQ.reports _ (reports_nullUse _)
  · split
    · simpa using fun _ _ _ => hQ.reports _ (reports_nullUse _)
    · simpa using hQ.validated _ _ _

theorem emits_chooseOperation {h : Handler} (hQ : Accepts h Q) (sub : Str) (arg : Option Str)
    (d f i : Device) :
    Emits Q (chooseOperation sub (diskOperation d arg) (portOperation f arg)
      (iscsiOperation i arg)) env :=
  emits_mono (reports_chooseOperation (reports_diskOperation d arg) (reports_portOperation f arg)
    (reports_iscsiOperation i arg)) hQ.reports

theorem emits_notSupported {h : Handler} (hQ : Accepts h Q) (argv : Argv) :
    Emits Q (notSupported argv) env := by
  simpa [notSupported] using hQ.reports _ (reports_out _)

theorem emits_handleCmdErrors {h : Handler} (hQ : Accepts h Q) (argv : Argv) :
    Emits Q (handleCmdErrors argv) env :=
  emits_mono (reports_handleCmdErrors argv) hQ.reports

/-- A handler announces itself once; its body keeps to what it may do. -/
theorem handler_run (env : Env) (h : Handler) (argv : Argv) :
    ∃ body : Tool ℤ, Handler.run h argv = (do emit (.handler h); body) ∧
      ∀ Q, Accepts h Q → (h = .cmdReset → Emits Q (fcHbaReset argv) env) → Emits Q body env := by
  cases h with
  | cmdAlias =>
    refine ⟨_,rfl,fun Q hQ _ => ?_⟩
    simp [emits_validateSubcommand hQ, emits_notSupported hQ, setDiskAlias, setFcportAlias,
      setIscsiAlias, emits_chooseOperation hQ, hQ.reports _ (reports_out _)]
  | cmdErrors =>
    refine ⟨_,rfl,fun Q hQ _ => ?_⟩
    simp [emits_validateSubcommand hQ, emits_notSupported hQ, getDiskErrorCount,
      getFcportErrorCount, getIscsiErrorCount, emits_chooseOperation hQ,
      hQ.reports _ (reports_out _)]
  | cmdList =>
    refine ⟨_,rfl,fun Q hQ _ => ?_⟩
    simp [emits_validateSubcommand hQ, emits_handleCmdErrors hQ,
      emits_mono (emits_runBlocks (reports_listBlocks _) _) hQ.reports]
  | cmdOnline =>
    refine ⟨_,rfl,fun Q hQ _ => ?_⟩
    simp [emits_validateSubcommand hQ, emits_notSupported hQ, setDiskOnline, setFcportOnline,
      setIscsiDevOnline, emits_chooseOperation hQ, hQ.reports _ (reports_out _)]
  | cmdOffline =>
    refine ⟨_,rfl,fun Q hQ _ => ?_⟩
    simp [emits_validateSubcommand hQ, emits_notSupported hQ, setDiskOffline, setFcportOffline,
      setIscsiDevOffline, emits_chooseOperation hQ, hQ.reports _ (reports_out _)]
  | cmdReset =>
    refine ⟨_,rfl,fun Q hQ hr => ?_⟩
    have hb : ∀ sub, ∀ b ∈ resetBlocks argv sub, ∀ err, Emits Q (b.2 err) env := by
      simp [resetBlocks, hr rfl]
    cases h : argv[3]? <;>
      simp [emits_validateSubcommand hQ, emits_handleCmdErrors hQ, emits_runBlocks (hb _),
        hQ.overrun (by simp), hQ.reports _ (reports_out _)]
  | cmdStats =>
    refine ⟨_,rfl,fun Q hQ _ => ?_⟩
    cases h : argv[3]? <;>
      simp [emits_validateSubcommand hQ, emits_handleCmdErrors hQ, hQ.overrun (by simp),
        emits_mono (reports_statsDisk _) hQ.reports, hQ.reports _ (reports_out _),
        emits_mono (reports_statsFcPort _) hQ.reports]
  | cmdShow =>
    refine ⟨_,rfl,fun Q hQ _ => ?_⟩
    cases h : argv[3]? <;>
      simp [emits_validateSubcommand hQ, emits_handleCmdErrors hQ, hQ.overrun (by simp),
        emits_mono (emits_runBlocks (reports_showBlocks _ _) _) hQ.reports,
        hQ.reports _ (reports_out _)]
  | cmdScan =>
    refine ⟨_,rfl,fun Q hQ _ => ?_⟩
    simp [emits_validateSubcommand hQ, emits_notSupported hQ, scsiScanDiskDev,
      scsiScanFcportDev, scsiScanIscsiDev, emits_chooseOperation hQ]

/-! ## The reset -/

theorem within_accepted (h : Handler) : Accepts h Within :=
  ⟨fun _ => within_of_reports,fun _ _ _ => trivial,fun _ _ => trivial⟩

theorem within_fcHbaReset (argv : Argv) : Emits Within (fcHbaReset argv) env := by
  have hv := @emits_validateSubcommand env _ _ (within_accepted .cmdReset) argv
  simp only [fcHbaReset]
  cases argv[3]? with
  | none => simp
  | some host =>
    simp only [emits_bind, emits_emit, within_device, hv, emits_ite, emits_pure, true_and,
      implies_true, resetPath, issue]
    intro _ _ _ _ _
    refine ⟨by simp,fun path _ => ?_⟩
    cases path <;> simp

theorem within_run (env : Env) (h : Handler) (argv : Argv) :
    ∃ body : Tool ℤ, Handler.run h argv = (do emit (.handler h); body) ∧
      Emits Within body env := by
  obtain ⟨body,hb,hi⟩ := handler_run env h argv
  exact ⟨body,hb,hi Within (within_accepted h) fun _ => within_fcHbaReset argv⟩

end ScsiCli.Dispatch
