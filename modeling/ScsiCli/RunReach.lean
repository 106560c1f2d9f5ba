import ScsiCli.RowIsolation

/-!
# How far a run of the tool reaches

The roots of each supported pair, and of a command word alone, are a table. The
paths of every run begin with them: it opens nothing else, and two machines that
answer alike for such paths are told apart by no event of the run and by no
status.
-/

set_option autoImplicit false

namespace ScsiCli.RunReach
open ScsiCli.RunTrace ScsiCli.Footprint ScsiCli.ByteString ScsiCli.NumberText ScsiCli.Records
open ScsiCli.Machine ScsiCli.SysfsUtils ScsiCli.DiskUtils ScsiCli.DiskDetails ScsiCli.FcpUtils
open ScsiCli.IscsiUtils ScsiCli.Commands ScsiCli.MachineRules ScsiCli.Dispatch
open ScsiCli.CommandGrammar ScsiCli.ResetTrigger ScsiCli.ArgumentCopies ScsiCli.Requests
open ScsiCli.ShowDisk ScsiCli.Reach ScsiCli.DeviceReach ScsiCli.RowIsolation

/-! ## The roots of a command line -/

def blockRoots : List Str := [SYSFS_BLOCK_PATH, DEV_DIR_PATH, lit "/sys/dev/block"]

def genericRoots : List Str := [SYSFS_SCSI_GEN_PATH, DEV_DIR_PATH, lit "/sys/dev/block"]

def hostRoots : List Str := [SYSFS_FC_HOST_PATH, PCI_DRIVER_PATH, lit "/sys/module"]

def sessionRoots : List Str :=
  [SYSFS_ISCSI_HOST_PATH, SYSFS_ISCSI_SESS_PATH, SYSFS_ISCSI_CONN_PATH]

def pairRoots : List ((Str × Str) × List Str) :=
  [(("list","cd-rom"),[DEV_DIR_PATH]),
   (("list","tape"),[DEV_DIR_PATH]),
   (("list","enclosure"),[SYSFS_ENCLOSURE_PATH]),
   (("list","fc_hba"),hostRoots),
   (("list","iscsi"),ISCSI_TRANSPORT_PATH :: sessionRoots),
   (("list","disk"),blockRoots),
   (("list","controller"),genericRoots),
   (("list","generic"),[DEV_DIR_PATH, lit "/sys/dev/block"]),
   (("list","multipath"),blockRoots),
   (("show","disk"),[SYSFS_BLOCK_PATH]),
   (("show","fc_port"),SYSFS_FC_RPRT_PATH :: hostRoots),
   (("show","iscsi"),lit "/sys/class/scsi_disk" :: sessionRoots),
   (("stats","disk"),[SYSFS_BLOCK_PATH]),
   (("stats","fc_port"),[SYSFS_FC_HOST_PATH]),
   (("reset","adapter"),[SYSFS_FC_HOST_PATH])]

def rootsOf (cmd sub : Str) : List Str :=
  ((pairRoots.find? fun p => p.1 = (cmd,sub)).map Prod.snd).getD []

theorem rootsOf_row {cmd sub : Str} {roots : List Str} (h : ((cmd,sub),roots) ∈ pairRoots) :
    rootsOf cmd sub = roots := by
  have hr : ∀ p ∈ pairRoots, rootsOf p.1.1 p.1.2 = p.2 := by decide +kernel
  exact hr _ h

/-- A command word alone lists six kinds of devices. -/
def bareRoots : List Str :=
  SYSFS_ENCLOSURE_PATH :: ISCSI_TRANSPORT_PATH ::
    (genericRoots ++ blockRoots ++ hostRoots ++ sessionRoots)

def listsAll (word : Str) : Bool :=
  word = "list" || word = "show" || word = "stats" || word = "reset"

def reach : Argv → List Str
  | _ :: w :: sub :: _ => rootsOf w sub
  | [_,w] => if listsAll (stripDashes w) then bareRoots else []
  | _ => []

variable {P : Str → Prop} {env env' : Env}

theorem stays_handler (k : Handler) : Stays P env env' none (emit (.handler k) : Tool Unit) :=
  orderly_emit trivial rfl

theorem rowAdmits_block (hp : ∀ root ∈ blockRoots, Admits P root) (name : Str) :
    RowAdmits P SYSFS_BLOCK_PATH name :=
  rowAdmits_of_roots (hp _ (by simp [blockRoots])) (hp _ (by simp [blockRoots]))
    (hp _ (by simp [blockRoots])) name

theorem hostAdmits_of_roots (hp : ∀ root ∈ hostRoots, Admits P root) : HostAdmits P :=
  ⟨hp _ (by simp [hostRoots]),hp _ (by simp [hostRoots]),hp _ (by simp [hostRoots])⟩

theorem sessionAdmits_of_roots (hp : ∀ root ∈ sessionRoots, Admits P root) : SessionAdmits P :=
  ⟨hp _ (by simp [sessionRoots]),hp _ (by simp [sessionRoots]),hp _ (by simp [sessionRoots])⟩

theorem extends_adapterPath (host : Str) : Extends SYSFS_FC_HOST_PATH (adapterPath host) := by
  have hp : lit "/sys/class/fc_host/" = SYSFS_FC_HOST_PATH ++ lit "/" := by
    simp [SYSFS_FC_HOST_PATH, lit]
  rw [adapterPath, hp]
  exact extends_rest (extends_append (extends_refl _) _) (by simp [lit])

section
variable (h : AlikeOn P env env')
include h

/-! ## Device functions -/

theorem stays_listControllers (hp : ∀ root ∈ genericRoots, Admits P root) :
    Stays P env env' none listControllers := by
  have hg := hp SYSFS_SCSI_GEN_PATH (by simp [genericRoots])
  exact stays_listing h _ (admits_self hg) _ _ _ fun e => stays_controllerRow h
    (rowAdmits_of_roots hg (hp _ (by simp [genericRoots])) (hp _ (by simp [genericRoots])) _)

theorem stays_listDisks (hp : ∀ root ∈ blockRoots, Admits P root) :
    Stays P env env' none listBlockDevs :=
  stays_listBlockDevs h (rowAdmits_block hp) (admits_self (hp _ (by simp [blockRoots])))

theorem stays_listMultipathDevs (hp : ∀ root ∈ blockRoots, Admits P root) :
    Stays P env env' none listMultipathDevs :=
  stays_listing h _ (admits_self (hp _ (by simp [blockRoots]))) _ _ _ fun _ =>
    stays_mpathRow h (rowAdmits_block hp _)

theorem stays_lists {sub : Str} {m : Tool ℤ} (hm : Lists sub m)
    (hp : ∀ root ∈ rootsOf "list" sub, Admits P root) : Stays P env env' none m := by
  cases hm with
  | fcHba =>
    rw [@rootsOf_row "list" "fc_hba" hostRoots (by simp [pairRoots])] at hp
    exact stays_listFcAdapters h (hostAdmits_of_roots hp)
  | iscsi =>
    rw [@rootsOf_row "list" "iscsi" (ISCSI_TRANSPORT_PATH :: sessionRoots)
      (by simp [pairRoots])] at hp
    exact stays_listIscsiDevs h
      (sessionAdmits_of_roots fun root hr => hp root (by simp [hr])) (admits_self (hp _ (by simp)))
  | controller =>
    rw [@rootsOf_row "list" "controller" genericRoots (by simp [pairRoots])] at hp
    exact stays_listControllers h hp
  | disk =>
    rw [@rootsOf_row "list" "disk" blockRoots (by simp [pairRoots])] at hp
    exact stays_listDisks h hp
  | multipath =>
    rw [@rootsOf_row "list" "multipath" blockRoots (by simp [pairRoots])] at hp
    exact stays_listMultipathDevs h hp
  | generic =>
    rw [@rootsOf_row "list" "generic" [DEV_DIR_PATH, lit "/sys/dev/block"]
      (by simp [pairRoots])] at hp
    have hd := hp DEV_DIR_PATH (by simp)
    exact stays_listing h _ (admits_self hd) _ _ _ fun _ =>
      stays_genericRow h (rowAdmits_of_roots hd hd (hp _ (by simp)) _)
  | enclosure =>
    rw [@rootsOf_row "list" "enclosure" [SYSFS_ENCLOSURE_PATH] (by simp [pairRoots])] at hp
    exact stays_listEnclosure h (hp _ (by simp))
  | cdRom =>
    rw [@rootsOf_row "list" "cd-rom" [DEV_DIR_PATH] (by simp [pairRoots])] at hp
    exact stays_listing h _ (admits_self (hp _ (by simp))) _ _ _ fun _ =>
      stays_typeRow h (hp _ (by simp)) (orderly_pure ())
  | mediumChanger => exact orderly_bind (stays_print _) fun _ _ => orderly_pure _
  | tape =>
    rw [@rootsOf_row "list" "tape" [DEV_DIR_PATH] (by simp [pairRoots])] at hp
    exact stays_listing h _ (admits_self (hp _ (by simp))) _ _ _ fun _ =>
      stays_typeRow h (hp _ (by simp)) (stays_print _)

theorem stays_shows {arg sub : Str} {m : Tool ℤ} (hm : Shows arg sub m)
    (hp : ∀ root ∈ rootsOf "show" sub, Admits P root) : Stays P env env' none m := by
  cases hm with
  | disk =>
    rw [@rootsOf_row "show" "disk" [SYSFS_BLOCK_PATH] (by simp [pairRoots])] at hp
    have hb := hp SYSFS_BLOCK_PATH (by simp)
    exact stays_showDiskDetails h (admits_self hb) (fun name _ _ => admits_child hb name) _
  | fcPort =>
    rw [@rootsOf_row "show" "fc_port" (SYSFS_FC_RPRT_PATH :: hostRoots) (by simp [pairRoots])] at hp
    exact stays_showFcPortDetails h
      (hostAdmits_of_roots fun root hr => hp root (by simp [hr])) (hp _ (by simp)) arg
  | iscsi =>
    rw [@rootsOf_row "show" "iscsi" (lit "/sys/class/scsi_disk" :: sessionRoots)
      (by simp [pairRoots])] at hp
    exact stays_showIscsiDetails h
      (sessionAdmits_of_roots fun root hr => hp root (by simp [hr])) (hp _ (by simp)) arg

theorem stays_handleCmdErrors (hp : ∀ root ∈ bareRoots, Admits P root) (argv : Argv) :
    Stays P env env' none (handleCmdErrors argv) := by
  refine orderly_bind (stays_print _) fun _ _ =>
    orderly_bind (stays_listEnclosure h (hp _ (by simp [bareRoots]))) fun _ _ =>
    orderly_bind (stays_listControllers h fun root hr => hp root (by simp [bareRoots, hr]))
      fun _ _ =>
    orderly_bind (stays_listDisks h fun root hr => hp root (by simp [bareRoots, hr])) fun _ _ =>
    orderly_bind (stays_listMultipathDevs h fun root hr => hp root (by simp [bareRoots, hr]))
      fun _ _ =>
    orderly_bind (stays_listFcAdapters h (hostAdmits_of_roots fun root hr =>
      hp root (by simp [bareRoots, hr]))) fun _ _ =>
    orderly_bind (stays_listIscsiDevs h (sessionAdmits_of_roots fun root hr =>
      hp root (by simp [bareRoots, hr])) (admits_self (hp _ (by simp [bareRoots]))))
      fun _ _ => orderly_pure _

/-! ## Handlers -/

omit h in
/-- The second table is asked first; it knows only words without a dash. -/
theorem stays_validated (a₀ w sub : Str) (rest : List Str) {k : ℤ → Tool ℤ}
    (hk : supportedPair w sub = true → stripDashes w = w → Stays P env env' none (k 0)) :
    Stays P env env' none (do
      let err ← validateSubcommand (a₀ :: w :: sub :: rest)
      if err < 0 then pure err else k err) := by
  rw [validateSubcommand_cons, prog_bind_assoc]
  refine orderly_bind (orderly_emit trivial rfl) fun _ _ => ?_
  cases hs : supportedPair w sub with
  | false => simpa [enoent] using orderly_pure (-2 : ℤ)
  | true => simpa using hk hs (stripDashes_of_head (supportedPair_head hs))

omit h in
theorem stays_notSupported (argv : Argv) : Stays P env env' none (notSupported argv) :=
  orderly_bind (stays_printInfo _) fun _ _ => orderly_pure _

omit h in
theorem stays_refused {word : Str} (hn : ∀ sub, supportedPair word sub = false) {a₀ w : Str}
    (hw : stripDashes w = word) (sub : Str) (rest : List Str) (k : ℤ → Tool ℤ) :
    Stays P env env' none (do
      let err ← validateSubcommand (a₀ :: w :: sub :: rest)
      if err < 0 then pure err else k err) :=
  stays_validated a₀ w sub rest fun hs hd => by
    rw [← hd, hw, hn] at hs
    cases hs

omit h in
theorem no_pairs {word : Str} (hw : word ∈ [lit "alias", lit "errors", lit "online", lit "offline"])
    (sub : Str) : supportedPair word sub = false := by
  by_contra h
  have hc := supportedPair_command (by simpa using h)
  simp only [List.mem_cons, List.not_mem_nil, or_false] at hw
  rcases hw with rfl | rfl | rfl | rfl <;> simp [lit] at hc

omit h in
theorem stays_refuses {k : Handler} {word : Str}
    (hk : (word,k) ∈ [(lit "alias",Handler.cmdAlias), (lit "errors",.cmdErrors),
      (lit "online",.cmdOnline), (lit "offline",.cmdOffline)]) {a₀ w : Str}
    (hw : stripDashes w = word) (rest : List Str) :
    Stays P env env' none (Handler.run k (a₀ :: w :: rest)) := by
  have hn : ∀ sub, supportedPair word sub = false := no_pairs (by
    simp only [List.mem_cons, Prod.mk.injEq, List.not_mem_nil, or_false] at hk ⊢
    exact hk.imp And.left (.imp And.left (.imp And.left And.left)))
  simp only [List.mem_cons, Prod.mk.injEq, List.not_mem_nil, or_false] at hk
  cases rest with
  | nil =>
    rcases hk with ⟨-,rfl⟩ | ⟨-,rfl⟩ | ⟨-,rfl⟩ | ⟨-,rfl⟩ <;>
      exact orderly_bind (stays_handler _) fun _ _ =>
        orderly_ite (fun hl => absurd hl (by simp)) fun _ => stays_notSupported _
  | cons sub rest =>
    rcases hk with ⟨-,rfl⟩ | ⟨-,rfl⟩ | ⟨-,rfl⟩ | ⟨-,rfl⟩
    · exact orderly_bind (stays_handler _) fun _ _ => orderly_ite
        (fun _ => orderly_bind (stays_printInfo _) fun _ _ => stays_refused hn hw sub rest _)
        fun _ => stays_notSupported _
    · exact orderly_bind (stays_handler _) fun _ _ => orderly_ite
        (fun _ => orderly_bind (stays_printInfo _) fun _ _ => stays_refused hn hw sub rest _)
        fun _ => stays_notSupported _
    · exact orderly_bind (stays_handler _) fun _ _ => orderly_ite
        (fun _ => stays_refused hn hw sub rest _) fun _ => stays_notSupported _
    · exact orderly_bind (stays_handler _) fun _ _ => orderly_ite
        (fun _ => stays_refused hn hw sub rest _) fun _ => stays_notSupported _

theorem stays_bare {w : Str} (hw : listsAll (stripDashes w) = true) {a₀ : Str}
    (hp : ∀ root ∈ reach [a₀,w], Admits P root) :
    Stays P env env' none (do
      handleCmdErrors [a₀,w]
      pure (0 : ℤ)) := by
  rw [reach, if_pos hw] at hp
  exact orderly_bind (stays_handleCmdErrors h hp _) fun _ _ => orderly_pure _

theorem stays_cmdList {a₀ w : Str} {rest : List Str} (hw : stripDashes w = lit "list")
    (hp : ∀ root ∈ reach (a₀ :: w :: rest), Admits P root) :
    Stays P env env' none (cmdList (a₀ :: w :: rest)) := by
  cases rest with
  | nil => exact orderly_bind (stays_handler _) fun _ _ =>
      orderly_ite (fun hl => absurd hl (by simp)) fun _ => stays_bare h (by simp [listsAll, hw]) hp
  | cons sub rest =>
    refine orderly_bind (stays_handler _) fun _ _ => orderly_ite (fun _ => ?_)
      fun hl => absurd (by simp) hl
    refine stays_validated a₀ w sub rest fun hs hd => ?_
    obtain rfl : w = lit "list" := hd.symm.trans hw
    obtain ⟨m,hm⟩ := lists_of_supported hs
    simpa [orNull, runBlocks_lists hm] using stays_lists h hm hp

theorem stays_cmdShow {a₀ w : Str} {rest : List Str} (hw : stripDashes w = lit "show")
    (hp : ∀ root ∈ reach (a₀ :: w :: rest), Admits P root) :
    Stays P env env' none (cmdShow (a₀ :: w :: rest)) := by
  cases rest with
  | nil => exact orderly_bind (stays_handler _) fun _ _ =>
      orderly_ite (fun hl => absurd hl (by simp)) fun _ => stays_bare h (by simp [listsAll, hw]) hp
  | cons sub rest =>
    refine orderly_bind (stays_handler _) fun _ _ => orderly_ite (fun _ => ?_)
      fun hl => absurd (by simp) hl
    refine stays_validated a₀ w sub rest fun hs hd => ?_
    obtain rfl : w = lit "show" := hd.symm.trans hw
    cases rest with
    | nil => exact orderly_bind (stays_printInfo _) fun _ _ => orderly_pure _
    | cons arg rest =>
      obtain ⟨m,hm⟩ := shows_of_supported hs arg
      refine orderly_bind (stays_copyArg _ _ _) fun _ _ => ?_
      simpa [orNull, runBlocks_shows hm] using stays_shows h hm hp

omit h in
theorem supportedPair_stats {sub : Str} (hs : supportedPair "stats" sub = true) :
    sub = lit "disk" ∨ sub = lit "fc_port" := by
  simpa [supportedPair, subCmdStr, lit] using hs

theorem stays_statsDisk (hp : Admits P SYSFS_BLOCK_PATH) (name : Str) :
    Stays P env env' none (statsDisk name) := by
  have hs : P (cut 256 ("/sys/block/" ++ name ++ "/stat")) := by
    rw [show lit "/sys/block/" = SYSFS_BLOCK_PATH ++ lit "/" by simp [SYSFS_BLOCK_PATH, lit]]
    exact hp _ (extends_cut (extends_rest (extends_append (extends_refl _) _) (by simp [lit]))
      (by simp [SYSFS_BLOCK_PATH, lit]))
  exact orderly_bind (stays_getDiskStats h hs _) fun _ _ =>
    orderly_ite (fun _ => stays_printErr _) fun _ => stays_print _

theorem stays_statsFcPort (hp : Admits P SYSFS_FC_HOST_PATH) (name : Str) :
    Stays P env env' none (statsFcPort name) :=
  orderly_bind (stays_getFcDevStats h hp name _) fun _ _ =>
    orderly_ite (fun _ => stays_printErr _) fun _ => stays_print _

theorem stays_cmdStats {a₀ w : Str} {rest : List Str} (hw : stripDashes w = lit "stats")
    (hp : ∀ root ∈ reach (a₀ :: w :: rest), Admits P root) :
    Stays P env env' none (cmdStats (a₀ :: w :: rest)) := by
  cases rest with
  | nil => exact orderly_bind (stays_handler _) fun _ _ =>
      orderly_ite (fun hl => absurd hl (by simp)) fun _ => stays_bare h (by simp [listsAll, hw]) hp
  | cons sub rest =>
    refine orderly_bind (stays_handler _) fun _ _ => orderly_ite (fun _ => ?_)
      fun hl => absurd (by simp) hl
    cases rest with
    | nil => exact orderly_bind (stays_printInfo _) fun _ _ => orderly_pure _
    | cons arg rest =>
      refine stays_validated a₀ w sub (arg :: rest) fun hs hd => ?_
      obtain rfl : w = lit "stats" := hd.symm.trans hw
      -- The names of the two sub-commands decide which of the two reports is made.
      have hdisk : strncmpEq (orNull (some sub)) "disk" 4 = true → Admits P SYSFS_BLOCK_PATH := by
        intro hc
        rcases supportedPair_stats hs with rfl | rfl
        · refine hp SYSFS_BLOCK_PATH ?_
          simp [reach, @rootsOf_row "stats" "disk" [SYSFS_BLOCK_PATH] (by simp [pairRoots])]
        · simp [orNull, strncmpEq, lit] at hc
      have hport : strncmpEq (orNull (some sub)) "fc_port" 7 = true →
          Admits P SYSFS_FC_HOST_PATH := by
        intro hc
        rcases supportedPair_stats hs with rfl | rfl
        · simp [orNull, strncmpEq, lit] at hc
        · refine hp SYSFS_FC_HOST_PATH ?_
          simp [reach, @rootsOf_row "stats" "fc_port" [SYSFS_FC_HOST_PATH] (by simp [pairRoots])]
      have hlast : ∀ name, Stays P env env' none (do
          if strncmpEq (orNull (some sub)) "fc_port" 7 then statsFcPort name
          pure (0 : ℤ)) := fun name => orderly_ite
        (fun hc => orderly_bind (stays_statsFcPort h (hport hc) name) fun _ _ => orderly_pure _)
        fun _ => orderly_pure _
      exact orderly_bind (stays_copyArg _ _ _) fun name _ => orderly_ite
        (fun hc => orderly_bind (stays_statsDisk h (hdisk hc) name) fun _ _ => hlast name)
        fun _ => hlast name

theorem stays_issue {path : Str} (hp : P path) : Stays P env env' none (issue path) := by
  refine orderly_ask (by rw [h.trigger path hp]) (orderly_ite (fun _ => ?_) fun _ =>
    orderly_pure _)
  cases (env.trigger path).writes && (env.trigger path).closes with
  | false => exact ⟨rfl,by simp [Opens, hp],by simp [turn]⟩
  | true => exact ⟨rfl,by simp [Opens, hp],by simp [turn]⟩

theorem stays_cmdReset {a₀ w : Str} {rest : List Str} (hw : stripDashes w = lit "reset")
    (hp : ∀ root ∈ reach (a₀ :: w :: rest), Admits P root) :
    Stays P env env' none (cmdReset (a₀ :: w :: rest)) := by
  cases rest with
  | nil => exact orderly_bind (stays_handler _) fun _ _ =>
      orderly_ite (fun hl => absurd hl (by simp)) fun _ => stays_bare h (by simp [listsAll, hw]) hp
  | cons sub rest =>
    refine orderly_bind (stays_handler _) fun _ _ => orderly_ite (fun _ => ?_)
      fun hl => absurd (by simp) hl
    refine stays_validated a₀ w sub rest fun hs hd => ?_
    obtain rfl : w = lit "reset" := hd.symm.trans hw
    cases rest with
    | nil => exact orderly_bind (stays_printInfo _) fun _ _ => orderly_pure _
    | cons arg rest =>
      refine orderly_bind (stays_copyArg _ _ _) fun _ _ => orderly_ite (fun _ => ?_) fun _ =>
        orderly_bind (stays_printInfo _) fun _ _ => orderly_pure _
      refine orderly_bind ?_ fun _ _ => orderly_pure _
      rcases (supportedPair_reset sub).mp hs with rfl | ho
      · have hr : P (cut 1024 (adapterPath arg)) := by
          have hm : SYSFS_FC_HOST_PATH ∈ rootsOf (lit "reset") (lit "adapter") := by
            simp [@rootsOf_row "reset" "adapter" [SYSFS_FC_HOST_PATH] (by simp [pairRoots])]
          exact hp _ hm _ (extends_cut (extends_adapterPath arg) (by simp [SYSFS_FC_HOST_PATH, lit]))
        have hb := resetBlocks_adapter (a₀ :: lit "reset" :: lit "adapter" :: arg :: rest)
        have hf := fcHbaReset_adapter a₀ arg rest
        change Stays P env env' none (runBlocks (resetBlocks _ (lit "adapter")) 0)
        rw [hb, hf]
        exact orderly_bind (stays_device _ _) fun _ _ =>
          orderly_bind (orderly_emit trivial rfl) fun _ _ =>
            orderly_bind (stays_printInfo _) fun _ _ => orderly_bind (stays_printInfo _) fun _ _ =>
              orderly_bind (stays_issue h hr) fun _ _ => orderly_ite
                (fun _ => orderly_bind (stays_printInfo _) fun _ _ => orderly_pure _)
                fun _ => orderly_bind (stays_printErr _) fun _ _ => orderly_pure _
      · simpa [orNull, resetBlocks_other _ ho] using orderly_pure (0 : ℤ)

/-! ## The whole run -/

theorem stays_run {p : SupportedCmd} (hc : p ∈ cmdStr) {a₀ w : Str} {rest : List Str}
    (hw : stripDashes w = p.cmds) (hp : ∀ root ∈ reach (a₀ :: w :: rest), Admits P root) :
    Stays P env env' none (Handler.run p.fn (a₀ :: w :: rest)) := by
  simp only [cmdStr, List.mem_cons, List.not_mem_nil, or_false] at hc
  rcases hc with rfl | rfl | rfl | rfl | rfl | rfl | rfl | rfl | rfl
  · exact stays_refuses (k := .cmdAlias) (by simp) hw rest
  · exact stays_refuses (k := .cmdErrors) (by simp) hw rest
  · exact stays_cmdList h hw hp
  · exact stays_refuses (k := .cmdOnline) (by simp) hw rest
  · exact stays_refuses (k := .cmdOffline) (by simp) hw rest
  · exact stays_cmdReset h hw hp
  · exact stays_cmdStats h hw hp
  · exact stays_cmdShow h hw hp
  · exact orderly_bind (stays_handler _) fun _ _ =>
      orderly_ite (fun hl => absurd hl (by simp)) fun _ => stays_notSupported _

omit h in
theorem stays_parseCmd {a₀ w : Str} {rest : List Str}
    (hr : ∀ p ∈ cmdStr, stripDashes w = p.cmds →
      Stays P env env' none (Handler.run p.fn (a₀ :: w :: rest))) :
    Stays P env env' none (parseCmd (a₀ :: w :: rest)) := by
  rcases eq_known_or_unknown (stripDashes w) with ⟨q,hq,hw⟩ | hw
  · rw [parseCmd_known hq hw]
    exact hr q hq hw
  · rw [parseCmd_unknown hw]
    exact orderly_pure _

omit h in
theorem stays_helpCmd (argv : Argv) : Stays P env env' none (helpCmd argv) := by
  refine orderly_bind (orderly_emit trivial rfl) fun _ _ => ?_
  cases argv[2]? with
  | none => exact orderly_bind (stays_print _) fun _ _ => orderly_pure _
  | some sub =>
    have hs : Stays P env env' none (do
        if strncmpEq sub "stats" 5 then
          printInfo "stats           Show statistics for Block Devices, FC Adapters"
        pure (0 : ℤ)) := orderly_ite
      (fun _ => orderly_bind (stays_printInfo _) fun _ _ => orderly_pure _) fun _ => orderly_pure _
    exact orderly_ite (fun _ => orderly_bind (stays_printInfo _) fun _ _ => hs) fun _ => hs

omit h in
theorem stays_versionCmd : Stays P env env' none versionCmd :=
  orderly_bind (orderly_emit trivial rfl) fun _ _ => orderly_bind (stays_printInfo _)
    fun _ _ => orderly_bind (stays_printInfo _) fun _ _ => stays_printInfo _

omit h in
theorem stays_reportError (argv : Argv) (err : ℤ) :
    Stays P env env' none (reportError argv err) :=
  orderly_ite (fun _ => stays_printInfo _) fun _ => orderly_ite (fun _ => stays_printErr _)
    fun _ => orderly_ite (fun _ => stays_printErr _) fun _ => stays_printErr _

omit h in
theorem stays_main_of {argv : Argv}
    (hr : ∀ a₀ w rest, argv = a₀ :: w :: rest → ∀ p ∈ cmdStr, stripDashes w = p.cmds →
      Stays P env env' none (Handler.run p.fn argv)) :
    Stays P env env' none (main argv) := by
  have hc : Stays P env env' none (handleCmd argv) := by
    refine orderly_ite (fun _ => orderly_bind (stays_print _) fun _ _ => orderly_pure _)
      fun _ => ?_
    match argv with
    | [] => exact orderly_crash
    | [_] => exact orderly_crash
    | a₀ :: w :: rest =>
      refine orderly_ite (fun _ => stays_helpCmd _) fun _ => orderly_ite (fun _ => ?_) fun _ => ?_
      · exact orderly_bind stays_versionCmd fun _ _ => orderly_pure _
      · exact orderly_bind (stays_parseCmd (hr a₀ w rest rfl)) fun err _ => orderly_ite
          (fun _ => orderly_bind (stays_reportError _ _) fun _ _ => orderly_pure _)
          fun _ => orderly_pure _
  refine orderly_ite (fun _ => orderly_bind (stays_print _) fun _ _ => orderly_pure _)
    fun _ => orderly_bind hc fun err _ => ?_
  exact orderly_ite (fun _ => orderly_bind (stays_print _) fun _ _ => orderly_pure _)
    fun _ => orderly_pure _

theorem stays_main {argv : Argv} (hp : ∀ root ∈ reach argv, Admits P root) :
    Stays P env env' none (main argv) :=
  stays_main_of fun a₀ w rest he p hc hw => by
    subst he
    exact stays_run h hc hw hp

end

def otherNetwork : Env :=
  { Env.bare with
    dir := fun p => if p = lit "/sys/class/net" then some Listing.empty else none }

/-- Files are opened one at a time, and none is open when the run ends or is ended. -/
theorem main_files_in_turn (env : Env) (argv : Argv) :
    monitored turn (main argv) env none = some none :=
  (stays_main (alikeOn_refl _ env) admits_fromRoots).back

/-! ## The disk that is shown -/

/-- The block directory, and the directory of the name that is kept of the argument, which is
gone into where an entry begins with that name. -/
def OfNamed (env : Env) (arg p : Str) : Prop :=
  p = SYSFS_BLOCK_PATH ∨ (∃ e ∈ blockEntries env, cut 16 (env.format arg) <+: e.dName) ∧
    Extends (SYSFS_BLOCK_PATH ++ lit "/" ++ cut 16 (env.format arg)) p

theorem stays_show_disk {env env' : Env} {arg : Str} (h : AlikeOn (OfNamed env arg) env env')
    (a₀ : Str) (rest : List Str) :
    Stays (OfNamed env arg) env env' none
      (main (a₀ :: lit "show" :: lit "disk" :: arg :: rest)) := by
  refine stays_main_of fun a w rest' he p hc hw => ?_
  obtain ⟨-,rfl,-⟩ : a₀ = a ∧ lit "show" = w ∧ _ := by simpa using he
  have hf : p.fn = .cmdShow := by
    have hs : stripDashes (lit "show") = lit "show" := stripDashes_of_head (by simp [lit])
    rw [hs] at hw
    simp only [cmdStr, List.mem_cons, List.not_mem_nil, or_false] at hc
    rcases hc with rfl | rfl | rfl | rfl | rfl | rfl | rfl | rfl | rfl <;> simp [lit] at hw ⊢
  have hm : supportedPair (lit "show") (lit "disk") = true := by
    simp [supportedPair, subCmdStr, lit]
  rw [hf, Handler.run, cmdShow_pair hm, runBlocks_shows (Shows.disk)]
  refine orderly_bind (stays_handler _) fun _ _ => orderly_bind (orderly_emit trivial rfl)
    fun _ _ => orderly_bind (stays_storeBytes _ _) fun _ _ => ?_
  refine stays_showDiskDetails h (Or.inl rfl) (fun name hn he q hq => Or.inr ?_) _
  obtain rfl := (returns_snprintfFmt _ _ _).mp hn
  exact ⟨he,hq⟩

end ScsiCli.RunReach
