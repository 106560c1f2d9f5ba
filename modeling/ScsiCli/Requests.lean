import ScsiCli.ArgumentCopies
import ScsiCli.IscsiCompletion

/-!
# What `list` and `show` start

A supported pair picks out one device function, and the status of the process
is settled by the status of that function.
-/

set_option autoImplicit false

namespace ScsiCli.Requests
open ScsiCli.RunTrace ScsiCli.ByteString ScsiCli.Records ScsiCli.Machine ScsiCli.SysfsUtils
open ScsiCli.DiskUtils ScsiCli.DiskDetails ScsiCli.FcpUtils ScsiCli.IscsiUtils
open ScsiCli.Commands ScsiCli.MachineRules ScsiCli.Dispatch ScsiCli.CommandGrammar
open ScsiCli.Gatherers ScsiCli.ArgumentCopies

variable {env : Env} {β : Type}

/-! ## The device function of a pair -/

def listMediumChanger : Tool ℤ := do
  print (.commandLabel "Medium-Changer")
  pure 0

inductive Lists : Str → Tool ℤ → Prop
  | fcHba : Lists "fc_hba" listFcAdapters
  | iscsi : Lists "iscsi" listIscsiDevs
  | controller : Lists "controller" listControllers
  | disk : Lists "disk" listBlockDevs
  | multipath : Lists "multipath" listMultipathDevs
  | generic : Lists "generic" listGenericDevs
  | enclosure : Lists "enclosure" listEnclosure
  | cdRom : Lists "cd-rom" listCdromDevs
  | mediumChanger : Lists "medium-changer" listMediumChanger
  | tape : Lists "tape" listTapeDevs

inductive Shows (arg : Str) : Str → Tool ℤ → Prop
  | disk : Shows arg "disk" (showDiskDetails (some arg) allocScsiDev)
  | fcPort : Shows arg "fc_port" (showFcPortDetails arg)
  | iscsi : Shows arg "iscsi" (showIscsiDetails arg)

theorem lists_of_supported {sub : Str} (h : supportedPair "list" sub = true) :
    ∃ m, Lists sub m := by
  obtain ⟨p,hp,hc,rfl⟩ := supportedPair_iff.mp h
  simp only [subCmdStr, List.mem_cons, List.not_mem_nil, or_false] at hp
  rcases hp with rfl | rfl | rfl | rfl | rfl | rfl | rfl | rfl | rfl | rfl | rfl | rfl | rfl |
    rfl | rfl | rfl | rfl | rfl | rfl | rfl | rfl <;>
    first | exact ⟨_,by constructor⟩ | simp [lit] at hc

theorem shows_of_supported {sub : Str} (h : supportedPair "show" sub = true) (arg : Str) :
    ∃ m, Shows arg sub m := by
  obtain ⟨p,hp,hc,rfl⟩ := supportedPair_iff.mp h
  simp only [subCmdStr, List.mem_cons, List.not_mem_nil, or_false] at hp
  rcases hp with rfl | rfl | rfl | rfl | rfl | rfl | rfl | rfl | rfl | rfl | rfl | rfl | rfl |
    rfl | rfl | rfl | rfl | rfl | rfl | rfl | rfl <;>
    first | exact ⟨_,by constructor⟩ | simp [lit] at hc

theorem supported_of_lists {sub : Str} {m : Tool ℤ} (h : Lists sub m) :
    supportedPair "list" sub = true := by
  cases h <;> decide +kernel

theorem supported_of_shows {arg sub : Str} {m : Tool ℤ} (h : Shows arg sub m) :
    supportedPair "show" sub = true := by
  cases h <;> decide +kernel

theorem runBlocks_lists {sub : Str} {m : Tool ℤ} (h : Lists sub m) :
    runBlocks (listBlocks sub) 0 = m := by
  cases h <;> simp [listBlocks, runBlocks, lit, listMediumChanger]

theorem runBlocks_shows {arg sub : Str} {m : Tool ℤ} (h : Shows arg sub m) :
    runBlocks (showBlocks sub arg) 0 = m := by
  cases h <;> simp [showBlocks, runBlocks, strncmpEq, lit]

theorem cmdList_lists {a₀ sub : Str} {rest : List Str} {m : Tool ℤ} (h : Lists sub m) :
    cmdList (a₀ :: "list" :: sub :: rest) = (do
      emit (.handler .cmdList)
      emit (.validated "list" sub true)
      m) := by
  simp [cmdList, validateSubcommand_cons, supported_of_lists h, prog_bind_assoc, orNull,
    runBlocks_lists h]

/-! ## The run of a pair -/

def isOut : Event → Bool
  | .out _ => true
  | _ => false

/-- A view of what a report prints, which messages are no part of. -/
structure Quiet (p : Event → Option β) : Prop where
  output : ∀ e, isOut e = false → p e = none
  info : ∀ t, p (.out (.info t)) = none
  error : ∀ t, p (.out (.error t)) = none
  help : p (.out .generalHelp) = none

variable {p : Event → Option β}

theorem quiet_of_gathers (hp : Quiet p) {e : Event} (h : Gathers e) : p e = none := by
  cases e with
  | out o => cases o <;> first | exact hp.info _ | exact hp.error _ | exact h.elim
  | _ => exact hp.output _ rfl

theorem quiet_gathers {α : Type} (hp : Quiet p) {m : Tool α} (h : Emits Gathers m env) :
    observed p m env = [] := observed_of_emits _ h fun _ => quiet_of_gathers hp

theorem quiet_reportError (hp : Quiet p) (argv : Argv) (err : ℤ) :
    observed p (reportError argv err) env = [] := by
  unfold reportError
  split_ifs <;> simp [printInfo, printErr, print, hp.info, hp.error]

/-- Nothing is added to the view of `parse_cmd`, and the process succeeds when it does. -/
theorem main_parsed (a₀ : Str) {w : Str} (rest : List Str)
    (hw : asksHelp (stripDashes w) = false ∧ asksVersion (stripDashes w) = false) :
    (∀ p : Event → Option β, Quiet p →
      observed p (main (a₀ :: w :: rest)) env = observed p (parseCmd (a₀ :: w :: rest)) env) ∧
    (Returns (main (a₀ :: w :: rest)) env 0 ↔ Returns (parseCmd (a₀ :: w :: rest)) env 0) := by
  constructor
  · intro p hp
    have hm : observed p (main (a₀ :: w :: rest)) env =
        observed p (handleCmd (a₀ :: w :: rest)) env := by
      simp only [main, List.length_cons]
      rw [if_neg (by omega)]
      apply observed_bind_of_silent p
      intro e _
      by_cases he : e = -enotty <;> simp [he, generalHelp, print, hp.help]
    rw [hm, handleCmd_parse hw.1 hw.2]
    apply observed_bind_of_silent p
    intro r _
    by_cases hn : r < 0
    · rw [if_pos hn]
      exact observed_bind_eq_nil p (quiet_reportError hp _ _) fun _ _ => rfl
    · rw [if_neg hn]
      rfl
  · rw [returns_main]
    constructor
    · rintro ⟨e,he,h0⟩
      obtain rfl : e = 0 := by
        by_contra hne
        simp [hne] at h0
      rw [handleCmd_parse hw.1 hw.2, returns_bind] at he
      obtain ⟨r,hr,he⟩ := he
      by_cases hn : r < 0
      · simp [hn, einval] at he
      · obtain rfl : r = 0 := by simpa [hn, eq_comm] using he
        exact hr
    · intro h
      exact ⟨0,by simpa using returns_handleCmd_parse hw.1 hw.2 h,rfl⟩

theorem run_lists {sub : Str} {m : Tool ℤ} (h : Lists sub m) (a₀ : Str) (rest : List Str) :
    (∀ p : Event → Option β, Quiet p →
      observed p (main (a₀ :: "list" :: sub :: rest)) env = observed p m env) ∧
    (Returns (main (a₀ :: "list" :: sub :: rest)) env 0 ↔ Returns m env 0) := by
  have hw := @known_word .cmdList (lit "list") (by simp [cmdStr])
  obtain ⟨ho,hr⟩ := @main_parsed env β a₀ "list" (sub :: rest) hw.1
  have hc : parseCmd (a₀ :: lit "list" :: sub :: rest) = cmdList (a₀ :: lit "list" :: sub :: rest) :=
    hw.2 _ _
  rw [hc, cmdList_lists h] at hr
  refine ⟨fun p hp => ?_,hr.trans (by simp)⟩
  rw [ho p hp, hc, cmdList_lists h, observed_emit_bind, observed_emit_bind,
    hp.output _ rfl, hp.output _ rfl]
  rfl

theorem run_shows {sub arg : Str} {m : Tool ℤ} (h : Shows arg sub m) (a₀ : Str)
    (rest : List Str) :
    (∀ p : Event → Option β, Quiet p →
      observed p (main (a₀ :: "show" :: sub :: arg :: rest)) env = observed p m env) ∧
    (Returns (main (a₀ :: "show" :: sub :: arg :: rest)) env 0 ↔ Returns m env 0) := by
  have hw := @known_word .cmdShow (lit "show") (by simp [cmdStr])
  obtain ⟨ho,hr⟩ := @main_parsed env β a₀ "show" (sub :: arg :: rest) hw.1
  have hc : parseCmd (a₀ :: lit "show" :: sub :: arg :: rest) =
      cmdShow (a₀ :: lit "show" :: sub :: arg :: rest) := hw.2 _ _
  rw [hc, cmdShow_pair (supported_of_shows h), runBlocks_shows h] at hr
  refine ⟨fun p hp => ?_,hr.trans (by simp)⟩
  rw [ho p hp, hc, cmdShow_pair (supported_of_shows h), runBlocks_shows h, observed_emit_bind,
    observed_emit_bind, hp.output _ rfl, hp.output _ rfl,
    observed_storeBytes_bind p (hp.output _ rfl)]
  rfl

end ScsiCli.Requests
