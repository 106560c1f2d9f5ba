import ScsiCli.ResetTrigger

/-!
# Copies of the third argument

Three handlers copy the device argument into an array of their own with a size
computed from the argument. The copy is reached for a pair in the table only;
whether it stays inside the array is then a matter of the argument's length,
and for statistics of what is left of that length in an `int`.
-/

set_option autoImplicit false

namespace ScsiCli.ArgumentCopies
open ScsiCli.RunTrace ScsiCli.ByteString ScsiCli.NumberText ScsiCli.Records ScsiCli.Machine
open ScsiCli.SysfsUtils ScsiCli.Commands ScsiCli.MachineRules ScsiCli.Gatherers ScsiCli.Dispatch
open ScsiCli.CommandGrammar ScsiCli.ResetTrigger

variable {env : Env}

def overrunOf : Event → Option Buf
  | .overrun b => if ofArgument b then some b else none
  | _ => none

def Contained (env : Env) (argv : Argv) : Prop := observed overrunOf (main argv) env = []

def InBounds (e : Event) : Prop := overrunOf e = none

theorem inBounds_of_reports {e : Event} (h : Reports e) : InBounds e := by
  cases e with
  | overrun b =>
    have hb : ofArgument b = false := h
    simp [InBounds, overrunOf, hb]
  | _ => rfl

theorem observed_reports {α : Type} {m : Tool α} (h : Emits Reports m env) :
    observed overrunOf m env = [] := observed_of_emits _ h fun _ => inBounds_of_reports

/-! ## The three copies -/

theorem observed_storeBytes {b : Buf} (hb : ofArgument b = true) (n : ℕ) :
    observed overrunOf (storeBytes b n) env = if b.size < n then [b] else [] := by
  unfold storeBytes
  split <;> simp [overrunOf, hb]

theorem overruns_copy {b : Buf} (hb : ofArgument b = true) (n : ℕ) {tail : Tool ℤ}
    (ht : observed overrunOf tail env = []) (h : Handler) (w sub : Str) :
    observed overrunOf (do
      emit (.handler h)
      emit (.validated w sub true)
      storeBytes b n
      tail) env = if b.size < n then [b] else [] := by
  rw [observed_emit_bind, observed_emit_bind, observed_bind_of_silent _ fun _ _ => ht,
    observed_storeBytes hb]
  simp [overrunOf]

theorem cmdShow_pair {a₀ w sub arg : Str} {rest : List Str} (hp : supportedPair w sub = true) :
    cmdShow (a₀ :: w :: sub :: arg :: rest) = (do
      emit (.handler .cmdShow)
      emit (.validated w sub true)
      storeBytes .showDeviceStr arg.length
      runBlocks (showBlocks sub arg) 0) := by
  simp [cmdShow, validateSubcommand_cons, hp, prog_bind_assoc, copyArg_bind, orNull]

def statsSize (arg : Str) : ℕ := uint64 (int32 (arg.length+2))

theorem cmdStats_pair (env : Env) (a₀ arg : Str) (rest : List Str) {w sub : Str}
    (hp : supportedPair w sub = true) :
    ∃ tail : Tool ℤ, Emits Reports tail env ∧ cmdStats (a₀ :: w :: sub :: arg :: rest) = (do
      emit (.handler .cmdStats)
      emit (.validated w sub true)
      storeBytes .statsDiskStr (stored (statsSize arg) arg)
      tail) := by
  refine ⟨_,?_,by
    simp [cmdStats, validateSubcommand_cons, hp, prog_bind_assoc, copyArg_bind]
    rfl⟩
  simp [reports_statsDisk, reports_statsFcPort]

theorem overruns_cmdShow {a₀ w sub arg : Str} {rest : List Str}
    (hp : supportedPair w sub = true) :
    observed overrunOf (cmdShow (a₀ :: w :: sub :: arg :: rest)) env =
      if Buf.showDeviceStr.size < arg.length then [Buf.showDeviceStr] else [] := by
  rw [cmdShow_pair hp]
  exact overruns_copy rfl _
    (observed_reports (emits_runBlocks (reports_showBlocks _ _) _)) _ _ _

theorem overruns_cmdStats {a₀ w sub arg : Str} {rest : List Str}
    (hp : supportedPair w sub = true) :
    observed overrunOf (cmdStats (a₀ :: w :: sub :: arg :: rest)) env =
      if Buf.statsDiskStr.size < stored (statsSize arg) arg then [Buf.statsDiskStr] else [] := by
  obtain ⟨tail,ht,he⟩ := cmdStats_pair env a₀ arg rest hp
  rw [he]
  exact overruns_copy rfl _ (observed_reports ht) _ _ _

theorem overruns_cmdReset {a₀ sub arg : Str} {rest : List Str}
    (hp : supportedPair (lit "reset") sub = true) :
    observed overrunOf (cmdReset (a₀ :: lit "reset" :: sub :: arg :: rest)) env =
      if Buf.resetDiskStr.size < arg.length then [Buf.resetDiskStr] else [] := by
  have hb : observed overrunOf
      (runBlocks (resetBlocks (a₀ :: lit "reset" :: sub :: arg :: rest) sub) 0) env = [] := by
    rcases (supportedPair_reset sub).mp hp with rfl | hs
    · rw [resetBlocks_adapter, fcHbaReset_adapter, observed_eq_nil_iff]
      simp [issue, overrunOf]
    · rw [resetBlocks_other _ hs, observed_pure]
  rw [cmdReset_pair hp, stored_length]
  refine overruns_copy rfl _ ?_ _ _ _
  split
  · exact (observed_bind_of_silent _ fun _ _ => rfl).trans hb
  · simp [printInfo, print, overrunOf]

/-! ## Which runs reach a copy -/

theorem no_copy {h : Handler} {a₀ w : Str} {rest : List Str}
    (hn : ∀ sub arg tail, rest = sub :: arg :: tail → supportedPair w sub = false) :
    observed overrunOf (Handler.run h (a₀ :: w :: rest)) env = [] := by
  have he := observed_reports (@reports_handleCmdErrors env (a₀ :: w :: rest))
  have hz : ∀ err : ℤ, observed overrunOf (do handleCmdErrors (a₀ :: w :: rest); pure err) env =
      [] := fun err => (observed_bind_of_silent _ fun _ _ => rfl).trans he
  by_cases hc : h = .cmdReset ∨ h = .cmdStats ∨ h = .cmdShow
  · match rest with
    | [] => rcases hc with rfl | rfl | rfl <;> exact hz 0
    | [sub] =>
      rcases hc with rfl | rfl | rfl <;>
        cases hp : supportedPair w sub <;>
          simp [Handler.run, cmdReset, cmdStats, cmdShow, validateSubcommand_cons, hp, enoent,
            prog_bind_assoc, printInfo, print, overrunOf]
    | sub :: arg :: tail =>
      have hp := hn sub arg tail rfl
      rcases hc with rfl | rfl | rfl <;>
        simp [Handler.run, cmdReset, cmdStats, cmdShow, validateSubcommand_cons, hp, enoent,
          prog_bind_assoc, overrunOf]
  · obtain ⟨body,hb,hi⟩ := handler_run env h (a₀ :: w :: rest)
    rw [hb, observed_emit_bind, (observed_eq_nil_iff _ _ _).mpr
      (hi InBounds ⟨fun _ => inBounds_of_reports,fun _ _ _ => rfl,fun h => absurd h hc⟩
        fun h => absurd (.inl h) hc)]
    rfl

def copied (w arg : Str) : Option (Buf × ℕ) :=
  if w = lit "reset" then some (.resetDiskStr,arg.length)
  else if w = lit "stats" then some (.statsDiskStr,stored (statsSize arg) arg)
  else if w = lit "show" then some (.showDeviceStr,arg.length)
  else none

theorem overruns_parseCmd {a₀ w sub arg : Str} {rest : List Str}
    (hp : supportedPair w sub = true) :
    observed overrunOf (parseCmd (a₀ :: w :: sub :: arg :: rest)) env =
      match copied w arg with
      | some (b,n) => if b.size < n then [b] else []
      | none => [] := by
  have hd := stripDashes_of_head (supportedPair_head hp)
  have hn : w = lit "list" ∨ w = lit "scan" → copied w arg = none := by
    rintro (rfl | rfl) <;> simp [copied, lit]
  rcases supportedPair_command hp with rfl | rfl | rfl | rfl | rfl
  · rw [parseCmd_word (h := .cmdList) (by simp [hd, cmdStr]), hn (.inl rfl)]
    obtain ⟨body,hb,hi⟩ := handler_run env .cmdList
      (a₀ :: lit "list" :: sub :: arg :: rest)
    rw [hb, observed_emit_bind, (observed_eq_nil_iff _ _ _).mpr
      (hi InBounds ⟨fun _ => inBounds_of_reports,fun _ _ _ => rfl,by simp⟩ (by simp))]
    rfl
  · rw [parseCmd_word (h := .cmdShow) (by simp [hd, cmdStr]), Handler.run, overruns_cmdShow hp]
    simp [copied, lit]
  · rw [parseCmd_word (h := .cmdScan) (by simp [hd, cmdStr]), hn (.inr rfl), Handler.run,
      cmdScan_eq]
    simp [notSupported, printInfo, print, overrunOf]
  · rw [parseCmd_reset, overruns_cmdReset hp]
    simp [copied]
  · rw [parseCmd_word (h := .cmdStats) (by simp [hd, cmdStr]), Handler.run, overruns_cmdStats hp]
    simp [copied, lit]

theorem overruns_parseCmd_none {argv : Argv}
    (hn : ∀ w sub arg tail, argv.tail = w :: sub :: arg :: tail → supportedPair w sub = false) :
    observed overrunOf (parseCmd argv) env = [] := by
  match argv with
  | [] | [_] => rfl
  | a₀ :: w :: rest =>
    rcases eq_known_or_unknown (stripDashes w) with ⟨q,hq,hc⟩ | hu
    · rw [parseCmd_known hq hc]
      exact no_copy fun sub arg tail hr => hn w sub arg tail (by simp [hr])
    · rw [parseCmd_unknown hu, observed_pure]

theorem overruns_main {a₀ w : Str} {rest : List Str} :
    observed overrunOf (main (a₀ :: w :: rest)) env =
      observed overrunOf (parseCmd (a₀ :: w :: rest)) env := by
  have hq : ∀ q ∈ cmdStr, stripDashes w = q.cmds →
      asksHelp (stripDashes w) = false ∧ asksVersion (stripDashes w) = false :=
    fun q hq h => h ▸ known_not_asked hq
  have hk : asksHelp (stripDashes w) = true ∨ asksVersion (stripDashes w) = true →
      observed overrunOf (parseCmd (a₀ :: w :: rest)) env = [] := fun ha => by
    rcases eq_known_or_unknown (stripDashes w) with ⟨q,hm,hc⟩ | hu
    · obtain ⟨hh,hv⟩ := hq q hm hc
      simp [hh, hv] at ha
    · rw [parseCmd_unknown hu, observed_pure]
  rw [observed_main _ fun _ => rfl]
  cases hh : asksHelp (stripDashes w) with
  | true =>
    rw [handleCmd_help hh, hk (.inl hh), observed_eq_nil_iff]
    cases rest <;> simp [helpCmd, overrunOf, generalHelp]
  | false =>
    cases hv : asksVersion (stripDashes w) with
    | true =>
      rw [handleCmd_version hh hv, hk (.inr hv)]
      simp [versionCmd, overrunOf, printInfo, print, prog_bind_assoc]
    | false => exact observed_handleCmd_parse _ (fun _ => rfl) hh hv

/-! ## Lengths -/

/-- The argument's length leaves the copy of `cmd_stats` inside its array: short
enough, or so long that what is left of the size in 32 bits is. -/
def StatsLength (n : ℕ) : Prop := n ≤ 31 ∨ 2^32 ≤ n+2 ∧ (n+2) % 2^32 ≤ 32

theorem stored_le_iff (size : ℕ) (s : Str) (k : ℕ) :
    stored size s ≤ k ↔ size = 0 ∨ s.length+1 ≤ k ∨ size ≤ k := by
  unfold stored
  split_ifs with h <;> omega

theorem statsSize_cases (arg : Str) :
    (arg.length+2) % 2^32 < 2^31 ∧ statsSize arg = (arg.length+2) % 2^32 ∨
      2^31 ≤ (arg.length+2) % 2^32 ∧ 2^31 ≤ statsSize arg := by
  unfold statsSize uint64 int32
  omega

theorem stats_stored_iff (arg : Str) :
    stored (statsSize arg) arg ≤ 32 ↔ StatsLength arg.length := by
  rw [stored_le_iff, StatsLength]
  rcases statsSize_cases arg with ⟨h,h'⟩ | ⟨h,h'⟩
  · rw [h']
    omega
  · omega

def Fits (argv : Argv) : Prop :=
  ∀ w sub arg, argv[1]? = some w → argv[2]? = some sub → argv[3]? = some arg →
    supportedPair w sub = true →
      (w = lit "reset" → arg.length ≤ 32) ∧ (w = lit "stats" → StatsLength arg.length) ∧
        (w = lit "show" → arg.length ≤ 16)

theorem copied_fits_iff (w arg : Str) :
    (∀ b n, copied w arg = some (b,n) → n ≤ b.size) ↔
      (w = lit "reset" → arg.length ≤ 32) ∧ (w = lit "stats" → StatsLength arg.length) ∧
        (w = lit "show" → arg.length ≤ 16) := by
  rw [← stats_stored_iff, copied]
  generalize stored (statsSize arg) arg = n
  split_ifs with h₁ h₂ h₃
  · subst h₁
    simp [Buf.size, lit]
  · subst h₂
    simp [Buf.size, lit]
  · subst h₃
    simp [Buf.size, lit]
  · simp [h₁, h₂, h₃]

theorem contained_iff (env : Env) (argv : Argv) : Contained env argv ↔ Fits argv := by
  match argv with
  | [] | [_] => simp [Contained, Fits, main, generalHelp, print, overrunOf]
  | [a₀,w] | [a₀,w,sub] =>
    rw [Contained, overruns_main, overruns_parseCmd_none (by simp)]
    simp [Fits]
  | a₀ :: w :: sub :: arg :: tail =>
    rw [Contained, overruns_main]
    cases hp : supportedPair w sub with
    | false =>
      have hn : ∀ w' sub' arg' tail', (w :: sub :: arg :: tail) = w' :: sub' :: arg' :: tail' →
          supportedPair w' sub' = false := by
        rintro _ _ _ _ ⟨⟩
        exact hp
      rw [@overruns_parseCmd_none env (a₀ :: w :: sub :: arg :: tail) hn]
      simp [Fits, hp]
    | true =>
      rw [overruns_parseCmd hp]
      have hf : Fits (a₀ :: w :: sub :: arg :: tail) ↔
          ∀ b n, copied w arg = some (b,n) → n ≤ b.size := by
        rw [copied_fits_iff]
        simp [Fits, hp]
      rw [hf]
      cases hc : copied w arg with
      | none => simp
      | some bn =>
        obtain ⟨b,n⟩ := bn
        simp

theorem show_seventeen_not_contained :
    ¬Contained Env.bare [lit "scsi-cli",lit "show",lit "disk",List.replicate 17 'a'] := by
  have hp : supportedPair (lit "show") (lit "disk") = true := by simp [supportedPair, subCmdStr]
  rw [Contained, overruns_main, overruns_parseCmd hp]
  simp [copied, lit, Buf.size]

end ScsiCli.ArgumentCopies
