import ScsiCli.CommandGrammar

/-!
# The reset trigger

The one file the tool writes. A run of `parse_cmd` opens it at most once, for
the sub-command `adapter` only; the host name it is built from has passed a
compare of its first four bytes, made on a copy that lacks the last one.
-/

set_option autoImplicit false

namespace ScsiCli.ResetTrigger
open ScsiCli.RunTrace ScsiCli.ByteString ScsiCli.Records ScsiCli.Machine
open ScsiCli.SysfsUtils ScsiCli.Commands ScsiCli.MachineRules ScsiCli.Gatherers ScsiCli.Dispatch
open ScsiCli.CommandGrammar

variable {env : Env} {β : Type}

def writeOf : Event → Option Str
  | .opened (.file path) .write => some path
  | _ => none

def deliveryOf : Event → Option (Str × Str)
  | .delivered path data => some (path,data)
  | _ => none

def adapterPath (host : Str) : Str := "/sys/class/fc_host/" ++ host ++ "/device/reset"

def hostTest (host : Str) : Bool := strncmpEq (cut host.length host) "host" 4

theorem hostTest_iff (host : Str) :
    hostTest host = true ↔ 5 ≤ host.length ∧ lit "host" <+: host := by
  have hl : (lit "host").length = 4 := by simp [lit]
  rw [hostTest, strncmpEq_iff_prefix hl, cut]
  constructor
  · intro h
    have := h.length_le
    rw [List.length_take, hl] at this
    exact ⟨by omega,h.trans (List.take_prefix _ _)⟩
  · rintro ⟨h5,h⟩
    exact List.prefix_take_iff.mpr ⟨h,by omega⟩

/-! ## The reset of an adapter -/

theorem supportedPair_reset (sub : Str) : supportedPair (lit "reset") sub = true ↔
    sub = lit "adapter" ∨ sub = lit "port" ∨ sub = lit "issue_logo" ∨ sub = lit "issue_lip" := by
  simp [supportedPair, subCmdStr, lit]

theorem fcHbaReset_adapter (a₀ host : Str) (rest : List Str) :
    fcHbaReset (a₀ :: lit "reset" :: lit "adapter" :: host :: rest) = (do
      emit (.device .fcHbaReset (some host))
      emit (.validated (lit "reset") (lit "adapter") true)
      printInfo (" Issuing Reset for " ++ host ++ "\n")
      printInfo ("Issuing " ++ cut 1024 (adapterPath host) ++ "\n")
      if ← issue (cut 1024 (adapterPath host)) then do
        printInfo ("Command " ++ lit "adapter" ++ " issued Sucessfully to " ++ host ++ "\n")
        pure 0
      else do
        printErr (cut 1024 (adapterPath host))
        pure (-einval)) := by
  have hp : supportedPair (lit "reset") (lit "adapter") = true :=
    (supportedPair_reset _).mpr (.inl rfl)
  have h₁ : strncmpEq (lit "adapter") (lit "issue_logo") 10 = false := by simp [strncmpEq, lit]
  have h₂ : strncmpEq (lit "adapter") (lit "issue_lip") 9 = false := by simp [strncmpEq, lit]
  simp [fcHbaReset, validateSubcommand_cons, hp, resetPath, h₁, h₂, prog_bind_assoc, orNull,
    adapterPath]

theorem resetBlocks_adapter (argv : Argv) :
    runBlocks (resetBlocks argv (lit "adapter")) 0 = fcHbaReset argv := by
  have h₁ : strncmpEq (lit "adapter") (lit "port") 4 = false := by simp [strncmpEq, lit]
  have h₂ : strncmpEq (lit "adapter") (lit "issue_logo") 10 = false := by simp [strncmpEq, lit]
  have h₃ : strncmpEq (lit "adapter") (lit "issue_lip") 9 = false := by simp [strncmpEq, lit]
  simp [resetBlocks, runBlocks, h₁, h₂, h₃]

/-- The other three entries of the table select nothing. -/
theorem resetBlocks_other (argv : Argv) {sub : Str}
    (h : sub = lit "port" ∨ sub = lit "issue_logo" ∨ sub = lit "issue_lip") :
    runBlocks (resetBlocks argv sub) 0 = pure 0 := by
  rcases h with rfl | rfl | rfl <;> simp [resetBlocks, runBlocks, strncmpEq, lit]

theorem cmdReset_pair {a₀ sub host : Str} {rest : List Str}
    (hp : supportedPair (lit "reset") sub = true) :
    cmdReset (a₀ :: lit "reset" :: sub :: host :: rest) = (do
      emit (.handler .cmdReset)
      emit (.validated (lit "reset") sub true)
      storeBytes .resetDiskStr (stored host.length host)
      if hostTest host then do
        let err ← runBlocks (resetBlocks (a₀ :: lit "reset" :: sub :: host :: rest) sub) 0
        pure (if err < 0 then err else 0)
      else do
        printInfo "Please use a valid FC adapter\n"
        pure 0) := by
  simp [cmdReset, validateSubcommand_cons, hp, prog_bind_assoc, copyArg_bind, hostTest, orNull]
  rfl

theorem observed_cmdReset (p : Event → Option β) (ho : ∀ o, p (.out o) = none)
    (hh : ∀ h, p (.handler h) = none) (hv : ∀ w sub ok, p (.validated w sub ok) = none)
    (hb : ∀ b, p (.overrun b) = none) {a₀ sub host : Str} {rest : List Str}
    (hp : supportedPair (lit "reset") sub = true) :
    observed p (cmdReset (a₀ :: lit "reset" :: sub :: host :: rest)) env =
      if hostTest host = true ∧ sub = lit "adapter" then
        observed p (fcHbaReset (a₀ :: lit "reset" :: sub :: host :: rest)) env
      else [] := by
  rw [cmdReset_pair hp, observed_emit_bind, observed_emit_bind, hh, hv,
    observed_storeBytes_bind p (hb _)]
  cases ht : hostTest host with
  | false => simp [printInfo, print, ho]
  | true =>
    rcases (supportedPair_reset sub).mp hp with rfl | hs
    · rw [if_pos rfl, if_pos ⟨rfl,rfl⟩, resetBlocks_adapter]
      exact observed_bind_of_silent p fun _ _ => rfl
    · rw [if_pos rfl, resetBlocks_other _ hs, if_neg]
      · rfl
      · rintro ⟨-,rfl⟩
        simp [lit] at hs

theorem returns_cmdReset {a₀ sub host : Str} {rest : List Str}
    (hp : supportedPair (lit "reset") sub = true) (s : ℤ) :
    Returns (cmdReset (a₀ :: lit "reset" :: sub :: host :: rest)) env s ↔
      if hostTest host = true ∧ sub = lit "adapter" then
        ∃ e, Returns (fcHbaReset (a₀ :: lit "reset" :: sub :: host :: rest)) env e ∧
          s = if e < 0 then e else 0
      else s = 0 := by
  rw [cmdReset_pair hp, returns_emit_bind, returns_emit_bind, returns_bind]
  simp only [returns_storeBytes, true_and, exists_const]
  cases ht : hostTest host with
  | false => simp [printInfo, print]
  | true =>
    rcases (supportedPair_reset sub).mp hp with rfl | hs
    · rw [if_pos rfl, if_pos ⟨rfl,rfl⟩, resetBlocks_adapter]
      simp
    · rw [if_pos rfl, resetBlocks_other _ hs, if_neg]
      · simp
      · rintro ⟨-,rfl⟩
        simp [lit] at hs

theorem issue_spec (env : Env) (path : Str) :
    let t := env.trigger path
    Returns (issue path) env t.opens ∧
      observed writeOf (issue path) env = (if t.opens then [path] else []) ∧
      observed deliveryOf (issue path) env =
        (if t.opens && (t.writes && t.closes) then [(path,lit "1")] else []) := by
  simp only [issue, observed_ask_bind, returns_bind, returns_ask, exists_eq_left]
  cases ho : (env.trigger path).opens <;>
    cases hw : (env.trigger path).writes && (env.trigger path).closes <;>
      simp [writeOf, deliveryOf]

/-- The whole of a reset of an adapter: the status, what is opened and what is delivered. -/
theorem fcHbaReset_spec (env : Env) (a₀ host : Str) (rest : List Str) :
    let argv := a₀ :: lit "reset" :: lit "adapter" :: host :: rest
    let t := env.trigger (cut 1024 (adapterPath host))
    Returns (fcHbaReset argv) env (if t.opens then 0 else -einval) ∧
      observed writeOf (fcHbaReset argv) env =
        (if t.opens then [cut 1024 (adapterPath host)] else []) ∧
      observed deliveryOf (fcHbaReset argv) env =
        (if t.opens && (t.writes && t.closes) then [(cut 1024 (adapterPath host),lit "1")]
          else []) := by
  obtain ⟨hr,hw,hd⟩ := issue_spec env (cut 1024 (adapterPath host))
  have hf : ∀ e : ℤ, (∃ b, Returns (issue (cut 1024 (adapterPath host))) env b ∧
      (if b then e = 0 else e = -einval)) → Returns
        (fcHbaReset (a₀ :: lit "reset" :: lit "adapter" :: host :: rest)) env e := by
    rintro e ⟨b,hb,he⟩
    simp only [fcHbaReset_adapter, printInfo, printErr, print, returns_emit_bind]
    rw [returns_bind]
    refine ⟨b,hb,?_⟩
    cases b <;> simpa using he
  refine ⟨hf _ ⟨_,hr,?_⟩,?_,?_⟩
  · split <;> simp
  · simp only [fcHbaReset_adapter, printInfo, print, observed_emit_bind,
      observed_bind_of_returns _ _ hr, hw]
    split <;> simp [printErr, print, writeOf]
  · simp only [fcHbaReset_adapter, printInfo, print, observed_emit_bind,
      observed_bind_of_returns _ _ hr, hd]
    cases ho : (env.trigger (cut 1024 (adapterPath host))).opens <;>
      simp [printErr, print, deliveryOf]

/-! ## What a run writes -/

def resetHost : Argv → Option Str
  | _ :: w :: sub :: host :: _ =>
    if w = lit "reset" ∧ sub = lit "adapter" ∧ hostTest host = true then some host else none
  | _ => none

def NoWrite (e : Event) : Prop := writeOf e = none

theorem noWrite_of_reports {e : Event} (h : Reports e) : NoWrite e := by
  cases e with
  | opened hd m => cases hd <;> cases m <;> first | rfl | exact h.elim
  | _ => rfl

theorem noWrite_accepted (h : Handler) : Accepts h NoWrite :=
  ⟨fun _ => noWrite_of_reports,fun _ _ _ => rfl,fun _ _ => rfl⟩

theorem noWrite_fcHbaReset {argv : Argv}
    (h : ∀ w sub host tail, argv.tail = w :: sub :: host :: tail → supportedPair w sub = false) :
    Emits NoWrite (fcHbaReset argv) env := by
  match argv with
  | [] | [_] | [_,_] | [_,_,_] => simp [fcHbaReset, NoWrite, writeOf]
  | a₀ :: w :: sub :: host :: tail =>
    simp [fcHbaReset, validateSubcommand_cons, h w sub host tail rfl, NoWrite, writeOf, enoent]

theorem writes_handler {h : Handler} (a₀ w : Str) (rest : List Str)
    (hn : h = .cmdReset → ∀ sub host tail, rest = sub :: host :: tail →
      supportedPair w sub = false) :
    observed writeOf (Handler.run h (a₀ :: w :: rest)) env = [] := by
  obtain ⟨body,hb,hi⟩ := handler_run env h (a₀ :: w :: rest)
  rw [hb, observed_emit_bind, (observed_eq_nil_iff _ _ _).mpr
    (hi NoWrite (noWrite_accepted h) fun hr => noWrite_fcHbaReset ?_)]
  · rfl
  · rintro w' sub host tail he
    obtain ⟨rfl,hs⟩ := List.cons.inj he
    exact hn hr sub host tail hs

theorem resetHost_eq_some {argv : Argv} {host : Str} :
    resetHost argv = some host ↔ ∃ a₀ rest,
      argv = a₀ :: lit "reset" :: lit "adapter" :: host :: rest ∧ hostTest host = true := by
  match argv with
  | [] | [_] | [_,_] | [_,_,_] => simp [resetHost]
  | a₀ :: w :: sub :: h :: tail =>
    simp only [resetHost]
    constructor
    · intro he
      split_ifs at he with hc
      obtain ⟨rfl,rfl,ht⟩ := hc
      obtain rfl := Option.some.inj he
      exact ⟨a₀,tail,rfl,ht⟩
    · rintro ⟨_,_,he,ht⟩
      obtain ⟨-,rfl,rfl,rfl,-⟩ := by simpa using he
      simp [ht]

theorem parseCmd_reset (a₀ : Str) (rest : List Str) :
    parseCmd (a₀ :: lit "reset" :: rest) = cmdReset (a₀ :: lit "reset" :: rest) :=
  (@known_word .cmdReset (lit "reset") (by simp [cmdStr])).2 a₀ rest

theorem writes_cmdReset {a₀ sub host : Str} {rest : List Str}
    (hp : supportedPair (lit "reset") sub = true) :
    observed writeOf (cmdReset (a₀ :: lit "reset" :: sub :: host :: rest)) env =
      if hostTest host = true ∧ sub = lit "adapter" then
        observed writeOf (fcHbaReset (a₀ :: lit "reset" :: sub :: host :: rest)) env
      else [] :=
  observed_cmdReset writeOf (fun _ => rfl) (fun _ => rfl) (fun _ _ _ => rfl) (fun _ => rfl) hp

theorem writes_parseCmd_none {argv : Argv} (hn : resetHost argv = none) :
    observed writeOf (parseCmd argv) env = [] := by
  match argv with
  | [] | [_] => rfl
  | a₀ :: w :: rest =>
    rcases eq_known_or_unknown (stripDashes w) with ⟨q,hq,hc⟩ | hu
    · rw [parseCmd_known hq hc]
      by_cases hs : q.fn = .cmdReset ∧ ∃ sub host tail, rest = sub :: host :: tail ∧
          supportedPair w sub = true
      · obtain ⟨hf,sub,host,tail,rfl,hp⟩ := hs
        rw [stripDashes_of_head (supportedPair_head hp)] at hc
        obtain rfl : w = lit "reset" := by
          simp only [cmdStr, List.mem_cons, List.not_mem_nil, or_false] at hq
          rcases hq with rfl | rfl | rfl | rfl | rfl | rfl | rfl | rfl | rfl <;> simp_all
        rw [hf]
        refine (writes_cmdReset hp).trans (if_neg ?_)
        rintro ⟨ht,rfl⟩
        simp [resetHost, ht] at hn
      · apply writes_handler a₀ w rest
        intro hf sub host tail hr
        exact Bool.eq_false_iff.mpr fun hp => hs ⟨hf,sub,host,tail,hr,hp⟩
    · rw [parseCmd_unknown hu, observed_pure]

theorem writes_parseCmd_some (env : Env) {argv : Argv} {host : Str} (hs : resetHost argv = some host) :
    observed writeOf (parseCmd argv) env =
      if (env.trigger (cut 1024 (adapterPath host))).opens then
        [cut 1024 (adapterPath host)] else [] := by
  obtain ⟨a₀,rest,rfl,ht⟩ := resetHost_eq_some.mp hs
  rw [parseCmd_reset, writes_cmdReset ((supportedPair_reset _).mpr (.inl rfl)), if_pos ⟨ht,rfl⟩]
  exact (fcHbaReset_spec env a₀ host rest).2.1

/-! ## Confinement -/

def HostName (host : Str) : Prop :=
  ∃ ds : Str, host = lit "host" ++ ds ∧ ds ≠ [] ∧ ∀ c ∈ ds, c.isDigit = true

/-- Nothing is opened for writing, or one file, the reset trigger of the host that is named. -/
def Confined (env : Env) (argv : Argv) : Prop :=
  observed writeOf (parseCmd argv) env = [] ∨
    ∃ host, argv[1]? = some (lit "reset") ∧ argv[2]? = some (lit "adapter") ∧
      argv[3]? = some host ∧ HostName host ∧
        observed writeOf (parseCmd argv) env = [adapterPath host]

theorem adapterPath_length (host : Str) : (adapterPath host).length = host.length+32 := by
  simp [adapterPath, lit]

theorem cut_adapterPath_iff (host : Str) :
    cut 1024 (adapterPath host) = adapterPath host ↔ host.length ≤ 991 := by
  rw [cut_eq_self_iff, adapterPath_length]
  omega

theorem confined_iff (env : Env) (argv : Argv) :
    Confined env argv ↔ ∀ host, resetHost argv = some host →
      (env.trigger (cut 1024 (adapterPath host))).opens = true →
        HostName host ∧ host.length ≤ 991 := by
  constructor
  · intro h host hs ho
    have hw := writes_parseCmd_some env hs
    rw [if_pos ho] at hw
    obtain ⟨a₀,rest,rfl,-⟩ := resetHost_eq_some.mp hs
    rcases h with h | ⟨host',-,-,h3,hn,h⟩
    · rw [h] at hw
      cases hw
    · obtain rfl : host = host' := by simpa using h3
      rw [h] at hw
      exact ⟨hn,(cut_adapterPath_iff host).mp (List.cons.inj hw).1.symm⟩
  · intro h
    cases hs : resetHost argv with
    | none => exact .inl (writes_parseCmd_none hs)
    | some host =>
      have hw := writes_parseCmd_some env hs
      obtain ⟨a₀,rest,rfl,-⟩ := resetHost_eq_some.mp hs
      split_ifs at hw with ho
      · obtain ⟨hn,hl⟩ := h host hs ho
        exact .inr ⟨host,rfl,rfl,rfl,hn,by rw [hw, (cut_adapterPath_iff host).mpr hl]⟩
      · exact .inl hw

def triggersOpen : Env := { Env.bare with trigger := fun _ => ⟨true,true,true⟩ }

theorem reset_parent_not_confined :
    ¬Confined triggersOpen [lit "scsi-cli",lit "reset",lit "adapter",lit "host0/../x"] := by
  have hs : resetHost [lit "scsi-cli",lit "reset",lit "adapter",lit "host0/../x"] =
      some (lit "host0/../x") := by
    simp [resetHost, hostTest, strncmpEq, cut, lit]
  have hw := writes_parseCmd_some triggersOpen hs
  rintro (h | ⟨host,-,-,h3,⟨ds,hd,-,hn⟩,-⟩)
  · rw [h] at hw
    simp [triggersOpen] at hw
  · obtain rfl : lit "host0/../x" = host := by simpa using h3
    have hm : '/' ∈ ds := by
      have : ds = lit "0/../x" := by
        have he : lit "host0/../x" = lit "host" ++ lit "0/../x" := by simp [lit]
        exact (List.append_cancel_left (he.symm.trans hd)).symm
      rw [this]
      simp [lit]
    exact absurd (hn '/' hm) (by decide)

/-! ## What a status says -/

/-- The trigger that belongs to a sub-command of the table and a host; a port has none. -/
def triggerPath (sub host : Str) : Option Str :=
  if sub = lit "adapter" then some (adapterPath host)
  else if sub = lit "issue_lip" then some ("/sys/class/fc_host/" ++ host ++ "/issue_lip")
  else if sub = lit "issue_logo" then
    some ("/sys/class/fc_host/" ++ host ++ "/device/issue_logo")
  else none

def Issued (env : Env) (argv : Argv) (sub host : Str) : Prop :=
  ∃ path, triggerPath sub host = some path ∧
    (path,lit "1") ∈ observed deliveryOf (cmdReset argv) env

/-- The reset comes to its end; zero means that it was issued, and what was not issued is an
error. -/
def Honest (env : Env) (argv : Argv) (sub host : Str) : Prop :=
  ∃ s, Ends (cmdReset argv) env s ∧ (s = 0 → Issued env argv sub host) ∧
    (¬Issued env argv sub host → s < 0)

theorem deliveries_cmdReset {a₀ sub host : Str} {rest : List Str}
    (hp : supportedPair (lit "reset") sub = true) :
    observed deliveryOf (cmdReset (a₀ :: lit "reset" :: sub :: host :: rest)) env =
      if hostTest host = true ∧ sub = lit "adapter" then
        observed deliveryOf (fcHbaReset (a₀ :: lit "reset" :: sub :: host :: rest)) env
      else [] :=
  observed_cmdReset deliveryOf (fun _ => rfl) (fun _ => rfl) (fun _ _ _ => rfl) (fun _ => rfl) hp

theorem not_honest_of_idle {a₀ sub host : Str} {rest : List Str}
    (hp : supportedPair (lit "reset") sub = true)
    (hn : ¬(hostTest host = true ∧ sub = lit "adapter")) :
    ¬Honest env (a₀ :: lit "reset" :: sub :: host :: rest) sub host := by
  rintro ⟨s,⟨-,hs⟩,h0,-⟩
  rw [returns_cmdReset hp, if_neg hn] at hs
  obtain ⟨path,-,hm⟩ := h0 hs
  rw [deliveries_cmdReset hp, if_neg hn] at hm
  cases hm

theorem inArrays_cmdReset (env : Env) (a₀ : Str) {host : Str} (rest : List Str)
    (ht : hostTest host = true) :
    Emits InArrays (cmdReset (a₀ :: lit "reset" :: lit "adapter" :: host :: rest)) env ↔
      host.length ≤ 32 := by
  have hp := (supportedPair_reset (lit "adapter")).mpr (.inl rfl)
  have hf : Emits InArrays (fcHbaReset (a₀ :: lit "reset" :: lit "adapter" :: host :: rest)) env := by
    rw [fcHbaReset_adapter]
    simp [InArrays, issue]
  rw [cmdReset_pair hp, if_pos ht, resetBlocks_adapter]
  simp [InArrays, hf, Buf.size]

section
variable (env : Env) (a₀ : Str) {host : Str} (rest : List Str)
variable (ht : hostTest host = true) (hl : host.length ≤ 32)
include ht hl

theorem ends_cmdReset (s : ℤ) :
    Ends (cmdReset (a₀ :: lit "reset" :: lit "adapter" :: host :: rest)) env s ↔
      s = if (env.trigger (adapterPath host)).opens then 0 else -einval := by
  have hp := (supportedPair_reset (lit "adapter")).mpr (.inl rfl)
  have hr := (fcHbaReset_spec env a₀ host rest).1
  rw [(cut_adapterPath_iff host).mpr (by omega)] at hr
  rw [Ends, inArrays_cmdReset env a₀ rest ht, returns_cmdReset hp, if_pos ⟨ht,rfl⟩]
  constructor
  · rintro ⟨-,e,he,rfl⟩
    rw [returns_unique he hr]
    split <;> simp [einval]
  · rintro rfl
    exact ⟨hl,_,hr,by split <;> simp [einval]⟩

theorem issued_cmdReset :
    Issued env (a₀ :: lit "reset" :: lit "adapter" :: host :: rest) (lit "adapter") host ↔
      (env.trigger (adapterPath host)).opens = true ∧
        (env.trigger (adapterPath host)).writes = true ∧
          (env.trigger (adapterPath host)).closes = true := by
  have hp := (supportedPair_reset (lit "adapter")).mpr (.inl rfl)
  have hd := (fcHbaReset_spec env a₀ host rest).2.2
  rw [(cut_adapterPath_iff host).mpr (by omega)] at hd
  simp only [Issued, triggerPath, if_true, Option.some.injEq, exists_eq_left',
    deliveries_cmdReset hp, ht, true_and, hd]
  cases (env.trigger (adapterPath host)).opens <;>
    cases (env.trigger (adapterPath host)).writes <;>
      cases (env.trigger (adapterPath host)).closes <;> simp

end

theorem honest_iff (env : Env) (a₀ sub host : Str) (rest : List Str)
    (hp : supportedPair (lit "reset") sub = true) :
    Honest env (a₀ :: lit "reset" :: sub :: host :: rest) sub host ↔
      sub = lit "adapter" ∧ hostTest host = true ∧ host.length ≤ 32 ∧
        ((env.trigger (adapterPath host)).opens = false ∨
          (env.trigger (adapterPath host)).writes = true ∧
            (env.trigger (adapterPath host)).closes = true) := by
  by_cases hc : hostTest host = true ∧ sub = lit "adapter"
  · obtain ⟨ht,rfl⟩ := hc
    by_cases hl : host.length ≤ 32
    · simp only [Honest, ends_cmdReset env a₀ rest ht hl, exists_eq_left,
        issued_cmdReset env a₀ rest ht hl, ht, hl, true_and]
      cases (env.trigger (adapterPath host)).opens <;> simp [einval]
    · refine iff_of_false ?_ fun h => hl h.2.2.1
      rintro ⟨s,⟨hi,-⟩,-⟩
      exact hl ((inArrays_cmdReset env a₀ rest ht).mp hi)
  · exact ⟨fun h => (not_honest_of_idle hp hc h).elim,fun ⟨hs,ht,_⟩ => (hc ⟨ht,hs⟩).elim⟩

theorem reset_host0_honest :
    Honest triggersOpen [lit "scsi-cli",lit "reset",lit "adapter",lit "host0"] (lit "adapter")
      (lit "host0") :=
  (honest_iff triggersOpen (lit "scsi-cli") (lit "adapter") (lit "host0") []
    ((supportedPair_reset _).mpr (.inl rfl))).mpr
    ⟨rfl,by simp [hostTest, strncmpEq, cut, lit],by simp [lit],.inr ⟨rfl,rfl⟩⟩

/-- A loop initialization is reported as done and never issued. -/
theorem issue_lip_not_honest :
    ¬Honest triggersOpen [lit "scsi-cli",lit "reset",lit "issue_lip",lit "host0"]
      (lit "issue_lip") (lit "host0") :=
  not_honest_of_idle ((supportedPair_reset _).mpr (.inr (.inr (.inr rfl)))) fun h => by
    simp [lit] at h

end ScsiCli.ResetTrigger
