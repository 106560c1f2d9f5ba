import ScsiCli.Dispatch

/-!
# The grammar of the command line

What a run shows of its command line: whether it answers with help or with the
version, which handler it runs, which sub-commands it validates and which
device functions it calls. The grammar is enforced except for words that
merely begin like the help and version words and for the two handlers that
answer before the pair is looked at.
-/

set_option autoImplicit false

namespace ScsiCli.CommandGrammar
open ScsiCli.RunTrace ScsiCli.ByteString ScsiCli.Records ScsiCli.Machine
open ScsiCli.SysfsUtils ScsiCli.Commands ScsiCli.MachineRules ScsiCli.Gatherers ScsiCli.Dispatch

variable {env : Env} {β : Type}

def helpOf : Event → Option Unit
  | .helpCmd => some ()
  | _ => none

def versionOf : Event → Option Unit
  | .versionCmd => some ()
  | _ => none

def handlerOf : Event → Option Handler
  | .handler h => some h
  | _ => none

def deviceOf : Event → Option (Device × Option Str)
  | .device f arg => some (f,arg)
  | _ => none

def validationOf : Event → Option (Str × Bool)
  | .validated _ sub ok => some (sub,ok)
  | _ => none

/-! ## From the process to its parts -/

theorem returns_main (a₀ w : Str) (rest : List Str) (s : ℤ) :
    Returns (main (a₀ :: w :: rest)) env s ↔
      ∃ e, Returns (handleCmd (a₀ :: w :: rest)) env e ∧ s = if e = 0 then 0 else 1 := by
  simp only [main, List.length_cons]
  rw [if_neg (by omega), returns_bind]
  refine exists_congr fun e => and_congr_right fun _ => ?_
  by_cases he : e = -enotty <;> simp [he, generalHelp]

theorem observed_main (p : Event → Option β) (hp : ∀ o, p (.out o) = none) (a₀ w : Str)
    (rest : List Str) :
    observed p (main (a₀ :: w :: rest)) env = observed p (handleCmd (a₀ :: w :: rest)) env := by
  simp only [main, List.length_cons]
  rw [if_neg (by omega)]
  apply observed_bind_of_silent p
  intro e _
  by_cases he : e = -enotty <;> simp [he, generalHelp, print, hp]

theorem handleCmd_help {a₀ w : Str} {rest : List Str} (h : asksHelp (stripDashes w) = true) :
    handleCmd (a₀ :: w :: rest) = helpCmd (a₀ :: w :: rest) := by
  simp [handleCmd, h]

theorem handleCmd_version {a₀ w : Str} {rest : List Str} (h : asksHelp (stripDashes w) = false)
    (hv : asksVersion (stripDashes w) = true) :
    handleCmd (a₀ :: w :: rest) = (do
      versionCmd
      pure 0) := by
  simp [handleCmd, h, hv]

theorem handleCmd_parse {a₀ w : Str} {rest : List Str} (h : asksHelp (stripDashes w) = false)
    (hv : asksVersion (stripDashes w) = false) :
    handleCmd (a₀ :: w :: rest) = (do
      let ret ← parseCmd (a₀ :: w :: rest)
      if ret < 0 then do
        reportError (a₀ :: w :: rest) ret
        pure (-einval)
      else pure ret) := by
  simp [handleCmd, h, hv]

theorem returns_reportError (argv : Argv) (err : ℤ) :
    Returns (reportError argv err) env () := by
  simp [reportError]

theorem observed_reportError (p : Event → Option β) (hp : ∀ o, p (.out o) = none) (argv : Argv)
    (err : ℤ) : observed p (reportError argv err) env = [] := by
  unfold reportError
  split_ifs <;> simp [printInfo, printErr, print, hp]

theorem returns_handleCmd_parse {a₀ w : Str} {rest : List Str}
    (h : asksHelp (stripDashes w) = false) (hv : asksVersion (stripDashes w) = false) {r : ℤ}
    (hr : Returns (parseCmd (a₀ :: w :: rest)) env r) :
    Returns (handleCmd (a₀ :: w :: rest)) env (if r < 0 then -einval else r) := by
  rw [handleCmd_parse h hv, returns_bind]
  refine ⟨r,hr,?_⟩
  by_cases hn : r < 0
  · rw [if_pos hn, if_pos hn, returns_bind]
    exact ⟨(),returns_reportError _ _,by simp⟩
  · simp [hn]

theorem observed_handleCmd_parse (p : Event → Option β) (hp : ∀ o, p (.out o) = none)
    {a₀ w : Str} {rest : List Str} (h : asksHelp (stripDashes w) = false)
    (hv : asksVersion (stripDashes w) = false) :
    observed p (handleCmd (a₀ :: w :: rest)) env = observed p (parseCmd (a₀ :: w :: rest)) env := by
  rw [handleCmd_parse h hv]
  apply observed_bind_of_silent p
  intro r _
  by_cases hn : r < 0
  · rw [if_pos hn]
    exact observed_bind_eq_nil p (observed_reportError p hp _ _) fun _ _ => rfl
  · rw [if_neg hn]
    rfl

/-! ## Words -/

theorem stripDashes_of_head {w : Str} (h : w.head? ≠ some '-') : stripDashes w = w := by
  cases w with
  | nil => rfl
  | cons c s => simp_all [stripDashes]

/-- Both tests of a help word come down to its first letter, and so do those of a version word. -/
theorem asksHelp_iff (w : Str) : asksHelp w = true ↔ w.head? = some 'h' := by
  cases w with
  | nil => simp [asksHelp, strncmpEq, lit]
  | cons c s => simpa [asksHelp, strncmpEq, lit] using fun h _ => h

theorem asksVersion_iff (w : Str) : asksVersion w = true ↔ w.head? = some 'v' := by
  cases w with
  | nil => simp [asksVersion, strncmpEq, lit]
  | cons c s => simpa [asksVersion, strncmpEq, lit] using fun h _ => h

/-! ## A pair that is not in the table -/

theorem refused {h : Handler} {a₀ w sub : Str} {rest : List Str}
    (hp : supportedPair w sub = false) (hs : h ≠ .cmdScan) (ht : h = .cmdStats → rest ≠ []) :
    Returns (Handler.run h (a₀ :: w :: sub :: rest)) env (-enoent) ∧
      observed deviceOf (Handler.run h (a₀ :: w :: sub :: rest)) env = [] ∧
        observed validationOf (Handler.run h (a₀ :: w :: sub :: rest)) env = [(sub,false)] := by
  cases h with
  | cmdScan => exact absurd rfl hs
  | cmdStats =>
    obtain ⟨arg,rest,rfl⟩ := List.exists_cons_of_ne_nil (ht rfl)
    simp [Handler.run, cmdStats, validateSubcommand_cons, prog_bind_assoc, hp, enoent,
      deviceOf, validationOf]
  | cmdAlias =>
    simp [Handler.run, cmdAlias, validateSubcommand_cons, prog_bind_assoc, hp, enoent,
      deviceOf, validationOf,
      printInfo, print]
  | cmdErrors =>
    simp [Handler.run, cmdErrors, validateSubcommand_cons, prog_bind_assoc, hp, enoent,
      deviceOf, validationOf,
      printInfo, print]
  | cmdList =>
    simp [Handler.run, cmdList, validateSubcommand_cons, prog_bind_assoc, hp, enoent,
      deviceOf, validationOf]
  | cmdOnline =>
    simp [Handler.run, cmdOnline, validateSubcommand_cons, prog_bind_assoc, hp, enoent,
      deviceOf, validationOf]
  | cmdOffline =>
    simp [Handler.run, cmdOffline, validateSubcommand_cons, prog_bind_assoc, hp, enoent,
      deviceOf, validationOf]
  | cmdReset =>
    simp [Handler.run, cmdReset, validateSubcommand_cons, prog_bind_assoc, hp, enoent,
      deviceOf, validationOf]
  | cmdShow =>
    simp [Handler.run, cmdShow, validateSubcommand_cons, prog_bind_assoc, hp, enoent,
      deviceOf, validationOf]

theorem cmdScan_eq (a₀ w : Str) (rest : List Str) :
    cmdScan (a₀ :: w :: rest) = (do
      emit (.handler .cmdScan)
      notSupported (a₀ :: w :: rest)) := by
  rw [cmdScan, if_neg (by simp)]

theorem cmdScan_answer (a₀ w : Str) (rest : List Str) :
    Returns (cmdScan (a₀ :: w :: rest)) env 0 ∧
      observed deviceOf (cmdScan (a₀ :: w :: rest)) env = [] ∧
        observed validationOf (cmdScan (a₀ :: w :: rest)) env = [] := by
  simp [cmdScan_eq, notSupported, deviceOf, validationOf, printInfo, print]

theorem cmdStats_no_device (a₀ w sub : Str) :
    Returns (cmdStats [a₀,w,sub]) env 0 ∧ observed deviceOf (cmdStats [a₀,w,sub]) env = [] ∧
      observed validationOf (cmdStats [a₀,w,sub]) env = [] := by
  simp [cmdStats, deviceOf, validationOf, printInfo, print]

theorem helpCmd_answer (argv : Argv) : Returns (helpCmd argv) env 0 := by
  cases h : argv[2]? with
  | none => simp [helpCmd, h, generalHelp]
  | some sub => simp [helpCmd, h]

/-! ## The grammar -/

def HelpWord (w : Str) : Prop := w = lit "help" ∨ w = lit "h"

def VersionWord (w : Str) : Prop := w = lit "version" ∨ w = lit "v"

/-- What the command line asks for is what runs. -/
structure Enforced (env : Env) (argv : Argv) (w : Str) : Prop where
  help : observed helpOf (main argv) env ≠ [] → HelpWord w
  version : observed versionOf (main argv) env ≠ [] → VersionWord w
  unknown : ¬HelpWord w → ¬VersionWord w → (∀ p ∈ cmdStr, w ≠ p.cmds) →
    Returns (parseCmd argv) env (-eagain)
  handler : ∀ p ∈ cmdStr, w = p.cmds → observed handlerOf (main argv) env = [p.fn]
  pair : ∀ sub, argv[2]? = some sub → supportedPair w sub = false →
    observed deviceOf (main argv) env = [] ∧
      ∃ status, Returns (main argv) env status ∧ status ≠ 0

/-- A word that begins like a help or version word is one; and a pair that is not
in the table does not go with a help or version word, with a scan, or with
statistics of no device. -/
structure WellFormed (argv : Argv) (w : Str) : Prop where
  help : w.head? = some 'h' → HelpWord w
  version : w.head? = some 'v' → VersionWord w
  pair : ∀ sub, argv[2]? = some sub → supportedPair w sub = false →
    w.head? ≠ some 'h' ∧ w.head? ≠ some 'v' ∧ w ≠ lit "scan" ∧
      ¬(w = lit "stats" ∧ argv[3]? = none)

theorem main_help {a₀ w : Str} {rest : List Str} (hd : w.head? ≠ some '-')
    (h : w.head? = some 'h') :
    observed helpOf (main (a₀ :: w :: rest)) env ≠ [] ∧
      Returns (main (a₀ :: w :: rest)) env 0 := by
  have ha : asksHelp (stripDashes w) = true := by
    rw [stripDashes_of_head hd]
    exact (asksHelp_iff w).mpr h
  rw [observed_main _ (fun _ => rfl), returns_main, handleCmd_help ha]
  exact ⟨by simp [helpCmd, helpOf],0,helpCmd_answer _,rfl⟩

theorem main_version {a₀ w : Str} {rest : List Str} (hd : w.head? ≠ some '-')
    (h : w.head? = some 'v') :
    observed versionOf (main (a₀ :: w :: rest)) env ≠ [] ∧
      Returns (main (a₀ :: w :: rest)) env 0 := by
  have ha : asksHelp (stripDashes w) = false := by
    rw [stripDashes_of_head hd, Bool.eq_false_iff, ne_eq, asksHelp_iff, h]
    decide
  have hv : asksVersion (stripDashes w) = true := by
    rw [stripDashes_of_head hd]
    exact (asksVersion_iff w).mpr h
  rw [observed_main _ (fun _ => rfl), returns_main, handleCmd_version ha hv]
  exact ⟨by simp [versionCmd, versionOf, prog_bind_assoc],0,by simp [versionCmd],rfl⟩

theorem main_parse {a₀ w : Str} {rest : List Str} (hd : w.head? ≠ some '-')
    (hh : w.head? ≠ some 'h') (hv : w.head? ≠ some 'v') :
    (∀ (p : Event → Option β), (∀ o, p (.out o) = none) →
      observed p (main (a₀ :: w :: rest)) env = observed p (parseCmd (a₀ :: w :: rest)) env) ∧
    ∀ r, Returns (parseCmd (a₀ :: w :: rest)) env r →
      Returns (main (a₀ :: w :: rest)) env (if r = 0 then 0 else 1) := by
  have ha : asksHelp (stripDashes w) = false := by
    rwa [stripDashes_of_head hd, Bool.eq_false_iff, ne_eq, asksHelp_iff]
  have hb : asksVersion (stripDashes w) = false := by
    rwa [stripDashes_of_head hd, Bool.eq_false_iff, ne_eq, asksVersion_iff]
  refine ⟨fun p hp => ?_,fun r hr => ?_⟩
  · rw [observed_main p hp, observed_handleCmd_parse p hp ha hb]
  · refine (returns_main _ _ _ _).mpr ⟨_,returns_handleCmd_parse ha hb hr,?_⟩
    by_cases hn : r < 0
    · rw [if_pos hn, if_neg (by omega), if_neg (by decide)]
    · rw [if_neg hn]

theorem observed_handler {p : SupportedCmd} (hp : p ∈ cmdStr) (a₀ : Str) (rest : List Str) :
    observed handlerOf (parseCmd (a₀ :: p.cmds :: rest)) env = [p.fn] := by
  have hd : stripDashes p.cmds = p.cmds := by
    simp only [cmdStr, List.mem_cons, List.not_mem_nil, or_false] at hp
    rcases hp with rfl | rfl | rfl | rfl | rfl | rfl | rfl | rfl | rfl <;> simp [stripDashes, lit]
  obtain ⟨body,hb,hw⟩ := within_run env p.fn (a₀ :: p.cmds :: rest)
  have hn : observed handlerOf body env = [] :=
    observed_of_emits _ hw fun e he => by cases e <;> first | rfl | exact he.elim
  rw [parseCmd_known hp hd, hb, observed_emit_bind, hn]
  rfl

theorem known_head {p : SupportedCmd} (hp : p ∈ cmdStr) :
    p.cmds.head? ≠ some '-' ∧ p.cmds.head? ≠ some 'h' ∧ p.cmds.head? ≠ some 'v' := by
  simp only [cmdStr, List.mem_cons, List.not_mem_nil, or_false] at hp
  rcases hp with rfl | rfl | rfl | rfl | rfl | rfl | rfl | rfl | rfl <;> simp [lit]

theorem eq_known_or_unknown (w : Str) :
    (∃ p ∈ cmdStr, w = p.cmds) ∨ ∀ p ∈ cmdStr, w ≠ p.cmds := by
  by_cases h : ∃ p ∈ cmdStr, w = p.cmds
  · exact .inl h
  · exact .inr fun p hp hw => h ⟨p,hp,hw⟩

theorem parseCmd_within (a₀ w : Str) (rest : List Str) (p : Event → Option β)
    (hp : ∀ e, Within e → p e = none) (hh : ∀ h, p (.handler h) = none) :
    observed p (parseCmd (a₀ :: w :: rest)) env = [] := by
  rcases eq_known_or_unknown (stripDashes w) with ⟨q,hq,hw⟩ | hw
  · obtain ⟨body,hb,hi⟩ := within_run env q.fn (a₀ :: w :: rest)
    rw [parseCmd_known hq hw, hb, observed_emit_bind, hh, observed_of_emits p hi hp]
    rfl
  · rw [parseCmd_unknown hw, observed_pure]

theorem helpOf_within {e : Event} (h : Within e) : helpOf e = none := by
  cases e <;> first | rfl | exact h.elim

theorem versionOf_within {e : Event} (h : Within e) : versionOf e = none := by
  cases e <;> first | rfl | exact h.elim

theorem main_not_help {a₀ w : Str} {rest : List Str} (hd : w.head? ≠ some '-')
    (h : w.head? ≠ some 'h') : observed helpOf (main (a₀ :: w :: rest)) env = [] := by
  by_cases hv : w.head? = some 'v'
  · have ha : asksHelp (stripDashes w) = false := by
      rwa [stripDashes_of_head hd, Bool.eq_false_iff, ne_eq, asksHelp_iff]
    have hb : asksVersion (stripDashes w) = true := by
      rwa [stripDashes_of_head hd, asksVersion_iff]
    rw [observed_main _ (fun _ => rfl), handleCmd_version ha hb]
    simp [versionCmd, helpOf, printInfo, print, prog_bind_assoc]
  · rw [(main_parse hd h hv).1 _ fun _ => rfl]
    exact parseCmd_within _ _ _ _ (fun _ => helpOf_within) fun _ => rfl

theorem main_not_version {a₀ w : Str} {rest : List Str} (hd : w.head? ≠ some '-')
    (h : w.head? ≠ some 'v') : observed versionOf (main (a₀ :: w :: rest)) env = [] := by
  by_cases hv : w.head? = some 'h'
  · have ha : asksHelp (stripDashes w) = true := by
      rwa [stripDashes_of_head hd, asksHelp_iff]
    rw [observed_main _ (fun _ => rfl), handleCmd_help ha, observed_eq_nil_iff]
    cases rest <;> simp [helpCmd, versionOf, generalHelp]
  · rw [(main_parse hd hv h).1 _ fun _ => rfl]
    exact parseCmd_within _ _ _ _ (fun _ => versionOf_within) fun _ => rfl

theorem pair_refused {p : SupportedCmd} (hp : p ∈ cmdStr) {a₀ sub : Str} {rest : List Str}
    (hs : supportedPair p.cmds sub = false) (hn : p.cmds ≠ lit "scan")
    (ht : ¬(p.cmds = lit "stats" ∧ rest = [])) :
    observed deviceOf (parseCmd (a₀ :: p.cmds :: sub :: rest)) env = [] ∧
      Returns (parseCmd (a₀ :: p.cmds :: sub :: rest)) env (-enoent) := by
  have hd : stripDashes p.cmds = p.cmds := stripDashes_of_head (known_head hp).1
  have hf : p.fn ≠ .cmdScan ∧ (p.fn = .cmdStats → rest ≠ []) := by
    simp only [cmdStr, List.mem_cons, List.not_mem_nil, or_false] at hp
    rcases hp with rfl | rfl | rfl | rfl | rfl | rfl | rfl | rfl | rfl <;> simp_all
  obtain ⟨hr,ho,-⟩ := @refused env _ a₀ _ _ _ hs hf.1 hf.2
  rw [parseCmd_known hp hd]
  exact ⟨ho,hr⟩

theorem enforced_iff (env : Env) (a₀ w : Str) (rest : List Str) (hd : w.head? ≠ some '-') :
    Enforced env (a₀ :: w :: rest) w ↔ WellFormed (a₀ :: w :: rest) w := by
  constructor
  · intro e
    refine ⟨fun h => e.help (main_help hd h).1,fun h => e.version (main_version hd h).1,
      fun sub hs hp => ?_⟩
    obtain ⟨-,status,hr,hz⟩ := e.pair sub hs hp
    have hne : ¬Returns (main (a₀ :: w :: rest)) env 0 := fun h0 => hz (returns_unique hr h0)
    have hh : w.head? ≠ some 'h' := fun h => hne (main_help hd h).2
    have hv : w.head? ≠ some 'v' := fun h => hne (main_version hd h).2
    refine ⟨hh,hv,?_,?_⟩
    · rintro rfl
      exact hne ((@main_parse _ Unit _ _ _ hd hh hv).2 0 (by
        rw [parseCmd_word (h := .cmdScan) (by simp [stripDashes_of_head hd, cmdStr])]
        exact (cmdScan_answer _ _ _).1))
    · rintro ⟨rfl,h3⟩
      obtain ⟨tail,rfl⟩ : ∃ tail, rest = sub :: tail := by
        cases rest <;> simp_all
      obtain rfl : tail = [] := by cases tail <;> simp_all
      exact hne ((@main_parse _ Unit _ _ _ hd hh hv).2 0 (by
        rw [parseCmd_word (h := .cmdStats) (by simp [stripDashes_of_head hd, cmdStr])]
        exact (cmdStats_no_device _ _ _).1))
  · intro f
    refine ⟨fun h => ?_,fun h => ?_,fun hh hv hu => ?_,?_,?_⟩
    · exact f.help (by_contra fun hn => h (main_not_help hd hn))
    · exact f.version (by_contra fun hn => h (main_not_version hd hn))
    · exact parseCmd_unknown (by rwa [stripDashes_of_head hd]) ▸ (returns_pure _ _ _).mpr rfl
    · rintro p hp rfl
      obtain ⟨-,hh,hv⟩ := known_head hp
      rw [(main_parse hd hh hv).1 _ fun _ => rfl, observed_handler hp]
    · intro sub hs hp
      obtain ⟨hh,hv,hn,ht⟩ := f.pair sub hs hp
      obtain ⟨tail,rfl⟩ : ∃ tail, rest = sub :: tail := by
        cases rest <;> simp_all
      obtain ⟨ho,hr⟩ := @main_parse env _ a₀ _ (sub :: tail) hd hh hv
      rw [ho _ fun _ => rfl]
      rcases eq_known_or_unknown w with ⟨p,hk,rfl⟩ | hu
      · obtain ⟨hq,hs⟩ := @pair_refused env _ hk a₀ _ tail hp hn
          (fun h => ht ⟨h.1,by simp [h.2]⟩)
        exact ⟨hq,1,by simpa [enoent] using hr _ hs,by decide⟩
      · have hp := @parseCmd_unknown a₀ w (sub :: tail)
          (by rwa [stripDashes_of_head hd])
        rw [hp] at hr ⊢
        exact ⟨rfl,1,by simpa [eagain] using hr (-eagain) (by simp),by decide⟩

theorem list_disk_enforced :
    Enforced Env.bare [lit "scsi-cli",lit "list",lit "disk"] (lit "list") := by
  refine (enforced_iff Env.bare (lit "scsi-cli") (lit "list") [lit "disk"] (by simp [lit])).mpr
    ⟨by simp [lit],by simp [lit],?_⟩
  intro sub hs hp
  obtain rfl : lit "disk" = sub := by simpa using hs
  simp [supportedPair, subCmdStr] at hp

theorem scan_bogus_not_enforced :
    ¬Enforced Env.bare [lit "scsi-cli",lit "scan",lit "bogus"] (lit "scan") := by
  intro h
  obtain ⟨-,s,hs,hne⟩ := h.pair (lit "bogus") rfl (by simp [supportedPair, subCmdStr, lit])
  have hc : parseCmd [lit "scsi-cli",lit "scan",lit "bogus"] =
      cmdScan [lit "scsi-cli",lit "scan",lit "bogus"] :=
    parseCmd_word (h := .cmdScan)
      (by simp [stripDashes_of_head (w := lit "scan") (by simp [lit]), cmdStr])
  have hr := (@main_parse _ Unit _ _ _ (by simp [lit]) (by simp [lit]) (by simp [lit])).2 0
    (hc ▸ (@cmdScan_answer Env.bare _ _ _).1)
  exact hne (returns_unique hs hr)

end ScsiCli.CommandGrammar
