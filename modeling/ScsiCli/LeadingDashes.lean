import ScsiCli.CommandGrammar

/-!
# Leading dashes

Two runs side by side: a command word and the same word behind dashes. The
selection of help, version and handler looks at the stripped word; the pair is
looked up with the word as it was given, and no word with a dash is in the
table. The runs part exactly where the pair is looked up and known.
-/

set_option autoImplicit false

namespace ScsiCli.LeadingDashes
open ScsiCli.RunTrace ScsiCli.ByteString ScsiCli.Records ScsiCli.Machine
open ScsiCli.SysfsUtils ScsiCli.Commands ScsiCli.MachineRules ScsiCli.Dispatch
open ScsiCli.CommandGrammar

variable {env : Env} {β : Type}

/-- A view that shows neither what is printed nor the word that came with a validation. -/
structure Blind (p : Event → Option β) : Prop where
  out : ∀ o, p (.out o) = none
  word : ∀ w w' sub ok, p (.validated w sub ok) = p (.validated w' sub ok)

theorem blind_validationOf : Blind validationOf := ⟨fun _ => rfl,fun _ _ _ _ => rfl⟩

theorem blind_deviceOf : Blind deviceOf := ⟨fun _ => rfl,fun _ _ _ _ => rfl⟩

variable {p : Event → Option β}

theorem agree_print (hp : Blind p) (o o' : Out) : Agree p (print o) (print o') env :=
  agree_emit p (by rw [hp.out, hp.out]) env

theorem agree_notSupported (hp : Blind p) (argv argv' : Argv) :
    Agree p (notSupported argv) (notSupported argv') env :=
  agree_bind p (agree_print hp _ _) fun _ => agree_refl p _ _

theorem agree_handleCmdErrors (hp : Blind p) (argv argv' : Argv) :
    Agree p (handleCmdErrors argv) (handleCmdErrors argv') env :=
  agree_bind p (agree_print hp _ _) fun _ => agree_refl p _ _

theorem agree_validateSubcommand (env : Env) (hp : Blind p) {w w' sub : Str}
    (h : supportedPair w sub = supportedPair w' sub) (a₀ : Str) (rest : List Str) :
    Agree p (validateSubcommand (a₀ :: w :: sub :: rest))
      (validateSubcommand (a₀ :: w' :: sub :: rest)) env := by
  rw [validateSubcommand_cons, validateSubcommand_cons, h]
  exact agree_bind p (agree_emit p (hp.word _ _ _ _) env) fun _ => agree_refl p _ _

theorem agree_ite {α : Type} (c : Prop) [Decidable c] {m m' n n' : Tool α}
    (h : Agree p m m' env) (h' : Agree p n n' env) :
    Agree p (if c then m else n) (if c then m' else n') env := by
  split
  · exact h
  · exact h'

theorem agree_fcHbaReset (hp : Blind p) {w w' sub : Str}
    (h : supportedPair w sub = supportedPair w' sub) (a₀ : Str) (rest : List Str) :
    Agree p (fcHbaReset (a₀ :: w :: sub :: rest)) (fcHbaReset (a₀ :: w' :: sub :: rest)) env := by
  apply agree_bind p (agree_refl p _ _)
  intro _
  cases rest with
  | nil => exact agree_refl p _ _
  | cons host rest =>
    apply agree_bind p (agree_validateSubcommand env hp h _ _)
    intro err
    exact agree_refl p _ _

theorem agree_resetBlocks (hp : Blind p) {w w' sub : Str}
    (h : supportedPair w sub = supportedPair w' sub) (a₀ s : Str) (rest : List Str) (err : ℤ) :
    Agree p (runBlocks (resetBlocks (a₀ :: w :: sub :: rest) s) err)
      (runBlocks (resetBlocks (a₀ :: w' :: sub :: rest) s) err) env := by
  simp only [resetBlocks, runBlocks]
  refine agree_ite _ (agree_bind p (agree_fcHbaReset hp h _ _) fun _ => ?_) ?_ <;>
    exact agree_refl p _ _

/-- The validation of a known handler is where two runs on different words can part. -/
theorem agree_run (hp : Blind p) {h : Handler} {a₀ w w' : Str} {rest : List Str}
    (hs : ∀ sub tail, rest = sub :: tail → supportedPair w sub = supportedPair w' sub ∨
      h = .cmdScan ∨ h = .cmdStats ∧ tail = []) :
    Agree p (Handler.run h (a₀ :: w :: rest)) (Handler.run h (a₀ :: w' :: rest)) env := by
  cases rest with
  | nil =>
    cases h with
    | cmdAlias | cmdErrors | cmdOnline | cmdOffline | cmdScan =>
      exact agree_bind p (agree_refl p _ _) fun _ => agree_notSupported hp _ _
    | cmdList | cmdReset | cmdStats | cmdShow =>
      exact agree_bind p (agree_refl p _ _) fun _ =>
        agree_bind p (agree_handleCmdErrors hp _ _) fun _ => agree_refl p _ _
  | cons sub tail =>
    have hv : h ≠ .cmdScan → (h = .cmdStats → tail ≠ []) →
        supportedPair w sub = supportedPair w' sub := fun h₁ h₂ =>
      (hs sub tail rfl).elim id fun h => h.elim (fun h => absurd h h₁) fun h => absurd h.2 (h₂ h.1)
    have hv' := fun h₁ h₂ => agree_validateSubcommand env hp (hv h₁ h₂) a₀ tail
    cases h with
    | cmdScan =>
      simp only [Handler.run, cmdScan_eq]
      exact agree_bind p (agree_refl p _ _) fun _ => agree_notSupported hp _ _
    | cmdAlias | cmdErrors =>
      exact agree_bind p (agree_refl p _ _) fun _ => agree_bind p (agree_print hp _ _) fun _ =>
        agree_bind p (hv' (by simp) (by simp)) fun _ => agree_refl p _ _
    | cmdOnline | cmdOffline =>
      exact agree_bind p (agree_refl p _ _) fun _ =>
        agree_bind p (hv' (by simp) (by simp)) fun _ => agree_ite _ (agree_refl p _ _)
          (agree_bind p (agree_print hp _ _) fun _ => agree_refl p _ _)
    | cmdList =>
      exact agree_bind p (agree_refl p _ _) fun _ =>
        agree_bind p (hv' (by simp) (by simp)) fun _ => agree_refl p _ _
    | cmdReset =>
      refine agree_bind p (agree_refl p _ _) fun _ =>
        agree_bind p (hv' (by simp) (by simp)) fun err => agree_ite _ (agree_refl p _ _) ?_
      cases tail with
      | nil => exact agree_refl p _ _
      | cons arg tail =>
        refine agree_bind p (agree_refl p _ _) fun _ => agree_ite _ ?_ (agree_refl p _ _)
        exact agree_bind p (agree_resetBlocks hp (hv (by simp) (by simp)) _ _ _ _) fun _ =>
          agree_refl p _ _
    | cmdStats =>
      cases tail with
      | nil => exact agree_refl p _ _
      | cons arg tail =>
        exact agree_bind p (agree_refl p _ _) fun _ =>
          agree_bind p (hv' (by simp) (by simp)) fun _ => agree_refl p _ _
    | cmdShow =>
      refine agree_bind p (agree_refl p _ _) fun _ =>
        agree_bind p (hv' (by simp) (by simp)) fun _ => ?_
      cases tail <;> exact agree_refl p _ _

theorem agree_parseCmd (hp : Blind p) {a₀ w w' : Str} {rest : List Str}
    (hw : stripDashes w' = stripDashes w)
    (hs : ∀ h, (stripDashes w,h) ∈ (cmdStr.map fun p => (p.cmds,p.fn)) → ∀ sub tail,
      rest = sub :: tail → supportedPair w sub = supportedPair w' sub ∨
        h = .cmdScan ∨ h = .cmdStats ∧ tail = []) :
    Agree p (parseCmd (a₀ :: w :: rest)) (parseCmd (a₀ :: w' :: rest)) env := by
  rcases eq_known_or_unknown (stripDashes w) with ⟨q,hq,hc⟩ | hu
  · have hm : (stripDashes w,q.fn) ∈ cmdStr.map fun p => (p.cmds,p.fn) :=
      List.mem_map.mpr ⟨q,hq,by rw [hc]⟩
    rw [parseCmd_word hm, parseCmd_word (w := w') (by rwa [hw])]
    exact agree_run hp (hs q.fn hm)
  · rw [parseCmd_unknown hu, parseCmd_unknown (w := w') (by rwa [hw])]
    exact agree_refl p _ _

theorem agree_reportError (hp : Blind p) (argv argv' : Argv) (err : ℤ) :
    Agree p (reportError argv err) (reportError argv' err) env := by
  unfold reportError
  split_ifs <;> exact agree_print hp _ _

theorem agree_handleCmd (hp : Blind p) {a₀ w w' : Str} {rest : List Str}
    (hw : stripDashes w' = stripDashes w)
    (h : Agree p (parseCmd (a₀ :: w :: rest)) (parseCmd (a₀ :: w' :: rest)) env) :
    Agree p (handleCmd (a₀ :: w :: rest)) (handleCmd (a₀ :: w' :: rest)) env := by
  cases hh : asksHelp (stripDashes w) with
  | true =>
    rw [handleCmd_help hh, handleCmd_help (w := w') (by rwa [hw])]
    exact agree_refl p _ _
  | false =>
    cases hv : asksVersion (stripDashes w) with
    | true =>
      rw [handleCmd_version hh hv, handleCmd_version (w := w') (by rwa [hw]) (by rwa [hw])]
      exact agree_refl p _ _
    | false =>
      rw [handleCmd_parse hh hv, handleCmd_parse (w := w') (by rwa [hw]) (by rwa [hw])]
      exact agree_bind p h fun r => agree_ite _
        (agree_bind p (agree_reportError hp _ _ _) fun _ => agree_refl p _ _) (agree_refl p _ _)

/-! ## Dashes -/

def dashed (k : ℕ) (w : Str) : Str := List.replicate k '-' ++ w

theorem stripDashes_dashed (k : ℕ) (w : Str) : stripDashes (dashed k w) = stripDashes w := by
  induction k with
  | zero => rfl
  | succ k ih => exact ih

theorem not_supportedPair_dashed {k : ℕ} (hk : k ≠ 0) (w sub : Str) :
    supportedPair (dashed k w) sub = false := by
  obtain ⟨k,rfl⟩ := Nat.exists_eq_succ_of_ne_zero hk
  exact not_supportedPair_dash _ _

def LookedUp (argv : Argv) (w : Str) : Prop :=
  ∃ sub, argv[2]? = some sub ∧ supportedPair w sub = true ∧ w ≠ lit "scan" ∧
    ¬(w = lit "stats" ∧ argv[3]? = none)

def Same (env : Env) (run : Argv → Tool ℤ) (argv argv' : Argv) : Prop :=
  observed validationOf (run argv) env = observed validationOf (run argv') env ∧
    observed deviceOf (run argv) env = observed deviceOf (run argv') env ∧
      (run argv env).result = (run argv' env).result

theorem same_of_agree {run : Argv → Tool ℤ} {argv argv' : Argv}
    (hv : Agree validationOf (run argv) (run argv') env)
    (hd : Agree deviceOf (run argv) (run argv') env) : Same env run argv argv' :=
  ⟨hv.1,hd.1,hd.2⟩

theorem accepted {h : Handler} {a₀ w sub : Str} {rest : List Str}
    (hp : supportedPair w sub = true) (hn : w ≠ lit "scan") (ht : w = lit "stats" → rest ≠ [])
    (hm : (w,h) ∈ cmdStr.map fun p => (p.cmds,p.fn)) :
    ∃ vs, observed validationOf (Handler.run h (a₀ :: w :: sub :: rest)) env =
      (sub,true) :: vs := by
  rcases supportedPair_command hp with rfl | rfl | rfl | rfl | rfl
  · obtain rfl : h = .cmdList := by simpa [cmdStr, lit] using hm
    exact ⟨_,by simp [Handler.run, cmdList, validateSubcommand_cons, prog_bind_assoc, hp,
      validationOf]; rfl⟩
  · obtain rfl : h = .cmdShow := by simpa [cmdStr, lit] using hm
    exact ⟨_,by simp [Handler.run, cmdShow, validateSubcommand_cons, prog_bind_assoc, hp,
      validationOf]; rfl⟩
  · exact absurd rfl hn
  · obtain rfl : h = .cmdReset := by simpa [cmdStr, lit] using hm
    exact ⟨_,by simp [Handler.run, cmdReset, validateSubcommand_cons, prog_bind_assoc, hp,
      validationOf]; rfl⟩
  · obtain rfl : h = .cmdStats := by simpa [cmdStr, lit] using hm
    obtain ⟨arg,rest,rfl⟩ := List.exists_cons_of_ne_nil (ht rfl)
    exact ⟨_,by simp [Handler.run, cmdStats, validateSubcommand_cons, prog_bind_assoc, hp,
      validationOf]; rfl⟩

theorem agree_dashed (env : Env) (hp : Blind p) {a₀ w : Str} {rest : List Str} (k : ℕ)
    (hl : ¬LookedUp (a₀ :: w :: rest) w) :
    Agree p (parseCmd (a₀ :: dashed k w :: rest)) (parseCmd (a₀ :: w :: rest)) env := by
  apply agree_parseCmd hp (stripDashes_dashed k w).symm
  intro h hm sub tail hr
  rw [stripDashes_dashed] at hm
  subst hr
  by_cases hk : k = 0
  · subst hk
    exact .inl rfl
  · rw [not_supportedPair_dashed hk]
    cases hs : supportedPair w sub with
    | false => exact .inl rfl
    | true =>
      rw [stripDashes_of_head (supportedPair_head hs)] at hm
      by_cases hn : w = lit "scan"
      · subst hn
        exact .inr (.inl (by simpa [cmdStr, lit] using hm))
      · obtain ⟨rfl,ht⟩ : w = lit "stats" ∧ tail = [] := by
          by_contra hc
          exact hl ⟨sub,rfl,hs,hn,fun h => hc ⟨h.1,by cases tail <;> simp_all⟩⟩
        exact .inr (.inr ⟨by simpa [cmdStr, lit] using hm,ht⟩)

/-- Where the pair is looked up and known, the dashes turn the acceptance into a refusal. -/
theorem dashed_refused {a₀ w : Str} {rest : List Str} {k : ℕ} (hk : k ≠ 0)
    (hl : LookedUp (a₀ :: w :: rest) w) :
    observed validationOf (handleCmd (a₀ :: dashed k w :: rest)) env ≠
      observed validationOf (handleCmd (a₀ :: w :: rest)) env := by
  obtain ⟨sub,hs,hp,hn,ht⟩ := hl
  obtain ⟨tail,rfl⟩ : ∃ tail, rest = sub :: tail := by
    cases rest <;> simp_all
  have hd := supportedPair_head hp
  obtain ⟨q,hq,rfl⟩ : ∃ q ∈ cmdStr, w = q.cmds := by
    rcases supportedPair_command hp with rfl | rfl | rfl | rfl | rfl <;> simp [cmdStr, lit]
  have hm : (q.cmds,q.fn) ∈ cmdStr.map fun p => (p.cmds,p.fn) := List.mem_map.mpr ⟨q,hq,rfl⟩
  have ha : stripDashes q.cmds = q.cmds := stripDashes_of_head hd
  have hb : stripDashes (dashed k q.cmds) = q.cmds := by rw [stripDashes_dashed, ha]
  have hstats : q.cmds = lit "stats" → tail ≠ [] := fun h hr => ht ⟨h,by simp [hr]⟩
  have hf : q.fn ≠ .cmdScan ∧ (q.fn = .cmdStats → tail ≠ []) := by
    simp only [cmdStr, List.mem_cons, List.not_mem_nil, or_false] at hq
    rcases hq with rfl | rfl | rfl | rfl | rfl | rfl | rfl | rfl | rfl <;> simp_all
  obtain ⟨vs,hv⟩ := @accepted env _ a₀ _ _ _ hp hn hstats hm
  have hr := (@refused env _ a₀ _ _ tail
    (not_supportedPair_dashed hk q.cmds sub) hf.1 hf.2).2.2
  obtain ⟨hh,hg⟩ := known_not_asked hq
  rw [observed_handleCmd_parse _ (fun _ => rfl) (by rwa [hb]) (by rwa [hb]),
    observed_handleCmd_parse _ (fun _ => rfl) (by rwa [ha]) (by rwa [ha]),
    parseCmd_known hq hb, parseCmd_known hq ha, hv, hr]
  simp

theorem dashes_keep_meaning_iff (env : Env) (a₀ w : Str) (rest : List Str) (k : ℕ) :
    (Same env handleCmd (a₀ :: dashed k w :: rest) (a₀ :: w :: rest) ∧
      Same env parseCmd (a₀ :: dashed k w :: rest) (a₀ :: w :: rest)) ↔
    k = 0 ∨ ¬LookedUp (a₀ :: w :: rest) w := by
  constructor
  · rintro ⟨h,-⟩
    by_contra hc
    obtain ⟨hk,hl⟩ := not_or.mp hc
    exact dashed_refused hk (not_not.mp hl) h.1
  · rintro (rfl | hl)
    · exact ⟨⟨rfl,rfl,rfl⟩,⟨rfl,rfl,rfl⟩⟩
    · have hw := stripDashes_dashed k w
      have hv := agree_dashed env blind_validationOf k hl
      have hd := agree_dashed env blind_deviceOf k hl
      exact ⟨same_of_agree (agree_handleCmd blind_validationOf hw.symm hv)
        (agree_handleCmd blind_deviceOf hw.symm hd),same_of_agree hv hd⟩

theorem dashed_list_differs :
    ¬(Same Env.bare handleCmd [lit "scsi-cli",dashed 1 (lit "list"),lit "disk"]
        [lit "scsi-cli",lit "list",lit "disk"] ∧
      Same Env.bare parseCmd [lit "scsi-cli",dashed 1 (lit "list"),lit "disk"]
        [lit "scsi-cli",lit "list",lit "disk"]) := fun h =>
  dashed_refused (by decide)
    ⟨lit "disk",rfl,by simp [supportedPair, subCmdStr, lit],by simp [lit],by simp [lit]⟩ h.1.1

end ScsiCli.LeadingDashes
