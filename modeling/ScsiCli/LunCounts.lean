import ScsiCli.SessionLuns

/-!
# Counting the LUNs of a target

The session's count goes up with every directory below a target whose type is
not read as that of a storage array controller, the target itself and its
parent included. The scan of a target ends with no entry left, and with an
error for it.
-/

set_option autoImplicit false

namespace ScsiCli.LunCounts
open ScsiCli.RunTrace ScsiCli.ByteString ScsiCli.NumberText ScsiCli.NumberReading
open ScsiCli.Records ScsiCli.Machine ScsiCli.SysfsUtils ScsiCli.IscsiUtils ScsiCli.MachineRules
open ScsiCli.Completion ScsiCli.IscsiCompletion ScsiCli.AttributeNumbers ScsiCli.IscsiRows
open ScsiCli.SessionLuns

variable {env : Env}

def isHctl (name : Str) : Bool :=
  startsFour name && name.all (fun c => c.isDigit || c = ':') && name.count ':' = 3

/-- The directory of a LUN, by its name and its own type file. -/
def isLun (env : Env) (target : Str) (e : Dirent) : Bool :=
  e.dType = .dir && isHctl e.dName &&
    firstLine env (typePath target e) ≠ decimal STORAGE_ARRAY_CNTROLLER

def isCounted (env : Env) (target : Str) (e : Dirent) : Bool :=
  e.dType = .dir && typeRead env target e ≠ STORAGE_ARRAY_CNTROLLER

def due (env : Env) (target : Str) : ℕ := (allEntries env target).countP (isLun env target)

def taken (env : Env) (target : Str) : ℕ :=
  (allEntries env target).countP (isCounted env target)

/-- Directories of no LUN that are not read as storage array controllers. -/
def spurious (env : Env) (target : Str) : List Dirent :=
  (allEntries env target).filter fun e => isCounted env target e && !isLun env target e

/-- LUNs that are read as storage array controllers. -/
def missed (env : Env) (target : Str) : List Dirent :=
  (allEntries env target).filter fun e => isLun env target e && !isCounted env target e

/-- A call that can open its directory adds the number of LUNs there and returns zero. -/
def Accounts (env : Env) (host : Option Str) (target : Str) (s : IscsiSession) : Prop :=
  ∀ l, env.dir target = some l → ∃ t, Returns (getIscsiDiskHctl host target s) env (0,t) ∧
    t.lunCount = s.lunCount + due env target

/-- The sessions that calls for targets reach, with the targets so far. The first is as it is
allocated, but for what is read of it. -/
inductive Reached (env : Env) (i : IscsiDevInfo) : List Str → IscsiSession → Prop
  | fresh {s : IscsiSession}
      (h : Returns (loadAll (sessionAttr i) sessionRows env.mallocSession) env s) :
      Reached env i [] s
  | call {ts : List Str} {s u : IscsiSession} {target : Str} {r : ℤ} (h : Reached env i ts s)
      (hr : Returns (getIscsiDiskHctl i.hostName target s) env (r,u)) :
      Reached env i (ts ++ [target]) u

/-! ## What is counted -/

theorem assignScsi_eq (s : IscsiSession) (xs : List ℤ) : ∃ c b i l, assignScsi s xs =
    { s with scsiChannel := c, scsiBus := b, scsiId := i, scsiLun := l } := by
  match xs with
  | [] | [_] | [_,_] | [_,_,_] | _ :: _ :: _ :: _ :: _ => exact ⟨_,_,_,_,rfl⟩

theorem lunCount_assignScsi (s : IscsiSession) (xs : List ℤ) :
    (assignScsi s xs).lunCount = s.lunCount := by
  obtain ⟨c,b,i,l,h⟩ := assignScsi_eq s xs
  rw [h]

def entryStep (env : Env) (target : Str) (s : IscsiSession) (e : Dirent) : IscsiSession :=
  if e.dType = .dir then
    { assignScsi s (scanColon 4 e.dName) with
      lunCount := s.lunCount + if isCounted env target e then 1 else 0 }
  else s

theorem hctlEntry_step {target : Str} {s t : IscsiSession} {e : Dirent}
    (h : Returns (hctlEntry target s e) env t) : t = entryStep env target s e := by
  unfold hctlEntry at h
  unfold entryStep
  by_cases hd : e.dType = .dir
  · have ht : int32 (strtoull (cut 32 (((line env (cut 1024 (target ++ "/" ++ e.dName ++
        "/type"))).map env.format).getD []))) = typeRead env target e := rfl
    simp only [hd, ne_eq, not_true_eq_false, if_false, returns_bind, returns_openSysfsStatsFile,
      returns_snprintfFmt, exists_eq_left, ht] at h
    rw [if_pos hd, ← lunCount_assignScsi s (scanColon 4 e.dName)]
    by_cases hc : typeRead env target e = STORAGE_ARRAY_CNTROLLER
    · rw [if_neg (by simpa using hc), returns_pure] at h
      have hn : isCounted env target e = false := by simp [isCounted, hc]
      simp [h, hn]
    · rw [if_pos hc] at h
      have hy : isCounted env target e = true := by simp [isCounted, hd, hc]
      split at h
      · rw [returns_bind] at h
        obtain ⟨_,-,h⟩ := h
        rw [returns_pure] at h
        simp [h, hy]
      · rw [returns_pure] at h
        simp [h, hy]
  · rw [if_pos hd, returns_pure] at h
    rw [if_neg hd, h]

theorem hctlLoop_steps {target : Str} {es : List Dirent} {s t : IscsiSession}
    (h : Returns (es.foldlM (hctlEntry target) s) env t) :
    t = es.foldl (entryStep env target) s := by
  induction es generalizing s with
  | nil =>
    rw [List.foldlM_nil, returns_pure] at h
    exact h
  | cons e es ih =>
    rw [List.foldlM_cons, returns_bind] at h
    obtain ⟨u,hu,h⟩ := h
    rw [ih h, hctlEntry_step hu]
    rfl

/-- Every call ends with the error, whether its directory opens or not. -/
theorem getIscsiDiskHctl_steps {host : Option Str} {target : Str} {s t : IscsiSession} {r : ℤ}
    (h : Returns (getIscsiDiskHctl host target s) env (r,t)) :
    r = -enodev ∧ t = (allEntries env target).foldl (entryStep env target) s := by
  simp only [getIscsiDiskHctl, returns_bind, returns_opendir, exists_eq_left] at h
  unfold allEntries
  cases hd : env.dir target with
  | none =>
    simp only [hd, Option.map_none, returns_pure, Prod.mk.injEq] at h
    exact h
  | some l =>
    simp only [hd, Option.map_some, returns_bind, returns_print, returns_closedir, true_and,
      exists_const, returns_pure, Prod.mk.injEq] at h
    obtain ⟨u,hu,hr,rfl⟩ := h
    exact ⟨hr,hctlLoop_steps hu⟩

theorem lunCount_entryStep (target : Str) (s : IscsiSession) (e : Dirent) :
    (entryStep env target s e).lunCount =
      s.lunCount + if isCounted env target e then 1 else 0 := by
  unfold entryStep
  split
  · rfl
  · next hd => simp [isCounted, hd]

theorem lunCount_steps (target : Str) (es : List Dirent) (s : IscsiSession) :
    (es.foldl (entryStep env target) s).lunCount =
      s.lunCount + es.countP (isCounted env target) := by
  induction es generalizing s with
  | nil => simp
  | cons e es ih =>
    rw [List.foldl_cons, ih, lunCount_entryStep, List.countP_cons]
    split <;> omega

theorem lunCount_getIscsiDiskHctl {host : Option Str} {target : Str} {s t : IscsiSession} {r : ℤ}
    (h : Returns (getIscsiDiskHctl host target s) env (r,t)) :
    t.lunCount = s.lunCount + taken env target := by
  rw [(getIscsiDiskHctl_steps h).2]
  exact lunCount_steps target _ s

theorem frames_sessText {τ : Type} {g : IscsiSession → τ}
    {store : Str → IscsiSession → IscsiSession} (h : ∀ t s, g (store t s) = g s) (file : Str) :
    Frames g (sessText file store) := fun _ _ => h _ _

theorem frames_sessInt {τ : Type} {g : IscsiSession → τ}
    {store : ℤ → IscsiSession → IscsiSession} (h : ∀ n s, g (store n s) = g s) (file : Str) :
    Frames g (sessInt file store) := fun _ _ => h _ _

theorem frames_lunCount : ∀ a ∈ sessionRows, Frames IscsiSession.lunCount a := by
  simp only [sessionRows, List.forall_mem_cons]
  and_intros
  all_goals first
    | with_reducible refine frames_sessText ?_ _
    | with_reducible refine frames_sessInt ?_ _
    | exact fun _ h => absurd h List.not_mem_nil
  all_goals exact fun _ _ => rfl

/-- After any calls the count is what the allocation left, and what each call has taken. -/
theorem lunCount_reached {i : IscsiDevInfo} {ts : List Str} {s : IscsiSession}
    (h : Reached env i ts s) :
    s.lunCount = env.mallocSession.lunCount + (ts.map (taken env)).sum := by
  induction h with
  | fresh h =>
    rw [loadAll_frame IscsiSession.lunCount frames_lunCount h]
    simp
  | call h hr ih =>
    rw [lunCount_getIscsiDiskHctl hr, ih, List.map_append, List.sum_append]
    simp only [List.map_cons, List.map_nil, List.sum_singleton]
    omega

theorem exists_reached {i : IscsiDevInfo} (h : Readable env (sessionAttr i) sessionRows)
    (ts : List Str) : ∃ s, Reached env i ts s := by
  induction ts using List.reverseRecOn with
  | nil =>
    obtain ⟨s,hs⟩ := (survives_loadAll_iff (sessionAttr i) sessionRows env.mallocSession).mpr h
    exact ⟨s,.fresh hs⟩
  | append_singleton ts target ih =>
    obtain ⟨s,hs⟩ := ih
    obtain ⟨⟨r,u⟩,hu⟩ := @survives_getIscsiDiskHctl env i.hostName target s
    exact ⟨u,.call hs hu⟩

theorem readable_of_reached {i : IscsiDevInfo} {ts : List Str} {s : IscsiSession}
    (h : Reached env i ts s) : Readable env (sessionAttr i) sessionRows := by
  induction h with
  | fresh h => exact (survives_loadAll_iff _ _ _).mp ⟨_,h⟩
  | call _ _ ih => exact ih

/-! ## The calls of a run -/

def targets (env : Env) (path : Str) : List Str :=
  ((entriesOf env path).filter isTarget).map fun t => cut 4096 (targetPath path t)

theorem reached_loop {i : IscsiDevInfo} {path : Str} {es : List Dirent} {ts : List Str}
    {s u : IscsiSession} (hs : Reached env i ts s)
    (h : Returns (es.foldlM (targetEntry i.hostName path) s) env u) :
    Reached env i (ts ++ (es.filter isTarget).map fun t => cut 4096 (targetPath path t)) u := by
  induction es generalizing ts s with
  | nil =>
    rw [List.foldlM_nil, returns_pure] at h
    simpa [h] using hs
  | cons e es ih =>
    rw [List.foldlM_cons, returns_bind] at h
    obtain ⟨v,hv,h⟩ := h
    unfold targetEntry at hv
    by_cases ht : isTarget e
    · simp only [ht, if_true, returns_bind] at hv
      obtain ⟨⟨r,w⟩,hw,hv⟩ := hv
      rw [returns_pure] at hv
      obtain rfl : v = w := hv
      have hc := ih (.call hs hw) h
      rw [List.filter_cons_of_pos ht, List.map_cons]
      simpa [targetPath] using hc
    · rw [if_neg ht, returns_pure] at hv
      rw [List.filter_cons_of_neg ht]
      exact ih (hv ▸ hs) h

theorem reached_getSessionScsiDisks {i : IscsiDevInfo} {path : Str} {ts : List Str} {r : ℤ}
    {s u : IscsiSession} (hp : i.sessionPath = some path) (hs : Reached env i ts s)
    (h : Returns (getSessionScsiDisks i s) env (r,u)) :
    Reached env i (ts ++ targets env path) u := by
  rw [getSessionScsiDisks, hp] at h
  simp only [returns_bind, returns_opendir, exists_eq_left] at h
  unfold targets entriesOf
  cases hd : env.dir path with
  | none =>
    simp only [hd, Option.map_none, returns_pure, Prod.mk.injEq] at h
    simpa [h] using hs
  | some l =>
    simp only [hd, Option.map_some, returns_bind, returns_closedir, true_and, exists_const,
      returns_pure, Prod.mk.injEq] at h
    obtain ⟨v,hv,-,rfl⟩ := h
    exact reached_loop hs hv

theorem reached_getIscsiSessionInfo {i : IscsiDevInfo} {path : Str} {r : ℤ} {u : IscsiSession}
    (hp : i.sessionPath = some path)
    (h : Returns (getIscsiSessionInfo i env.mallocSession) env (r,u)) :
    Reached env i (targets env path) u := by
  rw [getIscsiSessionInfo, returns_bind, hp] at h
  obtain ⟨s,hs,h⟩ := h
  have hf : Reached env i [] s := .fresh hs
  simp only [returns_bind, returns_opendir, exists_eq_left] at h
  cases hd : env.dir path with
  | none =>
    simp only [hd, Option.map_none, returns_pure, Prod.mk.injEq] at h
    simpa [targets, entriesOf, hd, h] using hf
  | some l =>
    simp only [hd, Option.map_some, returns_bind, returns_print, true_and, exists_const] at h
    by_cases ht : ((forEachDir l.entries).find? isTarget).isSome
    · simp only [ht, if_true, returns_bind, returns_pure, Prod.mk.injEq] at h
      obtain ⟨⟨q,v⟩,hv,-,rfl⟩ := h
      exact reached_getSessionScsiDisks hp hf hv
    · simp only [ht, Bool.false_eq_true, if_false, returns_pure, Prod.mk.injEq] at h
      have hn : (forEachDir l.entries).filter isTarget = [] := by
        simpa [List.find?_isSome] using ht
      simpa [targets, entriesOf, hd, hn, h] using hf

/-! ## When the count is right -/

theorem countP_add_filter {α : Type} (p q : α → Bool) (xs : List α) :
    xs.countP p + (xs.filter fun x => q x && !p x).length =
      xs.countP q + (xs.filter fun x => p x && !q x).length := by
  induction xs with
  | nil => rfl
  | cons x xs ih => cases hp : p x <;> cases hq : q x <;> simp [hp, hq] <;> omega

theorem due_add_spurious (target : Str) : due env target + (spurious env target).length =
    taken env target + (missed env target).length :=
  countP_add_filter (isLun env target) (isCounted env target) (allEntries env target)

/-- The count is right after one call exactly when it starts at zero and as many directories
of no LUN are counted as LUNs are not. -/
theorem counted_iff {i : IscsiDevInfo} {s : IscsiSession} {target : Str}
    (h0 : env.mallocSession.lunCount = 0) (h : Reached env i [target] s) :
    s.lunCount = due env target ↔
      (spurious env target).length = (missed env target).length := by
  have hs := lunCount_reached h
  have hd := @due_add_spurious env target
  simp only [List.map_cons, List.map_nil, List.sum_singleton] at hs
  omega

/-- No call that opens its directory does what it should. The counts alone are right in all runs
exactly when the numbers of the session cannot be read, or they start at zero and every target
has as many directories of no LUN that are counted as LUNs that are not. -/
theorem lun_counts_iff (env : Env) (i : IscsiDevInfo) :
    (∀ target s, Accounts env i.hostName target s ↔ env.dir target = none) ∧
      ((∀ ts s, Reached env i ts s → s.lunCount = (ts.map (due env)).sum) ↔
        ¬Readable env (sessionAttr i) sessionRows ∨ env.mallocSession.lunCount = 0 ∧
          ∀ target, (spurious env target).length = (missed env target).length) := by
  constructor
  · intro target s
    constructor
    · intro ha
      by_contra hd
      obtain ⟨l,hl⟩ := Option.ne_none_iff_exists'.mp hd
      obtain ⟨t,ht,-⟩ := ha l hl
      have he := (getIscsiDiskHctl_steps ht).1
      simp [enodev] at he
    · intro hd l hl
      rw [hd] at hl
      cases hl
  · constructor
    · intro h
      by_cases hr : Readable env (sessionAttr i) sessionRows
      · obtain ⟨s,hs⟩ := exists_reached hr []
        have h0 : env.mallocSession.lunCount = 0 := by
          have hc := lunCount_reached hs
          rw [h [] s hs] at hc
          simpa using hc.symm
        right
        constructor
        · exact h0
        · intro target
          obtain ⟨u,hu⟩ := exists_reached hr [target]
          apply (counted_iff h0 hu).mp
          simpa using h [target] u hu
      · exact .inl hr
    · rintro (hr | ⟨h0,hm⟩) ts s hs
      · exact absurd (readable_of_reached hs) hr
      · have ht : ∀ target, taken env target = due env target := by
          intro target
          have ha := @due_add_spurious env target
          have he := hm target
          omega
        rw [lunCount_reached hs, h0, funext ht, zero_add]

/-! ## A target with two LUNs -/

/-- The two LUNs, the directory beside them, the target and its parent make five, and the
result is an error. -/
theorem two_luns_not_accounted :
    due (oneTarget twoLuns []) (targetPath sessionDir target3) = 2 ∧
    (∃ t, Returns (getIscsiDiskHctl none (targetPath sessionDir target3)
      Env.bare.mallocSession) (oneTarget twoLuns []) (-enodev,t) ∧ t.lunCount = 5) ∧
    ¬Accounts (oneTarget twoLuns []) none (targetPath sessionDir target3)
      Env.bare.mallocSession := by
  have hd : due (oneTarget twoLuns []) (targetPath sessionDir target3) = 2 := by decide +kernel
  have ht : taken (oneTarget twoLuns []) (targetPath sessionDir target3) = 5 := by decide +kernel
  have ho : (oneTarget twoLuns []).dir (targetPath sessionDir target3) = some twoLuns := by
    have hne : targetPath sessionDir target3 ≠ sessionDir := by decide +kernel
    simp [oneTarget, hne]
  obtain ⟨⟨r,u⟩,hu⟩ := @survives_getIscsiDiskHctl (oneTarget twoLuns []) none
    (targetPath sessionDir target3) Env.bare.mallocSession
  obtain ⟨rfl,-⟩ := getIscsiDiskHctl_steps hu
  have hc := lunCount_getIscsiDiskHctl hu
  constructor
  · exact hd
  constructor
  · rw [ht] at hc
    exact ⟨u,hu,hc⟩
  · intro ha
    obtain ⟨t,h0,-⟩ := ha twoLuns ho
    have he := (getIscsiDiskHctl_steps h0).1
    simp [enodev] at he

end ScsiCli.LunCounts
