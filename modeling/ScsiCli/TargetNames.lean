import ScsiCli.LunCounts

/-!
# Names of targets

Two functions store the name of a session's target, each from an array of 256
bytes. The reader before both keeps 63 bytes of the name, and what it keeps is
the format of a print. Names that begin alike are then one.
-/

set_option autoImplicit false

namespace ScsiCli.TargetNames
open ScsiCli.RunTrace ScsiCli.ByteString ScsiCli.NumberText ScsiCli.Records ScsiCli.Machine
open ScsiCli.SysfsUtils ScsiCli.IscsiUtils ScsiCli.MachineRules ScsiCli.Completion ScsiCli.IscsiCompletion
open ScsiCli.LiteralCopies ScsiCli.IscsiRows ScsiCli.SessionLuns ScsiCli.LunCounts

variable {env : Env}

def namePath (i : IscsiDevInfo) : Str := attrOfSession i.sessionName "targetname"

def targetName (env : Env) (i : IscsiDevInfo) : Str := firstLine env (namePath i)

structure Session (env : Env) (i : IscsiDevInfo) : Prop where
  short : (orNull i.sessionName).length ≤ 255
  opens : (env.dir (connectionHome (orNull i.hostName) i.sessionName)).isSome

/-- The names that are stored of a session: with the connection, and in the session's own
record, whose first two attributes are read whatever becomes of the others. -/
structure Stored (env : Env) (i : IscsiDevInfo) (c n : Str) : Prop where
  connection : ∃ j, Returns (fillConnectionInfo i) env j ∧ j.targetName = some c
  session : ∀ s, ∃ t, Returns (loadAll (sessionAttr i) (sessionRows.take 2) s) env t ∧
    t.targetname = some n

def Apart (env : Env) (i j : IscsiDevInfo) : Prop :=
  ∀ c n d m, Stored env i c n → Stored env j d m → c ≠ d ∧ n ≠ m

def Whole (env : Env) (i : IscsiDevInfo) : Prop :=
  ∀ c n, Stored env i c n → c = targetName env i ∧ n = targetName env i

structure Told (env : Env) (i j : IscsiDevInfo) : Prop where
  first : Whole env i
  second : Whole env j
  apart : Apart env i j

/-! ## What is stored -/

theorem connection_targetName {i : IscsiDevInfo} (h : Session env i) :
    ∃ j, Returns (fillConnectionInfo i) env j ∧
      j.targetName = some (shown env (namePath i)) := by
  obtain ⟨l,hl⟩ := Option.isSome_iff_exists.mp h.opens
  obtain ⟨c,p,n,-,hj⟩ := fillConnectionInfo_opened hl
  exact ⟨_,hj,rfl⟩

theorem sessionAttr_eq {i : IscsiDevInfo} (h : Session env i) :
    sessionAttr i "targetname" = namePath i := by
  have hs := h.short
  have hp : (SYSFS_ISCSI_SESS_PATH ++ "/" ++ orNull i.sessionName).length < 1024 := by
    simp [SYSFS_ISCSI_SESS_PATH, lit]
    omega
  rw [sessionAttr, cut_of_length_lt hp]
  apply cut_of_length_lt
  simp [SYSFS_ISCSI_SESS_PATH, lit]
  omega

theorem session_targetname {i : IscsiDevInfo} (h : Session env i) (s t : IscsiSession)
    (ht : Returns (loadAll (sessionAttr i) (sessionRows.take 2) s) env t) :
    t.targetname = some (cut 256 (shown env (namePath i))) := by
  have hp : ∀ a ∈ sessionRows.take 2, Plain a := by simp [sessionRows, sessText, Plain]
  have hf := @formatted_firstLine env (sessionAttr i "targetname")
  rw [(returns_loadAll_plain hp s t).mp ht, shown, ← sessionAttr_eq h, ← hf]
  rfl

theorem stored_iff {i : IscsiDevInfo} (h : Session env i) (c n : Str) : Stored env i c n ↔
    c = shown env (namePath i) ∧ n = cut 256 (shown env (namePath i)) := by
  have hp : ∀ a ∈ sessionRows.take 2, Plain a := by simp [sessionRows, sessText, Plain]
  obtain ⟨j,hj,hc⟩ := connection_targetName h
  constructor
  · rintro ⟨⟨k,hk,hkc⟩,hn⟩
    obtain ⟨t,ht,htn⟩ := hn env.mallocSession
    rw [returns_unique hk hj, hc] at hkc
    rw [session_targetname h _ t ht] at htn
    exact ⟨(Option.some.inj hkc).symm,(Option.some.inj htn).symm⟩
  · rintro ⟨rfl,rfl⟩
    constructor
    · exact ⟨j,hj,hc⟩
    · intro s
      have ht : Returns (loadAll (sessionAttr i) (sessionRows.take 2) s) env
          (loaded env (sessionAttr i) (sessionRows.take 2) s) :=
        (returns_loadAll_plain hp s _).mpr rfl
      exact ⟨_,ht,session_targetname h s _ ht⟩

/-! ## Names in a whole run -/

theorem frames_targetname : ∀ a ∈ sessionRows.drop 2, Frames IscsiSession.targetname a := by
  simp only [sessionRows, List.drop_succ_cons, List.drop_zero, List.forall_mem_cons]
  and_intros
  all_goals first
    | with_reducible refine frames_sessText ?_ _
    | with_reducible refine frames_sessInt ?_ _
    | exact fun _ h => absurd h List.not_mem_nil
  all_goals exact fun _ _ => rfl

theorem targetname_loadAll {i : IscsiDevInfo} (h : Session env i) {s t : IscsiSession}
    (ht : Returns (loadAll (sessionAttr i) sessionRows s) env t) :
    t.targetname = some (cut 256 (shown env (namePath i))) := by
  rw [loadAll, ← List.take_append_drop 2 sessionRows, returns_foldlM_append] at ht
  obtain ⟨u,hu,ht⟩ := ht
  rw [loadAll_frame IscsiSession.targetname frames_targetname ht]
  exact session_targetname h s u hu

theorem targetname_steps (target : Str) (es : List Dirent) (s : IscsiSession) :
    (es.foldl (entryStep env target) s).targetname = s.targetname := by
  induction es generalizing s with
  | nil => rfl
  | cons e es ih =>
    rw [List.foldl_cons, ih, entryStep]
    split
    · obtain ⟨c,b,i,l,ha⟩ := assignScsi_eq s (scanColon 4 e.dName)
      rw [ha]
    · rfl

/-- The calls for the targets leave the name as it was stored. -/
theorem targetname_reached {i : IscsiDevInfo} {ts : List Str} {s : IscsiSession}
    (hi : Session env i) (h : Reached env i ts s) :
    s.targetname = some (cut 256 (shown env (namePath i))) := by
  induction h with
  | fresh h => exact targetname_loadAll hi h
  | call h hr ih =>
    rw [(getIscsiDiskHctl_steps hr).2, targetname_steps]
    exact ih

theorem getIscsiSessionInfo_targetname {i : IscsiDevInfo} {path c n : Str} {r : ℤ}
    {t : IscsiSession} (hi : Session env i) (hs : Stored env i c n)
    (hp : i.sessionPath = some path)
    (h : Returns (getIscsiSessionInfo i env.mallocSession) env (r,t)) : t.targetname = some n := by
  rw [((stored_iff hi c n).mp hs).2]
  exact targetname_reached hi (reached_getIscsiSessionInfo hp h)

/-! ## When names are told apart -/

/-- A format that is defined is empty, or begins with a doubled percent sign or with a
character that stands for itself. -/
theorem expand_some {s u : Str} (h : expand s = some u) : s = [] ∧ u = [] ∨
    (∃ s' u', s = '%' :: '%' :: s' ∧ u = '%' :: u' ∧ expand s' = some u') ∨
      ∃ c s' u', c ≠ '%' ∧ s = c :: s' ∧ u = c :: u' ∧ expand s' = some u' := by
  cases s with
  | nil => simp_all [expand]
  | cons c s =>
    by_cases hc : c = '%'
    · subst hc
      obtain ⟨s',u',rfl,hs,rfl⟩ := expand_percent_some h
      exact .inr (.inl ⟨s',u',rfl,rfl,hs⟩)
    · rw [expand_cons_ne hc] at h
      obtain ⟨u',hs,rfl⟩ := Option.map_eq_some_iff.mp h
      exact .inr (.inr ⟨c,s,u',hc,rfl,rfl,hs⟩)

theorem expand_inj {s t u : Str} (hs : expand s = some u) (ht : expand t = some u) : s = t := by
  induction u generalizing s t with
  | nil =>
    have hn : ∀ {s : Str}, expand s = some [] → s = [] := fun h => by
      rcases expand_some h with ⟨h,-⟩ | ⟨_,_,_,h,_⟩ | ⟨_,_,_,_,_,h,_⟩
      · exact h
      · cases h
      · cases h
    rw [hn hs, hn ht]
  | cons c u ih =>
    rcases expand_some hs with ⟨-,h⟩ | ⟨s',u',rfl,h,hs'⟩ | ⟨d,s',u',hd,rfl,h,hs'⟩
    · cases h
    · cases h
      rcases expand_some ht with ⟨-,h⟩ | ⟨t',v,rfl,h,ht'⟩ | ⟨d,t',v,hd,rfl,h,ht'⟩
      · cases h
      · cases h
        rw [ih hs' ht']
      · cases h
        exact absurd rfl hd
    · cases h
      rcases expand_some ht with ⟨-,h⟩ | ⟨t',v,rfl,h,ht'⟩ | ⟨e,t',v,he,rfl,h,ht'⟩
      · cases h
      · cases h
        exact absurd rfl hd
      · cases h
        rw [ih hs' ht']

/-- Two short formats never print alike exactly when both are defined and they are different. -/
theorem formats_apart_iff {a b : Str} (ha : a.length ≤ 63) (hb : b.length ≤ 63) :
    (∀ w, (env.withWild w).format a ≠ (env.withWild w).format b ∧
      cut 256 ((env.withWild w).format a) ≠ cut 256 ((env.withWild w).format b)) ↔
      (expand a).isSome ∧ (expand b).isSome ∧ a ≠ b := by
  -- What one format prints, the other may print where it is not defined.
  have hw : ∀ u : Str, u.length ≤ 63 → u.length < 2^31 := fun u hu => by omega
  simp only [format_withWild]
  cases hu : expand a with
  | none =>
    simp only [Option.isSome_none, Bool.false_eq_true, false_and, iff_false, not_forall]
    cases hv : expand b with
    | none => exact ⟨Wild.silent,fun h => h.1 rfl⟩
    | some v =>
      have hl := (expand_length_le hv).trans hb
      exact ⟨⟨fun _ => v,fun _ => hw v hl⟩,by simp⟩
  | some u =>
    have hl := (expand_length_le hu).trans ha
    cases hv : expand b with
    | none =>
      simp only [Option.isSome_none, Bool.false_eq_true, false_and, and_false, iff_false,
        not_forall]
      exact ⟨⟨fun _ => u,fun _ => hw u hl⟩,by simp⟩
    | some v =>
      have hl' := (expand_length_le hv).trans hb
      have hne : u ≠ v ↔ a ≠ b := by
        constructor
        · rintro h rfl
          exact h (Option.some.inj (hu.symm.trans hv))
        · rintro h rfl
          exact h (expand_inj hu hv)
      simp only [Option.getD_some, Option.isSome_some, true_and,
        cut_of_length_lt (show u.length < 256 by omega),
        cut_of_length_lt (show v.length < 256 by omega), and_self, hne]
      exact ⟨fun h => h Wild.silent,fun h _ => h⟩

theorem session_withWild {i : IscsiDevInfo} (h : Session env i) (w : Wild) :
    Session (env.withWild w) i := ⟨h.short,h.opens⟩

theorem whole_iff {i : IscsiDevInfo} (h : Session env i) :
    (∀ w, Whole (env.withWild w) i) ↔ AsIs (targetName env i) := by
  have hs := fun w => stored_iff (session_withWild h w)
  rw [← @shown_plain_iff env]
  constructor
  · intro hw w
    exact (hw w _ _ ((hs w _ _).mpr ⟨rfl,rfl⟩)).1
  · intro hw w c n hc
    have hn : shown (env.withWild w) (namePath i) = targetName env i := hw w
    have hl : (targetName env i).length < 256 := by
      have := ((shown_plain_iff (targetName env i)).mp hw).2
      omega
    obtain ⟨rfl,rfl⟩ := (hs w c n).mp hc
    rw [hn, cut_of_length_lt hl]
    exact ⟨rfl,rfl⟩

theorem apart_iff {i j : IscsiDevInfo} (hi : Session env i) (hj : Session env j) :
    (∀ w, Apart (env.withWild w) i j) ↔ (expand ((targetName env i).take 63)).isSome ∧
      (expand ((targetName env j).take 63)).isSome ∧
        (targetName env i).take 63 ≠ (targetName env j).take 63 := by
  rw [← @formats_apart_iff env _ _ (List.length_take_le _ _) (List.length_take_le _ _)]
  constructor
  · intro h w
    exact h w _ _ _ _ ((stored_iff (session_withWild hi w) _ _).mpr ⟨rfl,rfl⟩)
      ((stored_iff (session_withWild hj w) _ _).mpr ⟨rfl,rfl⟩)
  · intro h w c n d m hc hd
    obtain ⟨rfl,rfl⟩ := (stored_iff (session_withWild hi w) c n).mp hc
    obtain ⟨rfl,rfl⟩ := (stored_iff (session_withWild hj w) d m).mp hd
    exact h w

/-- Two different names are stored whole, and so different, exactly when both are short enough
for the reader and free of percent signs. They are stored different in some way exactly when
what the reader keeps of them is, and no percent sign there stands alone. -/
theorem names_told_iff {i j : IscsiDevInfo} (hi : Session env i) (hj : Session env j)
    (hne : targetName env i ≠ targetName env j) :
    ((∀ w, Told (env.withWild w) i j) ↔ AsIs (targetName env i) ∧ AsIs (targetName env j)) ∧
      ((∀ w, Apart (env.withWild w) i j) ↔ (expand ((targetName env i).take 63)).isSome ∧
        (expand ((targetName env j).take 63)).isSome ∧
          (targetName env i).take 63 ≠ (targetName env j).take 63) := by
  constructor
  · rw [← whole_iff hi, ← whole_iff hj]
    constructor
    · intro h
      exact ⟨fun w => (h w).first,fun w => (h w).second⟩
    · intro ⟨h,h'⟩ w
      constructor
      · exact h w
      · exact h' w
      · intro c n d m hc hd
        obtain ⟨rfl,rfl⟩ := h w c n hc
        obtain ⟨rfl,rfl⟩ := h' w d m hd
        exact ⟨hne,hne⟩
  · exact apart_iff hi hj

/-! ## Two sessions -/

def firstSession : IscsiDevInfo :=
  { hostName := some (lit "host3"), sessionName := some (lit "session1") }

def secondSession : IscsiDevInfo :=
  { hostName := some (lit "host4"), sessionName := some (lit "session2") }

def twoTargets (a b : Str) : Env :=
  { Env.bare with
    dir := fun _ => some Listing.empty
    file := fun p =>
      if p = namePath firstSession then .bytes (a ++ ['\n'])
      else if p = namePath secondSession then .bytes (b ++ ['\n'])
      else .absent }

theorem first_session (a b : Str) : Session (twoTargets a b) firstSession :=
  ⟨by decide +kernel,rfl⟩

theorem second_session (a b : Str) : Session (twoTargets a b) secondSession :=
  ⟨by decide +kernel,rfl⟩

theorem firstLine_of_text {path l : Str} (h : env.file path = .bytes (l ++ ['\n']))
    (hn : '\n' ∉ l) (hz : nul ∉ l) : firstLine env path = l := by
  have hc : nul ≠ '\n' := by decide
  have hs : cString (l ++ ['\n']) = l ++ ['\n'] := cString_eq (by simp [hz, hc])
  rw [firstLine, h]
  simp only [hs]
  rw [removeNewline, List.takeWhile_append_of_pos (all_ne hn)]
  simp

theorem targetName_first {a : Str} (b : Str) (hn : '\n' ∉ a) (hz : nul ∉ a) :
    targetName (twoTargets a b) firstSession = a :=
  firstLine_of_text (if_pos rfl) hn hz

theorem targetName_second (a : Str) {b : Str} (hn : '\n' ∉ b) (hz : nul ∉ b) :
    targetName (twoTargets a b) secondSession = b := by
  have hne : namePath secondSession ≠ namePath firstSession := by decide +kernel
  exact firstLine_of_text ((if_neg hne).trans (if_pos rfl)) hn hz

theorem stored_cut {i : IscsiDevInfo} {l : Str} {c : Char} (h : Session env i)
    (hn : targetName env i = l ++ [c]) (hl : l.length = 63) (hp : '%' ∉ l) :
    Stored env i l l := by
  have hs : shown env (namePath i) = l := by
    have ht : (targetName env i).take 63 = l := by
      rw [hn, ← hl, List.take_left]
    rw [shown, ← targetName, ht, Env.format, expand_plain hp]
    rfl
  rw [stored_iff h, hs, cut_of_length_lt (by omega)]
  exact ⟨rfl,rfl⟩

def readmeName : Str := "iqn.2015-12.com.oracleiaas:86161095-2195-477e-bc62-613e4f526301"

def otherName : Str := "iqn.2015-12.com.oracleiaas:2031e68f-73fc-40e4-8ecd-d325c3feb34b"

theorem readmeName_plain : '\n' ∉ readmeName ∧ nul ∉ readmeName ∧ '%' ∉ readmeName ∧
    readmeName.length = 63 := by decide +kernel

theorem otherName_plain : '\n' ∉ otherName ∧ nul ∉ otherName ∧ '%' ∉ otherName ∧
    otherName.length = 63 := by decide +kernel

theorem readme_names_told :
    targetName (twoTargets readmeName otherName) firstSession ≠
      targetName (twoTargets readmeName otherName) secondSession ∧
    ∀ w, Told ((twoTargets readmeName otherName).withWild w) firstSession secondSession := by
  obtain ⟨hn,hz,hp,hl⟩ := readmeName_plain
  obtain ⟨hn',hz',hp',hl'⟩ := otherName_plain
  have hne : readmeName ≠ otherName := by decide +kernel
  have hi := targetName_first otherName hn hz
  have hj := targetName_second readmeName hn' hz'
  have h := names_told_iff (first_session readmeName otherName)
    (second_session readmeName otherName) (by rwa [hi, hj])
  rw [hi, hj] at h ⊢
  exact ⟨hne,h.1.mpr ⟨⟨hp,hl.le⟩,⟨hp',hl'.le⟩⟩⟩

/-- A byte more, and two different names are stored as one. -/
theorem long_names_confused :
    (targetName (twoTargets (readmeName ++ ['a']) (readmeName ++ ['b'])) firstSession).length =
      64 ∧
    targetName (twoTargets (readmeName ++ ['a']) (readmeName ++ ['b'])) firstSession ≠
      targetName (twoTargets (readmeName ++ ['a']) (readmeName ++ ['b'])) secondSession ∧
    Stored (twoTargets (readmeName ++ ['a']) (readmeName ++ ['b'])) firstSession readmeName
      readmeName ∧
    Stored (twoTargets (readmeName ++ ['a']) (readmeName ++ ['b'])) secondSession readmeName
      readmeName ∧
    ¬Told (twoTargets (readmeName ++ ['a']) (readmeName ++ ['b'])) firstSession
      secondSession := by
  have ha : nul ≠ 'a' := by decide
  have hb : nul ≠ 'b' := by decide
  obtain ⟨hn,hz,hp,hl⟩ := readmeName_plain
  have hi := targetName_first (a := readmeName ++ ['a']) (readmeName ++ ['b'])
    (by simp [hn]) (by simp [hz, ha])
  have hj := targetName_second (readmeName ++ ['a']) (b := readmeName ++ ['b'])
    (by simp [hn]) (by simp [hz, hb])
  have hs := stored_cut (first_session _ _) hi hl hp
  have ht := stored_cut (second_session _ _) hj hl hp
  rw [hi, hj]
  have hne : ¬Told (twoTargets (readmeName ++ ['a']) (readmeName ++ ['b'])) firstSession
      secondSession := fun h => (h.apart _ _ _ _ hs ht).1 rfl
  exact ⟨by simp [hl],by simp,hs,ht,hne⟩

end ScsiCli.TargetNames
