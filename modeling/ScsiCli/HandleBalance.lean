import ScsiCli.IscsiCompletion

/-!
# Handles that stay open

The open handles are followed along the trace: an opening adds a handle, a
closing takes one that is there away, and closing what is not there ends the
count. A negative descriptor is no handle, and closing one does nothing. Of the
four gatherers with a handle of their own each leaves one open on some path.
-/

set_option autoImplicit false

namespace ScsiCli.HandleBalance
open ScsiCli.RunTrace ScsiCli.ByteString ScsiCli.NumberText ScsiCli.Records ScsiCli.Machine
open ScsiCli.SysfsUtils ScsiCli.DiskUtils ScsiCli.IscsiUtils ScsiCli.MachineRules
open ScsiCli.Completion ScsiCli.IscsiCompletion

variable {env : Env} {α β : Type}

def real : Handle → Bool
  | .fd n => 0 ≤ n
  | _ => true

def track (hs : List Handle) : Event → Option (List Handle)
  | .opened h _ => some (h :: hs)
  | .closed h => if real h then if h ∈ hs then some (hs.erase h) else none else some hs
  | _ => some hs

/-- Whatever is open at the start, a run that returns ends with just that open. -/
def Balanced (m : Tool α) (env : Env) : Prop :=
  ∀ a, Returns m env a → Neutral track m env

/-- The run closes nothing that was open at the start. -/
def Keeps (m : Tool α) (env : Env) : Prop :=
  ∀ hs, ∃ l, monitored track m env hs = some (l ++ hs)

@[simp] theorem track_opened (hs : List Handle) (h : Handle) (m : Mode) :
    track hs (.opened h m) = some (h :: hs) := rfl

theorem track_closed_top {h : Handle} (hr : real h = true) (hs : List Handle) :
    track (h :: hs) (.closed h) = some hs := by
  simp [track, hr]

@[simp] theorem track_closed_dir (path : Str) (hs : List Handle) :
    track (.dir path :: hs) (.closed (.dir path)) = some hs := track_closed_top rfl hs

@[simp] theorem track_closed_file (path : Str) (hs : List Handle) :
    track (.file path :: hs) (.closed (.file path)) = some hs := track_closed_top rfl hs

@[simp] theorem track_closed_negative {n : ℤ} (h : n < 0) (hs : List Handle) :
    track hs (.closed (.fd n)) = some hs := by
  simp [track, real, h]

/-- What happens between an opening and the closing may leave handles of the same name. -/
theorem track_closed_under (h : Handle) (hr : real h = true) (l hs : List Handle) :
    ∃ l', track (l ++ h :: hs) (.closed h) = some (l' ++ hs) := by
  by_cases hl : h ∈ l
  · refine ⟨l.erase h ++ [h],?_⟩
    simp [track, hr, hl, List.erase_append_left]
  · refine ⟨l,?_⟩
    simp [track, hr, hl, List.erase_append_right]

/-! ## Readings open and close -/

def Still : Event → Prop
  | .opened _ _ | .closed _ => False
  | _ => True

theorem track_still {e : Event} (h : Still e) (hs : List Handle) : track hs e = some hs := by
  cases e <;> first | rfl | exact h.elim

theorem neutral_still {m : Tool α} (h : Emits Still m env) : Neutral track m env :=
  neutral_of_emits h fun _ he _ => track_still he _

theorem neutral_pure (a : α) : Neutral track (pure a : Tool α) env := fun _ => rfl

theorem neutral_print (o : Out) : Neutral track (print o) env :=
  neutral_still (by simp [Still])

theorem neutral_snprintfFmt (size : ℕ) (fmt : Option Str) :
    Neutral track (snprintfFmt size fmt) env :=
  neutral_still (by simp [Still])

theorem neutral_openSysfsStatsFile (path : Str) :
    Neutral track (openSysfsStatsFile path) env := by
  intro hs
  cases h : env.file path with
  | absent => simp [openSysfsStatsFile, fopenRead, h, prog_bind_assoc]
  | unreadable => simp [openSysfsStatsFile, fopenRead, fgets, fclose, h, prog_bind_assoc]
  | bytes b =>
    cases hp : fgets 64 (some b) <;>
      simp [openSysfsStatsFile, fopenRead, fclose, h, hp, prog_bind_assoc]

theorem neutral_fetch (path : Str) (c : Copy) : Neutral track (c.fetch path) env := by
  cases c with
  | bounded size =>
    exact neutral_bind (neutral_openSysfsStatsFile path) fun p _ => neutral_snprintfFmt size p
  | unbounded b =>
    exact neutral_bind (neutral_openSysfsStatsFile path) fun p _ => neutral_still (by simp [Still])
  | argument size =>
    exact neutral_bind (neutral_openSysfsStatsFile path) fun p _ => neutral_pure _
  | direct =>
    apply neutral_bind (neutral_openSysfsStatsFile path)
    intro p _
    cases p with
    | none => exact neutral_still (by simp [Still])
    | some p => exact neutral_pure _

theorem neutral_loadAll {σ : Type} (pathOf : Str → Str) (rows : List (Attr σ)) (s : σ) :
    Neutral track (loadAll pathOf rows s) env := by
  apply neutral_foldlM
  intro s a _
  apply neutral_bind (neutral_fetch _ _)
  intro t _
  exact neutral_bind (neutral_still (by simp)) fun u _ => neutral_pure _

/-! ## What a run may leave open -/

theorem keeps_of_neutral {m : Tool α} (h : Neutral track m env) : Keeps m env :=
  fun hs => ⟨[],h hs⟩

theorem keeps_bind {m : Tool β} {f : β → Tool α} (hm : Keeps m env)
    (hf : ∀ b, Returns m env b → Keeps (f b) env) : Keeps (m >>= f) env := by
  intro hs
  obtain ⟨l,hl⟩ := hm hs
  cases h : (m env).result with
  | none =>
    refine ⟨l,?_⟩
    simp only [monitored, bind_apply, Run.andThen, h] at hl ⊢
    exact hl
  | some b =>
    obtain ⟨k,hk⟩ := hf b h (l ++ hs)
    refine ⟨k ++ l,?_⟩
    rw [monitored_bind_of_returns track f h, hl]
    simpa using hk

theorem keeps_foldlM {σ : Type} (f : σ → α → Tool σ) (xs : List α) (s : σ)
    (h : ∀ s, ∀ x ∈ xs, Keeps (f s x) env) : Keeps (xs.foldlM f s) env := by
  induction xs generalizing s with
  | nil => exact keeps_of_neutral (neutral_pure s)
  | cons x xs ih =>
    rw [List.foldlM_cons]
    exact keeps_bind (h s x (by simp)) fun t _ => ih t fun s y hy => h s y (by simp [hy])

theorem monitored_opendir_bind (path : Str) (f : Option (List Dirent) → Tool α)
    (hs : List Handle) : monitored track (opendir path >>= f) env hs =
      match env.dir path with
      | none => monitored track (f none) env hs
      | some l => monitored track (f (some l.entries)) env (.dir path :: hs) := by
  cases h : env.dir path <;> simp [opendir, h, prog_bind_assoc]

theorem keeps_closedir (path : Str) {m : Tool β} {f : β → Tool α} (hm : Keeps m env)
    (hf : ∀ b, Neutral track (f b) env) (hs : List Handle) :
    ∃ l, monitored track (do
      let b ← m
      closedir path
      f b) env (.dir path :: hs) = some (l ++ hs) := by
  obtain ⟨l,hl⟩ := hm (.dir path :: hs)
  cases h : (m env).result with
  | none =>
    refine ⟨l ++ [.dir path],?_⟩
    simp only [monitored, bind_apply, Run.andThen, h] at hl ⊢
    simpa using hl
  | some b =>
    obtain ⟨k,hk⟩ := track_closed_under (.dir path) rfl l hs
    refine ⟨k,?_⟩
    rw [monitored_bind_of_returns track _ h, hl]
    simp only [Option.bind_some, closedir, monitored_emit_bind, hk]
    exact hf b _

/-! ## The gatherers -/

def devPath (name : Str) : Str := "/dev/" ++ name

/-- Opening the disk fails, or gives a descriptor other than zero and the disk can be looked at. -/
def DiskCloses (env : Env) (name : Str) : Prop :=
  env.openFd (devPath name) < 0 ∨
    0 < env.openFd (devPath name) ∧ (env.stat (devPath name)).isSome

instance (env : Env) (name : Str) : Decidable (DiskCloses env name) :=
  inferInstanceAs (Decidable (_ ∨ _))

/-- A descriptor of zero is taken for a failure, and where the disk cannot be looked at
the descriptor is lost: what is closed then is the error code. -/
theorem monitored_getDeviceNumbers (name : Str) (d : ScsiDeviceInfo) (hs : List Handle) :
    monitored track (getDeviceNumbers name d) env hs =
      some (if DiskCloses env name then hs else .fd (env.openFd (devPath name)) :: hs) := by
  have hb : Neutral track (store .getDeviceNumbersDevPath (devPath name)) env :=
    neutral_still (by simp [Still])
  have hr : Returns (store .getDeviceNumbersDevPath (devPath name)) env (devPath name) := by simp
  unfold getDeviceNumbers
  rw [← devPath, monitored_bind_neutral _ hb hr, monitored_ask_bind]
  unfold DiskCloses
  rcases lt_trichotomy (env.openFd (devPath name)) 0 with h | h | h
  · have h0 : ¬0 ≤ env.openFd (devPath name) := by omega
    obtain hv | ⟨n,hv⟩ := Option.eq_none_or_eq_some (env.stat (devPath name))
    · simp [h, h0, h.ne, hv, printErr, print, track, real, einval]
    · simp [h, h0, h.ne, hv]
  · simp [h, printInfo, print, track, real, einval]
  · have h0 : ¬env.openFd (devPath name) < 0 := by omega
    obtain hv | ⟨n,hv⟩ := Option.eq_none_or_eq_some (env.stat (devPath name))
    · simp [h, h.le, h.ne', h0, hv, printErr, print, track, real, einval]
    · simp [h, h.le, h.ne', h0, hv, track_closed_top, real]

theorem survives_getDeviceNumbers (name : Str) (d : ScsiDeviceInfo) :
    Survives (getDeviceNumbers name d) env := by
  obtain ⟨t,ht,-⟩ := @getDeviceNumbers_spec env name d
  exact ⟨t,ht⟩

theorem balanced_iff_of_monitored {m : Tool α} {h : Handle} {c : Prop} [Decidable c]
    (hs : Survives m env)
    (hm : ∀ l, monitored track m env l = some (if c then l else h :: l)) :
    Balanced m env ↔ c := by
  constructor
  · intro hb
    obtain ⟨a,ha⟩ := hs
    by_contra hc
    have hl := hb a ha []
    rw [hm, if_neg hc] at hl
    simp at hl
  · intro hc a _ l
    rw [hm, if_pos hc]

theorem balanced_getDeviceNumbers_iff (name : Str) (d : ScsiDeviceInfo) :
    Balanced (getDeviceNumbers name d) env ↔ DiskCloses env name :=
  balanced_iff_of_monitored (survives_getDeviceNumbers name d) (monitored_getDeviceNumbers name d)

def isDiskDir (e : Dirent) : Bool := e.dType = .dir && strncmpEq e.dName "sd" 2

def EntryCloses (env : Env) (path : Str) : Prop :=
  ∀ l, env.dir path = some l → ∃ e ∈ l.entries, isDiskDir e

theorem find_isDiskDir_iff (es : List Dirent) :
    (es.find? isDiskDir).isSome ↔ ∃ e ∈ es, isDiskDir e := by
  simp [List.find?_isSome]

open Classical in
theorem monitored_getDeviceEntry (path : Str) (hs : List Handle) :
    monitored track (getDeviceEntry path) env hs =
      some (if EntryCloses env path then hs else .dir path :: hs) := by
  unfold getDeviceEntry EntryCloses
  rw [monitored_opendir_bind]
  cases env.dir path with
  | none => simp
  | some l =>
    have hf := find_isDiskDir_iff l.entries
    unfold isDiskDir at hf ⊢
    simp only [Option.some.injEq, forall_eq', ← hf]
    cases l.entries.find? fun e => e.dType = .dir && strncmpEq e.dName "sd" 2 <;> simp [closedir]

theorem keeps_getDeviceEntry (path : Str) : Keeps (getDeviceEntry path) env := by
  classical
  intro hs
  by_cases h : EntryCloses env path
  · exact ⟨[],by simp [monitored_getDeviceEntry, h]⟩
  · exact ⟨[.dir path],by simp [monitored_getDeviceEntry, h]⟩

theorem balanced_getDeviceEntry_iff (path : Str) :
    Balanced (getDeviceEntry path) env ↔ EntryCloses env path := by
  classical
  exact balanced_iff_of_monitored (survives_getDeviceEntry path) (monitored_getDeviceEntry path)

theorem keeps_attachedDisk (name : Str) (s : IscsiSession) : Keeps (attachedDisk name s) env := by
  refine keeps_bind (keeps_getDeviceEntry _) fun entry _ => keeps_of_neutral ?_
  apply neutral_bind (neutral_snprintfFmt _ _)
  intro _ _
  apply neutral_bind (neutral_openSysfsStatsFile _)
  intro _ _
  apply neutral_bind (neutral_snprintfFmt _ _)
  intro _ _
  exact neutral_bind (neutral_print _) fun _ _ => neutral_print _

theorem keeps_hctlEntry (path : Str) (s : IscsiSession) (e : Dirent) :
    Keeps (hctlEntry path s e) env := by
  unfold hctlEntry
  split
  · exact keeps_of_neutral (neutral_pure s)
  · apply keeps_bind (keeps_of_neutral (neutral_openSysfsStatsFile _))
    intro _ _
    apply keeps_bind (keeps_of_neutral (neutral_snprintfFmt _ _))
    intro _ _
    split
    · split
      · exact keeps_bind (keeps_attachedDisk _ _) fun _ _ => keeps_of_neutral (neutral_pure _)
      · exact keeps_of_neutral (neutral_pure _)
    · exact keeps_of_neutral (neutral_pure _)

theorem keeps_getIscsiDiskHctl (host : Option Str) (path : Str) (s : IscsiSession) :
    Keeps (getIscsiDiskHctl host path s) env := by
  intro hs
  unfold getIscsiDiskHctl
  rw [monitored_opendir_bind]
  cases env.dir path with
  | none => exact ⟨[],rfl⟩
  | some l =>
    simp only [print, monitored_emit_bind, track]
    apply keeps_closedir
    · exact keeps_foldlM _ _ _ fun s e _ => keeps_hctlEntry path s e
    · exact fun _ => neutral_pure _

theorem keeps_getSessionScsiDisks (i : IscsiDevInfo) (s : IscsiSession) :
    Keeps (getSessionScsiDisks i s) env := by
  unfold getSessionScsiDisks
  cases i.sessionPath with
  | none => exact keeps_of_neutral (neutral_still (by simp [Still]))
  | some path =>
    intro hs
    simp only
    rw [monitored_opendir_bind]
    cases env.dir path with
    | none => exact ⟨[],rfl⟩
    | some l =>
      apply keeps_closedir
      · apply keeps_foldlM
        intro s e _
        unfold targetEntry
        split
        · exact keeps_bind (keeps_getIscsiDiskHctl _ _ _) fun _ _ =>
            keeps_of_neutral (neutral_pure _)
        · exact keeps_of_neutral (neutral_pure _)
      · exact fun _ => neutral_pure _

def SessionCloses (env : Env) (i : IscsiDevInfo) : Prop :=
  Readable env (sessionAttr i) sessionRows → ∀ path, i.sessionPath = some path →
    env.dir path = none

theorem monitored_sessionFound {i : IscsiDevInfo} {path : Str} {l : Listing}
    (hr : Readable env (sessionAttr i) sessionRows) (hp : i.sessionPath = some path)
    (hl : env.dir path = some l) (s : IscsiSession) (hs : List Handle) :
    ∃ k, monitored track (getIscsiSessionInfo i s) env hs = some (k ++ .dir path :: hs) := by
  obtain ⟨t,ht⟩ := (survives_loadAll_iff (sessionAttr i) sessionRows s).mpr hr
  unfold getIscsiSessionInfo
  rw [monitored_bind_neutral _ (neutral_loadAll _ _ _) ht, hp]
  simp only
  rw [monitored_opendir_bind, hl]
  simp only [print, monitored_emit_bind, track]
  split
  · exact keeps_bind (keeps_getSessionScsiDisks i t)
      (fun _ _ => keeps_of_neutral (neutral_pure _)) _
  · exact ⟨[],rfl⟩

theorem balanced_getIscsiSessionInfo_iff (i : IscsiDevInfo) (s : IscsiSession) :
    Balanced (getIscsiSessionInfo i s) env ↔ SessionCloses env i := by
  constructor
  · intro hb hr path hp
    obtain ⟨a,ha⟩ := (survives_getIscsiSessionInfo_iff i s).mpr ⟨hr,by simp [hp]⟩
    by_contra hd
    obtain ⟨l,hl⟩ := Option.ne_none_iff_exists'.mp hd
    obtain ⟨k,hk⟩ := monitored_sessionFound hr hp hl s []
    rw [hb a ha []] at hk
    simp at hk
  · intro hc a ha
    obtain ⟨hr,hp⟩ := (survives_getIscsiSessionInfo_iff i s).mp ⟨a,ha⟩
    obtain ⟨path,hp⟩ := Option.isSome_iff_exists.mp hp
    apply neutral_bind (neutral_loadAll _ _ _)
    intro t _
    rw [hp]
    intro hs
    simp only
    rw [monitored_opendir_bind, hc hr path hp]
    rfl

theorem neutral_validateEnclosureType (d : ScsiDeviceInfo) :
    Neutral track (validateEnclosureType d) env := by
  apply neutral_bind (neutral_loadAll _ _ _)
  intro d _
  split <;> exact neutral_pure _

theorem neutral_getEnclosureDetails (d : ScsiDeviceInfo) :
    Neutral track (getEnclosureDetails d) env := by
  apply neutral_bind (neutral_openSysfsStatsFile _)
  intro p _
  apply neutral_bind (neutral_snprintfFmt _ _)
  intro t _
  simp only
  split
  · exact neutral_pure _
  · exact neutral_bind (neutral_loadAll _ _ _) fun _ _ => neutral_pure _

/-- The loop ends at its first entry that is not a directory, and closes unless the type
of that entry is unknown. -/
theorem monitored_enclosureLoop (es : List Dirent) (hs : List Handle) :
    monitored track (enclosureLoop es) env (.dir SYSFS_ENCLOSURE_PATH :: hs) =
      some (if ∀ e, es.find? (fun e => e.dType ≠ .dir) = some e → knownType (enclosureType env e)
        then hs else .dir SYSFS_ENCLOSURE_PATH :: hs) := by
  classical
  induction es with
  | nil => simp [enclosureLoop, closedir]
  | cons e es ih =>
    by_cases he : e.dType = .dir
    · rw [enclosureLoop, if_neg (not_not.mpr he), ih]
      simp [he]
    · have hv := (@returns_validateEnclosureType env e _).mpr rfl
      rw [enclosureLoop, if_pos he, monitored_bind_neutral _ (neutral_validateEnclosureType _) hv]
      cases hk : knownType (enclosureType env e) with
      | false => simp [he, hk, enodev]
      | true =>
        obtain ⟨p,hp⟩ := @survives_getEnclosureDetails env
          (nameDiskType { enclosureRecord e with deviceType := enclosureType env e })
        simp only [if_true, lt_self_iff_false, if_false, or_true]
        rw [monitored_bind_neutral _ (neutral_getEnclosureDetails _) hp]
        simp [he, hk, print, closedir, track, real]

def EnclosureCloses (env : Env) : Prop :=
  ∀ l, env.dir SYSFS_ENCLOSURE_PATH = some l → ∀ e,
    l.entries.find? (fun e => e.dType ≠ .dir) = some e → knownType (enclosureType env e)

theorem balanced_listEnclosure_iff : Balanced listEnclosure env ↔ EnclosureCloses env := by
  classical
  apply balanced_iff_of_monitored survives_listEnclosure (h := .dir SYSFS_ENCLOSURE_PATH)
  intro hs
  have hd : track hs (.device .listEnclosure none) = some hs := rfl
  unfold listEnclosure EnclosureCloses
  rw [monitored_emit_bind, hd, Option.bind_some, monitored_opendir_bind]
  cases env.dir SYSFS_ENCLOSURE_PATH with
  | none => simp
  | some l =>
    have hl := @monitored_enclosureLoop env l.entries hs
    simp only [print, monitored_emit_bind, track, Option.bind_some, hl, Option.some.injEq,
      forall_eq']

/-- When each of the four leaves the open handles as they were. -/
theorem handles_balance_iff (env : Env) :
    (∀ name d, Balanced (getDeviceNumbers name d) env ↔ DiskCloses env name) ∧
      (∀ path, Balanced (getDeviceEntry path) env ↔ EntryCloses env path) ∧
        (∀ i s, Balanced (getIscsiSessionInfo i s) env ↔ SessionCloses env i) ∧
          (Balanced listEnclosure env ↔ EnclosureCloses env) := by
  constructor
  · exact balanced_getDeviceNumbers_iff
  constructor
  · exact balanced_getDeviceEntry_iff
  constructor
  · exact balanced_getIscsiSessionInfo_iff
  · exact balanced_listEnclosure_iff

def emptyDirs : Env :=
  { Env.bare with dir := fun _ => some Listing.empty }

theorem empty_directory_stays_open :
    ¬Balanced (getDeviceEntry "/sys/class/scsi_disk/2:0:0:0/device/block") emptyDirs := by
  rw [balanced_getDeviceEntry_iff]
  intro h
  obtain ⟨e,he,hd⟩ := h _ rfl
  have hn : ∀ e ∈ [dotEntry,dotdotEntry], isDiskDir e = false := by
    simp [isDiskDir, dotEntry, dotdotEntry, strncmpEq, lit]
  rw [hn e he] at hd
  cases hd

end ScsiCli.HandleBalance
