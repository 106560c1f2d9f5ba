import Mathlib.Data.List.Nodup
import ScsiCli.LiteralCopies

/-!
# The search behind `show disk`

The search runs over the whole listing with a copy of the name cut to 15
bytes, prints the details of that copy at every entry the copy is a prefix of,
and succeeds when it has counted one. It shows the disk asked for when the
copy is literal and no other entry continues it.
-/

set_option autoImplicit false

namespace ScsiCli.ShowDisk
open ScsiCli.RunTrace ScsiCli.ByteString ScsiCli.NumberText ScsiCli.Records ScsiCli.Machine
open ScsiCli.SysfsUtils ScsiCli.DiskUtils ScsiCli.DiskDetails ScsiCli.MachineRules
open ScsiCli.LiteralCopies

variable {env : Env}

abbrev Shown := Option Str × Option Str

/-- All output is seen, a details report as the disk it is about. -/
def shownOf : Event → Option (Option Shown)
  | .out (.scsiDiskDetails d) | .out (.nvmeDiskDetails d) => some (some (d.diskName,d.diskPath))
  | .out _ => some none
  | _ => none

def detailsOf (name : Str) : Option Shown := some (some name,some (SYSFS_BLOCK_PATH ++ "/" ++ name))

theorem unseen_reading : Reading fun e => shownOf e = none :=
  ⟨fun _ => rfl,fun _ => rfl,fun _ => rfl⟩

theorem unseen_loadAll (pathOf : Str → Str) (d : ScsiDeviceInfo)
    (rows : List (Attr ScsiDeviceInfo)) : observed shownOf (loadAll pathOf rows d) env = [] :=
  (observed_eq_nil_iff _ _ _).mpr (emits_loadAll unseen_reading _ _ fun _ _ _ _ => rfl)

/-! ## One entry -/

def subject (d : ScsiDeviceInfo) : Shown := (d.diskName,d.diskPath)

theorem subject_queueRows (pathOf : Str → Str) (d : ScsiDeviceInfo) :
    subject (loaded env pathOf queueRows d) = subject d :=
  queueRows_frame subject (fun _ _ => rfl) pathOf d

theorem frames_textRow {store : Str → ScsiDeviceInfo → ScsiDeviceInfo}
    (h : ∀ t d, subject (store t d) = subject d) (file : Str) :
    Frames subject (textRow file store) := fun _ _ => h _ _

theorem frames_intRow {store : ℤ → ScsiDeviceInfo → ScsiDeviceInfo}
    (h : ∀ n d, subject (store n d) = subject d) (file : Str) :
    Frames subject (intRow file store) := fun _ _ => h _ _

theorem frames_u64Row {store : ℕ → ScsiDeviceInfo → ScsiDeviceInfo}
    (h : ∀ n d, subject (store n d) = subject d) (file : Str) :
    Frames subject (u64Row file store) := fun _ _ => h _ _

theorem subject_detailRows :
    (∀ a ∈ nvmeRows, Frames subject a) ∧ ∀ a ∈ scsiRows, Frames subject a := by
  simp only [nvmeRows, scsiRows, List.forall_mem_cons]
  and_intros
  -- The builders are matched as they stand, so that no number is unfolded.
  all_goals first
    | with_reducible refine frames_textRow ?_ _
    | with_reducible refine frames_intRow ?_ _
    | with_reducible refine frames_u64Row ?_ _
    | exact fun _ h => absurd h List.not_mem_nil
  all_goals exact fun _ _ => rfl

theorem report_spec (o : ScsiDeviceInfo → Out) (d : ScsiDeviceInfo)
    (ho : ∀ d, shownOf (.out (o d)) = some (some (subject d))) :
    let report : Tool ScsiDeviceInfo := do
      let d ← getDiskQueueData d
      print (o d)
      pure d
    Survives report env ∧ observed shownOf report env = [some (subject d)] := by
  have hq := (@returns_loadAll_plain env _ (queuePath d) _ plain_queueRows d _).mpr rfl
  constructor
  · simp only [survives_bind]
    exact ⟨_,hq,(),by simp,by simp⟩
  · rw [getDiskQueueData, observed_bind_of_returns _ _ hq, unseen_loadAll, print,
      observed_emit_bind, ho, subject_queueRows]
    rfl

theorem nvmeDetails_spec (name : Str) (d : ScsiDeviceInfo) :
    Survives (getSingleNvmeDiskDetails name d) env ∧
      observed shownOf (getSingleNvmeDiskDetails name d) env =
        [some (subject (nvmeDisk name d))] := by
  have hr := (@returns_loadAll_plain env _ (underDisk (nvmeDisk name d)) _ plain_nvmeRows
    (nvmeDisk name d) _).mpr rfl
  obtain ⟨hs,ho⟩ := @report_spec env .nvmeDiskDetails
    (loaded env (underDisk (nvmeDisk name d)) nvmeRows (nvmeDisk name d)) fun _ => rfl
  constructor
  · exact (survives_bind _ _ _).mpr ⟨_,hr,hs⟩
  · rw [getSingleNvmeDiskDetails, observed_bind_of_returns _ _ hr, unseen_loadAll]
    exact ho.trans (by rw [loaded_frame subject subject_detailRows.1])

theorem scsiDetails_spec (name : Str) (d : ScsiDeviceInfo) :
    Survives (getSingleScsiDiskDetails name d) env ∧
      observed shownOf (getSingleScsiDiskDetails name d) env =
        [some (subject (scsiDisk name d))] := by
  have hr := (@returns_loadAll_plain env _ (underDisk (scsiDisk name d)) _ plain_scsiRows
    (scsiDisk name d) _).mpr rfl
  obtain ⟨hs,ho⟩ := @report_spec env .scsiDiskDetails
    (loaded env (underDisk (scsiDisk name d)) scsiRows (scsiDisk name d)) fun _ => rfl
  constructor
  · exact (survives_bind _ _ _).mpr ⟨_,hr,hs⟩
  · rw [getSingleScsiDiskDetails, observed_bind_of_returns _ _ hr, unseen_loadAll]
    exact ho.trans (by rw [loaded_frame subject subject_detailRows.2])

theorem subject_of_short {name : Str} (h : name.length ≤ 15) (d : ScsiDeviceInfo) :
    some (subject (nvmeDisk name d)) = detailsOf name ∧
      some (subject (scsiDisk name d)) = detailsOf name := by
  have hl : (SYSFS_BLOCK_PATH ++ (lit "/" ++ name)).length < 128 := by
    simp [SYSFS_BLOCK_PATH, lit]
    omega
  simp [subject, nvmeDisk, scsiDisk, detailsOf, cut_of_length_lt hl,
    cut_of_length_lt (hl.trans (by decide : 128 < 256))]

def found (name : Str) (e : Dirent) : Bool := strncmpEq e.dName name name.length

theorem found_iff (name : Str) (e : Dirent) : found name e = true ↔ name <+: e.dName :=
  strncmpEq_whole _ _

/-- The body of the search counts and prints where the name is a prefix, by either branch. -/
theorem showDiskEntry_spec {name : Str} (h : name.length ≤ 15) (s : ℕ × ScsiDeviceInfo)
    (e : Dirent) :
    (∃ d, Returns (showDiskEntry name s e) env (s.1+(if found name e then 1 else 0),d)) ∧
      observed shownOf (showDiskEntry name s e) env =
        if found name e then [detailsOf name] else [] := by
  obtain ⟨hn,hc⟩ := subject_of_short h s.2
  obtain ⟨⟨dn,hdn⟩,hon⟩ := @nvmeDetails_spec env name s.2
  obtain ⟨⟨ds,hds⟩,hos⟩ := @scsiDetails_spec env name s.2
  have hf : strncmpEq name e.dName name.length = found name e := strncmpEq_comm _ _ _
  rw [showDiskEntry, hf]
  cases hm : found name e with
  | false =>
    have hm' : strncmpEq e.dName name name.length = false := hm
    simp [hm']
  | true =>
    have hm' : strncmpEq e.dName name name.length = true := hm
    cases hv : strncmpEq name "nvme" 4 with
    | true =>
      rw [if_pos (by simp [hm']), observed_bind_of_silent _ (fun _ _ => rfl), hon, hn]
      exact ⟨⟨dn,(returns_bind _ _ _ _).mpr ⟨dn,hdn,by simp⟩⟩,by simp⟩
    | false =>
      rw [if_neg (by simp), if_pos rfl, observed_bind_of_silent _ (fun _ _ => rfl), hos, hc]
      exact ⟨⟨ds,(returns_bind _ _ _ _).mpr ⟨ds,hds,by simp⟩⟩,by simp⟩

/-! ## The whole listing -/

theorem search_spec {name : Str} (h : name.length ≤ 15) (es : List Dirent)
    (s : ℕ × ScsiDeviceInfo) :
    (∃ d, Returns (es.foldlM (showDiskEntry name) s) env (s.1+es.countP (found name),d)) ∧
      observed shownOf (es.foldlM (showDiskEntry name) s) env =
        List.replicate (es.countP (found name)) (detailsOf name) := by
  induction es generalizing s with
  | nil => exact ⟨⟨s.2,by simp⟩,rfl⟩
  | cons e es ih =>
    obtain ⟨⟨d,hd⟩,ho⟩ := @showDiskEntry_spec env _ h s e
    obtain ⟨⟨d',hd'⟩,ho'⟩ := ih (s.1+(if found name e then 1 else 0),d)
    rw [List.foldlM_cons, List.countP_cons]
    refine ⟨⟨d',(returns_bind _ _ _ _).mpr ⟨_,hd,?_⟩⟩,?_⟩
    · rwa [Nat.add_assoc, Nat.add_comm (if found name e then 1 else 0)] at hd'
    · rw [observed_bind_of_returns _ _ hd, ho, ho']
      cases found name e <;> simp [List.replicate_succ]

def blockEntries (env : Env) : List Dirent :=
  ((env.dir SYSFS_BLOCK_PATH).map fun l => forEachDir l.entries).getD []

def hits (env : Env) (name : Str) : ℕ := (blockEntries env).countP (found name)

theorem showDiskDetails_spec (env : Env) (arg : Str) (d : ScsiDeviceInfo) :
    let name := cut 16 (env.format arg)
    Returns (showDiskDetails (some arg) d) env (if hits env name = 1 then 1 else -enodev) ∧
      observed shownOf (showDiskDetails (some arg) d) env =
        List.replicate (hits env name) (detailsOf name) := by
  intro name
  have hs : Returns (snprintfFmt 16 (some arg)) env name := (returns_snprintfFmt _ _ _).mpr rfl
  have hu : observed shownOf (snprintfFmt 16 (some arg)) env = [] := by simp [snprintfFmt]
  cases hd : env.dir SYSFS_BLOCK_PATH with
  | none =>
    have ho : Returns (opendir SYSFS_BLOCK_PATH) env none := by simp [hd]
    have h0 : hits env name = 0 := by simp [hits, blockEntries, hd]
    rw [h0, showDiskDetails, returns_emit_bind, observed_emit_bind,
      observed_bind_of_returns _ _ ho]
    exact ⟨(returns_bind _ _ _ _).mpr ⟨_,ho,by simp⟩,by simp [opendir, hd, shownOf]⟩
  | some l =>
    have ho : Returns (opendir SYSFS_BLOCK_PATH) env (some l.entries) := by simp [hd]
    have hb : blockEntries env = forEachDir l.entries := by simp [blockEntries, hd]
    obtain ⟨⟨d',hd'⟩,hf⟩ := @search_spec env name (cut_length_le 16 _) (forEachDir l.entries) (0,d)
    rw [Nat.zero_add] at hd'
    rw [hits, hb, showDiskDetails, returns_emit_bind, observed_emit_bind,
      observed_bind_of_returns _ _ ho]
    dsimp only
    rw [diskNameOf, observed_bind_of_returns _ _ hs, hu, observed_bind_of_returns _ _ hd', hf]
    refine ⟨(returns_bind _ _ _ _).mpr ⟨_,ho,(returns_bind _ _ _ _).mpr
      ⟨_,hs,(returns_bind _ _ _ _).mpr ⟨_,hd',?_⟩⟩⟩,?_⟩
    · simp [closedir]
    · simp [opendir, closedir, hd, shownOf]

/-! ## The disk asked for -/

def Listed (env : Env) (name : Str) : Prop := ∃ e ∈ blockEntries env, e.dName = name

/-- Whatever an undefined format yields, the disk is shown once and found if it is listed,
and nothing is shown and no device reported otherwise. -/
def ShowsOnly (env : Env) (arg : Str) (d : ScsiDeviceInfo) : Prop :=
  ∀ w, let run := showDiskDetails (some arg) d
    (Listed env arg → Returns run (env.withWild w) 1 ∧
      observed shownOf run (env.withWild w) = [detailsOf arg]) ∧
    (¬Listed env arg → Returns run (env.withWild w) (-enodev) ∧
      observed shownOf run (env.withWild w) = [])

/-- The name fits, is copied as it stands and begins no other entry; a name that is not
listed must not have a copy that begins an entry. -/
structure Unmistakable (env : Env) (arg : Str) : Prop where
  listed : Listed env arg → '%' ∉ arg ∧ arg.length ≤ 15 ∧
    ∀ e ∈ blockEntries env, arg <+: e.dName → e.dName = arg
  unlisted : ¬Listed env arg → match expand arg with
    | some t => ∀ e ∈ blockEntries env, ¬t.take 15 <+: e.dName
    | none => blockEntries env = []

theorem blockEntries_nodup (env : Env) : ((blockEntries env).map Dirent.dName).Nodup := by
  unfold blockEntries
  cases env.dir SYSFS_BLOCK_PATH with
  | none => exact List.nodup_nil
  | some l => exact l.nodup.sublist (List.filter_sublist.map _)

theorem hits_eq_zero_iff (name : Str) :
    hits env name = 0 ↔ ∀ e ∈ blockEntries env, ¬name <+: e.dName := by
  simp [hits, List.countP_eq_zero, found_iff]

theorem hits_eq_one_iff {name : Str} (h : Listed env name) :
    hits env name = 1 ↔ ∀ e ∈ blockEntries env, name <+: e.dName → e.dName = name := by
  obtain ⟨x,hx,rfl⟩ := h
  have hf : ∀ {e}, e ∈ (blockEntries env).filter (found x.dName) ↔
      e ∈ blockEntries env ∧ x.dName <+: e.dName := by simp [List.mem_filter, found_iff]
  rw [hits, List.countP_eq_length_filter]
  constructor
  · intro h1 e he hp
    obtain ⟨y,hy⟩ := List.length_eq_one_iff.mp h1
    have hxy := hf.mpr ⟨hx,List.prefix_refl _⟩
    have hey := hf.mpr ⟨he,hp⟩
    rw [hy, List.mem_singleton] at hxy hey
    rw [hey, ← hxy]
  · intro ha
    have hc : (blockEntries env).countP (found x.dName) =
        ((blockEntries env).map Dirent.dName).count x.dName := by
      rw [List.count, List.countP_map]
      apply List.countP_congr
      intro e he
      rw [found_iff, Function.comp_apply, beq_iff_eq]
      exact ⟨ha e he,fun h => h ▸ List.prefix_refl _⟩
    rw [← List.countP_eq_length_filter, hc]
    exact List.count_eq_one_of_mem (blockEntries_nodup env) (List.mem_map_of_mem hx)

/-! ## When it is shown -/

theorem detailsOf_inj {a b : Str} (h : detailsOf a = detailsOf b) : a = b := by
  simpa [detailsOf] using (Prod.mk.inj (Option.some.inj h)).1

theorem copy_literal_iff (env : Env) (arg : Str) :
    (∀ w, cut 16 ((env.withWild w).format arg) = arg) ↔ '%' ∉ arg ∧ arg.length ≤ 15 := by
  constructor
  · intro h
    have hl : arg.length ≤ 15 := by
      rw [← h Wild.silent]
      exact cut_length_le 16 _
    have ht : arg.take 15 = arg := List.take_of_length_le hl
    exact ⟨(literalUpTo_of_length_le hl).mp
      ((@format_take_iff env 15 (by decide) arg).mp fun w => (h w).trans ht.symm),hl⟩
  · rintro ⟨hp,hl⟩ w
    rw [format_withWild, expand_plain hp]
    exact List.take_of_length_le hl

theorem shows_only_iff (env : Env) (arg : Str) (d : ScsiDeviceInfo) :
    ShowsOnly env arg d ↔ Unmistakable env arg := by
  have hspec := fun w => showDiskDetails_spec (env.withWild w) arg d
  have hh : ∀ w name, hits (env.withWild w) name = hits env name := fun _ _ => rfl
  simp only [hh] at hspec
  constructor
  · intro h
    refine ⟨fun hl => ?_,fun hl => ?_⟩
    · have hw : ∀ w, hits env (cut 16 ((env.withWild w).format arg)) = 1 ∧
          cut 16 ((env.withWild w).format arg) = arg := fun w => by
        obtain ⟨-,ho⟩ := (h w).1 hl
        obtain ⟨h1,hd⟩ := List.eq_replicate_iff.mp (ho.symm.trans (hspec w).2)
        exact ⟨h1.symm,(detailsOf_inj (hd _ (by simp))).symm⟩
      obtain ⟨hp,hs⟩ := (copy_literal_iff env arg).mp fun w => (hw w).2
      have h1 := (hw Wild.silent).1
      rw [(hw Wild.silent).2] at h1
      exact ⟨hp,hs,(hits_eq_one_iff hl).mp h1⟩
    · have h0 : ∀ w, hits env (cut 16 ((env.withWild w).format arg)) = 0 := fun w => by
        have ho := ((h w).2 hl).2
        rw [(hspec w).2] at ho
        simpa using ho
      have hz := h0 Wild.silent
      rw [format_withWild, hits_eq_zero_iff] at hz
      cases he : expand arg with
      | some t => simpa [he, cut] using hz
      | none =>
        refine List.eq_nil_iff_forall_not_mem.mpr fun e hm => hz e hm ?_
        simp [he, cut, Wild.silent]
  · intro hu w
    refine ⟨fun hl => ?_,fun hl => ?_⟩
    · obtain ⟨hp,hs,ha⟩ := hu.listed hl
      have hc := (copy_literal_iff env arg).mpr ⟨hp,hs⟩ w
      have h1 := (hits_eq_one_iff hl).mpr ha
      have hw := hspec w
      rw [hc, h1] at hw
      exact hw
    · have h0 : hits env (cut 16 ((env.withWild w).format arg)) = 0 := by
        rw [hits_eq_zero_iff, format_withWild]
        have hn := hu.unlisted hl
        cases he : expand arg with
        | some t => simpa [he, cut] using hn
        | none =>
          rw [he] at hn
          simp [hn]
      have hw := hspec w
      rw [h0] at hw
      exact hw

theorem sda_name : lit "sda" ≠ [] ∧ '/' ∉ lit "sda" ∧ nul ∉ lit "sda" ∧
    (lit "sda").length ≤ 255 := by simp [lit, nul]

def sdaSdaa : Env :=
  { Env.bare with
    dir := fun path =>
      if path = SYSFS_BLOCK_PATH then
        some (Listing.ofEntries
          [⟨lit "sda",.lnk,sda_name⟩,⟨lit "sdaa",.lnk,by simp [lit, nul]⟩]
          (by simp [lit]) (by simp [lit]) (by simp [lit]))
      else none }

theorem sda_beside_sdaa_not_shown : ¬ShowsOnly sdaSdaa (lit "sda") allocScsiDev := by
  have hb : blockEntries sdaSdaa =
      [⟨lit "sda",.lnk,sda_name⟩,⟨lit "sdaa",.lnk,by simp [lit, nul]⟩] := by
    simp [blockEntries, sdaSdaa]
  have hf : cut 16 (sdaSdaa.format (lit "sda")) = lit "sda" := by
    have hp : '%' ∉ lit "sda" := by simp [lit]
    rw [Env.format, expand_plain hp]
    simp [cut, lit]
  intro h
  have h2 : hits sdaSdaa (lit "sda") = 2 := by
    rw [hits, hb]
    simp [found, strncmpEq, lit]
  have hr := (showDiskDetails_spec sdaSdaa (lit "sda") allocScsiDev).1
  rw [hf, h2] at hr
  have h1 := ((h sdaSdaa.wild).1 ⟨_,by rw [hb]; exact List.mem_cons_self,rfl⟩).1
  exact absurd (returns_unique h1 hr) (by decide)

end ScsiCli.ShowDisk
