import ScsiCli.Gatherers

/-!
# Literal copies

A gatherer hands the line it has read to a formatted print as its format. The
module names the places where the result is stored, decides for each of them
when it is the line as it stands, and finds the same answer everywhere but for
two readers that lose bytes on their own.
-/

set_option autoImplicit false

namespace ScsiCli.LiteralCopies
open ScsiCli.RunTrace ScsiCli.ByteString ScsiCli.NumberText ScsiCli.Records ScsiCli.Machine
open ScsiCli.SysfsUtils ScsiCli.DiskUtils ScsiCli.DiskDetails ScsiCli.FcpUtils
open ScsiCli.IscsiUtils ScsiCli.MachineRules

variable {env : Env} {σ : Type}

/-! ## One line of a file -/

structure AttributeLine (l : Str) : Prop where
  short : l.length ≤ 63
  no_nul : nul ∉ l
  no_newline : '\n' ∉ l

def Holds (env : Env) (path l : Str) : Prop :=
  ∃ rest : Str, env.file path = .bytes (l ++ rest) ∧ (rest = [] ∨ rest.head? = some '\n')

theorem lineBytes_append (n : ℕ) {l rest : Str} (h : '\n' ∉ l)
    (hr : rest = [] ∨ rest.head? = some '\n') :
    lineBytes n (l ++ rest) = (l ++ rest.take 1).take n := by
  induction l generalizing n with
  | nil =>
    cases n with
    | zero => rfl
    | succ n =>
      cases rest with
      | nil => rfl
      | cons c rest => simp_all [lineBytes]
  | cons c l ih =>
    cases n with
    | zero => rfl
    | succ n =>
      have hc : c ≠ '\n' := fun hc => h (by simp [hc])
      simp [lineBytes, hc, ih n fun hl => h (by simp [hl])]

theorem all_ne {c : Char} {s : Str} (h : c ∉ s) : ∀ x ∈ s, decide (x ≠ c) = true := by
  intro x hx
  simp only [ne_eq, decide_eq_true_eq]
  rintro rfl
  exact h hx

theorem cString_eq {s : Str} (h : nul ∉ s) : cString s = s := by
  rw [cString, List.takeWhile_eq_self_iff]
  exact all_ne h

/-- The bytes `fgets` delivers of a line: what there is room for, of the line and of the
newline if it is there. -/
theorem fgets_line (size : ℕ) {l rest : Str} (hl : '\n' ∉ l) (hz : nul ∉ l)
    (hr : rest = [] ∨ rest.head? = some '\n') :
    fgets size (some (l ++ rest)) =
      if l ++ rest = [] then none else some ((l ++ rest.take 1).take (size-1)) := by
  cases hb : l ++ rest with
  | nil => rfl
  | cons c b =>
    have hn : nul ∉ (l ++ rest.take 1).take (size-1) := fun hm => by
      rcases List.mem_append.mp (List.mem_of_mem_take hm) with hm | hm
      · exact hz hm
      · rcases hr with rfl | hr
        · simp at hm
        · cases rest <;> simp_all [nul]
    rw [if_neg (by simp), ← hb, ← cString_eq hn, ← lineBytes_append (size-1) hl hr]
    simp [fgets, hb]

/-- The reader takes 63 bytes of a line; only an empty file has none. -/
theorem line_of_text {path l : Str} (hn : '\n' ∉ l) (hz : nul ∉ l) (h : Holds env path l) :
    line env path = some (l.take 63) ∨ l = [] ∧ line env path = none := by
  obtain ⟨rest,hf,hr⟩ := h
  have hs : line env path = (fgets 64 (some (l ++ rest))).map removeNewline := by
    simp [line, stream, hf]
  rw [hs, fgets_line 64 hn hz hr]
  split_ifs with he
  · exact .inr ⟨(List.append_eq_nil_iff.mp he).1,rfl⟩
  · left
    have ht : '\n' ∉ l.take 63 := fun hm => hn (List.mem_of_mem_take hm)
    have hw : removeNewline (l.take 63 ++ (rest.take 1).take (63-l.length)) = l.take 63 := by
      rw [removeNewline, List.takeWhile_append_of_pos (all_ne ht)]
      rcases hr with rfl | hr
      · simp
      · cases rest with
        | nil => cases hr
        | cons c rest =>
          obtain rfl : c = '\n' := by simpa using hr
          cases 63-l.length <;> simp
    rw [Nat.add_one_sub_one, List.take_append, Option.map_some, hw]

theorem line_of_holds {path l : Str} (hl : AttributeLine l) (h : Holds env path l) :
    line env path = some l ∨ l = [] ∧ line env path = none := by
  have ht := line_of_text hl.no_newline hl.no_nul h
  rwa [List.take_of_length_le hl.short] at ht

theorem formatted_of_holds {path l : Str} (hl : AttributeLine l) (h : Holds env path l) :
    ((line env path).map env.format).getD [] = env.format l := by
  rcases line_of_holds hl h with hr | ⟨rfl,hr⟩
  · rw [hr]
    rfl
  · rw [hr]
    simp [Env.format, expand]

theorem format_withWild (w : Wild) (s : Str) :
    (env.withWild w).format s = (expand s).getD (w.text s) := rfl

/-- A copy cut to `k` bytes is the line's for every outcome of an undefined format exactly
when the format is defined and copies itself that far. -/
theorem format_take_iff (k : ℕ) (hk : k ≠ 0) (l : Str) :
    (∀ w, ((env.withWild w).format l).take k = l.take k) ↔
      (expand l).isSome = true ∧ LiteralUpTo k l := by
  cases he : expand l with
  | none =>
    have hl : l ≠ [] := by
      rintro rfl
      simp [expand] at he
    simp only [format_withWild, he, Option.getD_none, Option.isSome_none, Bool.false_eq_true,
      false_and, iff_false, not_forall]
    exact ⟨Wild.silent,fun h => by simp [Wild.silent, List.take_eq_nil_iff, hk, hl] at h⟩
  | some t =>
    simp only [format_withWild, he, Option.getD_some, Option.isSome_some, true_and,
      ← expand_take_iff k he]
    exact ⟨fun h => h Wild.silent,fun h _ => h⟩

theorem take_eq_short_iff {k : ℕ} {l t : Str} (h : l.length < k) : t.take k = l ↔ t = l := by
  constructor
  · intro ht
    have := congrArg List.length ht
    rw [List.length_take] at this
    rwa [List.take_of_length_le (by omega)] at ht
  · rintro rfl
    exact List.take_of_length_le h.le

/-! ## Where lines are stored -/

theorem underDisk_congr {d t : ScsiDeviceInfo} (h : t.diskPath = d.diskPath) :
    underDisk t = underDisk d := by
  funext file
  rw [underDisk, underDisk, h]

structure Site where
  path : Str
  copy : Copy
  gather : Tool (Option Str)

def capacity : Copy → ℕ
  | .bounded size => size
  | .unbounded b => b.size
  | .argument size => size
  | .direct => 0

def diskSites (d : ScsiDeviceInfo) : List Site :=
  [⟨underDisk d "device/vendor",.bounded 32,do let d ← getDiskVendorModel d; pure d.vendor⟩,
   ⟨underDisk d "device/model",.bounded 32,do let d ← getDiskVendorModel d; pure d.model⟩,
   ⟨underDisk d "device/rev",.bounded 32,do let d ← getDiskVendorModel d; pure d.rev⟩,
   ⟨underDisk d "device/model",.bounded 32,do let d ← getNvmeDeviceModel d; pure d.model⟩,
   ⟨underDisk d "device/firmware_rev",.bounded 32,do let d ← getNvmeDeviceModel d; pure d.rev⟩,
   ⟨underDisk d "device/model",.bounded 8,do
      let d ← loadAll (underDisk d) [modelRow 8, vendorRow 8] d
      pure d.model⟩,
   ⟨underDisk d "device/vendor",.bounded 8,do
      let d ← loadAll (underDisk d) [modelRow 8, vendorRow 8] d
      pure d.vendor⟩]

def scsiFile (name file : Str) : Str :=
  cut 1024 (cut 128 (SYSFS_BLOCK_PATH ++ "/" ++ name) ++ "/" ++ file)

def scsiSite (name : Str) (d : ScsiDeviceInfo) (file : Str) (g : ScsiDeviceInfo → Option Str) :
    Site :=
  ⟨scsiFile name file,.bounded 64,do let d ← getSingleScsiDiskDetails name d; pure (g d)⟩

def nvmeFile (name file : Str) : Str :=
  cut 1024 (cut 256 (SYSFS_BLOCK_PATH ++ "/" ++ name) ++ "/" ++ file)

def nvmeSite (name : Str) (d : ScsiDeviceInfo) (file : Str) (g : ScsiDeviceInfo → Option Str) :
    Site :=
  ⟨nvmeFile name file,.bounded 64,do let d ← getSingleNvmeDiskDetails name d; pure (g d)⟩

def detailSites (name : Str) (d : ScsiDeviceInfo) : List Site :=
  [scsiSite name d "device/vendor" (·.vendor), scsiSite name d "device/model" (·.model),
   scsiSite name d "device/rev" (·.rev), scsiSite name d "device/dh_state" (·.state),
   scsiSite name d "device/wwid" (·.wwid), nvmeSite name d "device/model" (·.model),
   nvmeSite name d "device/firmware_rev" (·.rev), nvmeSite name d "device/state" (·.state),
   nvmeSite name d "device/serial" (·.serial), nvmeSite name d "wwid" (·.wwid)]

def nameSites (f : FcDeviceInfo) (r : FcRportInfo) (i : IscsiDevInfo) (s : IscsiSession) :
    List Site :=
  [⟨scsiHostFile f "serial_num",.bounded 128,do
      let f ← loadAll (scsiHostFile f) qlaRows f
      pure f.serialNum⟩,
   ⟨scsiHostFile f "serialnum",.bounded 128,do
      let f ← loadAll (scsiHostFile f) lpfcRows f
      pure f.serialNum⟩,
   ⟨rportFile r "port_name",.bounded 32,do let r ← getRportInfo r; pure r.portName⟩,
   ⟨sessionAttr i "targetname",.bounded 256,do
      let s ← loadAll (sessionAttr i) (sessionRows.take 2) s
      pure s.targetname⟩,
   ⟨sessionFile i "targetname",.unbounded .fillConnectionStr,do
      let i ← loadAllInto .fillConnectionSessionPath (sessionFile i) [targetNameRow] i
      pure i.targetName⟩]

/-- The gatherer stores what the copy makes of the file, and nothing later replaces it. -/
def Stores (site : Site) : Prop :=
  ∀ env v, Returns site.gather env v ↔ v = Copy.text env site.path site.copy

theorem stores_diskSites (d : ScsiDeviceInfo) : ∀ site ∈ diskSites d, Stores site := by
  have hv : ∀ env t, Returns (getDiskVendorModel d) env t ↔ t = loaded env (underDisk d)
      [vendorRow 32, modelRow 32, revRow "device/rev" 32] d := fun env t =>
    returns_loadAll_plain (by simp [vendorRow, modelRow, revRow, Plain]) d t
  have hn : ∀ env t, Returns (getNvmeDeviceModel d) env t ↔ t = loaded env (underDisk d)
      [modelRow 32, revRow "device/firmware_rev" 32] d := fun env t =>
    returns_loadAll_plain (by simp [modelRow, revRow, Plain]) d t
  have he : ∀ a ∈ [modelRow 8, vendorRow 8], Plain a := by simp [modelRow, vendorRow, Plain]
  intro site hs env v
  simp only [diskSites, List.mem_cons, List.not_mem_nil, or_false] at hs
  rcases hs with rfl | rfl | rfl | rfl | rfl | rfl | rfl
  · simp [hv]; rfl
  · simp [hv]; rfl
  · simp [hv]; rfl
  · simp [hn]; rfl
  · simp [hn]; rfl
  · simp only [returns_bind, returns_loadAll_plain he, exists_eq_left, returns_pure]
    rfl
  · simp only [returns_bind, returns_loadAll_plain he, exists_eq_left, returns_pure]
    rfl

theorem plain_queueRows : ∀ a ∈ queueRows, Plain a := by
  simp [queueRows, queueRow, queueText, Plain]

theorem plain_scsiRows : ∀ a ∈ scsiRows, Plain a := by
  simp [scsiRows, textRow, intRow, u64Row, Plain]

theorem plain_nvmeRows : ∀ a ∈ nvmeRows, Plain a := by
  simp [nvmeRows, textRow, intRow, u64Row, Plain]

theorem queueRows_frame {τ : Type} (g : ScsiDeviceInfo → τ)
    (hg : ∀ d q, g { d with qData := q } = g d) (pathOf : Str → Str) (d : ScsiDeviceInfo) :
    g (loaded env pathOf queueRows d) = g d :=
  loaded_frame g (by simp [queueRows, queueRow, queueText, Frames, hg]) d

theorem returns_scsiDetails {τ : Type} (g : ScsiDeviceInfo → τ)
    (hg : ∀ d q, g { d with qData := q } = g d) (name : Str) (d : ScsiDeviceInfo) (v : τ) :
    Returns (do let d ← getSingleScsiDiskDetails name d; pure (g d)) env v ↔
      v = g (loaded env (underDisk (scsiDisk name d)) scsiRows (scsiDisk name d)) := by
  simp only [getSingleScsiDiskDetails, getDiskQueueData, prog_bind_assoc, returns_bind,
    returns_loadAll_plain plain_scsiRows, returns_loadAll_plain plain_queueRows, exists_eq_left,
    returns_print, true_and, exists_const, prog_pure_bind, returns_pure, queueRows_frame g hg]

theorem returns_nvmeDetails {τ : Type} (g : ScsiDeviceInfo → τ)
    (hg : ∀ d q, g { d with qData := q } = g d) (name : Str) (d : ScsiDeviceInfo) (v : τ) :
    Returns (do let d ← getSingleNvmeDiskDetails name d; pure (g d)) env v ↔
      v = g (loaded env (underDisk (nvmeDisk name d)) nvmeRows (nvmeDisk name d)) := by
  simp only [getSingleNvmeDiskDetails, getDiskQueueData, prog_bind_assoc, returns_bind,
    returns_loadAll_plain plain_nvmeRows, returns_loadAll_plain plain_queueRows, exists_eq_left,
    returns_print, true_and, exists_const, prog_pure_bind, returns_pure, queueRows_frame g hg]

theorem stores_detailSites (name : Str) (d : ScsiDeviceInfo) :
    ∀ site ∈ detailSites name d, Stores site := by
  intro site hs env v
  simp only [detailSites, List.mem_cons, List.not_mem_nil, or_false] at hs
  rcases hs with rfl | rfl | rfl | rfl | rfl | rfl | rfl | rfl | rfl | rfl
  · exact returns_scsiDetails _ (fun _ _ => rfl) name d v
  · exact returns_scsiDetails _ (fun _ _ => rfl) name d v
  · exact returns_scsiDetails _ (fun _ _ => rfl) name d v
  · exact returns_scsiDetails _ (fun _ _ => rfl) name d v
  · exact returns_scsiDetails _ (fun _ _ => rfl) name d v
  · exact returns_nvmeDetails _ (fun _ _ => rfl) name d v
  · exact returns_nvmeDetails _ (fun _ _ => rfl) name d v
  · exact returns_nvmeDetails _ (fun _ _ => rfl) name d v
  · exact returns_nvmeDetails _ (fun _ _ => rfl) name d v
  · exact returns_nvmeDetails _ (fun _ _ => rfl) name d v

theorem stores_nameSites (f : FcDeviceInfo) (r : FcRportInfo) (i : IscsiDevInfo)
    (s : IscsiSession) : ∀ site ∈ nameSites f r i s, Stores site := by
  have hq : ∀ a ∈ qlaRows, Plain a := by simp [qlaRows, fcText, Plain]
  have hl : ∀ a ∈ lpfcRows, Plain a := by simp [lpfcRows, fcText, Plain]
  have hr : ∀ a ∈ rportRows, Plain a := by simp [rportRows, rportRow, Plain]
  have ht : ∀ a ∈ sessionRows.take 2, Plain a := by simp [sessionRows, sessText, Plain]
  have hn : ∀ a ∈ [targetNameRow], Plain a := by simp [targetNameRow, Plain]
  intro site hs env v
  simp only [nameSites, List.mem_cons, List.not_mem_nil, or_false] at hs
  rcases hs with rfl | rfl | rfl | rfl | rfl
  · simp only [returns_bind, returns_loadAll_plain hq, exists_eq_left, returns_pure]
    rfl
  · simp only [returns_bind, returns_loadAll_plain hl, exists_eq_left, returns_pure]
    rfl
  · simp only [getRportInfo, returns_bind, returns_loadAll_plain hr, exists_eq_left, returns_pure]
    rfl
  · simp only [returns_bind, returns_loadAll_plain ht, exists_eq_left, returns_pure]
    rfl
  · simp only [returns_bind, returns_loadAllInto, returns_loadAll_plain hn, exists_eq_left,
      returns_pure]
    rfl

/-- All the places whose string is what the shared reader and one formatted print make of a line. -/
def sites (name : Str) (d : ScsiDeviceInfo) (f : FcDeviceInfo) (r : FcRportInfo)
    (i : IscsiDevInfo) (s : IscsiSession) : List Site :=
  diskSites d ++ detailSites name d ++ nameSites f r i s

theorem stores_sites {name : Str} {d : ScsiDeviceInfo} {f : FcDeviceInfo} {r : FcRportInfo}
    {i : IscsiDevInfo} {s : IscsiSession} {site : Site} (h : site ∈ sites name d f r i s) :
    Stores site := by
  rcases List.mem_append.mp h with h | h
  · rcases List.mem_append.mp h with h | h
    · exact stores_diskSites d site h
    · exact stores_detailSites name d site h
  · exact stores_nameSites f r i s site h

theorem copy_sites {name : Str} {d : ScsiDeviceInfo} {f : FcDeviceInfo} {r : FcRportInfo}
    {i : IscsiDevInfo} {s : IscsiSession} {site : Site} (h : site ∈ sites name d f r i s) :
    (∃ n, 2 ≤ n ∧ site.copy = .bounded n) ∨ ∃ b, 65 ≤ b.size ∧ site.copy = .unbounded b := by
  simp only [sites, diskSites, detailSites, nameSites, scsiSite, nvmeSite, List.cons_append,
    List.nil_append, List.mem_cons, List.not_mem_nil, or_false] at h
  rcases h with rfl | rfl | rfl | rfl | rfl | rfl | rfl | rfl | rfl | rfl | rfl | rfl | rfl |
    rfl | rfl | rfl | rfl | rfl | rfl | rfl | rfl | rfl
  all_goals first | exact .inl ⟨_,by decide,rfl⟩ | exact .inr ⟨_,by decide,rfl⟩

/-! ## Where the copy is literal -/

/-- Whatever an undefined format yields, the stored string is the line, cut to the array. -/
def Literal (env : Env) (site : Site) (l : Str) : Prop :=
  ∀ w, Returns site.gather (env.withWild w) (some (cut (capacity site.copy) l))

/-- The format is defined and no percent sign is lost among the bytes that are kept. -/
def Safe (size : ℕ) (l : Str) : Prop := (expand l).isSome = true ∧ LiteralUpTo (size-1) l

instance (size : ℕ) (l : Str) : Decidable (Safe size l) := inferInstanceAs (Decidable (_ ∧ _))

theorem literal_site_iff {site : Site} (hs : Stores site)
    (hc : (∃ n, 2 ≤ n ∧ site.copy = .bounded n) ∨ ∃ b, 65 ≤ b.size ∧ site.copy = .unbounded b)
    {l : Str} (hl : AttributeLine l) (hf : Holds env site.path l) :
    Literal env site l ↔ Safe (capacity site.copy) l := by
  have htext : ∀ w, Returns site.gather (env.withWild w) (some (cut (capacity site.copy) l)) ↔
      ((env.withWild w).format l).take (capacity site.copy-1) = l.take (capacity site.copy-1) :=
    fun w => by
      have hread := @formatted_of_holds (env.withWild w) _ _ hl hf
      rw [hs]
      rcases hc with ⟨n,-,hc⟩ | ⟨b,hb,hc⟩
      · simp [hc, Copy.text, hread, capacity, cut, eq_comm]
      · have hlen : l.length < b.size-1 := lt_of_le_of_lt hl.short (by omega)
        rw [hc, Copy.text, hread, capacity, Option.some.injEq, cut, List.take_of_length_le hlen.le,
          eq_comm, take_eq_short_iff hlen]
  have hk : capacity site.copy-1 ≠ 0 := by
    rcases hc with ⟨n,hn,hc⟩ | ⟨b,hb,hc⟩ <;> rw [hc, capacity] <;> omega
  simp only [Literal, htext, format_take_iff _ hk, Safe]

/-! ## Two readers of their own -/

def blanks (s : Str) : ℕ := s.length-(s.dropWhile isspace).length

theorem cString_terminated {s : Str} (h : nul ∉ s) : cString (s ++ [nul]) = s := by
  rw [cString, List.takeWhile_append_of_pos (all_ne h)]
  simp

theorem removeSpace_blanks (s : Str) :
    removeSpace s = (memmoveFront (s ++ [nul]) (blanks s) (uint64 (1-blanks s))).map cString := by
  have hp := (List.dropWhile_suffix isspace (l := s)).length_le
  have hn : ((s.dropWhile isspace).length : ℤ)-s.length+1 = 1-blanks s := by
    unfold blanks
    omega
  simp only [removeSpace, hn]
  rfl

/-- Without a blank one byte is moved onto itself, and with one none is. -/
theorem removeSpace_of_blanks_le {s : Str} (hn : nul ∉ s) (hb : blanks s ≤ 1) :
    removeSpace s = some s := by
  have hk : blanks s ≤ s.length := Nat.sub_le _ _
  rw [removeSpace_blanks, memmoveFront, List.length_append, List.length_singleton]
  generalize blanks s = k at hb hk ⊢
  by_cases h0 : k = 0
  · subst h0
    have hu : uint64 (1-(0 : ℕ)) = 1 := by
      unfold uint64
      omega
    rw [hu, if_pos (by omega), List.drop_zero, List.take_append_drop]
    simp [cString_terminated hn]
  · obtain rfl : k = 1 := by omega
    have hu : uint64 (1-(1 : ℕ)) = 0 := by
      unfold uint64
      omega
    rw [hu, if_pos (by omega)]
    simp [cString_terminated hn]

/-- More blanks are counted as a move out of all bounds. -/
theorem removeSpace_eq {s : Str} (hn : nul ∉ s) (hl : s.length < 2^64) :
    removeSpace s = if blanks s ≤ 1 then some s else none := by
  by_cases hb : blanks s ≤ 1
  · rw [if_pos hb, removeSpace_of_blanks_le hn hb]
  · have hk : blanks s ≤ s.length := Nat.sub_le _ _
    have hu : 2^64 < blanks s+uint64 (1-blanks s) := by
      unfold uint64
      omega
    rw [if_neg hb, removeSpace_blanks, memmoveFront, List.length_append, List.length_singleton,
      if_neg (by omega)]
    rfl

theorem nul_not_mem_expand {s t : Str} (h : expand s = some t) (hn : nul ∉ s) : nul ∉ t := by
  fun_induction expand s generalizing t with
  | case1 => simp_all
  | case2 s ih =>
    obtain ⟨t',ht,rfl⟩ := Option.map_eq_some_iff.mp h
    have := ih ht fun hm => hn (by simp [hm])
    simpa [nul] using this
  | case3 => cases h
  | case4 c s hc ih =>
    obtain ⟨t',ht,rfl⟩ := Option.map_eq_some_iff.mp h
    have hc : nul ≠ c := fun he => hn (by simp [he])
    simpa [hc] using ih ht fun hm => hn (by simp [hm])

def portNameOf (f : FcDeviceInfo) : Tool (Option Str) := do
  let f ← loadAllInto .getAdapterDetailsPath (underHost f) [portNameRow] f
  pure f.portName

theorem returns_portNameOf (f : FcDeviceInfo) (v : Option Str) :
    Returns (portNameOf f) env v ↔ ∃ u, v = some u ∧
      removeSpace (((line env (underHost f "port_name")).map env.format).getD []) = some u := by
  have h : ∀ t, Returns (loadAllInto .getAdapterDetailsPath (underHost f) [portNameRow] f) env t ↔
      ∃ u, removeSpace (((line env (underHost f "port_name")).map env.format).getD []) = some u ∧
        t = { f with portName := some u } := fun t => by
    rw [returns_loadAllInto, loadAll, List.foldlM_cons]
    simp only [List.foldlM_nil, returns_bind, returns_load, returns_pure]
    simp [portNameRow, hostText, Attr.text, Copy.text]
  simp only [portNameOf, returns_bind, h, returns_pure]
  constructor
  · rintro ⟨_,⟨u,hu,rfl⟩,rfl⟩
    exact ⟨u,rfl,hu⟩
  · rintro ⟨u,rfl,hu⟩
    exact ⟨_,⟨u,hu,rfl⟩,rfl⟩

theorem portName_literal_iff (f : FcDeviceInfo) {l : Str} (hl : AttributeLine l)
    (hf : Holds env (underHost f "port_name") l) :
    (∀ w, Returns (portNameOf f) (env.withWild w) (some (cut 128 l))) ↔
      '%' ∉ l ∧ blanks l ≤ 1 := by
  have hshort := hl.short
  have hread := fun w : Wild => @formatted_of_holds (env.withWild w) _ _ hl hf
  simp only [returns_portNameOf, hread, cut_of_length_lt (show l.length < 128 by omega),
    Option.some.injEq, exists_eq_left']
  constructor
  · intro h
    cases he : expand l with
    | none =>
      have := h Wild.silent
      simp only [format_withWild, he, Option.getD_none, Wild.silent] at this
      rw [removeSpace_eq (by simp) (by simp)] at this
      obtain rfl : [] = l := by simpa [blanks] using this
      simp [expand] at he
    | some t =>
      have := h Wild.silent
      have hlen := expand_length_le he
      simp only [format_withWild, he, Option.getD_some] at this
      rw [removeSpace_eq (nul_not_mem_expand he hl.no_nul) (by omega)] at this
      split_ifs at this with hb
      obtain rfl := Option.some.inj this
      exact ⟨(expand_fixed_iff he).mp rfl,hb⟩
  · rintro ⟨hp,hb⟩ w
    rw [format_withWild, expand_plain hp, Option.getD_some, removeSpace_eq hl.no_nul (by omega),
      if_pos hb]

/-- A format one byte longer than what is kept of its text has no room for a doubled percent sign. -/
theorem literalUpTo_snoc_iff {l : Str} {c : Char} (hc : c ≠ '%') :
    (expand (l ++ [c])).isSome = true ∧ LiteralUpTo l.length (l ++ [c]) ↔ '%' ∉ l := by
  have hp : '%' ∉ l ++ [c] ↔ '%' ∉ l := by simp [hc.symm]
  constructor
  · rintro ⟨-,h | h⟩
    · exact hp.mp h
    · intro hm
      set q := (l ++ [c]).dropWhile (· ≠ '%') with hq
      have hs : (l ++ [c]).takeWhile (· ≠ '%') ++ q = l ++ [c] := List.takeWhile_append_dropWhile
      set m := ((l ++ [c]).takeWhile (· ≠ '%')).length with hm'
      have hlen : m+q.length = l.length+1 := by
        simpa [hm'] using congrArg List.length hs
      have hle := h.length_le
      rw [List.length_replicate] at hle
      have hpos : m < l.length := by
        have : (l ++ [c]).takeWhile (· ≠ '%') = l.takeWhile (· ≠ '%') := by
          rw [List.takeWhile_append, if_neg]
          intro hl
          have hw := List.takeWhile_eq_self_iff.mp
            ((List.takeWhile_prefix (l := l) (· ≠ '%')).eq_of_length hl)
          simpa using hw '%' hm
        rw [hm', this]
        by_contra hge
        have hl : (l.takeWhile (· ≠ '%')).length = l.length :=
          le_antisymm (List.takeWhile_prefix _).length_le (by omega)
        have hw := List.takeWhile_eq_self_iff.mp ((List.takeWhile_prefix _).eq_of_length hl)
        simpa using hw '%' hm
      have h2 : q = ['%','%'] := by
        have he : List.replicate (2*(l.length-m)) '%' = ['%','%'] := by
          rw [show 2*(l.length-m) = 2 by omega]
          rfl
        rw [he] at h
        exact (h.eq_of_length (by simp; omega)).symm
      rw [h2, show (['%','%'] : Str) = ['%'] ++ ['%'] from rfl, ← List.append_assoc] at hs
      exact hc (by simpa using (List.append_inj' hs rfl).2.symm)
  · intro h
    exact ⟨by simp [expand_plain (hp.mpr h)],.inl (hp.mpr h)⟩

def linkStateOf (f : FcDeviceInfo) : Tool (Option Str) := do
  let o ← loadLinkState f
  pure (o.bind fun f => f.linkState)

theorem returns_linkStateOf (f : FcDeviceInfo) (v : Option Str) :
    Returns (linkStateOf f) env v ↔
      v = ((stream env (scsiHostFile f "link_state")).bind (fgets 64)).map fun p =>
        cut p.length (env.format p) := by
  simp only [linkStateOf, loadLinkState, prog_bind_assoc, returns_bind, returns_fopenRead,
    exists_eq_left]
  cases hs : stream env (scsiHostFile f "link_state") with
  | none => simp
  | some fp => cases hp : fgets 64 fp <;> simp [hp]

def Terminated (env : Env) (path l : Str) : Prop :=
  ∃ rest : Str, env.file path = .bytes (l ++ '\n' :: rest)

/-- A copy told the length of what it copies keeps one byte less. -/
theorem cut_length_ne {l : Str} (hl : l ≠ []) (t : Str) : cut l.length t ≠ l := fun h => by
  have hc := cut_length_le l.length t
  have hp := List.length_pos_of_ne_nil hl
  rw [h] at hc
  omega

theorem linkState_literal_iff (f : FcDeviceInfo) {l : Str} (hl : AttributeLine l)
    (hf : Holds env (scsiHostFile f "link_state") l) :
    (∀ w, Returns (linkStateOf f) (env.withWild w) (some (cut 128 l))) ↔
      Terminated env (scsiHostFile f "link_state") l ∧ l.length ≤ 62 ∧ '%' ∉ l := by
  obtain ⟨rest,hb,hr⟩ := hf
  have hshort := hl.short
  have hread : ∀ w : Wild, (stream (env.withWild w) (scsiHostFile f "link_state")).bind (fgets 64) =
      if l ++ rest = [] then none else some ((l ++ rest.take 1).take 63) := fun w => by
    rw [← fgets_line 64 hl.no_newline hl.no_nul hr]
    simp [stream, Env.withWild, hb]
  simp only [returns_linkStateOf, hread, cut_of_length_lt (show l.length < 128 by omega)]
  rcases hr with rfl | hr
  · have ht : ¬Terminated env (scsiHostFile f "link_state") l := by
      rintro ⟨r,he⟩
      simp [hb] at he
    refine iff_of_false (fun h => ?_) fun h => ht h.1
    have h0 := h Wild.silent
    by_cases he : l = []
    · simp [he] at h0
    · rw [if_neg (by simpa using he), List.take_nil, List.append_nil, List.take_of_length_le hshort,
        Option.map_some, Option.some.injEq] at h0
      exact cut_length_ne he _ h0.symm
  · obtain ⟨r,rfl⟩ : ∃ r, rest = '\n' :: r := by
      cases rest <;> simp_all
    have hne : l ++ '\n' :: r ≠ [] := by simp
    have ht : Terminated env (scsiHostFile f "link_state") l := ⟨r,hb⟩
    by_cases h62 : l.length ≤ 62
    · have hp : (l ++ List.take 1 ('\n' :: r)).take 63 = l ++ ['\n'] :=
        List.take_of_length_le (by simp; omega)
      simp only [if_neg hne, hp, Option.map_some, Option.some.injEq, ht, h62, true_and]
      have hc : ∀ t, cut (l ++ ['\n']).length t = t.take l.length := by simp [cut]
      have hk : l = (l ++ ['\n']).take l.length := by simp
      by_cases h0 : l.length = 0
      · obtain rfl := List.length_eq_zero_iff.mp h0
        simp [cut]
      · rw [← literalUpTo_snoc_iff (show '\n' ≠ '%' by decide), ← format_take_iff _ h0]
        apply forall_congr'
        intro w
        rw [hc, ← hk, eq_comm]
    · refine iff_of_false (fun h => ?_) fun h => h62 h.2.1
      have hp : (l ++ List.take 1 ('\n' :: r)).take 63 = l := by
        rw [List.take_append_of_le_length (by omega), List.take_of_length_le hshort]
      have h0 := h Wild.silent
      rw [if_neg hne, hp, Option.map_some, Option.some.injEq] at h0
      exact cut_length_ne (by rintro rfl; simp at h62) _ h0.symm

/-! ## The name of the disk -/

theorem diskName_literal_iff (arg : Str) :
    (∀ w, Returns (diskNameOf (some arg)) (env.withWild w) (cut 16 arg)) ↔ Safe 16 arg := by
  rw [Safe, ← @format_take_iff env _ (by decide)]
  simp [diskNameOf, cut, eq_comm]

/-! ## All of them -/

theorem literal_copies_iff (env : Env) (name : Str) (d : ScsiDeviceInfo) (f : FcDeviceInfo)
    (r : FcRportInfo) (i : IscsiDevInfo) (s : IscsiSession) (arg : Str) {l : Str}
    (hl : AttributeLine l) :
    (∀ site ∈ sites name d f r i s, Holds env site.path l →
      (Literal env site l ↔ Safe (capacity site.copy) l)) ∧
    (Holds env (underHost f "port_name") l →
      ((∀ w, Returns (portNameOf f) (env.withWild w) (some (cut 128 l))) ↔
        '%' ∉ l ∧ blanks l ≤ 1)) ∧
    (Holds env (scsiHostFile f "link_state") l →
      ((∀ w, Returns (linkStateOf f) (env.withWild w) (some (cut 128 l))) ↔
        Terminated env (scsiHostFile f "link_state") l ∧ l.length ≤ 62 ∧ '%' ∉ l)) ∧
    ((∀ w, Returns (diskNameOf (some arg)) (env.withWild w) (cut 16 arg)) ↔ Safe 16 arg) :=
  ⟨fun _ hs hf => literal_site_iff (stores_sites hs) (copy_sites hs) hl hf,
    portName_literal_iff f hl,linkState_literal_iff f hl,diskName_literal_iff arg⟩

def filesHolding (b : Str) : Env := { Env.bare with file := fun _ => .bytes b }

theorem filesHolding_line {l : Str} (path : Str) : Holds (filesHolding (l ++ ['\n'])) path l :=
  ⟨['\n'],rfl,.inr rfl⟩

theorem acme_literal :
    (∀ site ∈ sites (lit "sda") {} (fcHost (lit "host0")) {} (iscsiHost (lit "host0"))
        Env.bare.mallocSession,
      Literal (filesHolding (lit "ACME" ++ ['\n'])) site (lit "ACME")) ∧
    (∀ w, Returns (portNameOf (fcHost (lit "host0")))
      ((filesHolding (lit "ACME" ++ ['\n'])).withWild w) (some (cut 128 (lit "ACME")))) ∧
    (∀ w, Returns (linkStateOf (fcHost (lit "host0")))
      ((filesHolding (lit "ACME" ++ ['\n'])).withWild w) (some (cut 128 (lit "ACME")))) ∧
    ∀ w, Returns (diskNameOf (some (lit "sda")))
      ((filesHolding (lit "ACME" ++ ['\n'])).withWild w) (cut 16 (lit "sda")) := by
  obtain ⟨hs,hp,hk,hd⟩ := literal_copies_iff (filesHolding (lit "ACME" ++ ['\n'])) (lit "sda") {}
    (fcHost (lit "host0")) {} (iscsiHost (lit "host0")) Env.bare.mallocSession (lit "sda")
    (l := lit "ACME") ⟨by simp [lit],by simp [lit, nul],by simp [lit]⟩
  have hf := fun path => @filesHolding_line (lit "ACME") path
  refine ⟨fun site h => (hs site h (hf _)).mpr ?_,(hp (hf _)).mpr ?_,(hk (hf _)).mpr ?_,
    hd.mpr ?_⟩
  · exact ⟨by simp [expand_plain, lit],.inl (by simp [lit])⟩
  · exact ⟨by simp [lit],by decide +kernel⟩
  · exact ⟨⟨[],rfl⟩,by simp [lit],by simp [lit]⟩
  · exact ⟨by simp [expand_plain, lit],.inl (by simp [lit])⟩

theorem doubled_percent_not_literal :
    AttributeLine (lit "50%%") ∧
      ∃ site ∈ sites (lit "sda") {} (fcHost (lit "host0")) {} (iscsiHost (lit "host0"))
        Env.bare.mallocSession,
      Holds (filesHolding (lit "50%%" ++ ['\n'])) site.path (lit "50%%") ∧
        ¬Literal (filesHolding (lit "50%%" ++ ['\n'])) site (lit "50%%") := by
  have hl : AttributeLine (lit "50%%") := ⟨by simp [lit],by simp [lit, nul],by simp [lit]⟩
  have hm : (diskSites {}).head (by simp [diskSites]) ∈ sites (lit "sda") {}
      (fcHost (lit "host0")) {} (iscsiHost (lit "host0")) Env.bare.mallocSession := by
    simp [sites, diskSites]
  refine ⟨hl,_,hm,filesHolding_line _,fun h => ?_⟩
  have hs := (literal_site_iff (stores_sites hm) (copy_sites hm) hl (filesHolding_line _)).mp h
  exact (by decide +kernel : ¬Safe 32 (lit "50%%")) hs

end ScsiCli.LiteralCopies
