import ScsiCli.SessionLuns

/-!
# Addresses of devices

A device's directory lists one directory named by its address. The numbers of
every directory that is passed on the way to it go straight into the record,
as far as they can be read, and stay there when the search fails.
-/

set_option autoImplicit false

namespace ScsiCli.HctlLookup
open ScsiCli.RunTrace ScsiCli.ByteString ScsiCli.NumberText ScsiCli.NumberReading
open ScsiCli.Records ScsiCli.Machine ScsiCli.SysfsUtils ScsiCli.MachineRules ScsiCli.SessionLuns

variable {env : Env}

def fields (d : ScsiDeviceInfo) : List ℤ := [d.host,d.bus,d.target,d.lun]

def numbers (a : SessionLuns.Address) : List ℤ := [a.host,a.channel,a.target,a.lun]

structure Wide (a : SessionLuns.Address) : Prop where
  host : a.host < 2^32
  channel : a.channel < 2^32
  target : a.target < 2^32
  lun : a.lun < 2^64

def hctlPath (d : ScsiDeviceInfo) : Str :=
  cut 256 (lit "/sys/dev/block/" ++ decimal (int32 d.major) ++ lit ":" ++
    decimal (int32 d.minor) ++ lit "/device/scsi_device")

structure Names (e : Dirent) (a : SessionLuns.Address) : Prop where
  dir : e.dType = .dir
  name : e.dName = a.name
  wide : Wide a

def FirstAddress (entries : List Dirent) (a : SessionLuns.Address) : Prop :=
  ∃ before e after, entries = before ++ e :: after ∧ Names e a ∧
    ∀ e' ∈ before, ∀ a', ¬Names e' a'

/-- A success stores the first address and a failure nothing. -/
structure Exact (entries : List Dirent) (d : ScsiDeviceInfo) (r : ℤ) (t : ScsiDeviceInfo) :
    Prop where
  found : r = 0 → ∃ a, FirstAddress entries a ∧ fields t = numbers a
  missed : r = -enodev → fields t = fields d

def readsFour (e : Dirent) : Bool := e.dType = .dir && startsFour e.dName

def readAt (k : ℕ) (entries : List Dirent) : List ℤ :=
  (entries.filter fun e => e.dType = .dir).filterMap fun e => (scanColon 4 e.dName)[k]?

/-- The first directory that begins with four numbers has those of the first address. -/
def FirstFits (entries : List Dirent) : Prop :=
  ∃ e a, entries.find? readsFour = some e ∧ FirstAddress entries a ∧ a.Narrow ∧
    scanColon 4 e.dName = numbers a

/-- No directory begins with four numbers, and the last numbers in each place are those that
were there before. -/
def NothingLeft (entries : List Dirent) (d : ScsiDeviceInfo) : Prop :=
  entries.find? readsFour = none ∧
    ∀ (k : ℕ) (x : ℤ), (readAt k entries).getLast? = some x → (fields d)[k]? = some x

/-! ## The search -/

theorem length_scanColon_le (n : ℕ) (s : Str) : (scanColon n s).length ≤ n := by
  induction n generalizing s with
  | zero => simp [scanColon]
  | succ n ih =>
    rw [scanColon]
    split
    · simp
    · simpa using ih _
    · simp

theorem fields_assignHctl (d : ScsiDeviceInfo) {xs : List ℤ} (h : xs.length ≤ 4) :
    fields (assignHctl d xs) = xs ++ (fields d).drop xs.length := by
  match xs, h with
  | [], _ | [_], _ | [_,_], _ | [_,_,_], _ | [_,_,_,_], _ => rfl

theorem readsFour_iff (e : Dirent) :
    readsFour e = true ↔ e.dType = .dir ∧ (scanColon 4 e.dName).length = 4 := by
  simp [readsFour, startsFour]

theorem getElem?_overwrite (xs f : List ℤ) (k : ℕ) :
    (xs ++ f.drop xs.length)[k]? = xs[k]?.or f[k]? := by
  by_cases hk : k < xs.length
  · rw [List.getElem?_append_left hk, List.getElem?_eq_getElem hk]
    rfl
  · rw [List.getElem?_append_right (by omega), List.getElem?_drop,
      List.getElem?_eq_none (show xs.length ≤ k by omega), Nat.add_sub_cancel' (by omega)]
    rfl

theorem readAt_cons {e : Dirent} (hd : e.dType = .dir) (k : ℕ) (es : List Dirent) :
    (readAt k (e :: es)).getLast? = (readAt k es).getLast?.or (scanColon 4 e.dName)[k]? := by
  have hs : readAt k (e :: es) = (scanColon 4 e.dName)[k]?.toList ++ readAt k es := by
    rw [readAt, List.filter_cons_of_pos (by simpa using hd), List.filterMap_cons]
    cases (scanColon 4 e.dName)[k]? <;> rfl
  rw [hs, List.getLast?_append]
  cases (scanColon 4 e.dName)[k]? <;> rfl

theorem readAt_skip {e : Dirent} (hd : e.dType ≠ .dir) (k : ℕ) (es : List Dirent) :
    readAt k (e :: es) = readAt k es := by
  rw [readAt, List.filter_cons_of_neg (by simpa using hd), readAt]

/-- What was read last in a place is in the field, or else what was there before. -/
theorem hctlLoop_missed {entries : List Dirent} (h : entries.find? readsFour = none)
    (d : ScsiDeviceInfo) : (hctlLoop entries d).1 = false ∧
      ∀ k : ℕ, (fields (hctlLoop entries d).2)[k]? =
        (readAt k entries).getLast?.or (fields d)[k]? := by
  induction entries generalizing d with
  | nil => simp [hctlLoop, readAt]
  | cons e es ih =>
    have hall := List.find?_eq_none.mp h
    have hr : ¬readsFour e = true := hall e (by simp)
    have hs := @ih (List.find?_eq_none.mpr fun e he => hall e (by simp [he]))
    rw [hctlLoop]
    by_cases hd : e.dType = .dir
    · have h4 : ¬(scanColon 4 e.dName).length = 4 := fun h4 => hr ((readsFour_iff e).mpr ⟨hd,h4⟩)
      simp only [hd, h4, ne_eq, not_true_eq_false, if_false]
      constructor
      · exact (hs _).1
      · intro k
        rw [(hs _).2, fields_assignHctl d (length_scanColon_le 4 _), getElem?_overwrite,
          readAt_cons hd, Option.or_assoc]
    · rw [if_pos hd]
      constructor
      · exact (hs d).1
      · intro k
        rw [(hs d).2, readAt_skip hd]

theorem hctlLoop_found {entries : List Dirent} {e : Dirent}
    (h : entries.find? readsFour = some e) (d : ScsiDeviceInfo) :
    (hctlLoop entries d).1 = true ∧ fields (hctlLoop entries d).2 = scanColon 4 e.dName := by
  induction entries generalizing d with
  | nil => cases h
  | cons e' es ih =>
    rw [hctlLoop]
    by_cases hr : readsFour e' = true
    · obtain ⟨hd,h4⟩ := (readsFour_iff e').mp hr
      obtain rfl : e' = e := by simpa [hr] using h
      simp only [hd, h4, ne_eq, not_true_eq_false, if_false, if_true, true_and]
      rw [fields_assignHctl d h4.le, h4]
      simp [fields]
    · rw [List.find?_cons_of_neg hr] at h
      by_cases hd : e'.dType = .dir
      · have h4 : ¬(scanColon 4 e'.dName).length = 4 :=
          fun h4 => hr ((readsFour_iff e').mpr ⟨hd,h4⟩)
        simp only [hd, h4, ne_eq, not_true_eq_false, if_false]
        exact ih h _
      · rw [if_pos hd]
        exact ih h d

theorem returns_getHctlInfo {d : ScsiDeviceInfo} {l : Listing} (h : env.dir (hctlPath d) = some l)
    (p : ℤ × ScsiDeviceInfo) : Returns (getHctlInfo d) env p ↔
      p = (if (hctlLoop l.entries d).1 then 0 else -enodev,(hctlLoop l.entries d).2) := by
  have hp : env.dir (cut 256 (lit "/sys/dev/block/" ++ decimal (int32 d.major) ++ lit ":" ++
      decimal (int32 d.minor) ++ lit "/device/scsi_device")) = some l := h
  simp only [getHctlInfo, returns_bind, returns_opendir, exists_eq_left, hp, Option.map_some,
    returns_closedir, true_and, exists_const, returns_pure]

/-! ## When the search is exact -/

theorem exact_found {entries : List Dirent} {e : Dirent} (h : entries.find? readsFour = some e)
    (d : ScsiDeviceInfo) : Exact entries d 0 (hctlLoop entries d).2 ↔ FirstFits entries := by
  obtain ⟨-,hf⟩ := hctlLoop_found h d
  constructor
  · intro hx
    obtain ⟨a,ha,he⟩ := hx.found rfl
    rw [hf] at he
    have hr : ∀ v ∈ numbers a, v < 2^31 := fun v hv => (scanColon_range (he ▸ hv)).2
    simp only [numbers, List.forall_mem_cons] at hr
    exact ⟨e,a,h,ha,⟨by omega,by omega,by omega,by omega⟩,he⟩
  · rintro ⟨e',a,he',ha,-,hn⟩
    obtain rfl : e = e' := by simpa [h] using he'
    constructor
    · intro _
      exact ⟨a,ha,hf.trans hn⟩
    · intro h0
      simp [enodev] at h0

theorem exact_missed {entries : List Dirent} (h : entries.find? readsFour = none)
    (d : ScsiDeviceInfo) :
    Exact entries d (-enodev) (hctlLoop entries d).2 ↔ NothingLeft entries d := by
  obtain ⟨-,hf⟩ := hctlLoop_missed h d
  constructor
  · intro hx
    constructor
    · exact h
    · intro k x hl
      have hk := hf k
      rw [hx.missed rfl, hl] at hk
      exact hk
  · rintro ⟨-,hl⟩
    constructor
    · intro h0
      simp [enodev] at h0
    · intro _
      apply List.ext_getElem?
      intro k
      rw [hf k]
      cases hr : (readAt k entries).getLast? with
      | none => rfl
      | some x => rw [hl k x hr, Option.some_or]

/-- A search is exact where the first directory with four numbers is as good as the first address,
or where there is none and no number was left that was not there before. -/
theorem hctl_exact_iff {d : ScsiDeviceInfo} {l : Listing} (h : env.dir (hctlPath d) = some l) :
    (∃ r t, Returns (getHctlInfo d) env (r,t) ∧ Exact l.entries d r t) ↔
      FirstFits l.entries ∨ NothingLeft l.entries d := by
  simp only [returns_getHctlInfo h, Prod.mk.injEq]
  cases hf : l.entries.find? readsFour with
  | none =>
    have hn : ¬FirstFits l.entries := by
      rintro ⟨e,a,he,-⟩
      simp [hf] at he
    simp only [(hctlLoop_missed hf d).1, Bool.false_eq_true, if_false, hn, false_or]
    rw [← exact_missed hf d]
    simp
  | some e =>
    have hn : ¬NothingLeft l.entries d := by
      rintro ⟨he,-⟩
      simp [hf] at he
    simp only [(hctlLoop_found hf d).1, if_true, hn, or_false]
    rw [← exact_found hf d]
    simp

/-! ## Directories with one entry -/

theorem readsFour_of_names {e : Dirent} {a : SessionLuns.Address} (h : Names e a) :
    readsFour e = true := by
  rw [readsFour_iff, h.name, scanColon_name]
  exact ⟨h.dir,rfl⟩

def listing (e : Dirent) (h1 : lit "." ≠ e.dName) (h2 : lit ".." ≠ e.dName) : Listing :=
  Listing.ofEntries [e] (by simp) (by simpa using h1) (by simpa using h2)

def everywhere (l : Listing) : Env := { Env.bare with dir := fun _ => some l }

def seven : Dirent := ⟨(SessionLuns.Address.mk 2 0 1 7).name,.dir,by decide +kernel⟩

def wide : Dirent := ⟨(SessionLuns.Address.mk 2 0 1 4294967297).name,.dir,by decide +kernel⟩

def two : Dirent := ⟨lit "5:6",.dir,by decide +kernel⟩

def onlySeven : Listing := listing seven (by decide +kernel) (by decide +kernel)

def onlyWide : Listing := listing wide (by decide +kernel) (by decide +kernel)

def onlyTwo : Listing := listing two (by decide +kernel) (by decide +kernel)

theorem seven_exact : ∃ r t, Returns (getHctlInfo {}) (everywhere onlySeven) (r,t) ∧
    Exact onlySeven.entries {} r t := by
  have hf : onlySeven.entries.find? readsFour = some seven := by decide +kernel
  have hd : ∀ e ∈ [dotEntry,dotdotEntry], readsFour e = false := by decide +kernel
  apply (hctl_exact_iff (d := {}) (l := onlySeven) rfl).mpr
  refine .inl ⟨seven,⟨2,0,1,7⟩,hf,⟨[dotEntry,dotdotEntry],seven,[],rfl,?_,?_⟩,?_,by decide +kernel⟩
  · exact ⟨rfl,rfl,⟨by decide,by decide,by decide,by decide⟩⟩
  · intro e he a hn
    have hr := readsFour_of_names hn
    rw [hd e he] at hr
    cases hr
  · exact ⟨by decide,by decide,by decide,by decide⟩

/-- The wide LUN is stored as another one, and two numbers are stored of no address at all. -/
theorem wide_not_exact :
    Names wide ⟨2,0,1,4294967297⟩ ∧
    (¬∃ r t, Returns (getHctlInfo {}) (everywhere onlyWide) (r,t) ∧ Exact onlyWide.entries {} r t) ∧
    ¬∃ r t, Returns (getHctlInfo {}) (everywhere onlyTwo) (r,t) ∧ Exact onlyTwo.entries {} r t := by
  have hw : onlyWide.entries.find? readsFour = some wide := by decide +kernel
  have ht : onlyTwo.entries.find? readsFour = none := by decide +kernel
  have hr := @returns_getHctlInfo (everywhere onlyWide) {} onlyWide rfl
  have hr' := @returns_getHctlInfo (everywhere onlyTwo) {} onlyTwo rfl
  constructor
  · exact ⟨rfl,rfl,⟨by decide,by decide,by decide,by decide⟩⟩
  constructor
  · rintro ⟨r,t,h,hx⟩
    obtain ⟨h1,hf⟩ := hctlLoop_found hw {}
    rw [hr, h1, if_pos rfl, Prod.mk.injEq] at h
    obtain ⟨rfl,rfl⟩ := h
    obtain ⟨a,⟨before,e,after,hl,hn,-⟩,he⟩ := hx.found rfl
    have hs : scanColon 4 wide.dName = [2,0,1,1] := by decide +kernel
    have hm : ∀ e ∈ onlyWide.entries, e.dName ≠ (SessionLuns.Address.mk 2 0 1 1).name := by
      decide +kernel
    rw [hf, hs] at he
    simp only [numbers, List.cons.injEq, and_true] at he
    obtain ⟨h1,h2,h3,h4⟩ := he
    obtain ⟨ho,c,g,n⟩ := a
    obtain ⟨rfl,rfl,rfl,rfl⟩ : ho = 2 ∧ c = 0 ∧ g = 1 ∧ n = 1 := by
      dsimp only at h1 h2 h3 h4
      omega
    exact hm e (hl ▸ by simp) hn.name
  · rintro ⟨r,t,h,hx⟩
    rw [hr', (hctlLoop_missed ht {}).1, Prod.mk.injEq] at h
    obtain ⟨rfl,rfl⟩ := h
    have hk := hx.missed rfl
    exact absurd hk (by decide +kernel)

end ScsiCli.HctlLookup
