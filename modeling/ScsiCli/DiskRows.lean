import Mathlib.Data.List.Perm.Basic
import ScsiCli.Listings

/-!
# Rows of the disk listings

A listing is exact when its rows are the entries of its directory whose names
begin with one of its prefixes, each once. The block and the generic devices
always are. The multipath devices are tested by two bytes of a prefix of three,
and the CD-ROM drives have no row at all.
-/

set_option autoImplicit false

namespace ScsiCli.DiskRows
open ScsiCli.RunTrace ScsiCli.ByteString ScsiCli.Records ScsiCli.Machine ScsiCli.DiskUtils
open ScsiCli.Completion ScsiCli.Listings

variable {env : Env}

def beginsWith (w : Str) (e : Dirent) : Bool := w.isPrefixOf e.dName

def rowName : Line → Option Str
  | .row n => n
  | .label _ => none

def rowsOf (env : Env) (m : Tool ℤ) : List Str := (observed lineOf m env).filterMap rowName

/-- One row for each entry that belongs to the listing, and no other row. -/
def Exact (env : Env) (m : Tool ℤ) (path : Str) (belongs : Dirent → Bool) : Prop :=
  (rowsOf env m).Perm (((allEntries env path).filter belongs).map Dirent.dName)

def isBlockDev (e : Dirent) : Bool :=
  beginsWith "sd" e || beginsWith "nvme" e && !beginsWith "nvme-fabrics" e

def isGenericDev (e : Dirent) : Bool := beginsWith "sg" e || beginsWith "ng" e

def isMultipathDev (e : Dirent) : Bool := beginsWith "dm-" e || beginsWith "md" e

def isCdromDev (e : Dirent) : Bool := beginsWith "sr" e || beginsWith "scd" e

theorem beginsWith_iff (w : Str) (e : Dirent) : beginsWith w e = true ↔ w <+: e.dName :=
  List.isPrefixOf_iff_prefix

theorem strncmpEq_beginsWith {w : Str} {n : ℕ} (h : w.length = n) (e : Dirent) :
    strncmpEq e.dName w n = beginsWith w e := by
  rw [Bool.eq_iff_iff, strncmpEq_iff_prefix h, beginsWith_iff]

theorem perm_names_iff {p q : Dirent → Bool} {es : List Dirent}
    (hn : (es.map Dirent.dName).Nodup) :
    ((es.filter p).map Dirent.dName).Perm ((es.filter q).map Dirent.dName) ↔
      ∀ e ∈ es, p e = q e := by
  constructor
  · intro h e he
    have hm : ∀ r : Dirent → Bool, e.dName ∈ (es.filter r).map Dirent.dName ↔ r e = true := by
      intro r
      rw [List.mem_map]
      constructor
      · rintro ⟨x,hx,hxe⟩
        obtain ⟨hxs,hr⟩ := List.mem_filter.mp hx
        rwa [List.inj_on_of_nodup_map hn hxs he hxe] at hr
      · intro hr
        exact ⟨e,List.mem_filter.mpr ⟨he,hr⟩,rfl⟩
    rw [Bool.eq_iff_iff, ← hm p, ← hm q, h.mem_iff]
  · intro h
    rw [List.filter_congr h]

theorem filter_forEachDir {p : Dirent → Bool} (hp : ∀ e, p e = true → e.dName.head? ≠ some '.')
    (es : List Dirent) : (forEachDir es).filter p = es.filter p := by
  rw [forEachDir, List.filter_filter]
  apply List.filter_congr
  intro e _
  cases h : p e with
  | false => rfl
  | true =>
    have hd := hp e h
    have h1 : e.dName ≠ lit "." := by
      intro he
      simp [he, lit] at hd
    have h2 : e.dName ≠ lit ".." := by
      intro he
      simp [he, lit] at hd
    simp [h1, h2]

theorem head_of_initial {w : Str} {c : Char} {e : Dirent} (h : w <+: e.dName)
    (hw : w.head? = some c) : e.dName.head? = some c := by
  obtain ⟨s,hs⟩ := h
  rw [← hs, List.head?_append, hw]
  rfl

theorem rows_listed (label : Str) (es : List Dirent) :
    (listed label es).filterMap rowName = es.map Dirent.dName := by
  rw [listed, List.filterMap_cons_none rfl, List.filterMap_map]
  exact congrFun List.filterMap_eq_map es

theorem rows_listing {body : Dirent → Tool Unit} (hs : ∀ e, Survives (body e) env)
    (ho : ∀ e, observed lineOf (body e) env = [.row (some e.dName)]) (header : Out)
    (hh : lineOf (.out header) = none) (f : Device) (path label : Str) {test : Dirent → Bool}
    (ht : ∀ e, test e = true → e.dName.head? ≠ some '.') :
    rowsOf env (listing f path label header test body) =
      ((allEntries env path).filter test).map Dirent.dName := by
  obtain ⟨hl,-⟩ := prints_listing hs ho header hh f path label test
  simp only [flatMap_filter test fun e => Line.row (some e.dName)] at hl
  rw [rowsOf, hl, allEntries]
  cases env.dir path with
  | none => rfl
  | some l =>
    have hr := rows_listed label ((forEachDir l.entries).filter test)
    simp only [Option.map_some, Option.getD_some, filter_forEachDir ht] at hr ⊢
    exact hr

theorem nodup_allEntries (path : Str) : ((allEntries env path).map Dirent.dName).Nodup := by
  unfold allEntries
  cases env.dir path with
  | none => exact List.nodup_nil
  | some l => exact l.nodup

/-! ## The four listings -/

theorem isSd_eq (e : Dirent) : isSd e = beginsWith "sd" e := strncmpEq_beginsWith (by simp [lit]) e

theorem isNvme_eq (e : Dirent) :
    isNvme e = (beginsWith "nvme" e && !beginsWith "nvme-fabrics" e) := by
  rw [isNvme, strncmpEq_beginsWith (by simp [lit]), strncmpEq_beginsWith (by simp [lit])]

theorem isGeneric_eq (e : Dirent) : isGeneric e = isGenericDev e := by
  rw [isGeneric, strncmpEq_beginsWith (by simp [lit]), strncmpEq_beginsWith (by simp [lit])]
  rfl

theorem isMd_eq (e : Dirent) : isMd e = beginsWith "md" e := strncmpEq_beginsWith (by simp [lit]) e

/-- Only the first two bytes of the prefix are compared. -/
theorem isDm_eq (e : Dirent) : isDm e = beginsWith "dm" e := by
  have h : strncmpEq e.dName (lit "dm-") 2 = strncmpEq e.dName (lit "dm") 2 := by
    simp [strncmpEq, lit]
  rw [isDm, h, strncmpEq_beginsWith (by simp [lit])]

theorem head_of_begins {w : Str} {c : Char} {e : Dirent} (h : beginsWith w e = true)
    (hw : w.head? = some c) (hc : c ≠ '.') : e.dName.head? ≠ some '.' := by
  rw [head_of_initial ((beginsWith_iff w e).mp h) hw]
  simpa using hc

theorem isSd_head (e : Dirent) (h : isSd e = true) : e.dName.head? ≠ some '.' := by
  rw [isSd_eq] at h
  exact head_of_begins h (c := 's') (by simp [lit]) (by decide)

theorem isNvme_head (e : Dirent) (h : isNvme e = true) : e.dName.head? ≠ some '.' := by
  rw [isNvme_eq, Bool.and_eq_true] at h
  exact head_of_begins h.1 (c := 'n') (by simp [lit]) (by decide)

theorem isGeneric_head (e : Dirent) (h : isGeneric e = true) : e.dName.head? ≠ some '.' := by
  rw [isGeneric_eq, isGenericDev, Bool.or_eq_true] at h
  rcases h with h | h
  · exact head_of_begins h (c := 's') (by simp [lit]) (by decide)
  · exact head_of_begins h (c := 'n') (by simp [lit]) (by decide)

theorem multipath_head (e : Dirent) (h : (isDm e || isMd e) = true) :
    e.dName.head? ≠ some '.' := by
  rw [isDm_eq, isMd_eq, Bool.or_eq_true] at h
  rcases h with h | h
  · exact head_of_begins h (c := 'd') (by simp [lit]) (by decide)
  · exact head_of_begins h (c := 'm') (by simp [lit]) (by decide)

theorem not_isSd_of_isNvme {e : Dirent} (h : isNvme e = true) : isSd e = false := by
  rw [isNvme_eq, Bool.and_eq_true, beginsWith_iff] at h
  rw [Bool.eq_false_iff, isSd_eq]
  intro hs
  rw [beginsWith_iff] at hs
  have h1 := head_of_initial h.1 (c := 'n') (by simp [lit])
  have h2 := head_of_initial hs (c := 's') (by simp [lit])
  rw [h1] at h2
  exact absurd h2 (by decide)

theorem exact_listGenericDevs : Exact env listGenericDevs DEV_DIR_PATH isGenericDev := by
  have hr := rows_listing (@survives_genericRow env) lines_genericRow .genericDiskHeader rfl
    .listGenericDevs DEV_DIR_PATH "Generic Devices" isGeneric_head
  unfold Exact listGenericDevs
  rw [hr, List.filter_congr fun e _ => isGeneric_eq e]

theorem rows_listBlockDevs : rowsOf env listBlockDevs =
    ((allEntries env SYSFS_BLOCK_PATH).filter isSd).map Dirent.dName ++
      ((allEntries env SYSFS_BLOCK_PATH).filter isNvme).map Dirent.dName := by
  rw [rowsOf, lines_listBlockDevs, allEntries]
  cases env.dir SYSFS_BLOCK_PATH with
  | none => rfl
  | some l =>
    rw [Option.map_some, Option.getD_some, List.filterMap_append, rows_listed, rows_listed,
      filter_forEachDir isSd_head, filter_forEachDir isNvme_head]
    rfl

theorem exact_listBlockDevs : Exact env listBlockDevs SYSFS_BLOCK_PATH isBlockDev := by
  have hb : ∀ e, isBlockDev e = (isSd e || isNvme e) := fun e => by
    rw [isSd_eq, isNvme_eq]
    rfl
  unfold Exact
  rw [rows_listBlockDevs, ← List.map_append]
  apply List.Perm.map
  have hp := List.filter_append_perm isSd ((allEntries env SYSFS_BLOCK_PATH).filter isBlockDev)
  rw [List.filter_filter, List.filter_filter] at hp
  refine List.Perm.trans (List.Perm.of_eq ?_) hp
  congr 1
  · apply List.filter_congr
    intro e _
    rw [hb]
    cases isSd e <;> simp
  · apply List.filter_congr
    intro e _
    rw [hb]
    cases hn : isNvme e with
    | false => cases isSd e <;> simp
    | true => simp [not_isSd_of_isNvme hn]

theorem exact_listMultipathDevs_iff :
    Exact env listMultipathDevs SYSFS_BLOCK_PATH isMultipathDev ↔
      ∀ e ∈ allEntries env SYSFS_BLOCK_PATH,
        beginsWith "dm" e = true → beginsWith "dm-" e = true := by
  have hr := rows_listing (@survives_mpathRow env) lines_mpathRow .mpathDiskHeader rfl
    .listMultipathDevs SYSFS_BLOCK_PATH "Multipath Devices" multipath_head
  have hsub : ∀ e, beginsWith "dm-" e = true → beginsWith "dm" e = true := by
    intro e h
    rw [beginsWith_iff] at h ⊢
    have hd : lit "dm" <+: lit "dm-" := ⟨['-'],by simp [lit]⟩
    exact hd.trans h
  have hmd : ∀ e, beginsWith "md" e = true → beginsWith "dm" e = false := by
    intro e h
    rw [Bool.eq_false_iff]
    intro hd
    rw [beginsWith_iff] at h hd
    have h1 := head_of_initial h (c := 'm') (by simp [lit])
    have h2 := head_of_initial hd (c := 'd') (by simp [lit])
    rw [h1] at h2
    exact absurd h2 (by decide)
  unfold Exact listMultipathDevs
  rw [hr, perm_names_iff (nodup_allEntries SYSFS_BLOCK_PATH)]
  apply forall₂_congr
  intro e _
  rw [isDm_eq, isMd_eq, isMultipathDev]
  cases hm : beginsWith "md" e with
  | true => simp [hmd e hm]
  | false =>
    cases hd : beginsWith "dm" e with
    | true => cases beginsWith "dm-" e <;> simp
    | false =>
      have h := hsub e
      rw [hd] at h
      simpa using h

theorem exact_listCdromDevs_iff : Exact env listCdromDevs DEV_DIR_PATH isCdromDev ↔
    ∀ e ∈ allEntries env DEV_DIR_PATH, isCdromDev e = false := by
  have hr : rowsOf env listCdromDevs = [] := by
    obtain ⟨hl,-⟩ := prints_listing (@survives_cdromRow env) lines_cdromRow .diskHeader rfl
      .listCdromDevs DEV_DIR_PATH "CD-ROM Devices" isCdrom
    rw [rowsOf, listCdromDevs, hl]
    cases env.dir DEV_DIR_PATH <;> simp [rowName]
  unfold Exact
  rw [hr, List.nil_perm, List.map_eq_nil_iff, List.filter_eq_nil_iff]
  simp

def sr0 : Dirent := ⟨lit "sr0",.other,by simp [lit, nul]⟩

def dmraid : Dirent := ⟨lit "dmraid",.other,by simp [lit, nul]⟩

def twoEntries : Env :=
  { Env.bare with
    dir := fun _ => some (Listing.ofEntries [sr0,dmraid] (by simp [sr0, dmraid, lit])
      (by simp [sr0, dmraid, lit]) (by simp [sr0, dmraid, lit])) }

end ScsiCli.DiskRows
