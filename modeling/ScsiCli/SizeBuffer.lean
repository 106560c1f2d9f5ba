import Mathlib.Data.List.SplitBy
import ScsiCli.QueueReport
import ScsiCli.SizeRendering

/-!
# Sizes in one buffer

A rendered size is handed over as a reference to the one array that every
rendering is written to. The arguments of a call are evaluated in an order the
language leaves open, and the text is made after all of them: two sizes of one
call are shown alike, as one of the two.
-/

set_option autoImplicit false

namespace ScsiCli.SizeBuffer
open ScsiCli.ByteString ScsiCli.Records ScsiCli.Printing ScsiCli.SizeRendering

/-- The conversions that share a call with the one before them. -/
def continued : List Str :=
  ["Sectors","add_random","nomerges","Segment Size","nr_zones","Write Cache","Write Zeroes"]

def calls (ls : List Line) : List (List Line) :=
  ls.splitBy fun _ l => decide (l.label ∈ continued)

def evaluate (result : Str) (l : Line) : Str :=
  match l.value with
  | .size n => calculateSize n
  | _ => result

/-- A label with its text. A size is read from the array. -/
def printed (result : Str) (l : Line) : Str × Option Str :=
  match l.value with
  | .size _ => (l.label,some result)
  | v => (l.label,v.shows)

/-- One call, with the array before it, what it prints and the array after it. -/
inductive Printf (call : List Line) (result : Str) : List (Str × Option Str) → Str → Prop where
  | evaluated {order : List Line} (h : order.Perm call) :
      Printf call result (call.map (printed (order.foldl evaluate result)))
        (order.foldl evaluate result)

inductive Prints : List (List Line) → Str → List (Str × Option Str) → Str → Prop where
  | done (result : Str) : Prints [] result [] result
  | call {c : List Line} {cs : List (List Line)} {result result' result'' : Str}
      {out rest : List (Str × Option Str)} (h : Printf c result out result')
      (hs : Prints cs result' rest result'') : Prints (c :: cs) result (out ++ rest) result''

def ShowsBoth (q : DiskQueueData) (out : List (Str × Option Str)) : Prop :=
  (lit "WriteSame",some (calculateSize q.writeSameMaxBytes)) ∈ out ∧
    (lit "Write Zeroes",some (calculateSize q.writeZeroesMaxBytes)) ∈ out

/-- Equal sizes, or sizes above the threshold that have one whole number of the same unit. -/
def Alike (a b : ℕ) : Prop :=
  a = b ∨ KB_SIZE < a ∧ KB_SIZE < b ∧ ∃ i, 0 < i ∧ i < bytesSize.length ∧ 0 < a/KB_SIZE^i ∧
    a/KB_SIZE^i = b/KB_SIZE^i ∧ (a/KB_SIZE^i < KB_SIZE ∨ i = 4)

/-! ## Runs -/

theorem labels_printf {c : List Line} {r r' : Str} {out : List (Str × Option Str)}
    (h : Printf c r out r') : out.map Prod.fst = c.map Line.label := by
  cases h with
  | evaluated hp =>
    rw [List.map_map]
    apply List.map_congr_left
    intro l _
    rw [Function.comp_apply, printed]
    split <;> rfl

theorem labels_prints {cs : List (List Line)} {r r' : Str} {out : List (Str × Option Str)}
    (h : Prints cs r out r') : out.map Prod.fst = cs.flatten.map Line.label := by
  induction h with
  | done => rfl
  | call h _ ih => rw [List.map_append, List.flatten_cons, List.map_append, ih, labels_printf h]

theorem prints_append {cs ds : List (List Line)} {r r' : Str} {out : List (Str × Option Str)} :
    Prints (cs ++ ds) r out r' ↔
      ∃ out₁ s out₂, Prints cs r out₁ s ∧ Prints ds s out₂ r' ∧ out = out₁ ++ out₂ := by
  induction cs generalizing r out with
  | nil =>
    constructor
    · intro h
      exact ⟨[],r,out,.done r,h,rfl⟩
    · rintro ⟨out₁,s,out₂,h₁,h₂,rfl⟩
      cases h₁
      exact h₂
  | cons c cs ih =>
    constructor
    · intro h
      cases h with
      | call h hs =>
        obtain ⟨out₁,s,out₂,h₁,h₂,rfl⟩ := ih.mp hs
        exact ⟨_,s,out₂,.call h h₁,h₂,(List.append_assoc _ _ _).symm⟩
    · rintro ⟨out₁,s,out₂,h₁,h₂,rfl⟩
      cases h₁ with
      | call h hs =>
        rw [List.append_assoc]
        exact .call h (ih.mpr ⟨_,s,out₂,hs,h₂,rfl⟩)

/-- Every order can be taken; this is the one of the source. -/
theorem prints_exists (cs : List (List Line)) (r : Str) : ∃ out r', Prints cs r out r' := by
  induction cs generalizing r with
  | nil => exact ⟨[],r,.done r⟩
  | cons c cs ih =>
    obtain ⟨out,r',h⟩ := ih (c.foldl evaluate r)
    exact ⟨_,r',.call (.evaluated (List.Perm.refl c)) h⟩

/-- The sizes of a call are all shown as the one that was evaluated last. -/
theorem foldl_evaluate {order : List Line} (h : ∀ l ∈ order, ∃ n, l.value = .size n)
    (hne : order ≠ []) (r : Str) :
    ∃ l ∈ order, ∃ n, l.value = .size n ∧ order.foldl evaluate r = calculateSize n := by
  obtain ⟨first,l,rfl⟩ := List.eq_nil_or_concat' order |>.resolve_left hne
  obtain ⟨n,hn⟩ := h l (by simp)
  refine ⟨l,by simp,n,hn,?_⟩
  rw [List.foldl_append, List.foldl_cons, List.foldl_nil, evaluate, hn]

/-! ## The last line -/

def writeSame (q : DiskQueueData) : Line := ⟨"WriteSame",.size q.writeSameMaxBytes⟩

def writeZeroes (q : DiskQueueData) : Line := ⟨"Write Zeroes",.size q.writeZeroesMaxBytes⟩

def front (q : DiskQueueData) : List Line := (printScsiQueueData q).take 26

theorem front_append (q : DiskQueueData) :
    printScsiQueueData q = front q ++ [writeSame q,writeZeroes q] := rfl

theorem calls_append (q : DiskQueueData) :
    calls (printScsiQueueData q) = calls (front q) ++ [[writeSame q,writeZeroes q]] := by
  have hf : lit "WriteSame" ∉ continued := by decide +kernel
  have hl : lit "Write Zeroes" ∈ continued := by decide +kernel
  have hlast : calls [writeSame q,writeZeroes q] = [[writeSame q,writeZeroes q]] := by
    apply List.splitBy_of_isChain (by simp)
    simp [writeZeroes, hl]
  rw [front_append, ← hlast]
  apply List.splitBy_append_cons
  simp [writeSame, hf]

theorem front_labels {q : DiskQueueData} {out : List (Str × Option Str)} {r r' : Str}
    (h : Prints (calls (front q)) r out r') :
    lit "WriteSame" ∉ out.map Prod.fst ∧ lit "Write Zeroes" ∉ out.map Prod.fst := by
  have hn := QueueReport.nodup_labels q
  rw [front_append, List.map_append] at hn
  have hd := List.disjoint_of_nodup_append hn
  rw [labels_prints h, calls, List.flatten_splitBy]
  constructor
  · intro hm
    exact hd hm (by simp [writeSame])
  · intro hm
    exact hd hm (by simp [writeZeroes])

/-- One of the two sizes is shown twice. -/
theorem last_printed {q : DiskQueueData} {r r' : Str} {out : List (Str × Option Str)}
    (h : Prints (calls (printScsiQueueData q)) r out r') :
    ∃ t, (t = calculateSize q.writeSameMaxBytes ∨ t = calculateSize q.writeZeroesMaxBytes) ∧
      (∀ u, (lit "WriteSame",some u) ∈ out ↔ u = t) ∧
      ∀ u, (lit "Write Zeroes",some u) ∈ out ↔ u = t := by
  have hne : lit "WriteSame" ≠ lit "Write Zeroes" := by decide +kernel
  rw [calls_append, prints_append] at h
  obtain ⟨out₁,s,out₂,h₁,h₂,rfl⟩ := h
  have hf := front_labels h₁
  have hno : ∀ (label : Str) (u : Str), label ∉ out₁.map Prod.fst →
      (label,some u) ∉ out₁ := fun label u hl hm => hl (List.mem_map_of_mem hm)
  cases h₂ with
  | call h hs =>
    cases hs
    cases h with
    | @evaluated order hp =>
      have hsize : ∀ l ∈ order, ∃ n, l.value = .size n := by
        intro l hl
        rcases List.mem_pair.mp (hp.mem_iff.mp hl) with rfl | rfl
        · exact ⟨_,rfl⟩
        · exact ⟨_,rfl⟩
      have ho : order ≠ [] := by
        rintro rfl
        exact absurd hp.length_eq (by simp)
      obtain ⟨l,hl,n,hv,hr⟩ := foldl_evaluate hsize ho s
      refine ⟨order.foldl evaluate s,?_,fun u => ?_,fun u => ?_⟩
      · rw [hr]
        rcases List.mem_pair.mp (hp.mem_iff.mp hl) with rfl | rfl
        · left
          exact congrArg calculateSize (Conv.size.inj hv).symm
        · right
          exact congrArg calculateSize (Conv.size.inj hv).symm
      · simp [hno _ u hf.1, printed, writeSame, writeZeroes, hne]
      · simp [hno _ u hf.2, printed, writeSame, writeZeroes, hne.symm]

/-! ## Sizes that are shown alike -/

theorem unitIndex_of_quotient {n i : ℕ} (hk : KB_SIZE < n) (hi : i < bytesSize.length)
    (h0 : 0 < n/KB_SIZE^i) (h : n/KB_SIZE^i < KB_SIZE ∨ i = 4) : unitIndex n = i := by
  have hp : 0 < KB_SIZE^i := Nat.pow_pos (by decide)
  have hle := le_unitIndex (by omega) hi (Nat.div_pos_iff.mp h0).2
  have hlt := unitIndex_lt n
  rcases h with h | h
  · have hn : n < KB_SIZE^(i+1) := by
      rw [pow_succ']
      exact Nat.lt_mul_of_div_lt h hp
    have hl : Nat.log KB_SIZE n < i+1 := Nat.log_lt_of_lt_pow (by omega) hn
    unfold unitIndex at hle ⊢
    rw [if_neg (by omega)] at hle ⊢
    omega
  · simp only [bytesSize, List.length_cons, List.length_nil] at hlt
    omega

theorem lt_of_unitIndex_pos {n : ℕ} (h : 0 < unitIndex n) : KB_SIZE < n := by
  unfold unitIndex at h
  split at h
  · omega
  · by_contra hn
    rw [Nat.log_of_lt (by omega)] at h
    omega

theorem alike_iff {a b : ℕ} (ha : a < 2^64) (hb : b < 2^64) :
    calculateSize a = calculateSize b ↔ Alike a b := by
  rw [calculateSize_eq_iff ha hb]
  constructor
  · rintro ⟨hn,hi⟩
    by_cases h0 : unitIndex a = 0
    · left
      rw [number, number, ← hi, h0] at hn
      simpa using hn
    · right
      have hka := lt_of_unitIndex_pos (show 0 < unitIndex a by omega)
      have hkb := lt_of_unitIndex_pos (show 0 < unitIndex b by omega)
      have hpos := Nat.div_pos (pow_unitIndex_le (show a ≠ 0 by omega))
        (Nat.pow_pos (show 0 < KB_SIZE by decide))
      have hc := canonical_number ha (by omega)
      rw [number, number, ← hi] at hn
      exact ⟨hka,hkb,unitIndex a,by omega,unitIndex_lt a,hpos,hn,hc.below⟩
  · rintro (rfl | ⟨hka,hkb,i,-,hi,h0,he,hs⟩)
    · exact ⟨rfl,rfl⟩
    · have hua := unitIndex_of_quotient hka hi h0 hs
      have hub := unitIndex_of_quotient hkb hi (he ▸ h0) (he ▸ hs)
      rw [number, number, hua, hub]
      exact ⟨he,rfl⟩

/-- Both sizes are shown in whatever order they are evaluated exactly when they look alike. -/
theorem two_sizes_iff {q : DiskQueueData} (ha : q.writeSameMaxBytes < 2^64)
    (hb : q.writeZeroesMaxBytes < 2^64) {r r' : Str} {out : List (Str × Option Str)}
    (h : Prints (calls (printScsiQueueData q)) r out r') :
    ShowsBoth q out ↔ Alike q.writeSameMaxBytes q.writeZeroesMaxBytes := by
  obtain ⟨t,ht,hs,hz⟩ := last_printed h
  rw [← alike_iff ha hb, ShowsBoth, hs, hz]
  constructor
  · rintro ⟨h1,h2⟩
    exact h1.trans h2.symm
  · intro he
    rcases ht with rfl | rfl
    · exact ⟨rfl,he.symm⟩
    · exact ⟨he,rfl⟩

def sixtyFour : DiskQueueData := { writeSameMaxBytes := 65536, writeZeroesMaxBytes := 66000 }

theorem sixty_four_shown : ∃ out r', Prints (calls (printScsiQueueData sixtyFour)) [] out r' ∧
    ShowsBoth sixtyFour out := by
  obtain ⟨out,r',h⟩ := prints_exists (calls (printScsiQueueData sixtyFour)) []
  refine ⟨out,r',h,(two_sizes_iff (q := sixtyFour) ?_ ?_ h).mpr (.inr ?_)⟩
  · simp [sixtyFour]
  · simp [sixtyFour]
  · exact ⟨by simp [sixtyFour, KB_SIZE],by simp [sixtyFour, KB_SIZE],1,
      by simp [sixtyFour, KB_SIZE, bytesSize]⟩

def zeroing : DiskQueueData := { writeZeroesMaxBytes := 65536 }

theorem two_sizes_not_shown :
    (∃ out r', Prints (calls (printScsiQueueData zeroing)) [] out r') ∧
      ∀ out r', Prints (calls (printScsiQueueData zeroing)) [] out r' → ¬ShowsBoth zeroing out := by
  constructor
  · exact prints_exists _ _
  · rintro out r' h ⟨h1,h2⟩
    obtain ⟨t,ht,hs,hz⟩ := last_printed h
    have he : calculateSize 0 = calculateSize 65536 := ((hs _).mp h1).trans ((hz _).mp h2).symm
    rcases (alike_iff (by omega) (by omega)).mp he with h0 | ⟨h0,-⟩
    · omega
    · omega

end ScsiCli.SizeBuffer
