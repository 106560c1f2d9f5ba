import ScsiCli.IscsiRows

/-!
# The two readers of sysfs

Every attribute is read with `fgets` into an array of the reader's own; the
reader beside it takes a whole file with one `read` into the caller's array.
On a line that fits both leave the same string. On a longer one the first
keeps what it has and the second fails.
-/

set_option autoImplicit false

namespace ScsiCli.SysfsReaders
open ScsiCli.RunTrace ScsiCli.ByteString ScsiCli.Machine ScsiCli.SysfsUtils
open ScsiCli.MachineRules ScsiCli.LiteralCopies ScsiCli.IscsiRows

variable {env : Env}

/-! ## The stream reader -/

def beforeEnd (b : Str) : Str := b.takeWhile fun c => c ≠ '\n' && c ≠ nul

theorem removeNewline_cString (b : Str) : removeNewline (cString b) = beforeEnd b := by
  induction b with
  | nil => rfl
  | cons c b ih =>
    by_cases hz : c = nul
    · simp [cString, removeNewline, beforeEnd, hz]
    · rw [cString_cons hz]
      by_cases hn : c = '\n'
      · simp [removeNewline, beforeEnd, hn]
      · rw [removeNewline_cons hn, ih]
        simp [beforeEnd, hz, hn]

theorem beforeEnd_take (n : ℕ) (b : Str) : (beforeEnd b).take n = beforeEnd (b.take n) := by
  induction b generalizing n with
  | nil => simp [beforeEnd]
  | cons c b ih =>
    cases n with
    | zero => rfl
    | succ n =>
      have hi := ih n
      simp only [beforeEnd, List.take_succ_cons, List.takeWhile_cons] at hi ⊢
      split
      · rw [List.take_succ_cons, hi]
      · rfl

/-- What the reader makes of a file's bytes: nothing only where there are none. -/
theorem line_of_bytes {path b : Str} (h : env.file path = .bytes b) :
    line env path = if b = [] then none else some (beforeEnd (b.take 63)) := by
  have hr := removeNewline_lineBytes 63 b
  rw [removeNewline_cString b, beforeEnd_take] at hr
  cases b with
  | nil => simp [line, stream, h, fgets]
  | cons c b => simp [line, stream, h, fgets, hr]

/-! ## The raw reader -/

theorem set_terminator {b buf : Str} (x : Char) (h : b.length < buf.length) :
    ∃ rest, (b ++ buf.drop b.length).set b.length x = b ++ x :: rest := by
  cases hd : buf.drop b.length with
  | nil =>
    have := List.drop_eq_nil_iff.mp hd
    omega
  | cons c rest => exact ⟨rest,by simp⟩

theorem cString_stop (l rest : Str) : cString (l ++ nul :: rest) = cString l := by
  induction l with
  | nil => simp [cString]
  | cons c l ih =>
    by_cases hc : c = nul
    · simp [cString, hc]
    · rw [List.cons_append, cString_cons hc, cString_cons hc, ih]

/-- A last newline gives way to the terminator, and no other byte does. -/
theorem cString_set_last (l rest : Str) :
    cString ((l ++ '\n' :: nul :: rest).set l.length nul) = cString l := by
  simp [cString_stop]

theorem beforeEnd_of_one_line {l : Str} (h : '\n' ∉ l) : beforeEnd l = cString l := by
  have hn : '\n' ∉ cString l := fun hm => h ((List.takeWhile_sublist _).mem hm)
  rw [← removeNewline_cString, removeNewline, List.takeWhile_eq_self_iff]
  exact all_ne hn

theorem beforeEnd_newline (l : Str) : beforeEnd (l ++ ['\n']) = beforeEnd l := by
  induction l with
  | nil => simp [beforeEnd]
  | cons c l ih =>
    simp only [beforeEnd, List.cons_append, List.takeWhile_cons] at ih ⊢
    split
    · rw [ih]
    · rfl

/-- The raw reader on a file with room to spare: one terminator after the bytes, and one
in the place of a last newline. -/
theorem returns_load_short {path b : Str} (h : env.file path = .bytes b) (buf : Str) {len : ℕ}
    (hl : b.length < len) (r : ℤ × Str) : Returns (loadSysfsPath path buf len) env r ↔
      r = if b ≠ [] ∧ ((b ++ buf.drop b.length).set b.length nul)[b.length-1]? = some '\n' then
          (0,((b ++ buf.drop b.length).set b.length nul).set (b.length-1) nul)
        else (0,(b ++ buf.drop b.length).set b.length nul) := by
  have hs : stream env path = some (some b) := by simp [stream, h]
  have ht : b.take len = b := List.take_of_length_le (by omega)
  have hi : ¬((b.length : ℤ) < 0 ∨ (len : ℤ) ≤ b.length) := by omega
  simp only [loadSysfsPath, returns_bind, returns_fopenRead, hs, exists_eq_left, readFd,
    returns_fclose, true_and, exists_const, ht, if_neg hi]
  simp only [ne_eq, Int.natCast_eq_zero, List.length_eq_zero_iff, Int.toNat_natCast]
  split_ifs <;> simp

theorem returns_load_long {path b : Str} (h : env.file path = .bytes b) (buf : Str) {len : ℕ}
    (hl : len ≤ b.length) (r : ℤ × Str) : Returns (loadSysfsPath path buf len) env r ↔
      r = (-einval,b.take len ++ buf.drop len) := by
  have hs : stream env path = some (some b) := by simp [stream, h]
  simp [loadSysfsPath, hs, readFd, hl]

theorem load_one_line {path b : Str} (h : env.file path = .bytes b) {buf : Str} {len : ℕ}
    (hl : b.length < len) (hb : buf.length = len) (hne : b ≠ []) (hn : '\n' ∉ b.dropLast) :
    ∃ buf', Returns (loadSysfsPath path buf len) env (0,buf') ∧ cString buf' = beforeEnd b := by
  obtain ⟨rest,hr⟩ := set_terminator nul (show b.length < buf.length by omega)
  have hb' : b = b.dropLast ++ [b.getLast hne] := (List.dropLast_append_getLast hne).symm
  have hi : (b ++ nul :: rest)[b.length-1]? = some (b.getLast hne) := by
    rw [List.getElem?_append_left (by have := List.length_pos_iff.mpr hne; omega),
      ← List.getLast?_eq_getElem?, List.getLast?_eq_some_getLast hne]
  simp only [returns_load_short h buf hl, hr, hi, Option.some.injEq, hne, ne_eq,
    not_false_eq_true, true_and]
  by_cases hc : b.getLast hne = '\n'
  · have hs := cString_set_last b.dropLast rest
    rw [List.length_dropLast, ← beforeEnd_of_one_line hn, ← beforeEnd_newline, ← hc, ← hb'] at hs
    have he : b.dropLast ++ b.getLast hne :: nul :: rest = b ++ nul :: rest := by
      conv_rhs => rw [hb']
      simp
    rw [he] at hs
    exact ⟨_,(if_pos hc).symm,hs⟩
  · have hnb : '\n' ∉ b := by
      rw [hb', List.mem_append, List.mem_singleton]
      exact fun hm => hm.elim hn fun hm => hc hm.symm
    refine ⟨_,(if_neg hc).symm,?_⟩
    rw [cString_stop, beforeEnd_of_one_line hnb]

/-! ## Both -/

def held : Option Str → FileState
  | none => .absent
  | some b => .bytes b

/-- What the first reader and the second, with an array of 64 bytes, make of one content. -/
structure Meet (content p : Option Str) (r : ℤ × Str) : Prop where
  null : p = none ↔ content = none ∨ content = some []
  text : ∀ b s, content = some b → p = some s →
    s = (b.take 63).takeWhile fun c => c ≠ '\n' && c ≠ nul
  same : ∀ b, content = some b → 1 ≤ b.length → b.length ≤ 63 → '\n' ∉ b.dropLast →
    r.1 = 0 ∧ p = some (cString r.2)
  refused : ∀ b, content = some b → 64 ≤ b.length → r.1 = -einval

theorem load_returns {path b : Str} (h : env.file path = .bytes b) (buf : Str) (len : ℕ) :
    ∃ r, Returns (loadSysfsPath path buf len) env r := by
  by_cases hl : len ≤ b.length
  · exact ⟨_,(returns_load_long h buf hl _).mpr rfl⟩
  · exact ⟨_,(returns_load_short h buf (by omega) _).mpr rfl⟩

theorem meet_bytes {path b : Str} (h : env.file path = .bytes b) {buf : Str}
    (hb : buf.length = 64) {r : ℤ × Str} (hr : Returns (loadSysfsPath path buf 64) env r) :
    Meet (some b) (line env path) r := by
  have hp := line_of_bytes h
  constructor
  · rw [hp]
    simp
  · rintro _ s ⟨⟩ hs
    rw [hp] at hs
    split at hs
    · cases hs
    · exact (Option.some.inj hs).symm
  · rintro _ ⟨⟩ h1 h63 hn
    have hne : b ≠ [] := List.length_pos_iff.mp h1
    obtain ⟨buf',hs,hc⟩ := load_one_line h (by omega) hb hne hn
    obtain rfl := returns_unique hr hs
    rw [hp, if_neg hne, List.take_of_length_le h63, hc]
    exact ⟨rfl,rfl⟩
  · rintro _ ⟨⟩ hl
    rw [(returns_load_long h buf hl r).mp hr]

theorem sysfs_readers_meet (env : Env) (path buf : Str) (content : Option Str)
    (hf : env.file path = held content) (hb : buf.length = 64) :
    ∃ p r, Returns (openSysfsStatsFile path) env p ∧ Returns (loadSysfsPath path buf 64) env r ∧
      Meet content p r := by
  cases content with
  | none =>
    have hs : stream env path = none := by simp [stream, hf, held]
    refine ⟨none,(-einval,buf),by simp [line, hs],by simp [loadSysfsPath, hs],?_⟩
    constructor <;> simp
  | some b =>
    obtain ⟨r,hr⟩ := load_returns hf buf 64
    exact ⟨_,r,(returns_openSysfsStatsFile path _).mpr rfl,hr,meet_bytes hf hb hr⟩

def nulFile : Env :=
  { Env.bare with file := fun _ => .bytes ['a',nul,'b','\n'] }

theorem sysfs_readers_meet_nul : ∃ p r, Returns (openSysfsStatsFile "f") nulFile p ∧
    Returns (loadSysfsPath "f" (List.replicate 64 '\n') 64) nulFile r ∧
      Meet (some ['a',nul,'b','\n']) p r :=
  sysfs_readers_meet nulFile "f" _ (some ['a',nul,'b','\n']) rfl (List.length_replicate ..)

end ScsiCli.SysfsReaders
