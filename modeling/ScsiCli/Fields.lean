import ScsiCli.NumberReading
import ScsiCli.Printf
import ScsiCli.TextLines

/-!
# Reports of labelled values

A field stands on a line of its own: a label, a colon and a value, with blanks
and tabs around them. The formats of a report are looked at once; a reader of
its text then has the labels and the values, whatever the values are.
-/

set_option autoImplicit false

namespace ScsiCli.Fields
open ScsiCli.ByteString ScsiCli.NumberText ScsiCli.NumberReading ScsiCli.Printf
open ScsiCli.TextLines

def blank (c : Char) : Bool := c = ' ' || c = '\t'

/-- A line is a field if it begins with a blank and has a colon. -/
def readField (l : Str) : Option (Str × Str) :=
  if l.head? = some ' ' ∧ ':' ∈ l then
    some (strip blank (l.takeWhile (· ≠ ':')),strip blank ((l.dropWhile (· ≠ ':')).drop 1))
  else none

def readFields (t : Str) : List (Str × Str) := readLines readField t

/-! ## One line -/

structure Format where
  label : Str
  gap : Str
  conv : Piece
  tail : Str

def Format.pieces (F : Format) : List Piece :=
  F.label.map .char ++ .char ':' ::
    (F.gap.map .char ++ F.conv :: (F.tail.map .char ++ [.char '\n']))

structure Format.Plain (F : Format) : Prop where
  begins : F.label.head? = some ' '
  no_colon : ':' ∉ F.label
  no_newline : '\n' ∉ F.label ∧ '\n' ∉ F.tail
  gap : ∀ c ∈ F.gap, blank c = true

def convText : Piece → Arg → Option Str
  | .int sp, .int n => some (intText sp n)
  | .uint sp, .uint n => some (uintText sp n)
  | .hex sp, .uint n => some (hexNumberText sp n)
  | .str sp, .str s => some (strText sp s)
  | _, _ => none

theorem render_conv {c : Piece} {a : Arg} {v : Str} (h : convText c a = some v) (ps : List Piece)
    (as : List Arg) : render (c :: ps) (a :: as) = (render ps as).map (v ++ ·) := by
  unfold convText at h
  split at h <;> first | obtain rfl := Option.some.inj h | cases h
  · exact render_int _ _ _ _
  · exact render_uint _ _ _ _
  · exact render_hex _ _ _ _
  · exact render_str _ _ _ _

theorem render_chars (s : Str) (ps : List Piece) (as : List Arg) :
    render (s.map .char ++ ps) as = (render ps as).map (s ++ ·) := by
  induction s with
  | nil => simp
  | cons c s ih =>
    rw [List.map_cons, List.cons_append, render_char, ih]
    cases render ps as <;> simp

theorem printf_format {f : Str} {F : Format} (hf : Printf.pieces none f = some F.pieces) {a : Arg}
    {v : Str} (hv : convText F.conv a = some v) : printf f [a] =
      some ((F.label ++ ':' :: (F.gap ++ (v ++ F.tail))) ++ ['\n']) := by
  rw [printf_of_pieces hf, Format.pieces, render_chars, render_char, render_chars, render_conv hv,
    render_chars, render_char, render_nil]
  simp

theorem readFields_format {F : Format} (hF : F.Plain) {v : Str} (hv : '\n' ∉ v) :
    readFields ((F.label ++ ':' :: (F.gap ++ (v ++ F.tail))) ++ ['\n']) =
      [(strip blank F.label,strip blank (v ++ F.tail))] := by
  have hg : '\n' ∉ F.gap := fun hm => absurd (hF.gap _ hm) (by simp [blank])
  have hc : ∀ c ∈ F.label, decide (c ≠ ':') = true := fun c hc =>
    decide_eq_true fun he => hF.no_colon (he ▸ hc)
  have hn : '\n' ∉ F.label ++ ':' :: (F.gap ++ (v ++ F.tail)) := by
    simp [hF.no_newline.1, hF.no_newline.2, hv, hg]
  have hh : (F.label ++ ':' :: (F.gap ++ (v ++ F.tail))).head? = some ' ' := by
    rw [List.head?_append, hF.begins]
    rfl
  rw [readFields, readLines_line (by simp [readField]) hn, readField, if_pos ⟨hh,by simp⟩,
    List.takeWhile_append_of_pos hc, List.dropWhile_append_of_pos hc]
  simp [strip_prepend hF.gap]

/-! ## Fields of a record -/

inductive Member (σ : Type) where
  | signed (f : σ → ℤ)
  | unsigned (f : σ → ℕ)
  | hex (f : σ → ℕ)
  | text (f : σ → Option Str)

variable {σ : Type}

def Member.arg (s : σ) : Member σ → Arg
  | .signed f => .int (f s)
  | .unsigned f => .uint (f s)
  | .hex f => .uint (f s)
  | .text f => .str (f s)

def Member.shown (s : σ) : Member σ → Str
  | .signed f => decimal (f s)
  | .unsigned f => Nat.toDigits 10 (f s)
  | .hex f => if f s = 0 then ['0'] else '0' :: 'x' :: Nat.toDigits 16 (f s)
  | .text f => (f s).getD "(null)"

def Member.text? (s : σ) : Member σ → Option (Option Str)
  | .text f => some (f s)
  | _ => none

def Member.takes : Member σ → Piece → Bool
  | .signed _, .int sp => !sp.zero
  | .unsigned _, .uint sp => !sp.zero
  | .hex _, .hex sp => !sp.zero && sp.alt
  | .text _, .str sp => sp.prec = none
  | _, _ => false

/-- A format with the member it is given; `behind` follows the value at once. -/
structure Field (σ : Type) where
  format : Str
  label : Str
  member : Member σ
  behind : Str := []

def Field.print (s : σ) (F : Field σ) : Option Str := printf F.format [F.member.arg s]

def Field.shown (s : σ) (F : Field σ) : Str := F.member.shown s ++ F.behind

def Piece.isChar : Piece → Bool
  | .char _ => true
  | _ => false

def charsOf (ps : List Piece) : Str :=
  ps.filterMap fun p => match p with
    | .char c => some c
    | _ => none

def formatOf (ps : List Piece) : Format :=
  let rest := (ps.dropWhile (· ≠ .char ':')).drop 1
  { label := charsOf (ps.takeWhile (· ≠ .char ':'))
    gap := charsOf (rest.takeWhile Piece.isChar)
    conv := ((rest.dropWhile Piece.isChar).head?).getD (.char ':')
    tail := charsOf ((rest.dropWhile Piece.isChar).drop 1).dropLast }

def Format.plain (F : Format) : Bool :=
  decide (F.label.head? = some ' ') && !F.label.elem ':' && !F.label.elem '\n' &&
    !F.tail.elem '\n' && F.gap.all blank

theorem plain_of_test {F : Format} (h : F.plain = true) : F.Plain := by
  simp only [Format.plain, Bool.and_eq_true, decide_eq_true_eq, Bool.not_eq_true',
    List.elem_eq_contains, List.contains_eq_mem, decide_eq_false_iff_not, List.all_eq_true] at h
  obtain ⟨⟨⟨⟨h1,h2⟩,h3⟩,h4⟩,h5⟩ := h
  exact ⟨h1,h2,⟨h3,h4⟩,h5⟩

def Piece.width : Piece → ℕ
  | .int sp | .uint sp | .hex sp | .str sp => sp.width
  | .char _ => 0

structure Field.Fits (F : Field σ) (P : Format) : Prop where
  read : Printf.pieces none F.format = some P.pieces
  plain : P.Plain
  label : strip blank P.label = F.label
  takes : F.member.takes P.conv = true
  behind : ∃ b, P.tail = F.behind ++ b ∧ ∀ c ∈ b, blank c = true
  flush : F.behind = [] ∨ Piece.width P.conv = 0

def Field.ok (F : Field σ) : Bool :=
  match Printf.pieces none F.format with
  | none => false
  | some ps =>
    let P := formatOf ps
    decide (P.pieces = ps) && P.plain && decide (strip blank P.label = F.label) &&
      F.member.takes P.conv && decide (P.tail.take F.behind.length = F.behind) &&
        (P.tail.drop F.behind.length).all blank &&
          decide (F.behind = [] ∨ Piece.width P.conv = 0)

theorem fits_of_ok {F : Field σ} (h : F.ok = true) : ∃ P, F.Fits P := by
  unfold Field.ok at h
  split at h
  · cases h
  · rename_i ps hp
    simp only [Bool.and_eq_true, decide_eq_true_eq, List.all_eq_true] at h
    obtain ⟨⟨⟨⟨⟨⟨h1,h2⟩,h3⟩,h4⟩,h5⟩,h6⟩,h7⟩ := h
    have ht := List.take_append_drop F.behind.length (formatOf ps).tail
    rw [h5] at ht
    exact ⟨formatOf ps,by rw [hp, h1],plain_of_test h2,h3,h4,⟨_,ht.symm,h6⟩,h7⟩

theorem strip_pad (left : Bool) (w : ℕ) (s : Str) : strip blank (pad left w s) = strip blank s := by
  have hr : ∀ k, ∀ c ∈ List.replicate k ' ', blank c = true := fun k c hc => by
    rw [List.eq_of_mem_replicate hc]
    rfl
  cases left with
  | false => exact strip_prepend (hr _) s
  | true => exact strip_append (hr _) s

theorem newline_not_mem_pad {s : Str} (h : '\n' ∉ s) (left : Bool) (w : ℕ) :
    '\n' ∉ pad left w s := by
  cases left <;> simp [pad, h, List.mem_replicate]

theorem convText_member {m : Member σ} {c : Piece} (h : m.takes c = true) (s : σ) :
    ∃ left, convText c (m.arg s) = some (pad left (Piece.width c) (m.shown s)) := by
  cases m with
  | signed f =>
    cases c with
    | int sp =>
      obtain ⟨left,zero,alt,w,p⟩ := sp
      obtain rfl : zero = false := by simpa [Member.takes] using h
      exact ⟨left,congrArg some (intText_blanks _ _ _ _ _)⟩
    | _ => cases h
  | unsigned f =>
    cases c with
    | uint sp =>
      obtain ⟨left,zero,alt,w,p⟩ := sp
      obtain rfl : zero = false := by simpa [Member.takes] using h
      exact ⟨left,congrArg some (uintText_blanks _ _ _ _ _)⟩
    | _ => cases h
  | hex f =>
    cases c with
    | hex sp =>
      obtain ⟨left,zero,alt,w,p⟩ := sp
      obtain ⟨rfl,rfl⟩ : zero = false ∧ alt = true := by simpa [Member.takes] using h
      exact ⟨left,congrArg some (hexNumberText_blanks _ _ _ _)⟩
    | _ => cases h
  | text f =>
    cases c with
    | str sp =>
      obtain ⟨left,zero,alt,w,p⟩ := sp
      obtain rfl : p = none := by simpa [Member.takes] using h
      exact ⟨left,congrArg some (strText_whole _ _ _ _ _)⟩
    | _ => cases h

theorem read_field {F : Field σ} (h : F.ok = true) {s : σ} (hs : '\n' ∉ F.member.shown s) :
    ∃ t, F.print s = some t ∧ Lines t ∧ readFields t = [(F.label,strip blank (F.shown s))] := by
  obtain ⟨P,hP⟩ := fits_of_ok h
  obtain ⟨left,hv⟩ := convText_member hP.takes s
  obtain ⟨b,hb,hbl⟩ := hP.behind
  refine ⟨_,printf_format hP.read hv,.inr ⟨_,rfl⟩,?_⟩
  rw [readFields_format hP.plain (newline_not_mem_pad hs _ _), hP.label, hb, ← List.append_assoc,
    strip_append hbl, Field.shown]
  rcases hP.flush with hf | hw
  · rw [hf, List.append_nil, List.append_nil, strip_pad]
  · rw [hw, pad_zero]

/-! ## Reports -/

inductive Part (σ : Type) where
  | note (f : Str)
  | field (F : Field σ)

def Part.print (s : σ) : Part σ → Option Str
  | .note f => printf f []
  | .field F => F.print s

def Part.field? : Part σ → Option (Field σ)
  | .note _ => none
  | .field F => some F

def Part.ok : Part σ → Bool
  | .note f => ((printf f []).map fun t => (t.getLast?,readFields t)) = some (some '\n',[])
  | .field F => F.ok

def printParts (s : σ) (ps : List (Part σ)) : Option Str :=
  (ps.mapM (Part.print s)).map List.flatten

def fieldsOf (ps : List (Part σ)) : List (Field σ) := ps.filterMap Part.field?

theorem read_part {p : Part σ} (h : p.ok = true) {s : σ}
    (hs : ∀ F, p.field? = some F → '\n' ∉ F.member.shown s) :
    ∃ t, p.print s = some t ∧ Lines t ∧
      readFields t = p.field?.toList.map fun F => (F.label,strip blank (F.shown s)) := by
  cases p with
  | note f =>
    obtain ⟨t,ht,he⟩ := Option.map_eq_some_iff.mp (of_decide_eq_true h)
    obtain ⟨hl,hr⟩ := Prod.mk.inj he
    obtain ⟨u,hu⟩ := List.getLast?_eq_some_iff.mp hl
    exact ⟨t,ht,.inr ⟨u,hu⟩,hr⟩
  | field F => exact read_field h (hs F rfl)

theorem read_parts {ps : List (Part σ)} (h : ∀ p ∈ ps, p.ok = true) {s : σ}
    (hs : ∀ F ∈ fieldsOf ps, '\n' ∉ F.member.shown s) : ∃ t, printParts s ps = some t ∧ Lines t ∧
      readFields t = (fieldsOf ps).map fun F => (F.label,strip blank (F.shown s)) := by
  induction ps with
  | nil => exact ⟨[],rfl,.inl rfl,readLines_nil (by simp [readField])⟩
  | cons p ps ih =>
    rw [List.forall_mem_cons] at h
    have hf : fieldsOf (p :: ps) = p.field?.toList ++ fieldsOf ps := by
      rw [fieldsOf, List.filterMap_cons]
      cases p.field? <;> rfl
    rw [hf, List.forall_mem_append] at hs
    obtain ⟨t,ht,hl,hr⟩ := read_part h.1 fun F hF => hs.1 F (by simp [hF])
    obtain ⟨u,hu,hlu,hru⟩ := ih h.2 hs.2
    obtain ⟨us,hm,rfl⟩ := Option.map_eq_some_iff.mp hu
    refine ⟨t ++ us.flatten,?_,lines_append hl hlu,?_⟩
    · simp [printParts, List.mapM_cons, ht, hm]
    · rw [readFields] at hr hru ⊢
      rw [readLines_append (by simp [readField]) hl, hr, hru, hf, List.map_append]

def textsOf (s : σ) (ps : List (Part σ)) : List (Option Str) :=
  (fieldsOf ps).filterMap fun F => F.member.text? s

theorem newline_not_mem_shown {m : Member σ} {s : σ}
    (h : ∀ t, m.text? s = some t → '\n' ∉ t.getD "(null)") : '\n' ∉ m.shown s := by
  have hd : ∀ n : ℕ, '\n' ∉ Nat.toDigits 10 n := fun n =>
    (not_mem_toDigits (by omega) (by omega) n).2.1
  have hx : ∀ n : ℕ, '\n' ∉ Nat.toDigits 16 n := fun n =>
    (not_mem_toDigits (by omega) (by omega) n).2.1
  cases m with
  | signed f =>
    rw [Member.shown, decimal]
    split <;> simp [hd]
  | unsigned f => exact hd _
  | hex f =>
    rw [Member.shown]
    split <;> simp [hx]
  | text f => exact h (f s) rfl

/-- A report is read back as its labels, each with what is shown under it. -/
theorem read_report {ps : List (Part σ)} (h : ∀ p ∈ ps, p.ok = true) {s : σ}
    (hs : ∀ t ∈ textsOf s ps, '\n' ∉ t.getD "(null)") : ∃ t, printParts s ps = some t ∧ Lines t ∧
      readFields t = (fieldsOf ps).map fun F => (F.label,strip blank (F.shown s)) :=
  read_parts h fun F hF => newline_not_mem_shown fun t ht =>
    hs t (List.mem_filterMap.mpr ⟨F,hF,ht⟩)

end ScsiCli.Fields
