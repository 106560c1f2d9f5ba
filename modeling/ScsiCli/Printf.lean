import ScsiCli.NumberText

/-!
# Formats with arguments

The conversions `%d`, `%u`, `%x` and `%s` with their flags and width, and the
precision of a string. A format is first read into pieces and these are then
given their arguments; a format that asks for more than it is given has no text.
-/

set_option autoImplicit false

namespace ScsiCli.Printf
open ScsiCli.ByteString ScsiCli.NumberText

/-- An argument as its conversion takes it, whatever its length. -/
inductive Arg where
  | int (n : ℤ)
  | uint (n : ℕ)
  | str (s : Option Str)

structure Spec where
  left : Bool := false
  zero : Bool := false
  alt : Bool := false
  width : ℕ := 0
  prec : Option ℕ := none
  deriving DecidableEq

inductive Piece where
  | char (c : Char)
  | int (sp : Spec)
  | uint (sp : Spec)
  | hex (sp : Spec)
  | str (sp : Spec)
  deriving DecidableEq

def Spec.read (sp : Spec) (c : Char) : Option Spec :=
  if c = '-' then some { sp with left := true }
  else if c = '#' then some { sp with alt := true }
  else if c = 'l' then some sp
  else if c = '.' then some { sp with prec := some 0 }
  else if '0' ≤ c ∧ c ≤ '9' then
    let d := c.toNat - '0'.toNat
    match sp.prec with
    | some p => some { sp with prec := some (10*p+d) }
    | none =>
      if c = '0' ∧ sp.width = 0 then some { sp with zero := true }
      else some { sp with width := 10*sp.width+d }
  else none

/-- The pieces of a format, outside of a conversion or within one. -/
def pieces : Option Spec → Str → Option (List Piece)
  | none, [] => some []
  | some _, [] => none
  | none, c :: f =>
    if c = '%' then pieces (some {}) f else (pieces none f).map (.char c :: ·)
  | some sp, c :: f =>
    if c = 'd' then (pieces none f).map (.int sp :: ·)
    else if c = 'u' then (pieces none f).map (.uint sp :: ·)
    else if c = 'x' then (pieces none f).map (.hex sp :: ·)
    else if c = 's' then (pieces none f).map (.str sp :: ·)
    else match sp.read c with
      | some sp => pieces (some sp) f
      | none => none

def pad (left : Bool) (width : ℕ) (s : Str) : Str :=
  if left then s ++ List.replicate (width-s.length) ' '
  else List.replicate (width-s.length) ' ' ++ s

/-- Zeros stand between the sign or the prefix and the digits. -/
def digitText (sp : Spec) (front digits : Str) : Str :=
  if sp.zero && !sp.left then
    front ++ List.replicate (sp.width-(front ++ digits).length) '0' ++ digits
  else pad sp.left sp.width (front ++ digits)

def intText (sp : Spec) (n : ℤ) : Str :=
  digitText sp (if n < 0 then ['-'] else []) (Nat.toDigits 10 n.natAbs)

def uintText (sp : Spec) (n : ℕ) : Str := digitText sp [] (Nat.toDigits 10 n)

def hexNumberText (sp : Spec) (n : ℕ) : Str :=
  digitText sp (if sp.alt ∧ n ≠ 0 then ['0','x'] else []) (Nat.toDigits 16 n)

/-- The C library writes a null pointer in words. -/
def strText (sp : Spec) (s : Option Str) : Str :=
  let t := s.getD "(null)"
  pad sp.left sp.width ((sp.prec.map fun p => t.take p).getD t)

def render : List Piece → List Arg → Option Str
  | [], _ => some []
  | .char c :: ps, as => (render ps as).map (c :: ·)
  | .int sp :: ps, .int n :: as => (render ps as).map (intText sp n ++ ·)
  | .uint sp :: ps, .uint n :: as => (render ps as).map (uintText sp n ++ ·)
  | .hex sp :: ps, .uint n :: as => (render ps as).map (hexNumberText sp n ++ ·)
  | .str sp :: ps, .str s :: as => (render ps as).map (strText sp s ++ ·)
  | _, _ => none

def printf (f : Str) (as : List Arg) : Option Str := (pieces none f).bind (render · as)

theorem printf_of_pieces {f : Str} {ps : List Piece} (h : pieces none f = some ps)
    (as : List Arg) : printf f as = render ps as := by
  rw [printf, h]
  rfl

/-! ## Rendering piece by piece -/

theorem render_nil (as : List Arg) : render [] as = some [] := by rw [render]

theorem render_char (c : Char) (ps : List Piece) (as : List Arg) :
    render (.char c :: ps) as = (render ps as).map (c :: ·) := by rw [render]

theorem render_int (sp : Spec) (n : ℤ) (ps : List Piece) (as : List Arg) :
    render (.int sp :: ps) (.int n :: as) = (render ps as).map (intText sp n ++ ·) := by rw [render]

theorem render_str (sp : Spec) (s : Option Str) (ps : List Piece) (as : List Arg) :
    render (.str sp :: ps) (.str s :: as) = (render ps as).map (strText sp s ++ ·) := by rw [render]

@[simp] theorem pad_zero (left : Bool) (s : Str) : pad left 0 s = s := by cases left <;> simp [pad]

theorem render_uint (sp : Spec) (n : ℕ) (ps : List Piece) (as : List Arg) :
    render (.uint sp :: ps) (.uint n :: as) = (render ps as).map (uintText sp n ++ ·) := by
  rw [render]

theorem render_hex (sp : Spec) (n : ℕ) (ps : List Piece) (as : List Arg) :
    render (.hex sp :: ps) (.uint n :: as) = (render ps as).map (hexNumberText sp n ++ ·) := by
  rw [render]

theorem sign_digits (n : ℤ) :
    (if n < 0 then ['-'] else []) ++ Nat.toDigits 10 n.natAbs = decimal n := by
  unfold decimal
  by_cases h : n < 0
  · rw [if_pos h, if_pos h, List.singleton_append]
  · rw [if_neg h, if_neg h, List.nil_append]

theorem intText_blanks (left alt : Bool) (w : ℕ) (p : Option ℕ) (n : ℤ) :
    intText ⟨left,false,alt,w,p⟩ n = pad left w (decimal n) := by
  rw [intText, digitText, if_neg (by simp), sign_digits]

theorem uintText_blanks (left alt : Bool) (w : ℕ) (p : Option ℕ) (n : ℕ) :
    uintText ⟨left,false,alt,w,p⟩ n = pad left w (Nat.toDigits 10 n) := by
  rw [uintText, digitText, if_neg (by simp), List.nil_append]

theorem hexNumberText_blanks (left : Bool) (w : ℕ) (p : Option ℕ) (n : ℕ) :
    hexNumberText ⟨left,false,true,w,p⟩ n =
      pad left w (if n = 0 then ['0'] else '0' :: 'x' :: Nat.toDigits 16 n) := by
  rw [hexNumberText, digitText, if_neg (by simp)]
  by_cases h : n = 0 <;> simp [h]

theorem strText_whole (left z alt : Bool) (w : ℕ) (s : Option Str) :
    strText ⟨left,z,alt,w,none⟩ s = pad left w (s.getD "(null)") := by simp [strText]

example : printf " Scsi%02d: %-5s|%3d|%#llx\n"
    [.int 4, .str (some (lit "ab")), .int (-7), .uint 80] =
      some (lit " Scsi04: ab   | -7|0x50\n") := by
  decide +kernel

end ScsiCli.Printf
