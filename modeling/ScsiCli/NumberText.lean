import ScsiCli.ByteString
import Mathlib.Algebra.Order.Ring.Int

/-!
# Numbers read from text

The C library's integer conversions with automatic base, the decimal `scanf`
conversions and the narrowing of a 64-bit value to `int`. A conversion that
finds no digits yields zero; a value that does not fit saturates.
-/

set_option autoImplicit false

namespace ScsiCli.NumberText
open ScsiCli.ByteString

def isspace (c : Char) : Bool := c = ' ' || (9 ≤ c.toNat && c.toNat ≤ 13)

def digit (base : ℕ) (c : Char) : Option ℕ :=
  let v := if '0' ≤ c && c ≤ '9' then c.toNat-48
    else if 'a' ≤ c && c ≤ 'z' then c.toNat-87
    else if 'A' ≤ c && c ≤ 'Z' then c.toNat-55 else base
  if v < base then some v else none

/-- The value of the leading digits, on top of `acc`, and what follows them. -/
def digits (base : ℕ) : ℕ → Str → ℕ × Str
  | acc, [] => (acc,[])
  | acc, c :: s => match digit base c with
    | some d => digits base (acc*base+d) s
    | none => (acc,c :: s)

def startsDigit (base : ℕ) : Str → Bool
  | c :: _ => (digit base c).isSome
  | [] => false

def sign : Str → Bool × Str
  | '-' :: s => (true,s)
  | '+' :: s => (false,s)
  | s => (false,s)

/-- The digits with the base their prefix asks for: `0x` and a hexadecimal
digit, a leading zero, or neither. -/
def autoDigits (s : Str) : ℕ :=
  match s with
  | '0' :: x :: t => if (x = 'x' || x = 'X') && startsDigit 16 t then (digits 16 0 t).1
      else (digits 8 0 s).1
  | _ => (digits 10 0 s).1

/-- `strtoull(s, &end, 0)`, and `strtoul` where `long` has 64 bits. -/
def strtoull (s : Str) : ℕ :=
  let (neg,t) := sign (s.dropWhile isspace)
  let v := autoDigits t
  if 2^64 ≤ v then 2^64-1 else if neg then (2^64-v) % 2^64 else v

/-- `strtol(s, &end, 0)` where `long` has 64 bits. -/
def strtol (s : Str) : ℤ :=
  let (neg,t) := sign (s.dropWhile isspace)
  let v : ℤ := autoDigits t
  if neg then max (-2^63) (-v) else min (2^63-1) v

/-- The value an `int` keeps of a wider one: its low 32 bits, signed. -/
def int32 (n : ℤ) : ℤ := (n+2^31) % 2^32-2^31

/-- The `uint64_t` a signed value becomes, and likewise the `size_t` an `int` becomes. -/
def uint64 (n : ℤ) : ℕ := (n % 2^64).toNat

def decimal (n : ℤ) : Str :=
  if n < 0 then '-' :: Nat.toDigits 10 n.natAbs else Nat.toDigits 10 n.natAbs

def scanInt (s : Str) : Option (ℤ × Str) :=
  let (neg,t) := sign (s.dropWhile isspace)
  if startsDigit 10 t then
    let (v,rest) := digits 10 0 t
    some (int32 (if neg then max (-2^63) (-(v:ℤ)) else min (2^63-1) (v:ℤ)),rest)
  else none

/-- The conversions that `sscanf(s, "%d:%d:...")` with `n` of them assigns, in order. -/
def scanColon : ℕ → Str → List ℤ
  | 0, _ => []
  | n+1, s => match scanInt s with
    | none => []
    | some (v,':' :: rest) => v :: scanColon n rest
    | some (v,_) => [v]

def scanU64 (s : Str) : Option (ℕ × Str) :=
  let (neg,t) := sign (s.dropWhile isspace)
  if startsDigit 10 t then
    let (v,rest) := digits 10 0 t
    some (if 2^64 ≤ v then 2^64-1 else if neg then (2^64-v) % 2^64 else v,rest)
  else none

def scanU64s : ℕ → Str → List ℕ
  | 0, _ => []
  | n+1, s => match scanU64 s with
    | none => []
    | some (v,rest) => v :: scanU64s n rest

theorem int32_of_range {n : ℤ} (h : -2^31 ≤ n) (h' : n < 2^31) : int32 n = n := by
  unfold int32
  omega

theorem int32_range (n : ℤ) : -2^31 ≤ int32 n ∧ int32 n < 2^31 := by
  unfold int32
  omega

theorem scanInt_range {s rest : Str} {v : ℤ} (h : scanInt s = some (v,rest)) :
    -2^31 ≤ v ∧ v < 2^31 := by
  unfold scanInt at h
  dsimp only at h
  split at h
  · simp only [Option.some.injEq, Prod.mk.injEq] at h
    rw [← h.1]
    exact int32_range _
  · cases h

theorem scanColon_range {n : ℕ} {s : Str} {v : ℤ} (h : v ∈ scanColon n s) :
    -2^31 ≤ v ∧ v < 2^31 := by
  induction n generalizing s with
  | zero => cases h
  | succ n ih =>
    unfold scanColon at h
    split at h
    · cases h
    · next w rest hs =>
      rcases List.mem_cons.mp h with rfl | h
      · exact scanInt_range hs
      · exact ih h
    · next w rest hs =>
      obtain rfl := List.mem_singleton.mp h
      exact scanInt_range hs

example : strtoull ['0','x','1','F'] = 31 ∧ strtoull ['0','1','7','8'] = 15 := by decide

example : scanColon 4 ['2',':','0',':','1',':','7'] = [2,0,1,7] := by decide

end ScsiCli.NumberText
