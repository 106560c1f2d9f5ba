import ScsiCli.LiteralCopies

/-!
# Leading white space

`remove_space` takes the number of bytes it moves from a counter of the blanks
and not from the text behind them. The module says for which strings that move
is the right one.
-/

set_option autoImplicit false

namespace ScsiCli.LeadingSpace
open ScsiCli.ByteString ScsiCli.NumberText ScsiCli.Machine ScsiCli.SysfsUtils
open ScsiCli.LiteralCopies

def removeSpaceReturn (s : Str) : Option (Str × ℤ) :=
  (removeSpace s).map fun u => (u,int32 u.length)

/-- The length of the move before it is taken as a size. -/
def moveLength (s : Str) : ℤ := ((s.dropWhile isspace).length : ℤ)-s.length+1

/-- The blanks are gone, the length is that of the rest, and the move is one that stays
inside the bytes of the buffer. -/
structure Strips (ws t : Str) : Prop where
  leaves : removeSpaceReturn (ws ++ t) = some (t,(t.length : ℤ))
  forward : 0 ≤ moveLength (ws ++ t)
  inside : blanks (ws ++ t)+moveLength (ws ++ t) ≤ ws.length+t.length+1

variable {ws t : Str}

theorem dropWhile_blanks (hw : ∀ c ∈ ws, isspace c = true) (ht : ∀ c ∈ t.head?, isspace c = false) :
    (ws ++ t).dropWhile isspace = t := by
  rw [List.dropWhile_append_of_pos hw]
  cases t with
  | nil => rfl
  | cons c t => exact List.dropWhile_cons_of_neg (by simp [ht c rfl])

theorem blanks_append (hw : ∀ c ∈ ws, isspace c = true) (ht : ∀ c ∈ t.head?, isspace c = false) :
    blanks (ws ++ t) = ws.length := by
  rw [blanks, dropWhile_blanks hw ht, List.length_append]
  omega

theorem moveLength_append (hw : ∀ c ∈ ws, isspace c = true)
    (ht : ∀ c ∈ t.head?, isspace c = false) : moveLength (ws ++ t) = 1-ws.length := by
  rw [moveLength, dropWhile_blanks hw ht, List.length_append]
  omega

theorem removeSpace_unblank (ht : ∀ c ∈ t.head?, isspace c = false) (hn : nul ∉ t) :
    removeSpace t = some t := by
  have hb : blanks t = 0 := @blanks_append [] t (by simp) ht
  exact removeSpace_of_blanks_le hn (by omega)

theorem int32_length_iff (n : ℕ) : int32 n = n ↔ n < 2^31 := by
  unfold int32
  omega

/-- The string is stripped exactly when there is nothing to strip. -/
theorem strips_iff (hw : ∀ c ∈ ws, isspace c = true) (ht : ∀ c ∈ t.head?, isspace c = false)
    (hn : nul ∉ ws ++ t) : Strips ws t ↔ ws = [] ∧ t.length < 2^31 := by
  have hb := blanks_append hw ht
  have hm := moveLength_append hw ht
  constructor
  · intro h
    have hf := h.forward
    rw [hm] at hf
    have hl : ws.length ≠ 1 := by
      intro h1
      have hr := h.leaves
      rw [removeSpaceReturn, removeSpace_of_blanks_le hn (by omega)] at hr
      have he : ws ++ t = t := congrArg Prod.fst (Option.some.inj hr)
      have hlen := congrArg List.length he
      rw [List.length_append] at hlen
      omega
    have h0 : ws = [] := List.eq_nil_of_length_eq_zero (by omega)
    subst h0
    have hr := h.leaves
    rw [List.nil_append, removeSpaceReturn, removeSpace_unblank ht hn] at hr
    simp only [Option.map_some, Option.some.injEq, Prod.mk.injEq, true_and] at hr
    exact ⟨rfl,(int32_length_iff _).mp hr⟩
  · intro h
    have h0 : ws = [] := h.1
    subst h0
    constructor
    · rw [List.nil_append, removeSpaceReturn, removeSpace_unblank ht hn, Option.map_some,
        (int32_length_iff _).mpr h.2]
    · rw [hm]
      simp
    · rw [hb, hm]
      simp

theorem online_stripped : Strips [] (lit "Online") :=
  (@strips_iff [] _ (by simp) (by simp [lit, isspace]) (by simp [lit, nul])).mpr
    ⟨rfl,by simp [lit]⟩

theorem one_blank_stays : ¬Strips [' '] (lit "Online") := by
  intro h
  have hr := h.leaves
  rw [removeSpaceReturn, removeSpace_of_blanks_le (by simp [lit, nul])
    (by simp [blanks, lit, isspace])] at hr
  have he : [' '] ++ lit "Online" = lit "Online" := congrArg Prod.fst (Option.some.inj hr)
  simp [lit] at he

end ScsiCli.LeadingSpace
