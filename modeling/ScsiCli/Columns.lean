import ScsiCli.Printf
import ScsiCli.TextLines

/-!
# Tables of tabbed columns

A row is its cells with a tab between any two, each padded with blanks. A reader
takes the lines that begin with a mark, cuts them at the tabs and drops the
blanks at the ends of each cell. It gives back what was printed where no cell
has a tab or a newline of its own.
-/

set_option autoImplicit false

namespace ScsiCli.Columns
open ScsiCli.ByteString ScsiCli.NumberText ScsiCli.Printf ScsiCli.TextLines

def trim (s : Str) : Str := strip (· = ' ') s

def tabbed (cells : List Str) : Str := ['\t'].intercalate cells

def readCells (l : Str) : List Str := (l.splitOn '\t').map trim

def readRow (mark : Char) (l : Str) : Option (List Str) :=
  if l.head? = some mark then some (readCells l) else none

/-- The rows of a text, cell by cell. -/
def readTable (mark : Char) (t : Str) : List (List Str) := readLines (readRow mark) t

def Clean (s : Str) : Prop := '\t' ∉ s ∧ '\n' ∉ s

instance (s : Str) : Decidable (Clean s) := inferInstanceAs (Decidable (_ ∧ _))

/-! ## Cells -/

theorem trim_pad (left : Bool) (w : ℕ) (s : Str) : trim (pad left w s) = trim s := by
  have hb : ∀ k, ∀ c ∈ List.replicate k ' ', (fun c : Char => decide (c = ' ')) c = true :=
    fun k c hc => by simp [List.eq_of_mem_replicate hc]
  cases left with
  | false => exact strip_prepend (hb _) s
  | true => exact strip_append (hb _) s

theorem trim_blank (s : Str) : trim (s ++ [' ']) = trim s := strip_append (by simp) s

theorem clean_pad {s : Str} (h : Clean s) (left : Bool) (w : ℕ) : Clean (pad left w s) := by
  have hb : ∀ k, Clean (List.replicate k ' ') := fun k => by
    constructor <;> simp [List.mem_replicate]
  obtain ⟨ht,hn⟩ := hb (w-s.length)
  cases left with
  | false =>
    rw [pad, if_neg (by simp)]
    exact ⟨by simp [ht, h.1],by simp [hn, h.2]⟩
  | true =>
    rw [pad, if_pos rfl]
    exact ⟨by simp [ht, h.1],by simp [hn, h.2]⟩

theorem readCells_tabbed {cells : List Str} (hc : cells ≠ []) (h : ∀ c ∈ cells, Clean c) :
    readCells (tabbed cells) = cells.map trim := by
  rw [readCells, tabbed, List.splitOn_intercalate _ (fun c hm => (h c hm).1) hc]

theorem tabbed_singleton (c : Str) : tabbed [c] = c := by simp [tabbed]

theorem tabbed_cons (c d : Str) (cs : List Str) :
    tabbed (c :: d :: cs) = c ++ '\t' :: tabbed (d :: cs) := by simp [tabbed]

theorem newline_not_mem_tabbed {cells : List Str} (h : ∀ c ∈ cells, Clean c) :
    '\n' ∉ tabbed cells := by
  induction cells with
  | nil => simp [tabbed]
  | cons c cs ih =>
    rw [List.forall_mem_cons] at h
    have hn := ih h.2
    cases cs with
    | nil => simpa [tabbed_singleton] using h.1.2
    | cons d ds =>
      rw [tabbed_cons]
      simp [h.1.2, hn]

/-! ## Lines -/

variable {mark : Char}

@[simp] theorem readTable_nil : readTable mark [] = [] := readLines_nil rfl

theorem readTable_append_newline (s t : Str) :
    readTable mark (s ++ '\n' :: t) = readTable mark s ++ readTable mark t :=
  readLines_append_newline s t

theorem readTable_append {s : Str} (h : Lines s) (t : Str) :
    readTable mark (s ++ t) = readTable mark s ++ readTable mark t := readLines_append rfl h t

theorem readTable_line {l : Str} (h : '\n' ∉ l) :
    readTable mark (l ++ ['\n']) = if l.head? = some mark then [readCells l] else [] := by
  rw [readTable, readLines_line rfl h, readRow]
  by_cases hm : l.head? = some mark <;> simp [hm]

theorem readTable_row {cells : List Str} (hm : (tabbed cells).head? = some mark)
    (h : ∀ c ∈ cells, Clean c) : readTable mark (tabbed cells ++ ['\n']) = [cells.map trim] := by
  have hc : cells ≠ [] := by
    rintro rfl
    simp [tabbed] at hm
  rw [readTable_line (newline_not_mem_tabbed h), if_pos hm, readCells_tabbed hc h]

/-! ## Padded cells -/

/-- A printed cell differs from what it shows by blanks at its ends. -/
structure Padded (t c : Str) : Prop where
  same : trim t = trim c
  clean : Clean c → Clean t

theorem padded_refl (c : Str) : Padded c c := ⟨rfl,fun h => h⟩

theorem padded_pad (left : Bool) (w : ℕ) (c : Str) : Padded (pad left w c) c :=
  ⟨trim_pad left w c,fun h => clean_pad h left w⟩

theorem padded_blank {t c : Str} (h : Padded t c) : Padded (t ++ [' ']) c :=
  ⟨(trim_blank t).trans h.same,fun hc => by
    obtain ⟨ht,hn⟩ := h.clean hc
    exact ⟨by simp [ht],by simp [hn]⟩⟩

theorem head?_tabbed {c : Char} {t : Str} (ts : List Str) :
    (tabbed ((c :: t) :: ts)).head? = some c := by
  cases ts with
  | nil => rw [tabbed_singleton]; rfl
  | cons u us => rw [tabbed_cons]; rfl

theorem readTable_padded {ts cells : List Str} (hm : (tabbed ts).head? = some mark)
    (hp : List.Forall₂ Padded ts cells) (h : ∀ c ∈ cells, Clean c) :
    readTable mark (tabbed ts ++ ['\n']) = [cells.map trim] := by
  have ht : (∀ t ∈ ts, Clean t) ∧ ts.map trim = cells.map trim := by
    clear hm
    induction hp with
    | nil => simp
    | cons hd _ ih =>
      rw [List.forall_mem_cons] at h
      obtain ⟨hc,he⟩ := ih h.2
      exact ⟨by simpa [hd.clean h.1] using hc,by simp [hd.same, he]⟩
  rw [readTable_row hm ht.1, ht.2]

/-! ## Columns of a format -/

inductive Column where
  | text (width : ℕ) (s : Option Str)
  | number (left : Bool) (width : ℕ) (n : ℤ)

def Column.piece : Column → Piece
  | .text w _ => .str ⟨true,false,false,w,none⟩
  | .number left w _ => .int ⟨left,false,false,w,none⟩

def Column.arg : Column → Arg
  | .text _ s => .str s
  | .number _ _ n => .int n

def Column.cell : Column → Str
  | .text _ s => s.getD "(null)"
  | .number _ _ n => decimal n

def Column.shown : Column → Str
  | .text w s => pad true w (s.getD "(null)")
  | .number left w n => pad left w (decimal n)

theorem Column.padded (c : Column) : Padded c.shown c.cell := by
  cases c <;> exact padded_pad _ _ _

def tabs (ps : List Piece) : List Piece := ps.flatMap fun p => [.char '\t',p]

theorem render_tabs (cols : List Column) (ps : List Piece) :
    render (tabs (cols.map Column.piece) ++ ps) (cols.map Column.arg) =
      (render ps []).map ((cols.flatMap fun c => '\t' :: c.shown) ++ ·) := by
  induction cols with
  | nil => simp [tabs]
  | cons c cols ih =>
    have ht : tabs ((c :: cols).map Column.piece) ++ ps =
        .char '\t' :: c.piece :: (tabs (cols.map Column.piece) ++ ps) := rfl
    have hr : render (c.piece :: (tabs (cols.map Column.piece) ++ ps))
        (c.arg :: cols.map Column.arg) =
          (render (tabs (cols.map Column.piece) ++ ps) (cols.map Column.arg)).map
            (c.shown ++ ·) := by
      cases c with
      | text w s => rw [Column.piece, Column.arg, render_str, strText_whole, Column.shown]
      | number left w n => rw [Column.piece, Column.arg, render_int, intText_blanks, Column.shown]
    rw [ht, render_char, List.map_cons, hr, ih]
    cases render ps [] <;> simp

theorem tabbed_flatMap (t : Str) (cols : List Column) :
    tabbed (t :: cols.map Column.shown) = t ++ cols.flatMap fun c => '\t' :: c.shown := by
  induction cols generalizing t with
  | nil => rw [List.map_nil, tabbed_singleton, List.flatMap_nil, List.append_nil]
  | cons c cols ih => rw [List.map_cons, tabbed_cons, ih, List.flatMap_cons, List.cons_append]

theorem printf_columns {f : Str} {first : List Piece} {as : List Arg} {t : Str}
    (cols : List Column) (ps : List Piece)
    (hf : pieces none f = some (first ++ (tabs ps ++ [.char '\n'])))
    (hc : cols.map Column.piece = ps)
    (ht : ∀ qs bs, render (first ++ qs) (as ++ bs) = (render qs bs).map (t ++ ·)) :
    printf f (as ++ cols.map Column.arg) =
      some (tabbed (t :: cols.map Column.shown) ++ ['\n']) := by
  rw [printf_of_pieces hf, ht, ← hc, render_tabs, render_char, render_nil, tabbed_flatMap]
  simp

end ScsiCli.Columns
