import ScsiCli.PointerRing

/-!
# The intrusive list

The list functions of the utility header, over a store of nodes, against the
sequence they stand for. The head is a node like the others, so that the
pointers an operation writes may coincide; the ring takes every such case at once.
-/

set_option autoImplicit false

namespace ScsiCli.IntrusiveList
open ScsiCli.PointerRing

variable {α : Type} [DecidableEq α]

/-! ## The functions of the header -/

def initListHead (m : Links α) (ptr : α) : Links α := (m.setNext ptr ptr).setPrev ptr ptr

def _listAdd (m : Links α) (entry prev next : α) : Links α :=
  let m := m.setPrev next entry
  let m := m.setNext entry next
  let m := m.setPrev entry prev
  m.setNext prev entry

def listAdd (m : Links α) (entry list : α) : Links α := _listAdd m entry list (m.next list)

def listAddTail (m : Links α) (entry list : α) : Links α := _listAdd m entry (m.prev list) list

/-- The second statement reads the pointers that the first has left. -/
def listDel (m : Links α) (entry : α) : Links α :=
  let m := m.setPrev (m.next entry) (m.prev entry)
  m.setNext (m.prev entry) (m.next entry)

def listEmpty (m : Links α) (list : α) : Bool := m.next list = list

/-- The loop with its two cursors, for as many rounds as there is fuel: the store it leaves
and the entries its body was run on. -/
def safeLoop (list : α) (body : Links α → α → Links α) :
    ℕ → Links α → α → α → Option (Links α × List α)
  | 0, _, _, _ => none
  | n+1, m, entry, tmp =>
    if entry = list then some (m,[])
    else
      let m := body m entry
      (safeLoop list body n m tmp (m.next tmp)).map fun r => (r.1,entry :: r.2)

def listForEachSafe (n : ℕ) (m : Links α) (list : α) (body : Links α → α → Links α) :
    Option (Links α × List α) :=
  safeLoop list body n m (m.next list) (m.next (m.next list))

/-! ## One operation -/

variable {m : Links α} {h x : α} {xs ys zs : List α}

theorem _listAdd_next (m : Links α) (entry prev next q : α) :
    (_listAdd m entry prev next).next q =
      if q = prev then entry else if q = entry then next else m.next q := by
  simp [_listAdd]

theorem _listAdd_prev (m : Links α) (entry prev next q : α) :
    (_listAdd m entry prev next).prev q =
      if q = entry then prev else if q = next then entry else m.prev q := by
  simp [_listAdd]

theorem listDel_next (hx : x ≠ m.next x) (q : α) :
    (listDel m x).next q = if q = m.prev x then m.next x else m.next q := by
  simp [listDel, hx]

theorem listDel_prev (q : α) :
    (listDel m x).prev q = if q = m.next x then m.prev x else m.prev q := by
  simp [listDel]

theorem ring_init (m : Links α) (h : α) : Ring (initListHead m h) h [] := by
  constructor
  · simp
  · simp [PointerRing.Path, initListHead]

theorem ring_listAdd (hr : Ring m h xs) (hx : x ∉ h :: xs) : Ring (listAdd m x h) h (x :: xs) := by
  have hd := List.nodup_cons.mp hr.1
  have hxh : x ≠ h := fun he => hx (by simp [he])
  have hxs : x ∉ xs := fun hm => hx (List.mem_cons_of_mem _ hm)
  have hnx : m.next h ≠ x := by
    intro he
    have hm := next_mem hr.2
    rw [he, List.mem_append, List.mem_singleton] at hm
    exact hm.elim hxs hxh
  constructor
  · have hn : (x :: h :: xs).Nodup := List.nodup_cons.mpr ⟨hx,hr.1⟩
    exact (List.Perm.swap h x xs).nodup hn
  · have hp : Path (listAdd m x h) x xs h := by
      apply path_restart hr.2
      · exact List.nodup_append_comm.mp (by simpa using hr.1)
      · intro s hs
        have hsh : s ≠ h := fun he => hd.1 (he ▸ hs)
        have hsx : s ≠ x := fun he => hxs (he ▸ hs)
        rw [listAdd, _listAdd_next, if_neg hsh, if_neg hsx]
      · intro t ht htn
        have htx : t ≠ x := by
          intro he
          rw [he, List.mem_append, List.mem_singleton] at ht
          exact ht.elim hxs hxh
        rw [listAdd, _listAdd_prev, if_neg htx, if_neg htn]
      · rw [listAdd, _listAdd_next, if_neg hxh, if_pos rfl]
      · rw [listAdd, _listAdd_prev, if_neg hnx, if_pos rfl]
    have hn : (listAdd m x h).next h = x := by rw [listAdd, _listAdd_next, if_pos rfl]
    have hb : (listAdd m x h).prev x = h := by rw [listAdd, _listAdd_prev, if_pos rfl]
    exact ⟨hn,hb,hp⟩

theorem ring_listAddTail (hr : Ring m h xs) (hx : x ∉ h :: xs) :
    Ring (listAddTail m x h) h (xs ++ [x]) := by
  have hxh : x ≠ h := fun he => hx (by simp [he])
  have hxs : x ∉ xs := fun hm => hx (List.mem_cons_of_mem _ hm)
  have hpx : x ≠ m.prev h := fun he => hx (he ▸ prev_mem hr.2)
  constructor
  · have hn : (x :: h :: xs).Nodup := List.nodup_cons.mpr ⟨hx,hr.1⟩
    rw [← List.cons_append, List.nodup_append_comm]
    simpa using hn
  · rw [path_append]
    constructor
    · apply path_retarget hr.2 hr.1
      · intro s hs hsp
        have hsx : s ≠ x := fun he => hx (he ▸ hs)
        rw [listAddTail, _listAdd_next, if_neg hsp, if_neg hsx]
      · intro t ht
        have htx : t ≠ x := fun he => hxs (he ▸ ht)
        have hth : t ≠ h := fun he => (List.nodup_cons.mp hr.1).1 (he ▸ ht)
        rw [listAddTail, _listAdd_prev, if_neg htx, if_neg hth]
      · rw [listAddTail, _listAdd_next, if_pos rfl]
      · rw [listAddTail, _listAdd_prev, if_pos rfl]
    · constructor
      · rw [listAddTail, _listAdd_next, if_neg hpx, if_pos rfl]
      · rw [listAddTail, _listAdd_prev, if_neg (Ne.symm hxh), if_pos rfl]

theorem ring_listDel (hr : Ring m h (ys ++ x :: zs)) : Ring (listDel m x) h (ys ++ zs) := by
  have hd : (h :: ys ++ x :: zs).Nodup := hr.1
  obtain ⟨hdy,hdz,hdis⟩ := List.nodup_append.mp hd
  obtain ⟨hp,hq⟩ := (path_append h ys x zs h).mp hr.2
  have hxn := ne_next hr
  have hpm := prev_mem hp
  have hnm := next_mem hq
  have hpath : Path (listDel m x) h ys (m.next x) := by
    apply path_retarget hp hdy
    · intro s _ hsp
      rw [listDel_next hxn, if_neg hsp]
    · intro t ht
      have htn : t ≠ m.next x := by
        intro he
        rw [← he, List.mem_append, List.mem_singleton] at hnm
        apply hnm.elim
        · intro hm
          exact hdis t (List.mem_cons_of_mem _ ht) t (List.mem_cons_of_mem _ hm) rfl
        · intro hm
          exact (List.nodup_cons.mp hdy).1 (hm ▸ ht)
      rw [listDel_prev, if_neg htn]
    · rw [listDel_next hxn, if_pos rfl]
    · rw [listDel_prev, if_pos rfl]
  constructor
  · have hs : (h :: ys ++ zs).Sublist (h :: ys ++ x :: zs) :=
      (List.Sublist.refl _).append (List.sublist_cons_self _ _)
    exact hs.nodup hd
  · cases zs with
    | nil =>
      rw [hq.1] at hpath
      simpa using hpath
    | cons z zs =>
      rw [hq.1] at hpath
      rw [path_append]
      apply And.intro hpath
      apply path_congr hq.2.2
      · intro s hs
        have hsp : s ≠ m.prev x := by
          intro he
          exact hdis (m.prev x) hpm s (List.mem_cons_of_mem _ hs) he.symm
        rw [listDel_next hxn, if_neg hsp]
      · intro t ht
        have htz : t ≠ m.next x := by
          rw [hq.1]
          intro he
          rw [he, List.mem_append, List.mem_singleton] at ht
          apply ht.elim
          · intro hm
            exact (List.nodup_cons.mp (List.nodup_cons.mp hdz).2).1 hm
          · intro hm
            exact hdis h (by simp) z (by simp) hm.symm
        rw [listDel_prev, if_neg htz]

/-! ## The safe walk -/

def dropBody (drop : α → Bool) (m : Links α) (entry : α) : Links α :=
  if drop entry then listDel m entry else m

/-- What is kept is still in its place; what is to come starts at the cursor. -/
theorem safeLoop_spec (drop : α → Bool) {n : ℕ} (hr : Ring m h (ys ++ zs)) (hn : zs.length < n) :
    ∃ m', safeLoop h (dropBody drop) n m ((zs ++ [h]).headD h)
        (m.next ((zs ++ [h]).headD h)) = some (m',zs) ∧
      Ring m' h (ys ++ zs.filter fun x => !drop x) := by
  induction zs generalizing ys m n with
  | nil =>
    cases n with
    | zero => simp at hn
    | succ n => exact ⟨m,by simp [safeLoop],hr⟩
  | cons z zs ih =>
    cases n with
    | zero => simp at hn
    | succ n =>
      have hzh : z ≠ h := by
        intro he
        exact (List.nodup_cons.mp hr.1).1 (by simp [he])
      have hq := ((path_append h ys z zs h).mp hr.2).2
      have hz : m.next z = (zs ++ [h]).headD h := by
        cases zs with
        | nil => exact hq.1
        | cons w zs => exact hq.1
      have hlen : zs.length < n := by
        rw [List.length_cons] at hn
        omega
      have hstep : ∃ ws, Ring (dropBody drop m z) h (ws ++ zs) ∧
          ys ++ (z :: zs).filter (fun x => !drop x) = ws ++ zs.filter fun x => !drop x := by
        cases hd : drop z with
        | true => exact ⟨ys,by simpa [dropBody, hd] using ring_listDel hr,by simp [hd]⟩
        | false => exact ⟨ys ++ [z],by simpa [dropBody, hd] using hr,by simp [hd]⟩
      obtain ⟨ws,hw,hf⟩ := hstep
      obtain ⟨m',hl,hm⟩ := ih hw hlen
      refine ⟨m',?_,hf ▸ hm⟩
      rw [List.cons_append, List.headD_cons, safeLoop, if_neg hzh, hz]
      exact congrArg (Option.map fun r : Links α × List α => (r.1,z :: r.2)) hl

theorem listForEachSafe_spec (drop : α → Bool) {n : ℕ} (hr : Ring m h xs) (hn : xs.length < n) :
    ∃ m', listForEachSafe n m h (dropBody drop) = some (m',xs) ∧
      Ring m' h (xs.filter fun x => !drop x) := by
  have hs : m.next h = (xs ++ [h]).headD h := by
    cases xs with
    | nil => exact hr.2.1
    | cons x xs => exact hr.2.1
  rw [listForEachSafe, hs]
  exact @safeLoop_spec _ _ m h [] xs drop n hr hn

/-! ## Runs -/

inductive Op (α : Type) where
  | add (x : α)
  | addTail (x : α)
  | del (x : α)

def Op.node : Op α → α
  | .add x | .addTail x | .del x => x

def Op.run (h : α) (m : Links α) : Op α → Links α
  | .add x => listAdd m x h
  | .addTail x => listAddTail m x h
  | .del x => listDel m x

def Op.step (xs : List α) : Op α → List α
  | .add x => x :: xs
  | .addTail x => xs ++ [x]
  | .del x => xs.erase x

/-- A node is inserted that is not in the list, and deleted when it is. -/
def Op.Legal (h : α) (xs : List α) : Op α → Prop
  | .add x | .addTail x => x ∉ h :: xs
  | .del x => x ∈ xs

def LegalRun (h : α) : List α → List (Op α) → Prop
  | _, [] => True
  | xs, o :: os => o.Legal h xs ∧ LegalRun h (o.step xs) os

def store (m : Links α) (h : α) (os : List (Op α)) : Links α :=
  os.foldl (Op.run h) (initListHead m h)

def sequence (os : List (Op α)) : List α := os.foldl Op.step []

theorem ring_run {o : Op α} (hr : Ring m h xs) (ho : o.Legal h xs) :
    Ring (o.run h m) h (o.step xs) := by
  cases o with
  | add x => exact ring_listAdd hr ho
  | addTail x => exact ring_listAddTail hr ho
  | del x =>
    have hx : x ∈ xs := ho
    obtain ⟨ys,zs,-,hs,he⟩ := List.exists_erase_eq hx
    rw [hs] at hr
    rw [Op.step, he]
    exact ring_listDel hr

theorem ring_runs {os : List (Op α)} (hr : Ring m h xs) (ho : LegalRun h xs os) :
    Ring (os.foldl (Op.run h) m) h (os.foldl Op.step xs) := by
  induction os generalizing m xs with
  | nil => exact hr
  | cons o os ih => exact ih (ring_run hr ho.1) ho.2

theorem ring_store (m : Links α) {os : List (Op α)} (ho : LegalRun h [] os) :
    Ring (store m h os) h (sequence os) := ring_runs (ring_init m h) ho

/-- The pointers of a node that is neither in the list nor the operand stay. -/
theorem run_frame {o : Op α} (hr : Ring m h xs) (ho : o.Legal h xs) {y : α} (hy : y ∉ h :: xs)
    (hyo : y ≠ o.node) : (o.run h m).next y = m.next y ∧ (o.run h m).prev y = m.prev y := by
  have hyh : y ≠ h := fun he => hy (by simp [he])
  have hout : ∀ {as : List α} {z : α}, z ∈ as → (∀ a ∈ as, a ∈ h :: xs) → y ≠ z := by
    intro as z hz hs he
    exact hy (he ▸ hs z hz)
  have hn : y ≠ m.next h := hout (next_mem hr.2) (by simp [or_comm])
  have hp : y ≠ m.prev h := hout (prev_mem hr.2) fun _ ha => ha
  cases o with
  | add x =>
    have hx : y ≠ x := hyo
    constructor
    · rw [Op.run, listAdd, _listAdd_next, if_neg hyh, if_neg hx]
    · rw [Op.run, listAdd, _listAdd_prev, if_neg hx, if_neg hn]
  | addTail x =>
    have hx : y ≠ x := hyo
    constructor
    · rw [Op.run, listAddTail, _listAdd_next, if_neg hp, if_neg hx]
    · rw [Op.run, listAddTail, _listAdd_prev, if_neg hx, if_neg hyh]
  | del x =>
    obtain ⟨ys,zs,rfl⟩ := List.append_of_mem (show x ∈ xs from ho)
    have hq := (path_append h ys x zs h).mp hr.2
    have hnx : y ≠ m.next x := hout (next_mem hq.2) (by simp +contextual [or_imp])
    have hpx : y ≠ m.prev x := hout (prev_mem hq.1) (by simp +contextual [or_imp])
    constructor
    · rw [Op.run, listDel_next (ne_next hr), if_neg hpx]
    · rw [Op.run, listDel_prev, if_neg hnx]

/-! ## The refinement -/

/-- The list stands for the sequence: both walks from its head, the test for emptiness, and
the safe walk with a body that takes out entries of its choice. -/
structure Refines (m : Links α) (h : α) (xs : List α) : Prop where
  forward : ∀ n, xs.length < n → walk m.next h n (m.next h) = some xs
  backward : ∀ n, xs.length < n → walk m.prev h n (m.prev h) = some xs.reverse
  empty : listEmpty m h = true ↔ xs = []
  safe : ∀ (drop : α → Bool) n, xs.length < n →
    ∃ m', listForEachSafe n m h (dropBody drop) = some (m',xs) ∧
      (∀ k, xs.length < k → walk m'.next h k (m'.next h) = some (xs.filter fun x => !drop x)) ∧
      ∀ k, xs.length < k →
        walk m'.prev h k (m'.prev h) = some (xs.filter fun x => !drop x).reverse

theorem refines_of_ring (hr : Ring m h xs) : Refines m h xs := by
  constructor
  · intro n hn
    exact walk_ring hr hn
  · intro n hn
    exact walk_ring_back hr hn
  · rw [listEmpty, decide_eq_true_eq]
    exact next_head_iff hr
  · intro drop n hn
    obtain ⟨m',hl,hm⟩ := listForEachSafe_spec drop hr hn
    have hk : ∀ k, xs.length < k → (xs.filter fun x => !drop x).length < k := by
      intro k hk
      have := List.length_filter_le (fun x => !drop x) xs
      omega
    exact ⟨m',hl,fun k h => walk_ring hm (hk k h),fun k h => walk_ring_back hm (hk k h)⟩

/-- Every run of legal operations leaves a list that stands for the sequence, and every
further one leaves alone what is not its own. -/
theorem list_refines (m : Links α) (h : α) (os : List (Op α)) (ho : LegalRun h [] os) :
    Refines (store m h os) h (sequence os) ∧
      ∀ o : Op α, o.Legal h (sequence os) → ∀ y, y ∉ h :: sequence os → y ≠ o.node →
        (o.run h (store m h os)).next y = (store m h os).next y ∧
          (o.run h (store m h os)).prev y = (store m h os).prev y :=
  ⟨refines_of_ring (ring_store m ho),
    fun _ hl _ hy hyo => run_frame (ring_store m ho) hl hy hyo⟩

theorem three_nodes_refine :
    Refines (store (⟨id,id⟩ : Links ℕ) 0 [.addTail 1,.addTail 2,.add 3,.del 3]) 0 [1,2] :=
  (list_refines ⟨id,id⟩ 0 [.addTail 1,.addTail 2,.add 3,.del 3]
    (by simp [LegalRun, Op.Legal, Op.step])).1

end ScsiCli.IntrusiveList
