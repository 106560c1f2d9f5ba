import ScsiCli.SysfsUtils

/-!
# Rules for the machine's operations

One rule for each operation and each question: what it returns, whether it
survives, what it emits. A reading of an attribute file is a function of the
environment, `Env.line`; the programs built on it are judged through it.
-/

set_option autoImplicit false

namespace ScsiCli.MachineRules
open ScsiCli.RunTrace ScsiCli.ByteString ScsiCli.NumberText ScsiCli.Records
open ScsiCli.Machine ScsiCli.SysfsUtils

variable {Q : Event → Prop} {env : Env} {σ τ : Type}

/-! ## Output and faults -/

@[simp] theorem returns_print (o : Out) (u : Unit) : Returns (print o) env u ↔ True :=
  returns_emit _ _ _

@[simp] theorem survives_print (o : Out) : Survives (print o) env := survives_emit _ _

@[simp] theorem emits_print (o : Out) : Emits Q (print o) env ↔ Q (.out o) := emits_emit _ _ _

@[simp] theorem observed_print {β : Type} (p : Event → Option β) (o : Out) :
    observed p (print o) env = (p (.out o)).toList := observed_emit _ _ _

@[simp] theorem returns_printInfo (t : Str) (u : Unit) : Returns (printInfo t) env u ↔ True :=
  returns_print _ _

@[simp] theorem survives_printInfo (t : Str) : Survives (printInfo t) env := survives_print _

@[simp] theorem emits_printInfo (t : Str) : Emits Q (printInfo t) env ↔ Q (.out (.info t)) :=
  emits_print _

@[simp] theorem returns_printErr (t : Str) (u : Unit) : Returns (printErr t) env u ↔ True :=
  returns_print _ _

@[simp] theorem survives_printErr (t : Str) : Survives (printErr t) env := survives_print _

@[simp] theorem emits_printErr (t : Str) : Emits Q (printErr t) env ↔ Q (.out (.error t)) :=
  emits_print _

@[simp] theorem returns_nullFault (s : Sink) (a : σ) :
    Returns (nullFault s : Tool σ) env a ↔ False := by
  simp [nullFault]

@[simp] theorem survives_nullFault (s : Sink) : ¬Survives (nullFault s : Tool σ) env := by
  simp [nullFault]

@[simp] theorem emits_nullFault (s : Sink) :
    Emits Q (nullFault s : Tool σ) env ↔ Q (.nullUse s) := by
  simp [nullFault]

/-! ## Directories -/

@[simp] theorem returns_opendir (path : Str) (a : Option (List Dirent)) :
    Returns (opendir path) env a ↔ a = (env.dir path).map Listing.entries := by
  cases h : env.dir path <;> simp [opendir, h]

@[simp] theorem survives_opendir (path : Str) : Survives (opendir path) env :=
  ⟨_,(returns_opendir path _).mpr rfl⟩

@[simp] theorem emits_opendir (path : Str) :
    Emits Q (opendir path) env ↔
      ((env.dir path).isSome → Q (.opened (.dir path) .read)) := by
  cases h : env.dir path <;> simp [opendir, h]

@[simp] theorem returns_closedir (path : Str) (u : Unit) :
    Returns (closedir path) env u ↔ True := returns_emit _ _ _

@[simp] theorem survives_closedir (path : Str) : Survives (closedir path) env :=
  survives_emit _ _

@[simp] theorem emits_closedir (path : Str) :
    Emits Q (closedir path) env ↔ Q (.closed (.dir path)) := emits_emit _ _ _

@[simp] theorem returns_scandirCount (path : Str) (n : ℤ) :
    Returns (scandirCount path) env n ↔
      n = ((env.dir path).map fun l => (l.entries.length : ℤ)).getD (-1) := by
  cases h : env.dir path <;> simp [scandirCount, h]

@[simp] theorem emits_scandirCount (path : Str) :
    Emits Q (scandirCount path) env ↔ ((env.dir path).isSome →
      Q (.opened (.dir path) .read) ∧ Q (.closed (.dir path))) := by
  cases h : env.dir path <;> simp [scandirCount, h]

/-! ## Attribute files -/

def stream (env : Env) (path : Str) : Option Stream :=
  match env.file path with
  | .absent => none
  | .unreadable => some none
  | .bytes b => some (some b)

def line (env : Env) (path : Str) : Option Str :=
  ((stream env path).bind (fgets 64)).map removeNewline

@[simp] theorem returns_fopenRead (path : Str) (a : Option Stream) :
    Returns (fopenRead path) env a ↔ a = stream env path := by
  cases h : env.file path <;> simp [fopenRead, stream, h]

@[simp] theorem survives_fopenRead (path : Str) : Survives (fopenRead path) env :=
  ⟨_,(returns_fopenRead path _).mpr rfl⟩

@[simp] theorem emits_fopenRead (path : Str) :
    Emits Q (fopenRead path) env ↔
      ((stream env path).isSome → Q (.opened (.file path) .read)) := by
  cases h : env.file path <;> simp [fopenRead, stream, h]

@[simp] theorem returns_fclose (path : Str) (u : Unit) :
    Returns (fclose path) env u ↔ True := returns_emit _ _ _

@[simp] theorem survives_fclose (path : Str) : Survives (fclose path) env := survives_emit _ _

@[simp] theorem emits_fclose (path : Str) :
    Emits Q (fclose path) env ↔ Q (.closed (.file path)) := emits_emit _ _ _

@[simp] theorem returns_openSysfsStatsFile (path : Str) (p : Option Str) :
    Returns (openSysfsStatsFile path) env p ↔ p = line env path := by
  cases h : stream env path with
  | none => simp [openSysfsStatsFile, line, h]
  | some fp => cases hp : fgets 64 fp <;> simp [openSysfsStatsFile, line, h, hp]

@[simp] theorem survives_openSysfsStatsFile (path : Str) :
    Survives (openSysfsStatsFile path) env :=
  ⟨_,(returns_openSysfsStatsFile path _).mpr rfl⟩

@[simp] theorem emits_openSysfsStatsFile (path : Str) :
    Emits Q (openSysfsStatsFile path) env ↔
      ((stream env path).isSome →
        Q (.opened (.file path) .read) ∧ Q (.closed (.file path))) := by
  cases h : stream env path with
  | none => simp [openSysfsStatsFile, h]
  | some fp => cases hp : fgets 64 fp <;> simp [openSysfsStatsFile, h, hp]

/-! ## Formatted output -/

@[simp] theorem returns_snprintfFmt (size : ℕ) (fmt : Option Str) (t : Str) :
    Returns (snprintfFmt size fmt) env t ↔ t = cut size ((fmt.map env.format).getD []) := by
  cases fmt <;> simp [snprintfFmt, cut]

@[simp] theorem survives_snprintfFmt (size : ℕ) (fmt : Option Str) :
    Survives (snprintfFmt size fmt) env :=
  ⟨_,(returns_snprintfFmt size fmt _).mpr rfl⟩

@[simp] theorem emits_snprintfFmt (size : ℕ) (fmt : Option Str) :
    Emits Q (snprintfFmt size fmt) env ↔ (fmt = none → Q (.nullUse .format)) := by
  cases fmt <;> simp [snprintfFmt]

@[simp] theorem returns_storeBytes (b : Buf) (n : ℕ) (u : Unit) :
    Returns (storeBytes b n) env u ↔ True := by
  simp [storeBytes]

@[simp] theorem survives_storeBytes (b : Buf) (n : ℕ) : Survives (storeBytes b n) env :=
  ⟨(),by simp⟩

@[simp] theorem emits_storeBytes (b : Buf) (n : ℕ) :
    Emits Q (storeBytes b n) env ↔ (b.size < n → Q (.overrun b)) := by
  simp [storeBytes]

theorem observed_storeBytes_bind {β : Type} (p : Event → Option β) {b : Buf}
    (h : p (.overrun b) = none) (n : ℕ) (f : Unit → Tool τ) :
    observed p (storeBytes b n >>= f) env = observed p (f ()) env := by
  have hs : observed p (storeBytes b n) env = [] := by
    unfold storeBytes
    split <;> simp [h]
  rw [observed_bind_of_returns p _ ((returns_storeBytes b n ()).mpr trivial), hs, List.nil_append]

@[simp] theorem returns_store (b : Buf) (s t : Str) :
    Returns (store b s) env t ↔ t = s := by
  simp [store]

@[simp] theorem survives_store (b : Buf) (s : Str) : Survives (store b s) env :=
  ⟨s,by simp⟩

@[simp] theorem emits_store (b : Buf) (s : Str) :
    Emits Q (store b s) env ↔ (b.size < s.length+1 → Q (.overrun b)) := by
  simp [store]

@[simp] theorem returns_sprintfFmt (b : Buf) (fmt : Option Str) (t : Str) :
    Returns (sprintfFmt b fmt) env t ↔ t = (fmt.map env.format).getD [] := by
  cases fmt <;> simp [sprintfFmt]

@[simp] theorem survives_sprintfFmt (b : Buf) (fmt : Option Str) :
    Survives (sprintfFmt b fmt) env :=
  ⟨_,(returns_sprintfFmt b fmt _).mpr rfl⟩

@[simp] theorem emits_sprintfFmt (b : Buf) (fmt : Option Str) :
    Emits Q (sprintfFmt b fmt) env ↔
      (fmt = none → Q (.nullUse .format)) ∧
        ∀ s, fmt = some s → b.size < (env.format s).length+1 → Q (.overrun b) := by
  cases fmt <;> simp [sprintfFmt]

@[simp] theorem returns_copyArg (b : Buf) (size : ℕ) (s t : Str) :
    Returns (copyArg b size s) env t ↔ t = cut size s := by
  simp [copyArg]

@[simp] theorem survives_copyArg (b : Buf) (size : ℕ) (s : Str) :
    Survives (copyArg b size s) env :=
  ⟨_,(returns_copyArg b size s _).mpr rfl⟩

@[simp] theorem emits_copyArg (b : Buf) (size : ℕ) (s : Str) :
    Emits Q (copyArg b size s) env ↔ (b.size < stored size s → Q (.overrun b)) := by
  simp [copyArg]

theorem copyArg_bind {α : Type} (b : Buf) (size : ℕ) (s : Str) (f : Str → Tool α) :
    (copyArg b size s >>= f) = (do
      storeBytes b (stored size s)
      f (cut size s)) := by
  simp [copyArg, prog_bind_assoc]

/-! ## Attributes -/

/-- The text of one attribute after its copy; none where the copy ends the run. -/
def Copy.text (env : Env) (path : Str) : Copy → Option Str
  | .bounded size => some (cut size (((line env path).map env.format).getD []))
  | .unbounded _ => some (((line env path).map env.format).getD [])
  | .argument size => some (cut size (orNull (line env path)))
  | .direct => line env path

def Attr.text (env : Env) (path : Str) (a : Attr σ) : Option Str :=
  if a.strip then (Copy.text env path a.copy).bind removeSpace else Copy.text env path a.copy

theorem returns_fetch (path : Str) (c : Copy) (t : Str) :
    Returns (c.fetch path) env t ↔ Copy.text env path c = some t := by
  cases c with
  | direct => cases h : line env path <;> simp [Copy.fetch, Copy.text, h, eq_comm]
  | _ => simp [Copy.fetch, Copy.text, eq_comm]

theorem returns_stripped (strip : Bool) (t u : Str) :
    Returns (stripped strip t) env u ↔ (if strip then removeSpace t else some t) = some u := by
  cases strip with
  | false => simp [stripped, eq_comm]
  | true => cases h : removeSpace t <;> simp [stripped, h, eq_comm]

@[simp] theorem emits_stripped (strip : Bool) (t : Str) : Emits Q (stripped strip t) env := by
  cases strip with
  | false => simp [stripped]
  | true => cases h : removeSpace t <;> simp [stripped, h]

theorem returns_load (pathOf : Str → Str) (s t : σ) (a : Attr σ) :
    Returns (Attr.load pathOf s a) env t ↔
      ∃ u, Attr.text env (pathOf a.file) a = some u ∧ t = a.store u s := by
  simp only [Attr.load, returns_bind, returns_pure, returns_fetch, returns_stripped, Attr.text]
  cases a.strip <;> cases Copy.text env (pathOf a.file) a.copy <;> simp

theorem survives_load_iff (pathOf : Str → Str) (s : σ) (a : Attr σ) :
    Survives (Attr.load pathOf s a) env ↔ (Attr.text env (pathOf a.file) a).isSome := by
  simp only [Survives, returns_load, Option.isSome_iff_exists]
  constructor
  · rintro ⟨-,u,h,-⟩
    exact ⟨u,h⟩
  · rintro ⟨u,h⟩
    exact ⟨_,u,h,rfl⟩

theorem returns_loadInto (b : Buf) (pathOf : Str → Str) (s t : σ) (a : Attr σ) :
    Returns (Attr.loadInto b pathOf s a) env t ↔ Returns (Attr.load pathOf s a) env t := by
  simp [Attr.loadInto, Attr.load]

/-- The row leaves alone what `g` sees of the record. -/
def Frames (g : σ → τ) (a : Attr σ) : Prop := ∀ u s, g (a.store u s) = g s

/-- A property that the events of a reading have, apart from what its own arrays do. -/
structure Reading (Q : Event → Prop) : Prop where
  opened : ∀ h, Q (.opened h .read)
  closed : ∀ h, Q (.closed h)
  nullUse : ∀ s, Q (.nullUse s)

theorem emits_fetch (hQ : Reading Q) (path : Str) {c : Copy}
    (h : ∀ b, c = .unbounded b → Q (.overrun b)) : Emits Q (c.fetch path) env := by
  have ho := hQ.opened (.file path)
  have hc := hQ.closed (.file path)
  cases c with
  | direct => cases hl : line env path <;> simp [Copy.fetch, hl, ho, hc, hQ.nullUse]
  | unbounded b => simp [Copy.fetch, ho, hc, hQ.nullUse, h b rfl]
  | _ => simp [Copy.fetch, ho, hc, hQ.nullUse]

theorem emits_load (hQ : Reading Q) (pathOf : Str → Str) (s : σ) {a : Attr σ}
    (h : ∀ b, a.copy = .unbounded b → Q (.overrun b)) : Emits Q (Attr.load pathOf s a) env := by
  simp [Attr.load, emits_fetch hQ _ h]

theorem emits_loadAll (hQ : Reading Q) (pathOf : Str → Str) (s : σ) {rows : List (Attr σ)}
    (h : ∀ a ∈ rows, ∀ b, a.copy = .unbounded b → Q (.overrun b)) :
    Emits Q (loadAll pathOf rows s) env :=
  emits_foldlM _ _ _ _ _ fun s a ha => emits_load hQ pathOf s (h a ha)

theorem emits_loadAllInto (hQ : Reading Q) {b : Buf} (hb : Q (.overrun b)) (pathOf : Str → Str)
    (s : σ) {rows : List (Attr σ)}
    (h : ∀ a ∈ rows, ∀ b, a.copy = .unbounded b → Q (.overrun b)) :
    Emits Q (loadAllInto b pathOf rows s) env :=
  emits_foldlM _ _ _ _ _ fun s a ha => by
    simp [Attr.loadInto, hb, emits_load hQ _ s (h a ha)]

def Plain (a : Attr σ) : Prop := a.strip = false ∧ a.copy ≠ .direct

theorem plain_text (env : Env) {a : Attr σ} (h : Plain a) (path : Str) :
    ∃ u, Attr.text env path a = some u := by
  rw [Attr.text, h.1]
  cases hc : a.copy <;> first | exact absurd hc h.2 | exact ⟨_,rfl⟩

def loaded (env : Env) (pathOf : Str → Str) (rows : List (Attr σ)) (s : σ) : σ :=
  rows.foldl (fun s a => a.store ((Attr.text env (pathOf a.file) a).getD []) s) s

theorem loaded_frame (g : σ → τ) {pathOf : Str → Str} {rows : List (Attr σ)}
    (hg : ∀ a ∈ rows, Frames g a) (s : σ) : g (loaded env pathOf rows s) = g s := by
  induction rows generalizing s with
  | nil => rfl
  | cons a rows ih =>
    exact (ih (fun a ha => hg a (by simp [ha])) _).trans (hg a (by simp) _ _)

theorem eq_loaded {pathOf : Str → Str} {rows : List (Attr σ)} {s t : σ}
    (h : Returns (loadAll pathOf rows s) env t) : t = loaded env pathOf rows s := by
  induction rows generalizing s with
  | nil => simpa [loadAll, loaded] using h
  | cons a rows ih =>
    rw [loadAll, List.foldlM_cons, returns_bind] at h
    obtain ⟨s',hs,h⟩ := h
    obtain ⟨u,hu,rfl⟩ := (returns_load pathOf s s' a).mp hs
    rw [ih h, loaded, loaded, List.foldl_cons, hu, Option.getD_some]

theorem loadAll_frame (g : σ → τ) {pathOf : Str → Str} {rows : List (Attr σ)} {s t : σ}
    (hg : ∀ a ∈ rows, Frames g a) (h : Returns (loadAll pathOf rows s) env t) :
    g t = g s := by
  rw [eq_loaded h, loaded_frame g hg]

theorem returns_loadAll_plain {pathOf : Str → Str} {rows : List (Attr σ)}
    (h : ∀ a ∈ rows, Plain a) (s t : σ) :
    Returns (loadAll pathOf rows s) env t ↔ t = loaded env pathOf rows s := by
  have hr : Returns (loadAll pathOf rows s) env (loaded env pathOf rows s) :=
    returns_foldlM _ _ _ _ _ fun s a ha => by
      obtain ⟨u,hu⟩ := plain_text env (h a ha) (pathOf a.file)
      exact (returns_load _ _ _ _).mpr ⟨u,hu,by simp [hu]⟩
  exact ⟨fun ht => returns_unique ht hr,fun ht => ht ▸ hr⟩

theorem returns_loadAllInto (b : Buf) (pathOf : Str → Str) (rows : List (Attr σ)) (s t : σ) :
    Returns (loadAllInto b pathOf rows s) env t ↔ Returns (loadAll pathOf rows s) env t := by
  induction rows generalizing s with
  | nil => rfl
  | cons a rows ih =>
    simp only [loadAllInto, loadAll, List.foldlM_cons, returns_bind, returns_loadInto] at ih ⊢
    simp only [ih]

end ScsiCli.MachineRules
