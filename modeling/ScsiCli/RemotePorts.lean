import ScsiCli.Completion

/-!
# Remote ports

The count of the remote ports of a host is taken in one loop and shown in the
record only at an entry that is not a remote port; a second loop over a path
of its own prints the table. The two agree, and agree with the directory, when
no remote port comes last and the second path is not cut.
-/

set_option autoImplicit false

namespace ScsiCli.RemotePorts
open ScsiCli.RunTrace ScsiCli.ByteString ScsiCli.Records ScsiCli.Machine ScsiCli.SysfsUtils
open ScsiCli.FcpUtils ScsiCli.MachineRules ScsiCli.Gatherers ScsiCli.Completion

variable {env : Env}

/-! ## The counting loop -/

def EndsOther (es : List Dirent) : Prop := ∀ e ∈ es.getLast?, isRport e = false

theorem endsOther_cons (e x : Dirent) (es : List Dirent) :
    EndsOther (e :: x :: es) ↔ EndsOther (x :: es) := by
  simp [EndsOther, List.getLast?_cons_cons]

theorem countRports_of_endsOther {es : List Dirent} (h : EndsOther es) (hne : es ≠ []) (c n : ℤ) :
    countRports es c n = c+es.countP isRport := by
  induction es generalizing c n with
  | nil => exact absurd rfl hne
  | cons e es ih =>
    cases es with
    | nil =>
      have he : isRport e = false := h e rfl
      simp [countRports, he]
    | cons x es =>
      have hi := ih ((endsOther_cons e x es).mp h) (by simp)
      cases he : isRport e with
      | false =>
        rw [countRports, he, List.countP_cons, he]
        simpa using hi c c
      | true =>
        have ht := hi (c+1) n
        rw [countRports, he, List.countP_cons, he]
        simp only [if_true]
        push_cast
        omega

/-- With a remote port at the end the count that is shown falls short. -/
theorem countRports_lt {es : List Dirent} (h : ¬EndsOther es) {c n : ℤ} (hn : n ≤ c) :
    countRports es c n < c+es.countP isRport := by
  induction es generalizing c n with
  | nil => exact absurd (by simp [EndsOther]) h
  | cons e es ih =>
    cases es with
    | nil =>
      have he : isRport e = true := by simpa [EndsOther] using h
      simp [countRports, he]
      omega
    | cons x es =>
      have hx : ¬EndsOther (x :: es) := fun hx => h ((endsOther_cons e x es).mpr hx)
      cases he : isRport e with
      | false =>
        have hi := @ih hx c c le_rfl
        rw [countRports, he, List.countP_cons, he]
        simpa using hi
      | true =>
        have hi := @ih hx (c+1) n (by omega)
        rw [countRports, he, List.countP_cons, he]
        simp only [if_true]
        push_cast
        omega

theorem countRports_eq_iff (es : List Dirent) :
    countRports es 0 0 = es.countP isRport ↔ EndsOther es := by
  by_cases h : EndsOther es
  · refine iff_of_true ?_ h
    cases es with
    | nil => rfl
    | cons e es => rw [countRports_of_endsOther h (by simp), Int.zero_add]
  · refine iff_of_false ?_ h
    have := countRports_lt h (le_refl 0)
    omega

theorem countRports_ports {es : List Dirent} (h : ∀ e ∈ es, isRport e = true) (c n : ℤ) :
    countRports es c n = n := by
  induction es generalizing c with
  | nil => rfl
  | cons e es ih =>
    rw [countRports, if_pos (h e (by simp))]
    exact ih (fun x hx => h x (by simp [hx])) _

theorem countRports_others_first {es ps : List Dirent} (h : ∀ e ∈ es, isRport e = false)
    (hp : ∀ e ∈ ps, isRport e = true) : countRports (es ++ ps) 0 0 = 0 := by
  induction es with
  | nil => exact countRports_ports hp 0 0
  | cons e es ih =>
    rw [List.cons_append, countRports, h e (by simp), if_neg (by simp)]
    exact ih fun x hx => h x (by simp [hx])

/-- The count depends on the order unless there are ports only or none. -/
theorem countRports_perm_iff (es : List Dirent) :
    (∀ es', es'.Perm es → countRports es' 0 0 = countRports es 0 0) ↔
      (∀ e ∈ es, isRport e = false) ∨ ∀ e ∈ es, isRport e = true := by
  constructor
  · intro h
    by_contra hc
    obtain ⟨h₁,h₂⟩ := not_or.mp hc
    push Not at h₁ h₂
    obtain ⟨a,ha,hra⟩ := h₁
    obtain ⟨b,hb,hrb⟩ := h₂
    set ps := es.filter isRport with hps
    set os := es.filter fun e => !isRport e with hos
    have hpo : (ps ++ os).Perm es := List.filter_append_perm _ _
    have hlast : EndsOther (ps ++ os) := fun e he => by
      have hm : b ∈ os := List.mem_filter.mpr ⟨hb,by simpa using hrb⟩
      rw [List.getLast?_append_of_ne_nil _ (List.ne_nil_of_mem hm)] at he
      simpa using (List.mem_filter.mp (List.mem_of_getLast? he)).2
    have h₀ := h _ (List.perm_append_comm.trans hpo)
    have h₁ := h _ hpo
    rw [countRports_others_first (fun e he => by simpa using (List.mem_filter.mp he).2)
      fun e he => (List.mem_filter.mp he).2] at h₀
    rw [(countRports_eq_iff _).mpr hlast, ← h₀, hpo.countP_eq isRport] at h₁
    have hpos : 0 < es.countP isRport := List.countP_pos_iff.mpr ⟨a,ha,by simpa using hra⟩
    omega
  · rintro (h | h) es' hp
    · have hn : ∀ {xs : List Dirent}, (∀ e ∈ xs, isRport e = false) → countRports xs 0 0 = 0 :=
        fun {xs} hx => by simpa using @countRports_others_first xs [] hx (by simp)
      rw [hn h, hn fun e he => h e (hp.mem_iff.mp he)]
    · rw [countRports_ports h, countRports_ports fun e he => h e (hp.mem_iff.mp he)]

/-! ## The table -/

def tableOf : Event → Option Bool
  | .out .fcRportHeader => some true
  | .out (.fcRportInfo _) => some false
  | _ => none

theorem tableOf_gathers {σ : Type} {m : Tool σ} (h : Emits Gathers m env) :
    observed tableOf m env = [] :=
  observed_of_emits _ h fun e he => by
    cases e with
    | out o => cases o <;> first | rfl | exact he.elim
    | _ => rfl

theorem flatMap_ite_singleton {α β : Type} (p : α → Bool) (b : β) (xs : List α) :
    (xs.flatMap fun x => if p x then [b] else []) = List.replicate (xs.countP p) b := by
  rw [flatMap_ite p fun _ => [b], ← List.map_eq_flatMap, List.map_const',
    List.countP_eq_length_filter]

theorem table_rportEntry (e : Dirent) :
    Survives (rportEntry e) env ∧
      observed tableOf (rportEntry e) env = if isRport e then [false] else [] := by
  have hp : ∀ a ∈ rportRows, Plain a := by simp [rportRows, rportRow, Plain]
  unfold rportEntry
  cases isRport e with
  | false => simp
  | true =>
    obtain ⟨r,hr⟩ : Survives (getRportInfo { rportName := some e.dName }) env :=
      survives_plain hp _ _
    rw [if_pos rfl, if_pos rfl]
    exact ⟨survives_seq ⟨r,hr⟩ fun _ _ => by simp,by
      rw [observed_bind_of_returns _ _ hr, tableOf_gathers (gathers_getRportInfo _)]
      simp [tableOf]⟩

def table (env : Env) (path : Str) : List Bool :=
  match env.dir path with
  | none => []
  | some l => true :: List.replicate ((forEachDir l.entries).countP isRport) false

theorem table_listRportAdapters (f : FcDeviceInfo) :
    observed tableOf (listRportAdapters f) env =
      table env (cut 64 (orNull f.sysDevPath ++ "/device")) := by
  unfold listRportAdapters table
  cases hd : env.dir (cut 64 (orNull f.sysDevPath ++ "/device")) with
  | none =>
    rw [observed_bind_of_returns _ _ ((returns_opendir _ _).mpr rfl), hd]
    simp [opendir, hd, tableOf, printErr, print]
  | some l =>
    have hl := observed_foldlM (r := env) tableOf (fun (_ : Unit) e => rportEntry e)
      (fun e => if isRport e then [false] else []) (forEachDir l.entries) ()
      (fun _ e _ => (table_rportEntry e).1) fun _ e _ => (table_rportEntry e).2
    rw [observed_bind_of_returns _ _ ((returns_opendir _ _).mpr rfl), hd]
    simp only [Option.map_some]
    rw [print, observed_emit_bind, observed_bind_of_silent, hl, flatMap_ite_singleton]
    · simp [opendir, hd, tableOf]
    · intro _ _
      simp [closedir, tableOf]

/-! ## The report of a host -/

def devicePath (name : Str) : Str := hostDir name ++ "/" ++ "device"

/-- The directory whose remote ports are listed: the same path in an array of 64 bytes. -/
def tablePath (name : Str) : Str := cut 64 (hostDir name ++ "/device")

def rportCount (env : Env) (path : Str) : ℕ := (entriesOf env path).countP isRport

/-- The count in the record is that of the directory, and the table is printed
exactly when it is not zero, with as many rows. -/
structure Counted (env : Env) (name : Str) : Prop where
  count : ∃ f, Returns (do
      let f ← getSymbolicName (fcHost name)
      let f ← getDriverInfo f
      getAdapterDetails f) env f ∧ f.noRports = rportCount env (devicePath name)
  table : observed tableOf (showFcPortDetails name) env =
    if rportCount env (devicePath name) = 0 then []
    else true :: List.replicate (rportCount env (devicePath name)) false

/-- The host can be read, no remote port comes last, and where there is one the second
half of the details can be read and the second path shows as many. -/
structure InOrder (env : Env) (name : Str) : Prop where
  driverDir : (env.dir PCI_DRIVER_PATH).isSome
  readable : HostReadable env (knownHost env name)
  endsOther : EndsOther (entriesOf env (devicePath name))
  listed : rportCount env (devicePath name) ≠ 0 → InfoReadable env (knownHost env name) ∧
    rportCount env (tablePath name) = rportCount env (devicePath name)

theorem rportsGiven_knownHost (name : Str) :
    rportsGiven env (knownHost env name) = rportCount env (devicePath name) ↔
      EndsOther (entriesOf env (devicePath name)) := by
  have hp : underHost (knownHost env name) "device" = devicePath name := rfl
  rw [← countRports_eq_iff, rportsGiven, hp, rportCount, entriesOf]
  cases env.dir (devicePath name) with
  | none => simp [countRports]
  | some l => rfl

theorem adapter_spec (name : Str) (f : FcDeviceInfo) :
    Returns (do
      let f ← getSymbolicName (fcHost name)
      let f ← getDriverInfo f
      getAdapterDetails f) env f ↔
    (env.dir PCI_DRIVER_PATH).isSome ∧ Returns (getAdapterDetails (knownHost env name)) env f := by
  rw [← prog_bind_assoc, returns_bind]
  simp only [returns_identify, and_assoc, exists_and_left, exists_eq_left]

theorem gathers_adapter (name : Str) : Emits Gathers (do
    let f ← getSymbolicName (fcHost name)
    let f ← getDriverInfo f
    getAdapterDetails f) env := by
  simp [gathers_getSymbolicName, gathers_getDriverInfo, gathers_getAdapterDetails]

/-- What follows the count: the other half of the details, the report and the table. -/
def finish (f : FcDeviceInfo) : Tool ℤ := do
  let (_,f) ← getFcInfo f
  print (.fcInfo f)
  if 0 < f.noRports then do
    let _ ← listRportAdapters f
    pure 0
  else pure 0

theorem showFcPortDetails_eq (name : Str) :
    showFcPortDetails name = (do
      emit (.device .showFcPortDetails (some name))
      let f ← (do
        let f ← getSymbolicName (fcHost name)
        let f ← getDriverInfo f
        getAdapterDetails f)
      finish f) := by
  simp only [showFcPortDetails, prog_bind_assoc]
  rfl

structure PortLives (env : Env) (name : Str) : Prop where
  driverDir : (env.dir PCI_DRIVER_PATH).isSome
  host : HostReadable env (knownHost env name)
  info : InfoReadable env (knownHost env name)

theorem survives_listRportAdapters (f : FcDeviceInfo) : Survives (listRportAdapters f) env := by
  apply survives_seq (survives_opendir _)
  intro o _
  cases o with
  | none => simp
  | some es =>
    refine survives_seq (survives_print _) fun _ _ => survives_seq ?_ fun _ _ => by simp
    exact survives_foldlM _ _ _ _ fun _ e _ => (table_rportEntry e).1

theorem returns_finish_iff (f : FcDeviceInfo) (s : ℤ) :
    Returns (finish f) env s ↔ InfoReadable env f ∧ s = 0 := by
  rw [← survives_getFcInfo_iff, finish]
  constructor
  · intro h
    obtain ⟨p,hp,h⟩ := (returns_bind _ _ _ _).mp h
    refine ⟨⟨p,hp⟩,?_⟩
    simp only [returns_bind, returns_print, true_and, exists_const] at h
    split at h
    · obtain ⟨-,-,h⟩ := (returns_bind _ _ _ _).mp h
      exact (returns_pure _ _ _).mp h
    · exact (returns_pure _ _ _).mp h
  · rintro ⟨⟨p,hp⟩,rfl⟩
    obtain ⟨q,hq⟩ := @survives_listRportAdapters env p.2
    rw [returns_bind_at hp, returns_bind_at ((returns_print _ ()).mpr trivial)]
    split
    · exact (returns_bind_at hq _ _).mpr ((returns_pure _ _ _).mpr rfl)
    · exact (returns_pure _ _ _).mpr rfl

theorem returns_showFcPortDetails_iff (name : Str) (s : ℤ) :
    Returns (showFcPortDetails name) env s ↔ PortLives env name ∧ s = 0 := by
  rw [showFcPortDetails_eq, returns_emit_bind, returns_bind]
  simp only [adapter_spec, returns_finish_iff]
  constructor
  · rintro ⟨f,⟨hd,hf⟩,hi,rfl⟩
    exact ⟨⟨hd,(survives_getAdapterDetails_iff _).mp ⟨f,hf⟩,
      (infoReadable_congr (origin_getAdapterDetails hf)).mp hi⟩,rfl⟩
  · rintro ⟨⟨hd,hh,hi⟩,rfl⟩
    obtain ⟨f,hf⟩ := (survives_getAdapterDetails_iff _).mpr hh
    exact ⟨f,⟨hd,hf⟩,(infoReadable_congr (origin_getAdapterDetails hf)).mpr hi,rfl⟩

theorem table_finish {f : FcDeviceInfo} (h : InfoReadable env f) :
    observed tableOf (finish f) env =
      if 0 < f.noRports then table env (cut 64 (orNull f.sysDevPath ++ "/device")) else [] := by
  obtain ⟨⟨s,g⟩,hg⟩ := (survives_getFcInfo_iff f).mpr h
  have ho := origin_getFcInfo hg
  have hn : g.noRports = f.noRports := congrArg (·.2.2.2.2) ho
  have hp : g.sysDevPath = f.sysDevPath := congrArg (·.1) ho
  rw [finish, observed_bind_of_returns _ _ hg, tableOf_gathers (gathers_getFcInfo f)]
  dsimp only
  rw [print, observed_emit_bind, hn]
  split_ifs with hpos
  · rw [observed_bind_of_silent _ fun _ _ => rfl, table_listRportAdapters, hp]
    rfl
  · rfl

theorem table_finish_unreadable {f : FcDeviceInfo} (h : ¬InfoReadable env f) :
    observed tableOf (finish f) env = [] :=
  observed_bind_eq_nil _ (tableOf_gathers (gathers_getFcInfo f)) fun _ ha =>
    (h ((survives_getFcInfo_iff f).mp ⟨_,ha⟩)).elim

theorem table_showFcPortDetails {name : Str} {f : FcDeviceInfo} (h : Returns (do
      let f ← getSymbolicName (fcHost name)
      let f ← getDriverInfo f
      getAdapterDetails f) env f) :
    observed tableOf (showFcPortDetails name) env = observed tableOf (finish f) env := by
  have hs : Emits Gathers (do
      let f ← getSymbolicName (fcHost name)
      let f ← getDriverInfo f
      getAdapterDetails f) env := by
    simp [gathers_getSymbolicName, gathers_getDriverInfo, gathers_getAdapterDetails]
  rw [showFcPortDetails_eq, observed_emit_bind, observed_bind_of_returns _ _ h,
    tableOf_gathers hs]
  rfl

theorem table_eq_iff (path : Str) {r : ℕ} (hr : r ≠ 0) :
    table env path = true :: List.replicate r false ↔ rportCount env path = r := by
  unfold table rportCount entriesOf
  cases env.dir path with
  | none => simp [hr.symm]
  | some l => simp [List.replicate_inj]

theorem counted_iff (env : Env) (name : Str) : Counted env name ↔ InOrder env name := by
  have hknown : ∀ {f}, Returns (getAdapterDetails (knownHost env name)) env f →
      f.noRports = rportsGiven env (knownHost env name) ∧
        f.sysDevPath = some (hostDir name) ∧
          (InfoReadable env f ↔ InfoReadable env (knownHost env name)) := fun {f} hf => by
    have ho := origin_getAdapterDetails hf
    exact ⟨congrArg (·.2.2.2.2) ho,congrArg (·.1) ho,(infoReadable_congr ho).trans Iff.rfl⟩
  constructor
  · rintro ⟨⟨f,hf,hn⟩,ht⟩
    obtain ⟨hd,ha⟩ := (adapter_spec name f).mp hf
    obtain ⟨hg,hp,hi⟩ := hknown ha
    rw [table_showFcPortDetails hf] at ht
    refine ⟨hd,(survives_getAdapterDetails_iff _).mp ⟨f,ha⟩,
      (rportsGiven_knownHost name).mp (hg.symm.trans hn),fun hr => ?_⟩
    rw [if_neg hr] at ht
    by_cases hinfo : InfoReadable env f
    · rw [table_finish hinfo, if_pos (by omega), hp] at ht
      exact ⟨hi.mp hinfo,(table_eq_iff _ hr).mp ht⟩
    · rw [table_finish_unreadable hinfo] at ht
      cases ht
  · rintro ⟨hd,hr,he,hl⟩
    obtain ⟨f,ha⟩ := (survives_getAdapterDetails_iff _).mpr hr
    obtain ⟨hg,hp,hi⟩ := hknown ha
    have hf := (adapter_spec name f).mpr ⟨hd,ha⟩
    have hn := hg.trans ((rportsGiven_knownHost name).mpr he)
    refine ⟨⟨f,hf,hn⟩,?_⟩
    rw [table_showFcPortDetails hf]
    split_ifs with h0
    · by_cases hinfo : InfoReadable env f
      · rw [table_finish hinfo, if_neg (by omega)]
      · exact table_finish_unreadable hinfo
    · obtain ⟨hinfo,hc⟩ := hl h0
      rw [table_finish (hi.mpr hinfo), if_pos (by omega), hp]
      exact (table_eq_iff _ h0).mpr hc

/-- The count, the table and the order: what they come to for a host, and when the
order of a directory has no say in it. -/
theorem rports_counted_iff (env : Env) (name : Str) :
    (Counted env name ↔ InOrder env name) ∧
      ∀ es : List Dirent, (∀ es', es'.Perm es → countRports es' 0 0 = countRports es 0 0) ↔
        (∀ e ∈ es, isRport e = false) ∨ ∀ e ∈ es, isRport e = true :=
  ⟨counted_iff env name,countRports_perm_iff⟩

def portLast : Env :=
  { Env.bare with
    file := fun _ => .bytes (lit "1\n")
    dir := fun path =>
      if path = PCI_DRIVER_PATH then
        some (Listing.ofEntries [⟨lit "qla2xxx",.dir,by simp [lit, nul]⟩]
          (by simp) (by simp [lit]) (by simp [lit]))
      else
        some (Listing.ofEntries
          [⟨lit "power",.dir,by simp [lit, nul]⟩,⟨lit "rport-0:0-1",.dir,by simp [lit, nul]⟩]
          (by simp [lit]) (by simp [lit]) (by simp [lit])) }

theorem port_last_not_counted : ¬Counted portLast (lit "host0") := by
  have hne : devicePath (lit "host0") ≠ PCI_DRIVER_PATH := by decide +kernel
  have he : entriesOf portLast (devicePath (lit "host0")) =
      [⟨lit "power",.dir,by simp [lit, nul]⟩,⟨lit "rport-0:0-1",.dir,by simp [lit, nul]⟩] := by
    simp [entriesOf, portLast, hne]
  intro h
  have hl := ((counted_iff _ _).mp h).endsOther
  rw [he] at hl
  simpa [isRport, strncmpEq, lit] using hl _ rfl

end ScsiCli.RemotePorts
