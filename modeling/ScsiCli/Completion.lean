import ScsiCli.LiteralCopies

/-!
# How far the gatherers get

Which gatherers always run to their end, what must be readable for the others
to do so, and which fields of their records they leave alone. The events of a
run past a gatherer are judged by these: what cannot be reached is not asked for.
-/

set_option autoImplicit false

namespace ScsiCli.Completion
open ScsiCli.RunTrace ScsiCli.ByteString ScsiCli.NumberText ScsiCli.Records ScsiCli.Machine
open ScsiCli.SysfsUtils ScsiCli.DiskUtils ScsiCli.DiskDetails ScsiCli.FcpUtils
open ScsiCli.IscsiUtils ScsiCli.MachineRules

variable {env : Env} {σ τ : Type}

/-! ## Rows -/

def Readable (env : Env) (pathOf : Str → Str) (rows : List (Attr σ)) : Prop :=
  ∀ a ∈ rows, (Attr.text env (pathOf a.file) a).isSome

instance (env : Env) (pathOf : Str → Str) (rows : List (Attr σ)) :
    Decidable (Readable env pathOf rows) :=
  inferInstanceAs (Decidable (∀ a ∈ rows, (Attr.text env (pathOf a.file) a).isSome))

theorem survives_loadAll_iff (pathOf : Str → Str) (rows : List (Attr σ)) (s : σ) :
    Survives (loadAll pathOf rows s) env ↔ Readable env pathOf rows :=
  survives_foldlM_iff _ _ _ _ _ fun s a _ => survives_load_iff pathOf s a

theorem survives_loadAllInto_iff (b : Buf) (pathOf : Str → Str) (rows : List (Attr σ)) (s : σ) :
    Survives (loadAllInto b pathOf rows s) env ↔ Readable env pathOf rows := by
  rw [← survives_loadAll_iff pathOf rows s]
  exact exists_congr fun t => returns_loadAllInto b pathOf rows s t

theorem readable_plain {rows : List (Attr σ)} (h : ∀ a ∈ rows, Plain a) (pathOf : Str → Str) :
    Readable env pathOf rows := fun a ha => by
  obtain ⟨u,hu⟩ := plain_text env (h a ha) (pathOf a.file)
  simp [hu]

theorem survives_plain {rows : List (Attr σ)} (h : ∀ a ∈ rows, Plain a) (pathOf : Str → Str)
    (s : σ) : Survives (loadAll pathOf rows s) env :=
  (survives_loadAll_iff pathOf rows s).mpr (readable_plain h pathOf)

/-! ## Lookups by device number -/

def place (d : ScsiDeviceInfo) : Option Str × Option Str × ℤ := (d.diskName,d.diskPath,d.deviceType)

theorem getDeviceNumbers_spec (name : Str) (d : ScsiDeviceInfo) :
    ∃ t, Returns (getDeviceNumbers name d) env t ∧ place t = place d := by
  simp only [getDeviceNumbers, returns_bind, returns_store, exists_eq_left, returns_ask]
  generalize env.openFd _ = n
  generalize env.stat _ = o
  by_cases h0 : n = 0
  · exact ⟨d,by simp [h0],rfl⟩
  · cases o with
    | none => exact ⟨d,by simp [h0],rfl⟩
    | some p => exact ⟨{ d with major := p.1, minor := p.2 },by simp [h0],rfl⟩

theorem place_assignHctl (d : ScsiDeviceInfo) (xs : List ℤ) : place (assignHctl d xs) = place d := by
  unfold assignHctl
  split <;> rfl

theorem place_hctlLoop (es : List Dirent) (d : ScsiDeviceInfo) :
    place (hctlLoop es d).2 = place d := by
  induction es generalizing d with
  | nil => rfl
  | cons e es ih =>
    simp only [hctlLoop]
    split_ifs
    · exact ih d
    · exact place_assignHctl d _
    · exact (ih _).trans (place_assignHctl d _)

theorem getHctlInfo_spec (d : ScsiDeviceInfo) :
    ∃ r t, Returns (getHctlInfo d) env (r,t) ∧ place t = place d := by
  simp only [getHctlInfo, returns_bind, returns_opendir, exists_eq_left]
  generalize cut 256 _ = path
  cases env.dir path with
  | none => exact ⟨-enodev,d,by simp,rfl⟩
  | some l => exact ⟨_,_,by simp; rfl,place_hctlLoop l.entries d⟩

theorem locate_spec (e : Dirent) (d : ScsiDeviceInfo) :
    ∃ t, Returns (locate e d) env t ∧ place t = place d := by
  obtain ⟨t,ht,hp⟩ := @getDeviceNumbers_spec env e.dName d
  obtain ⟨r,u,hu,hq⟩ := @getHctlInfo_spec env t
  exact ⟨u,by simp only [locate, returns_bind]; exact ⟨t,ht,(r,u),hu,by simp⟩,hq.trans hp⟩

theorem survives_locate (e : Dirent) (d : ScsiDeviceInfo) : Survives (locate e d) env := by
  obtain ⟨t,ht,-⟩ := @locate_spec env e d
  exact ⟨t,ht⟩

/-! ## Rows of the disk listings -/

theorem survives_getDiskType (d : ScsiDeviceInfo) : Survives (getDiskType d) env :=
  survives_plain (by simp [typeRow, Plain]) _ _

theorem survives_getDiskVendorModel (d : ScsiDeviceInfo) : Survives (getDiskVendorModel d) env :=
  survives_plain (by simp [vendorRow, modelRow, revRow, Plain]) _ _

theorem survives_getNvmeDeviceModel (d : ScsiDeviceInfo) : Survives (getNvmeDeviceModel d) env :=
  survives_plain (by simp [modelRow, revRow, Plain]) _ _

theorem survives_blockRow (e : Dirent) : Survives (blockRow e) env :=
  survives_seq (survives_getDiskType _) fun _ _ => survives_seq (survives_locate _ _) fun _ _ =>
    survives_seq (survives_getDiskVendorModel _) fun _ _ => survives_print _

theorem survives_nvmeRow (e : Dirent) : Survives (nvmeRow e) env :=
  survives_seq (survives_locate _ _) fun _ _ => survives_seq (survives_getNvmeDeviceModel _)
    fun _ _ => survives_print _

theorem survives_controllerRow (e : Dirent) : Survives (controllerRow e) env :=
  survives_seq (survives_getDiskType _) fun _ _ => survives_seq (survives_locate _ _) fun _ _ =>
    survives_seq (survives_getDiskVendorModel _) fun _ _ => by simp

theorem survives_cdromRow (e : Dirent) : Survives (cdromRow e) env :=
  survives_seq (survives_getDiskType _) fun _ _ => by simp

theorem survives_tapeRow (e : Dirent) : Survives (tapeRow e) env :=
  survives_seq (survives_getDiskType _) fun _ _ => survives_print _

theorem survives_genericRow (e : Dirent) : Survives (genericRow e) env :=
  survives_seq (survives_locate _ _) fun _ _ => survives_seq (survives_getDiskVendorModel _)
    fun _ _ => survives_print _

theorem survives_mpathRow (e : Dirent) : Survives (mpathRow e) env :=
  survives_seq (survives_locate _ _) fun _ _ => survives_seq (survives_getDiskVendorModel _)
    fun _ _ => survives_print _

theorem survives_rows {body : Dirent → Tool Unit} (h : ∀ e, Survives (body e) env)
    (test : Dirent → Bool) (es : List Dirent) : Survives (rows test body es) env :=
  (survives_foldlM_iff _ _ (fun _ => True) _ _ fun _ e _ => by cases test e <;> simp [h]).mpr
    fun _ _ => trivial

theorem survives_listing {body : Dirent → Tool Unit} (h : ∀ e, Survives (body e) env) (f : Device)
    (path label : Str) (header : Out) (test : Dirent → Bool) :
    Survives (listing f path label header test body) env := by
  apply survives_seq (survives_emit _ _)
  intro _ _
  apply survives_seq (survives_opendir _)
  intro o _
  cases o with
  | none => simp
  | some es =>
    apply survives_seq (survives_print _)
    intro _ _
    apply survives_seq (survives_print _)
    intro _ _
    apply survives_seq (survives_rows h test es)
    intro _ _
    simp

theorem survives_listControllers : Survives listControllers env :=
  survives_listing survives_controllerRow _ _ _ _ _

theorem survives_listMultipathDevs : Survives listMultipathDevs env :=
  survives_listing survives_mpathRow _ _ _ _ _

theorem survives_listBlockDevs : Survives listBlockDevs env := by
  apply survives_seq (survives_emit _ _)
  intro _ _
  apply survives_seq (survives_opendir _)
  intro o _
  cases o with
  | none => simp
  | some es =>
    apply survives_seq (survives_print _)
    intro _ _
    apply survives_seq (survives_print _)
    intro _ _
    apply survives_seq (survives_rows survives_blockRow isSd es)
    intro _ _
    refine survives_seq (survives_closedir _) fun _ _ => survives_seq (survives_opendir _) ?_
    intro o _
    cases o with
    | none => simp
    | some es =>
      apply survives_seq (survives_print _)
      intro _ _
      apply survives_seq (survives_print _)
      intro _ _
      apply survives_seq (survives_rows survives_nvmeRow isNvme es)
      intro _ _
      simp

/-! ## Enclosures -/

def enclosureType (env : Env) (e : Dirent) : ℤ :=
  int32 (strtol ((Attr.text env (enclosureTypePath (enclosureRecord e) "device/type")
    enclosureTypeRow).getD []))

def knownType (n : ℤ) : Bool := (devTypeStr.find? fun t => t.1 = n).isSome

theorem returns_validateEnclosureType (e : Dirent) (p : ℤ × ScsiDeviceInfo) :
    Returns (validateEnclosureType (enclosureRecord e)) env p ↔
      p = if knownType (enclosureType env e) then
          (0,nameDiskType { enclosureRecord e with deviceType := enclosureType env e })
        else (-enodev,{ enclosureRecord e with deviceType := enclosureType env e }) := by
  have hp : ∀ a ∈ [enclosureTypeRow], Plain a := by simp [enclosureTypeRow, Plain]
  have hl : loaded env (enclosureTypePath (enclosureRecord e)) [enclosureTypeRow]
      (enclosureRecord e) = { enclosureRecord e with deviceType := enclosureType env e } := rfl
  simp only [validateEnclosureType, returns_bind, returns_loadAll_plain hp, exists_eq_left, hl]
  change Returns (if knownType (enclosureType env e) = true then _ else _) env p ↔ _
  cases knownType (enclosureType env e) <;> simp

theorem survives_getEnclosureDetails (d : ScsiDeviceInfo) :
    Survives (getEnclosureDetails d) env := by
  apply survives_seq (survives_openSysfsStatsFile _)
  intro _ _
  apply survives_seq (survives_snprintfFmt _ _)
  intro t _
  by_cases hc : int32 (strtoull t) < 0
  · simp only [hc, if_true, survives_pure]
  · simp only [hc, if_false]
    exact survives_seq (survives_plain (by simp [modelRow, vendorRow, Plain]) _ _)
      fun _ _ => survives_pure _ _

theorem survives_enclosureLoop (es : List Dirent) : Survives (enclosureLoop es) env := by
  induction es with
  | nil => simp [enclosureLoop]
  | cons e es ih =>
    unfold enclosureLoop
    split
    · apply survives_seq ⟨_,(returns_validateEnclosureType e _).mpr rfl⟩
      intro p _
      dsimp only
      split
      · exact survives_pure _ _
      · apply survives_seq (survives_getEnclosureDetails _)
        intro _ _
        apply survives_seq (survives_print _)
        intro _ _
        split
        · simp
        · exact ih
    · exact ih

theorem survives_listEnclosure : Survives listEnclosure env := by
  apply survives_seq (survives_emit _ _)
  intro _ _
  apply survives_seq (survives_opendir _)
  intro o _
  cases o with
  | none => exact survives_pure _ _
  | some es =>
    exact survives_seq (survives_print _) fun _ _ => survives_seq (survives_print _) fun _ _ =>
      survives_enclosureLoop es

/-! ## Fibre Channel -/

/-- What identifies a host, and what is known of it before its attributes are read. -/
def origin (f : FcDeviceInfo) : Option Str × Option Str × Option Str × Option Str × ℤ :=
  (f.sysDevPath,f.hostName,f.driverName,f.symbolicName,f.noRports)

theorem origin_adapterRows : ∀ a ∈ portIdRow :: adapterRows, Frames origin a := by
  have hm : ∀ n f, origin { f with maxNpivVports := n } = origin f := fun _ _ => rfl
  have hu : ∀ n f, origin { f with npivVportsInuse := n } = origin f := fun _ _ => rfl
  simp only [adapterRows, List.forall_mem_cons]
  exact ⟨fun _ _ => rfl,fun _ _ => rfl,fun _ _ => rfl,fun _ _ => rfl,fun _ _ => rfl,
    fun _ f => hm _ f,fun _ f => hu _ f,fun _ _ => rfl,by simp⟩

theorem origin_driverRows :
    (∀ a ∈ qlaRows, Frames origin a) ∧ ∀ a ∈ lpfcRows ++ [lpfcSpeedRow,lpfcVersionRow],
      Frames origin a := by
  simp only [qlaRows, lpfcRows, List.cons_append, List.nil_append, List.forall_mem_cons]
  exact ⟨⟨fun _ _ => rfl,fun _ _ => rfl,fun _ _ => rfl,fun _ _ => rfl,fun _ _ => rfl,
    fun _ _ => rfl,by simp⟩,fun _ _ => rfl,fun _ _ => rfl,fun _ _ => rfl,fun _ _ => rfl,
    fun _ _ => rfl,fun _ _ => rfl,by simp⟩

theorem origin_hostRows : ∀ a ∈ activeModeRow :: hostRows, Frames origin a := by
  have hd : ∀ n f, origin { f with devLossTmo := n } = origin f := fun _ _ => rfl
  simp only [hostRows, List.forall_mem_cons]
  exact ⟨fun _ _ => rfl,fun _ _ => rfl,fun _ _ => rfl,fun _ f => hd _ f,by simp⟩

def longLine (env : Env) (path : Str) : Option Str :=
  ((stream env path).bind (fgets 256)).map removeNewline

def hostDir (name : Str) : Str := cut 64 (SYSFS_FC_HOST_PATH ++ "/" ++ name)

theorem returns_getSymbolicName (name : Str) (f : FcDeviceInfo) :
    Returns (getSymbolicName (fcHost name)) env f ↔
      f = { fcHost name with
        symbolicName := longLine env (cut 64 (hostDir name ++ "/symbolic_name")) } := by
  have hp : orNull (fcHost name).sysDevPath = hostDir name := rfl
  simp only [getSymbolicName, hp]
  rw [if_neg (by simp [fcHost]), returns_bind]
  simp only [returns_fopenRead, exists_eq_left]
  cases hs : stream env (cut 64 (hostDir name ++ "/symbolic_name")) with
  | none => simp [longLine, hs, fcHost]
  | some fp => cases hg : fgets 256 fp <;> simp [longLine, hs, hg, fcHost]

def driver (env : Env) : Option Str :=
  (env.dir PCI_DRIVER_PATH).bind fun l => (l.entries.find? isDriver).map Dirent.dName

theorem returns_getDriverInfo {f : FcDeviceInfo} (hf : f.driverName = none) (g : FcDeviceInfo) :
    Returns (getDriverInfo f) env g ↔
      (env.dir PCI_DRIVER_PATH).isSome ∧ g = { f with driverName := driver env } := by
  have hk : { f with driverName := none } = f := by
    rw [← hf]
  simp only [getDriverInfo, returns_bind, returns_opendir, exists_eq_left]
  cases hd : env.dir PCI_DRIVER_PATH with
  | none => simp
  | some l => cases hl : l.entries.find? isDriver <;> simp [driver, hd, hl, hk]

def knownHost (env : Env) (name : Str) : FcDeviceInfo :=
  { fcHost name with
    symbolicName := longLine env (cut 64 (hostDir name ++ "/symbolic_name"))
    driverName := driver env }

theorem returns_identify (name : Str) (g : FcDeviceInfo) :
    Returns (do let f ← getSymbolicName (fcHost name); getDriverInfo f) env g ↔
      (env.dir PCI_DRIVER_PATH).isSome ∧ g = knownHost env name := by
  rw [returns_bind]
  simp only [returns_getSymbolicName, exists_eq_left]
  exact returns_getDriverInfo rfl g

def HostReadable (env : Env) (f : FcDeviceInfo) : Prop :=
  Readable env (fun file => cut 1024 (underHost f file)) [portIdRow] ∧
    Readable env (underHost f) adapterRows

theorem underHost_congr {f g : FcDeviceInfo} (h : origin f = origin g) :
    underHost f = underHost g := by
  funext file
  rw [underHost, underHost, (Prod.mk.inj h).1]

theorem survives_getAdapterDetails_iff (f : FcDeviceInfo) :
    Survives (getAdapterDetails f) env ↔ HostReadable env f := by
  unfold getAdapterDetails
  rw [survives_bind_of (P := Readable env (underHost f) adapterRows), survives_loadAll_iff]
  · rfl
  · intro g hg
    have ho := loadAll_frame origin (fun a ha => origin_adapterRows a (by simp_all)) hg
    rw [survives_bind_of (P := True), survives_loadAllInto_iff, underHost_congr ho, and_true]
    intro k _
    simp only [survives_bind, returns_store, exists_eq_left, returns_opendir, iff_true]
    cases env.dir (underHost k "device") <;> simp [printInfo]

def entriesOf (env : Env) (path : Str) : List Dirent :=
  ((env.dir path).map fun l => forEachDir l.entries).getD []

def allEntries (env : Env) (path : Str) : List Dirent := ((env.dir path).map Listing.entries).getD []

def rportsGiven (env : Env) (f : FcDeviceInfo) : ℤ :=
  match env.dir (underHost f "device") with
  | none => 0
  | some l => countRports (forEachDir l.entries) 0 f.noRports

theorem origin_getAdapterDetails {f g : FcDeviceInfo} (h : Returns (getAdapterDetails f) env g) :
    origin g = origin { f with noRports := rportsGiven env f } := by
  simp only [getAdapterDetails, returns_bind, returns_loadAllInto, returns_store,
    exists_eq_left, returns_opendir] at h
  obtain ⟨f₁,h₁,f₂,h₂,h⟩ := h
  have ho₁ := loadAll_frame origin (fun a ha => origin_adapterRows a (by simp_all)) h₁
  have ho₂ := loadAll_frame origin (fun a ha => origin_adapterRows a (by simp_all)) h₂
  have ho : origin f₂ = origin f := ho₂.trans ho₁
  have hn : f₂.noRports = f.noRports := congrArg (·.2.2.2.2) ho
  have hw : ∀ n, origin { f₂ with noRports := n } = origin { f with noRports := n } := fun n => by
    simp only [origin, Prod.mk.injEq] at ho ⊢
    exact ⟨ho.1,ho.2.1,ho.2.2.1,ho.2.2.2.1,trivial⟩
  rw [underHost_congr ho] at h
  rw [← hw]
  cases hd : env.dir (underHost f "device") with
  | none =>
    obtain rfl : g = { f₂ with noRports := 0 } := by simpa [hd, printInfo, print] using h
    rw [rportsGiven, hd]
  | some l =>
    obtain rfl : g = { f₂ with noRports := countRports (forEachDir l.entries) 0 f₂.noRports } := by
      simpa [hd] using h
    rw [rportsGiven, hd, hn]

theorem scsiHostFile_congr {f g : FcDeviceInfo} (h : origin f = origin g) :
    scsiHostFile f = scsiHostFile g := by
  have hn : f.hostName = g.hostName := congrArg (·.2.1) h
  funext file
  rw [scsiHostFile, scsiHostFile, (Prod.mk.inj h).1, hn]

theorem hostFile_congr {f g : FcDeviceInfo} (h : origin f = origin g) :
    hostFile f = hostFile g := by
  funext file
  rw [hostFile, hostFile, underHost_congr h]

def linkLine (env : Env) (f : FcDeviceInfo) : Option Str :=
  (stream env (scsiHostFile f "link_state")).bind (fgets 64)

theorem returns_loadLinkState (f : FcDeviceInfo) (o : Option FcDeviceInfo) :
    Returns (loadLinkState f) env o ↔ o = (linkLine env f).map fun p =>
      { f with linkState := some (cut p.length (env.format p)) } := by
  simp only [loadLinkState, returns_bind, returns_fopenRead, exists_eq_left, linkLine]
  cases hs : stream env (scsiHostFile f "link_state") with
  | none => simp
  | some fp => cases hg : fgets 64 fp <;> simp [hg]

theorem survives_loadLinkState (f : FcDeviceInfo) : Survives (loadLinkState f) env :=
  ⟨_,(returns_loadLinkState f _).mpr rfl⟩

theorem plain_hostRows : ∀ a ∈ activeModeRow :: hostRows, Plain a := by
  simp [activeModeRow, hostRows, fcText, Plain]

theorem survives_getLinkInfo (f : FcDeviceInfo) : Survives (getLinkInfo f) env := by
  apply survives_seq (survives_loadLinkState f)
  intro o _
  cases o with
  | none => simp
  | some g =>
    refine survives_seq (survives_plain (fun a ha => plain_hostRows a (by simp_all)) _ _) ?_
    intro k _
    refine survives_seq (survives_plain (fun a ha => plain_hostRows a (by simp_all)) _ _) ?_
    simp

theorem frame_getLinkInfo {τ : Type} (v : FcDeviceInfo → τ)
    (hv : ∀ a ∈ activeModeRow :: hostRows, Frames v a) {f g : FcDeviceInfo} {s : ℤ}
    (h : Returns (getLinkInfo f) env (s,g)) :
    v g = v ((linkLine env f).elim f fun p =>
      { f with linkState := some (cut p.length (env.format p)) }) := by
  rw [getLinkInfo, returns_bind_at ((returns_loadLinkState f _).mpr rfl)] at h
  cases hl : linkLine env f with
  | none =>
    rw [hl] at h
    obtain ⟨-,rfl⟩ := Prod.mk.inj ((returns_pure _ _ _).mp h)
    rfl
  | some p =>
    rw [hl] at h
    obtain ⟨f₁,h₁,h⟩ := (returns_bind _ _ _ _).mp h
    obtain ⟨f₂,h₂,h⟩ := (returns_bind _ _ _ _).mp h
    obtain ⟨-,rfl⟩ := Prod.mk.inj ((returns_pure _ _ _).mp h)
    have hv₁ := loadAll_frame v (fun a ha => hv a (by simp_all)) h₁
    have hv₂ := loadAll_frame v (fun a ha => hv a (by simp_all)) h₂
    exact hv₂.trans hv₁

theorem origin_getLinkInfo {f g : FcDeviceInfo} {s : ℤ} (h : Returns (getLinkInfo f) env (s,g)) :
    origin g = origin f := by
  rw [frame_getLinkInfo origin origin_hostRows h]
  cases linkLine env f <;> rfl

/-- What must be there for the second half of the details of a host: a driver, and for one
of the two a line that can be freed of its leading blanks. -/
def InfoReadable (env : Env) (f : FcDeviceInfo) : Prop :=
  ∃ d, f.driverName = some d ∧ (strncmpEq d "qla2xxx" 7 = false → strncmpEq d "lpfc" 4 = true →
    Readable env (hostFile f) [lpfcSpeedRow])

theorem infoReadable_congr {f g : FcDeviceInfo} (h : origin f = origin g) :
    InfoReadable env f ↔ InfoReadable env g := by
  have hp := hostFile_congr h
  have hd : f.driverName = g.driverName := congrArg (·.2.2.1) h
  rw [InfoReadable, InfoReadable, hp, hd]

theorem survives_getFcInfo_iff (f : FcDeviceInfo) :
    Survives (getFcInfo f) env ↔ InfoReadable env f := by
  have hq : ∀ a ∈ qlaRows, Plain a := by simp [qlaRows, fcText, Plain]
  have hl : ∀ a ∈ lpfcRows, Plain a := by simp [lpfcRows, fcText, Plain]
  have hv : ∀ a ∈ [lpfcVersionRow], Plain a := by simp [lpfcVersionRow, fcText, Plain]
  unfold getFcInfo InfoReadable
  cases hd : f.driverName with
  | none => simp
  | some d =>
    simp only [Option.some.injEq, exists_eq_left']
    cases h₁ : strncmpEq d "qla2xxx" 7 with
    | true =>
      simp only [if_true, Bool.true_eq_false, false_imp_iff, iff_true]
      exact survives_seq (survives_plain hq _ _) fun g _ => survives_getLinkInfo g
    | false =>
      simp only [Bool.false_eq_true, if_false, forall_true_left]
      cases h₂ : strncmpEq d "lpfc" 4 with
      | false => simp [printInfo]
      | true =>
        simp only [if_true, forall_true_left]
        rw [survives_bind_of (P := Readable env (hostFile f) [lpfcSpeedRow])]
        · exact and_iff_right (survives_plain hl _ _)
        · intro g hg
          have ho := loadAll_frame origin (fun a ha => origin_driverRows.2 a (by simp_all)) hg
          have hp := hostFile_congr ho
          rw [survives_bind_of (P := True), survives_loadAll_iff, hp, and_true]
          intro k _
          simp only [iff_true]
          exact survives_seq (survives_plain hv _ _) fun m _ => survives_getLinkInfo m

theorem origin_getFcInfo {f g : FcDeviceInfo} {s : ℤ} (h : Returns (getFcInfo f) env (s,g)) :
    origin g = origin f := by
  unfold getFcInfo at h
  cases hd : f.driverName with
  | none => simp [hd] at h
  | some d =>
    simp only [hd] at h
    split_ifs at h with h₁ h₂
    · obtain ⟨f₁,hf,h⟩ := (returns_bind _ _ _ _).mp h
      exact (origin_getLinkInfo h).trans (loadAll_frame origin origin_driverRows.1 hf)
    · obtain ⟨f₁,hf₁,h⟩ := (returns_bind _ _ _ _).mp h
      obtain ⟨f₂,hf₂,h⟩ := (returns_bind _ _ _ _).mp h
      obtain ⟨f₃,hf₃,h⟩ := (returns_bind _ _ _ _).mp h
      have ho₁ := loadAll_frame origin (fun a ha => origin_driverRows.2 a (by simp_all)) hf₁
      have ho₂ := loadAll_frame origin (fun a ha => origin_driverRows.2 a (by simp_all)) hf₂
      have ho₃ := loadAll_frame origin (fun a ha => origin_driverRows.2 a (by simp_all)) hf₃
      exact (origin_getLinkInfo h).trans (ho₃.trans (ho₂.trans ho₁))
    · obtain ⟨-,rfl⟩ : s = 0 ∧ g = f := by simpa [printInfo, print] using h
      rfl

def HostLives (env : Env) (name : Str) : Prop :=
  (env.dir PCI_DRIVER_PATH).isSome ∧ InfoReadable env (knownHost env name)

theorem fcAdapterRow_eq (e : Dirent) :
    fcAdapterRow e = (do
      let f ← (do
        let f ← getSymbolicName (fcHost e.dName)
        getDriverInfo f)
      let (_,f) ← getFcInfo f
      print (.listFcDev f)) := by
  simp only [fcAdapterRow, prog_bind_assoc]

theorem survives_fcAdapterRow_iff (e : Dirent) :
    Survives (fcAdapterRow e) env ↔ HostLives env e.dName := by
  rw [fcAdapterRow_eq, survives_bind]
  simp only [returns_identify, and_assoc, exists_and_left, exists_eq_left, HostLives]
  apply and_congr_right
  intro _
  rw [survives_bind_of (P := True) fun _ _ => by simp, and_true, survives_getFcInfo_iff]

theorem survives_listFcAdapters_iff : Survives listFcAdapters env ↔
    ∀ e ∈ entriesOf env SYSFS_FC_HOST_PATH, HostLives env e.dName := by
  cases h : env.dir SYSFS_FC_HOST_PATH with
  | none => simp [listFcAdapters, h, entriesOf]
  | some l =>
    have hl := survives_foldlM_iff (fun (_ : Unit) e => fcAdapterRow e) env _
      (forEachDir l.entries) () fun _ e _ => survives_fcAdapterRow_iff e
    simpa [listFcAdapters, h, entriesOf, Survives] using hl

end ScsiCli.Completion
