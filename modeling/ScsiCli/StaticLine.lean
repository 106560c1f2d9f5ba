import ScsiCli.FixedArrays
import ScsiCli.Simulation
import ScsiCli.IscsiUtils
import ScsiCli.LiteralCopies

/-!
# The arrays behind the reader

The reader returns a pointer into one array of its own, which every later call
overwrites, and a gatherer formats what it is given into an array that it uses
for one attribute after the other and does not always clear. Eight of them are
written here over these arrays, whatever they hold at first. They do what the
gatherers that pass strings do.
-/

set_option autoImplicit false

namespace ScsiCli.StaticLine
open ScsiCli.RunTrace ScsiCli.ByteString ScsiCli.NumberText ScsiCli.Records
open ScsiCli.Machine ScsiCli.SysfsUtils ScsiCli.DiskUtils ScsiCli.DiskDetails
open ScsiCli.FcpUtils ScsiCli.IscsiUtils ScsiCli.MachineRules
open ScsiCli.FixedArrays ScsiCli.Simulation ScsiCli.LiteralCopies

abbrev Line := FixedArray Char 64

structure Arrays (n : ℕ) where
  line : Line
  temp : FixedArray Char n

variable {σ : Type} {n : ℕ} {env : Env}

/-! ## Operations on arrays -/

section Operations

-- What a read that fails leaves of the array it was to fill.
variable (spoil : Line → Line)

/-- `fgets(line, sizeof(line), fp)`: whether it returns the array, and the array. -/
def fgetsArray : Stream → Line → Bool × Line
  | none, a => (false,spoil a)
  | some [], a => (false,a)
  | some (c :: b), a => (true,a.put nul (lineBytes 63 (c :: b)))

def pointee (x : Bool × Line) : Option Str := if x.1 then some (x.2.get nul) else none

def removeNewlineArray (a : Line) : Line := a.cutAt nul '\n'

def openSysfsStatsFileArray (path : Str) (a : Line) : Tool (Bool × Line) := do
  match ← fopenRead path with
  | none => pure (false,a)
  | some fp =>
    let x := fgetsArray spoil fp a
    if x.1 then do
      fclose path
      pure (true,removeNewlineArray x.2)
    else do
      fclose path
      pure x

def storeCut (size : ℕ) (t : Str) (a : FixedArray Char n) : FixedArray Char n :=
  if size = 0 then a else a.put nul (cut size t)

def snprintfArray (size : ℕ) (fmt : Option Str) (a : FixedArray Char n) :
    Tool (FixedArray Char n) :=
  match fmt with
  | none => do
    emit (.nullUse .format)
    pure (storeCut size [] a)
  | some fmt => do
    let env ← ask
    pure (storeCut size (env.format fmt) a)

def sprintfArray (b : Buf) (fmt : Option Str) (a : FixedArray Char n) :
    Tool (FixedArray Char n) :=
  match fmt with
  | none => do
    emit (.nullUse .format)
    pure (a.put nul [])
  | some fmt => do
    let env ← ask
    storeBytes b ((env.format fmt).length+1)
    pure (a.put nul (env.format fmt))

def fetchArray (path : Str) (m : Arrays n) : Copy → Tool (Arrays n)
  | .bounded size => do
    let x ← openSysfsStatsFileArray spoil path m.line
    let temp ← snprintfArray size (pointee x) m.temp
    pure ⟨x.2,temp⟩
  | .unbounded b => do
    let x ← openSysfsStatsFileArray spoil path m.line
    let temp ← sprintfArray b (pointee x) m.temp
    pure ⟨x.2,temp⟩
  | .argument size => do
    let x ← openSysfsStatsFileArray spoil path m.line
    pure ⟨x.2,storeCut size (orNull (pointee x)) m.temp⟩
  | .direct => do
    let x ← openSysfsStatsFileArray spoil path m.line
    if x.1 then pure ⟨x.2,m.temp⟩ else nullFault .strtoull

/-- The array that the statement reads: the gatherer's, or the reader's itself. -/
def readArray (m : Arrays n) : Copy → Str
  | .direct => m.line.get nul
  | _ => m.temp.get nul

/-- `memset(temp, 0, sizeof(temp))` before the attributes it stands before. -/
def cleared (clear : Str → Bool) (file : Str) (m : Arrays n) : Arrays n :=
  if clear file then { m with temp := .fill nul } else m

def loadArray (clear : Str → Bool) (pathOf : Str → Str) (x : σ × Arrays n) (a : Attr σ) :
    Tool (σ × Arrays n) := do
  let m ← fetchArray spoil (pathOf a.file) (cleared clear a.file x.2) a.copy
  let u ← stripped a.strip (readArray m a.copy)
  pure (a.store u x.1,m)

def loadAllArray (clear : Str → Bool) (pathOf : Str → Str) (rows : List (Attr σ))
    (x : σ × Arrays n) : Tool (σ × Arrays n) :=
  rows.foldlM (loadArray spoil clear pathOf) x

def loadIntoArray (b : Buf) (clear : Str → Bool) (pathOf : Str → Str) (x : σ × Arrays n)
    (a : Attr σ) : Tool (σ × Arrays n) := do
  let path ← Machine.store b (pathOf a.file)
  loadArray spoil clear (fun _ => path) x a

def loadAllIntoArray (b : Buf) (clear : Str → Bool) (pathOf : Str → Str) (rows : List (Attr σ))
    (x : σ × Arrays n) : Tool (σ × Arrays n) :=
  rows.foldlM (loadIntoArray spoil b clear pathOf) x

/-! ## The gatherers -/

/-- `buf` is never cleared and is not initialised. -/
def getDiskQueueDataArray (d : ScsiDeviceInfo) (m : Arrays 32) :
    Tool (ScsiDeviceInfo × Arrays 32) :=
  loadAllArray spoil (fun _ => false) (queuePath d) queueRows (d,m)

def getDiskVendorModelArray (d : ScsiDeviceInfo) (m : Arrays 32) :
    Tool (ScsiDeviceInfo × Arrays 32) :=
  loadAllArray spoil (fun _ => true) (underDisk d)
    [vendorRow 32, modelRow 32, revRow "device/rev" 32] (d,m)

def getNvmeDeviceModelArray (d : ScsiDeviceInfo) (m : Arrays 32) :
    Tool (ScsiDeviceInfo × Arrays 32) :=
  loadAllArray spoil (fun _ => true) (underDisk d)
    [modelRow 32, revRow "device/firmware_rev" 32] (d,m)

/-- Every value but the timeout goes into a cleared array. The queue's data has
an array of its own. -/
def getSingleScsiDiskDetailsArray (diskName : Str) (d : ScsiDeviceInfo) (m : Arrays 64)
    (buf : FixedArray Char 32) : Tool (ScsiDeviceInfo × Arrays 32) := do
  let d := scsiDisk diskName d
  let x ← loadAllArray spoil (fun file => file != "device/timeout") (underDisk d) scsiRows (d,m)
  let y ← getDiskQueueDataArray spoil x.1 ⟨x.2.line,buf⟩
  print (.scsiDiskDetails y.1)
  pure y

def getRportInfoArray (r : FcRportInfo) (m : Arrays 32) : Tool (FcRportInfo × Arrays 32) :=
  loadAllArray spoil (fun _ => false) (rportFile r) rportRows (r,m)

/-- The line of `link_state` is read into an array of the function's own. Where it
is an empty string nothing is stored, and the array is shown as it was cleared. -/
def loadLinkStateArray (f : FcDeviceInfo) (own : Line) (m : Arrays 128) :
    Tool (Option (FcDeviceInfo × Arrays 128)) := do
  let m := { m with temp := .fill nul }
  let path := scsiHostFile f "link_state"
  match ← fopenRead path with
  | none => pure none
  | some fp =>
    let x := fgetsArray spoil fp own
    match pointee x with
    | none =>
      fclose path
      pure none
    | some p =>
      let temp ← snprintfArray p.length (some p) m.temp
      fclose path
      pure (some ({ f with linkState := some (temp.get nul) },{ m with temp := temp }))

def getLinkInfoArray (f : FcDeviceInfo) (own : Line) (m : Arrays 128) :
    Tool (ℤ × FcDeviceInfo × Arrays 128) := do
  match ← loadLinkStateArray spoil f own m with
  | none => pure (-einval,f,m)
  | some x =>
    let x ← loadAllArray spoil (fun file => file != "dev_loss_tmo") (hostFile x.1) hostRows x
    let x ← loadAllArray spoil (fun _ => true) (scsiHostFile x.1) [activeModeRow] x
    pure (0,x)

def getFcInfoArray (f : FcDeviceInfo) (own : Line) (m : Arrays 128) :
    Tool (ℤ × FcDeviceInfo × Arrays 128) := do
  match f.driverName with
  | none => nullFault .strncmp
  | some driver =>
    if strncmpEq driver "qla2xxx" 7 then do
      let x ← loadAllArray spoil (fun _ => true) (scsiHostFile f) qlaRows (f,m)
      getLinkInfoArray spoil x.1 own x.2
    else if strncmpEq driver "lpfc" 4 then do
      let x ← loadAllArray spoil (fun _ => true) (scsiHostFile f) lpfcRows (f,m)
      let x ← loadAllArray spoil (fun _ => true) (hostFile x.1) [lpfcSpeedRow] x
      let x ← loadAllArray spoil (fun _ => true) (moduleFile driver) [lpfcVersionRow] x
      getLinkInfoArray spoil x.1 own x.2
    else do
      printInfo "Unknown Adapter"
      pure (0,f,m)

def sessionAttributesArray (i : IscsiDevInfo) (s : IscsiSession) (m : Arrays 256) :
    Tool (IscsiSession × Arrays 256) :=
  loadAllArray spoil (fun file => file != "initiatorname") (sessionAttr i) sessionRows (s,m)

def getIscsiConnectionInfoArray (i : IscsiDevInfo) (c : IscsiConnection) (m : Arrays 256) :
    Tool (ℤ × IscsiConnection × Arrays 256) := do
  let connPath ← store .iscsiConnectionPath
    (SYSFS_ISCSI_CONN_PATH ++ "/" ++ orNull i.connectionName)
  let x ← loadAllIntoArray spoil .iscsiConnectionConnStr (fun _ => false)
    (fun file => connPath ++ "/" ++ file) connectionRows (c,m)
  print (.iscsiHeader "Connection" i.connectionName)
  print (.iscsiConnectionInfo x.1)
  pure (0,x)

end Operations

/-! ## What an array is read as -/

/-- What the C library writes for a format that it does not define is a string, and
is no longer than the smallest array that is not told to stop. -/
structure Textual (env : Env) : Prop where
  plain : ∀ s, nul ∉ env.wild.text s
  short : ∀ s, (env.wild.text s).length < 128

theorem lineBytes_length_le (k : ℕ) (b : Str) : (lineBytes k b).length ≤ k := by
  induction k generalizing b with
  | zero => simp [lineBytes]
  | succ k ih =>
    cases b with
    | nil => simp [lineBytes]
    | cons c b =>
      rw [lineBytes]
      split
      · simp
      · have := ih b
        simp only [List.length_cons]
        omega

theorem pointee_fgetsArray (spoil : Line → Line) (fp : Stream) (a : Line) :
    pointee (fgetsArray spoil fp a) = fgets 64 fp := by
  rcases fp with _ | _ | ⟨c,b⟩
  · rfl
  · rfl
  · have hl := lineBytes_length_le 63 (c :: b)
    rw [fgetsArray, pointee, if_pos rfl, get_put _ (by omega)]
    rfl

theorem storeCut_get {a : FixedArray Char n} {size : ℕ} {t : Str} (ha : size = 0 → a.get nul = [])
    (hs : size ≤ n) (ht : nul ∉ t) : (storeCut size t a).get nul = cut size t := by
  by_cases h : size = 0
  · rw [storeCut, if_pos h, ha h, h]
    rfl
  · have hl := cut_length_le size t
    rw [storeCut, if_neg h]
    exact get_put_of_not_mem a (by omega) fun hm => ht (List.mem_of_mem_take hm)

theorem fill_get : (FixedArray.fill nul : FixedArray Char n).get nul = [] := by
  cases n with
  | zero => rfl
  | succ n => simp [FixedArray.get, FixedArray.fill, List.replicate_succ]

theorem nul_not_mem_fgets {fp : Stream} {p : Str} (h : fgets 64 fp = some p) :
    nul ∉ p ∧ p.length ≤ 63 := by
  rcases fp with _ | _ | ⟨c,b⟩
  · cases h
  · cases h
  · obtain rfl : cString (lineBytes 63 (c :: b)) = p := Option.some.inj h
    have hl := lineBytes_length_le 63 (c :: b)
    have hp : (cString (lineBytes 63 (c :: b))).length ≤ (lineBytes 63 (c :: b)).length :=
      (List.takeWhile_prefix _).length_le
    exact ⟨fun hm => by simpa using List.mem_takeWhile_imp hm,by omega⟩

theorem nul_not_mem_line {path p : Str} (h : line env path = some p) :
    nul ∉ p ∧ p.length ≤ 63 := by
  obtain ⟨q,hq,rfl⟩ := Option.map_eq_some_iff.mp h
  obtain ⟨fp,-,hf⟩ := Option.bind_eq_some_iff.mp hq
  obtain ⟨hn,hl⟩ := nul_not_mem_fgets hf
  have hp : removeNewline q <+: q := List.takeWhile_prefix _
  exact ⟨fun hm => hn (hp.sublist.mem hm),hp.length_le.trans hl⟩

theorem Textual.format (hw : Textual env) {p : Str} (hp : nul ∉ p ∧ p.length ≤ 63) :
    nul ∉ env.format p ∧ (env.format p).length < 128 := by
  unfold Env.format
  cases h : expand p with
  | none => exact ⟨hw.plain p,hw.short p⟩
  | some t =>
    have hl := expand_length_le h
    exact ⟨nul_not_mem_expand h hp.1,by simp only [Option.getD_some]; omega⟩

/-! ## The operations simulate those on strings -/

variable {spoil : Line → Line}

theorem simulates_reader (path : Str) (a : Line) :
    Simulates (fun x p => pointee x = p ∧ line env path = p) env
      (openSysfsStatsFileArray spoil path a) (openSysfsStatsFile path) := by
  refine simulates_after _ fun fp hfp => ?_
  have hs : fp = stream env path := (returns_fopenRead path fp).mp hfp
  cases fp with
  | none => exact simulates_pure ⟨rfl,by rw [line, ← hs]; rfl⟩
  | some fp =>
    have hg := pointee_fgetsArray spoil fp a
    cases hx : (fgetsArray spoil fp a).1 with
    | false =>
      have hf : fgets 64 fp = none := by rw [← hg, pointee, hx]; rfl
      simp only [hx, hf, Bool.false_eq_true, if_false]
      refine simulates_after _ fun _ _ => simulates_pure ⟨?_,by rw [line, ← hs]; simp [hf]⟩
      rw [pointee, hx]
      rfl
    | true =>
      have hf : fgets 64 fp = some ((fgetsArray spoil fp a).2.get nul) := by
        rw [← hg, pointee, hx]
        rfl
      simp only [hx, hf, if_true]
      refine simulates_after _ fun _ _ => simulates_pure ⟨?_,by rw [line, ← hs]; simp [hf]⟩
      exact congrArg some (get_cutAt _ _)

theorem simulates_snprintf {size : ℕ} {fmt : Option Str} {a : FixedArray Char n}
    (ha : size = 0 → a.get nul = []) (hs : size ≤ n)
    (hf : ∀ p, fmt = some p → nul ∉ env.format p) :
    Simulates (fun b t => b.get nul = t) env (snprintfArray size fmt a) (snprintfFmt size fmt) := by
  cases fmt with
  | none =>
    refine simulates_after _ fun _ _ => simulates_pure ?_
    rw [storeCut_get ha hs List.not_mem_nil]
    exact List.take_nil
  | some p =>
    refine simulates_after _ fun e he => simulates_pure ?_
    obtain rfl : e = env := (returns_ask _ _).mp he
    exact storeCut_get ha hs (hf p rfl)

theorem simulates_sprintf {b : Buf} {fmt : Option Str} {a : FixedArray Char n} (hn : 0 < n)
    (hf : ∀ p, fmt = some p → nul ∉ env.format p ∧ (env.format p).length < n) :
    Simulates (fun b t => b.get nul = t) env (sprintfArray b fmt a) (sprintfFmt b fmt) := by
  cases fmt with
  | none =>
    exact simulates_after _ fun _ _ => simulates_pure
      (get_put_of_not_mem a hn List.not_mem_nil)
  | some p =>
    refine simulates_after _ fun e he => ?_
    obtain rfl : e = env := (returns_ask _ _).mp he
    exact simulates_after _ fun _ _ => simulates_pure
      (get_put_of_not_mem a (hf p rfl).2 (hf p rfl).1)

def Fits (n : ℕ) : Copy → Prop
  | .bounded size => 0 < size ∧ size ≤ n
  | .unbounded _ => 128 ≤ n
  | .argument size => 0 < size ∧ size ≤ n
  | .direct => True

theorem nul_not_mem_orNull {p : Option Str} (h : ∀ q, p = some q → nul ∉ q) : nul ∉ orNull p := by
  cases p with
  | none =>
    change nul ∉ lit "(null)"
    simp [lit, nul]
  | some q => exact h q rfl

theorem simulates_fetch (hw : Textual env) (path : Str) (m : Arrays n) {c : Copy} (hc : Fits n c) :
    Simulates (fun m t => readArray m c = t) env (fetchArray spoil path m c) (c.fetch path) := by
  have hr := @simulates_reader env spoil path m.line
  have hp : ∀ {x : Bool × Line} {p : Option Str}, pointee x = p ∧ line env path = p →
      ∀ q, pointee x = some q → nul ∉ q ∧ q.length ≤ 63 := fun h q hq =>
    nul_not_mem_line (h.2.trans (h.1.symm.trans hq))
  cases c with
  | bounded size =>
    refine simulates_bind hr fun x p hx => ?_
    rw [← hx.1]
    have hs := simulates_snprintf (a := m.temp) (fun h => absurd h hc.1.ne') hc.2
      fun q hq => (hw.format (hp hx q hq)).1
    rw [← prog_bind_pure (snprintfFmt size (pointee x))]
    exact simulates_bind hs fun b t hb => simulates_pure hb
  | unbounded b =>
    refine simulates_bind hr fun x p hx => ?_
    rw [← hx.1]
    have hs := simulates_sprintf (b := b) (a := m.temp) (by unfold Fits at hc; omega)
      fun q hq => ⟨(hw.format (hp hx q hq)).1,(hw.format (hp hx q hq)).2.trans_le hc⟩
    rw [← prog_bind_pure (sprintfFmt b (pointee x))]
    exact simulates_bind hs fun b t hb => simulates_pure hb
  | argument size =>
    refine simulates_bind hr fun x p hx => simulates_pure ?_
    rw [← hx.1]
    exact storeCut_get (fun h => absurd h hc.1.ne') hc.2
      (nul_not_mem_orNull fun q hq => (hp hx q hq).1)
  | direct =>
    refine simulates_bind hr fun x p hx => ?_
    rw [← hx.1, pointee]
    cases x.1 with
    | false => exact simulates_bind (simulates_refl _) fun _ _ _ => simulates_crash
    | true => exact simulates_pure rfl

theorem simulates_load (hw : Textual env) (clear : Str → Bool) (pathOf : Str → Str) (s : σ)
    (m : Arrays n) {a : Attr σ} (hc : Fits n a.copy) :
    Simulates (fun x t => x.1 = t) env (loadArray spoil clear pathOf (s,m) a)
      (Attr.load pathOf s a) := by
  refine simulates_bind (simulates_fetch hw _ _ hc) fun m t ht => ?_
  rw [ht]
  exact simulates_after _ fun u _ => simulates_pure rfl

theorem simulates_loadAll (hw : Textual env) (clear : Str → Bool) (pathOf : Str → Str)
    {rows : List (Attr σ)} (hc : ∀ a ∈ rows, Fits n a.copy) {x : σ × Arrays n} {s : σ}
    (hx : x.1 = s) :
    Simulates (fun x t => x.1 = t) env (loadAllArray spoil clear pathOf rows x)
      (loadAll pathOf rows s) := by
  refine simulates_foldlM (fun y t hy a ha => ?_) hx
  rw [← hy]
  exact simulates_load hw clear pathOf y.1 y.2 (hc a ha)

theorem simulates_loadAllInto (hw : Textual env) (b : Buf) (clear : Str → Bool)
    (pathOf : Str → Str) {rows : List (Attr σ)} (hc : ∀ a ∈ rows, Fits n a.copy)
    {x : σ × Arrays n} {s : σ} (hx : x.1 = s) :
    Simulates (fun x t => x.1 = t) env (loadAllIntoArray spoil b clear pathOf rows x)
      (loadAllInto b pathOf rows s) := by
  refine simulates_foldlM (fun y t hy a ha => ?_) hx
  rw [← hy]
  exact simulates_after _ fun path _ => simulates_load hw clear (fun _ => path) y.1 y.2 (hc a ha)

/-! ## The gatherers -/

theorem fits_queueRows : ∀ a ∈ queueRows, Fits 32 a.copy := by
  simp [queueRows, queueRow, queueText, Fits]

theorem fits_scsiRows : ∀ a ∈ scsiRows, Fits 64 a.copy := by
  simp [scsiRows, textRow, intRow, u64Row, Fits]

theorem simulates_queueData (hw : Textual env) {d d' : ScsiDeviceInfo} (hd : d = d')
    (m : Arrays 32) :
    Simulates (fun x t => x.1 = t) env (getDiskQueueDataArray spoil d m) (getDiskQueueData d') := by
  subst hd
  exact simulates_loadAll hw _ _ fits_queueRows rfl

theorem simulates_scsiDetails (hw : Textual env) (diskName : Str) (d : ScsiDeviceInfo)
    (m : Arrays 64) (buf : FixedArray Char 32) :
    Simulates (fun x t => x.1 = t) env (getSingleScsiDiskDetailsArray spoil diskName d m buf)
      (getSingleScsiDiskDetails diskName d) := by
  refine simulates_bind (simulates_loadAll hw _ _ fits_scsiRows rfl) fun x t hx => ?_
  refine simulates_bind (simulates_queueData hw hx _) fun y u hy => ?_
  rw [hy]
  exact simulates_after _ fun _ _ => simulates_pure hy

/-- Whatever the arrays hold, the line that is shown is the one that was read, an
empty one as well. -/
theorem simulates_linkState (hw : Textual env) {f f' : FcDeviceInfo} (hf : f = f') (own : Line)
    (m : Arrays 128) :
    Simulates (fun x t => x.map Prod.fst = t) env (loadLinkStateArray spoil f own m)
      (loadLinkState f') := by
  subst hf
  refine simulates_after _ fun fp _ => ?_
  cases fp with
  | none => exact simulates_pure rfl
  | some fp =>
    simp only [pointee_fgetsArray]
    cases hp : fgets 64 fp with
    | none => exact simulates_after _ fun _ _ => simulates_pure rfl
    | some p =>
      have hq := nul_not_mem_fgets hp
      have hs : Simulates (fun b t => b.get nul = t) env
          (snprintfArray p.length (some p) (.fill nul : FixedArray Char 128))
          (snprintfFmt p.length (some p)) :=
        simulates_snprintf (fun _ => fill_get) (by omega) fun q he =>
          (hw.format (Option.some.inj he ▸ hq)).1
      refine simulates_bind hs fun b t hb => ?_
      rw [← hb]
      exact simulates_after _ fun _ _ => simulates_pure rfl

def Alike {α β γ : Type} (x : α × β × γ) (t : α × β) : Prop := x.1 = t.1 ∧ x.2.1 = t.2

theorem simulates_linkInfo (hw : Textual env) {f f' : FcDeviceInfo} (hf : f = f') (own : Line)
    (m : Arrays 128) :
    Simulates Alike env (getLinkInfoArray spoil f own m) (getLinkInfo f') := by
  refine simulates_bind (simulates_linkState hw hf own m) fun x t hx => ?_
  rw [← hx]
  cases x with
  | none => exact simulates_pure ⟨rfl,hf⟩
  | some x =>
    refine simulates_bind (simulates_loadAll hw _ _ ?_ rfl) fun y u hy => ?_
    · simp [hostRows, fcText, Fits]
    · rw [← hy]
      refine simulates_bind (simulates_loadAll hw _ _ ?_ rfl) fun z v hz => simulates_pure ⟨rfl,hz⟩
      simp [activeModeRow, fcText, Fits]

theorem simulates_fcInfo (hw : Textual env) (f : FcDeviceInfo) (own : Line) (m : Arrays 128) :
    Simulates Alike env (getFcInfoArray spoil f own m) (getFcInfo f) := by
  unfold getFcInfoArray getFcInfo
  cases f.driverName with
  | none => exact simulates_bind (simulates_refl _) fun _ _ _ => simulates_crash
  | some driver =>
    dsimp only
    by_cases hq : strncmpEq driver "qla2xxx" 7
    · rw [if_pos hq, if_pos hq]
      refine simulates_bind (simulates_loadAll hw _ _ ?_ rfl) fun x t hx =>
        simulates_linkInfo hw hx own x.2
      simp [qlaRows, fcText, Fits]
    rw [if_neg hq, if_neg hq]
    by_cases hl : strncmpEq driver "lpfc" 4
    · rw [if_pos hl, if_pos hl]
      refine simulates_bind (simulates_loadAll hw _ _ ?_ rfl) fun x t hx => ?_
      · simp [lpfcRows, fcText, Fits]
      rw [hx]
      refine simulates_bind (simulates_loadAll hw _ _ ?_ hx) fun y u hy => ?_
      · simp [lpfcSpeedRow, fcText, Fits]
      refine simulates_bind (simulates_loadAll hw _ _ ?_ hy) fun z v hz =>
        simulates_linkInfo hw hz own z.2
      simp [lpfcVersionRow, fcText, Fits]
    · rw [if_neg hl, if_neg hl]
      exact simulates_after _ fun _ _ => simulates_pure ⟨rfl,rfl⟩

theorem simulates_connection (hw : Textual env) (i : IscsiDevInfo) (c : IscsiConnection)
    (m : Arrays 256) :
    Simulates Alike env (getIscsiConnectionInfoArray spoil i c m) (getIscsiConnectionInfo i c) := by
  refine simulates_after _ fun connPath _ => ?_
  refine simulates_bind (simulates_loadAllInto hw _ _ _ ?_ rfl) fun x t hx => ?_
  · simp [connectionRows, connText, connInt, Fits]
  · rw [hx]
    exact simulates_after _ fun _ _ => simulates_after _ fun _ _ => simulates_pure ⟨rfl,hx⟩

/-- Whatever the reader's array and the gatherers' own arrays held before, and
whatever a failed read leaves in them, these eight gatherers come to the record,
the status, the output and the end that they come to where strings are passed. -/
theorem arrays_unseen (hw : Textual env) (spoil : Line → Line) :
    (∀ d m, Simulates (fun x t => x.1 = t) env (getDiskVendorModelArray spoil d m)
      (getDiskVendorModel d)) ∧
    (∀ d m, Simulates (fun x t => x.1 = t) env (getNvmeDeviceModelArray spoil d m)
      (getNvmeDeviceModel d)) ∧
    (∀ d m, Simulates (fun x t => x.1 = t) env (getDiskQueueDataArray spoil d m)
      (getDiskQueueData d)) ∧
    (∀ name d m buf, Simulates (fun x t => x.1 = t) env
      (getSingleScsiDiskDetailsArray spoil name d m buf) (getSingleScsiDiskDetails name d)) ∧
    (∀ r m, Simulates (fun x t => x.1 = t) env (getRportInfoArray spoil r m) (getRportInfo r)) ∧
    (∀ f own m, Simulates Alike env (getFcInfoArray spoil f own m) (getFcInfo f)) ∧
    (∀ i s m, Simulates (fun x t => x.1 = t) env (sessionAttributesArray spoil i s m)
      (loadAll (sessionAttr i) sessionRows s)) ∧
    ∀ i c m, Simulates Alike env (getIscsiConnectionInfoArray spoil i c m)
      (getIscsiConnectionInfo i c) := by
  refine ⟨fun d m => ?_,fun d m => ?_,fun d m => simulates_queueData hw rfl m,
    simulates_scsiDetails hw,fun r m => ?_,simulates_fcInfo hw,fun i s m => ?_,
    simulates_connection hw⟩
  · exact simulates_loadAll hw _ _ (by simp [vendorRow, modelRow, revRow, Fits]) rfl
  · exact simulates_loadAll hw _ _ (by simp [modelRow, revRow, Fits]) rfl
  · exact simulates_loadAll hw _ _ (by simp [rportRows, rportRow, Fits]) rfl
  · exact simulates_loadAll hw _ _ (by simp [sessionRows, sessText, sessInt, Fits]) rfl

theorem textual_bare : Textual Env.bare :=
  ⟨fun _ => List.not_mem_nil,fun _ => Nat.two_pow_pos 7⟩

theorem dirty_arrays_unseen :
    Simulates Alike Env.bare
      (getFcInfoArray (fun _ => .fill 'x') { driverName := some (lit "qla2xxx") } (.fill 'x')
        ⟨.fill 'x',.fill 'x'⟩)
      (getFcInfo { driverName := some (lit "qla2xxx") }) :=
  (arrays_unseen textual_bare _).2.2.2.2.2.1 _ _ _

end ScsiCli.StaticLine
