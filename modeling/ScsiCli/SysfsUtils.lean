import ScsiCli.Machine

/-!
# Reading sysfs

The shared reader of one-line attribute files, the lookups by device number
and the two string helpers applied to what is read. The statements that the
gatherers repeat for each attribute are one definition here, `Attr.load`; a
gatherer is the list of its attributes, in the order of the source.
-/

set_option autoImplicit false

namespace ScsiCli.SysfsUtils
open ScsiCli.RunTrace ScsiCli.ByteString ScsiCli.NumberText ScsiCli.Records ScsiCli.Machine

def eio : ℤ := 5
def enoent : ℤ := 2
def eagain : ℤ := 11
def enodev : ℤ := 19
def einval : ℤ := 22
def enotty : ℤ := 25

/-- `open` answers as `fopen` does; the descriptor goes by the path it was opened at. -/
def loadSysfsPath (path buf : Str) (len : ℕ) : Tool (ℤ × Str) := do
  match ← fopenRead path with
  | none => pure (-einval,buf)
  | some fd =>
    let (count,buf) := readFd len buf fd
    fclose path
    if count < 0 ∨ len ≤ count then pure (-einval,buf)
    else
      let buf := buf.set count.toNat nul
      if count ≠ 0 ∧ buf[count.toNat-1]? = some '\n' then pure (0,buf.set (count.toNat-1) nul)
      else pure (0,buf)

def openSysfsStatsFile (path : Str) : Tool (Option Str) := do
  match ← fopenRead path with
  | none => pure none
  | some fp =>
    match fgets 64 fp with
    | none =>
      fclose path
      pure none
    | some p =>
      fclose path
      pure (some (removeNewline p))

/-- `memmove(s, s + off, len)` on an array of the bytes `buf`; it faults outside the array. -/
def memmoveFront (buf : Str) (off len : ℕ) : Option Str :=
  if off+len ≤ buf.length then some ((buf.drop off).take len ++ buf.drop len) else none

/-- The bytes moved are counted by `n + 1`, where `n` has been counted down
from zero over the leading white space and the sum is taken as a size. -/
def removeSpace (s : Str) : Option Str :=
  let p := s.dropWhile isspace
  let n : ℤ := (p.length : ℤ)-s.length
  (memmoveFront (s ++ [nul]) (s.length-p.length) (uint64 (n+1))).map cString

def getDeviceNumbers (fileName : Str) (d : ScsiDeviceInfo) : Tool ScsiDeviceInfo := do
  let devPath ← store .getDeviceNumbersDevPath ("/dev/" ++ fileName)
  let env ← ask
  let err := env.openFd devPath
  if 0 ≤ err then emit (.opened (.fd err) .read)
  if err = 0 then
    printInfo ("\n Invalid disk name " ++ devPath ++ "/" ++ fileName ++ "\n")
    emit (.closed (.fd (-einval)))
    pure d
  else match env.stat devPath with
    | none =>
      printErr devPath
      emit (.closed (.fd (-einval)))
      pure d
    | some (ma,mi) =>
      emit (.closed (.fd err))
      pure { d with major := ma, minor := mi }

/-- The entry found is returned after the directory is closed; where there is
none the stream stays open. -/
def getDeviceEntry (path : Str) : Tool (Option Str) := do
  match ← opendir path with
  | none => pure none
  | some entries =>
    match entries.find? fun e => e.dType = .dir && strncmpEq e.dName "sd" 2 with
    | some e =>
      closedir path
      pure (some e.dName)
    | none => pure (some "unknown")

/-- `sscanf` stores each number as it is converted. -/
def assignHctl (d : ScsiDeviceInfo) : List ℤ → ScsiDeviceInfo
  | [] => d
  | [h] => { d with host := h }
  | [h,b] => { d with host := h, bus := b }
  | [h,b,t] => { d with host := h, bus := b, target := t }
  | h :: b :: t :: l :: _ => { d with host := h, bus := b, target := t, lun := l }

def hctlLoop : List Dirent → ScsiDeviceInfo → Bool × ScsiDeviceInfo
  | [], d => (false,d)
  | e :: es, d =>
    if e.dType ≠ .dir then hctlLoop es d
    else
      let xs := scanColon 4 e.dName
      if xs.length = 4 then (true,assignHctl d xs) else hctlLoop es (assignHctl d xs)

def getHctlInfo (d : ScsiDeviceInfo) : Tool (ℤ × ScsiDeviceInfo) := do
  let blockDevPath := cut 256 ("/sys/dev/block/" ++ decimal (int32 d.major) ++ ":" ++
    decimal (int32 d.minor) ++ "/device/scsi_device")
  match ← opendir blockDevPath with
  | none => pure (-enodev,d)
  | some entries =>
    let (found,d) := hctlLoop entries d
    closedir blockDevPath
    pure (if found then 0 else -enodev,d)

def getDeviceCount (path : Str) : Tool ℤ := do
  let count ← scandirCount path
  if count < 0 then pure (-enodev)
  else if count-2 = 0 then pure (-enodev)
  else pure (count-2)

/-! ## The statements repeated for each attribute -/

/-- How the text of an attribute file reaches the statement that uses it: as the
format of a bounded or an unbounded print into an array, as a `%s` argument of a
bounded one, or directly as the argument of `strtoull`. -/
inductive Copy where
  | bounded (size : ℕ)
  | unbounded (b : Buf)
  | argument (size : ℕ)
  | direct
  deriving DecidableEq

def Copy.fetch (path : Str) : Copy → Tool Str
  | .bounded size => do
    let p ← openSysfsStatsFile path
    snprintfFmt size p
  | .unbounded b => do
    let p ← openSysfsStatsFile path
    sprintfFmt b p
  | .argument size => do
    let p ← openSysfsStatsFile path
    pure (cut size (orNull p))
  | .direct => do
    match ← openSysfsStatsFile path with
    | none => nullFault .strtoull
    | some p => pure p

/-- One attribute of a gatherer: its file, how its text is copied, whether
`remove_space` is applied to the copy, and the field that takes it. -/
structure Attr (σ : Type) where
  file : Str
  copy : Copy
  strip : Bool := false
  store : Str → σ → σ

def stripped (strip : Bool) (t : Str) : Tool Str :=
  if strip then
    match removeSpace t with
    | none => crash
    | some u => pure u
  else pure t

def Attr.load {σ : Type} (pathOf : Str → Str) (s : σ) (a : Attr σ) : Tool σ := do
  let t ← a.copy.fetch (pathOf a.file)
  let u ← stripped a.strip t
  pure (a.store u s)

def loadAll {σ : Type} (pathOf : Str → Str) (rows : List (Attr σ)) (s : σ) : Tool σ :=
  rows.foldlM (Attr.load pathOf) s

/-- The same, where the path of each attribute is first printed without a bound. -/
def Attr.loadInto {σ : Type} (b : Buf) (pathOf : Str → Str) (s : σ) (a : Attr σ) : Tool σ := do
  let path ← Machine.store b (pathOf a.file)
  Attr.load (fun _ => path) s a

def loadAllInto {σ : Type} (b : Buf) (pathOf : Str → Str) (rows : List (Attr σ)) (s : σ) :
    Tool σ :=
  rows.foldlM (Attr.loadInto b pathOf) s

end ScsiCli.SysfsUtils
