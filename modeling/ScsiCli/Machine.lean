import ScsiCli.RunTrace
import ScsiCli.NumberText
import ScsiCli.Records

/-!
# The machine the tool runs on

The environment answers every request of the tool: what a file holds, what a
directory lists, what becomes of a write to a trigger file. It also fixes what
the C standard leaves open: the text of a format whose conversions have no
arguments, and what an allocated block that is not cleared holds.
A null format is taken as glibc up to 2.36 takes it, which formats nothing and
goes on; a null pointer handed to any other of the sinks ends the run. What a
process does after a store past the end of an array is not defined. The model
goes on so that the store can be named, and a run is said to end in a value,
`Ends`, only where there is none.
-/

set_option autoImplicit false

namespace ScsiCli.Machine
open ScsiCli.RunTrace ScsiCli.ByteString ScsiCli.NumberText ScsiCli.Records

inductive DType where
  | dir
  | lnk
  | other
  deriving DecidableEq

/-- One entry of a directory, with the guarantees of the kernel on its name. -/
structure Dirent where
  dName : Str
  dType : DType
  name_ok : dName ≠ [] ∧ '/' ∉ dName ∧ nul ∉ dName ∧ dName.length ≤ 255
  deriving DecidableEq

/-- What `readdir` delivers, in its order. No name comes twice, and the
directory itself and its parent are always among the entries. -/
structure Listing where
  entries : List Dirent
  nodup : (entries.map Dirent.dName).Nodup
  dot : lit "." ∈ entries.map Dirent.dName
  dotdot : lit ".." ∈ entries.map Dirent.dName

inductive FileState where
  | absent
  | unreadable
  | bytes (content : Str)

/-- What becomes of a trigger file: whether it opens for writing, whether the
formatted write is taken into the stream's buffer, whether closing delivers it. -/
structure Trigger where
  opens : Bool
  writes : Bool
  closes : Bool

/-- The text of a format whose conversions have no arguments: not defined, but
counted by an `int` whatever it is. -/
structure Wild where
  text : Str → Str
  bounded : ∀ s, (text s).length < 2^31

structure Env where
  file : Str → FileState
  dir : Str → Option Listing
  openFd : Str → ℤ
  stat : Str → Option (ℕ × ℕ)
  trigger : Str → Trigger
  wild : Wild
  mallocSession : IscsiSession
  mallocConnection : IscsiConnection

def Env.withWild (env : Env) (w : Wild) : Env := { env with wild := w }

def Wild.silent : Wild := ⟨fun _ => [],fun _ => Nat.two_pow_pos 31⟩

/-! ## A machine to start from -/

def dotEntry : Dirent := ⟨lit ".",.dir,by simp [lit, nul]⟩

def dotdotEntry : Dirent := ⟨lit "..",.dir,by simp [lit, nul]⟩

def Listing.ofEntries (es : List Dirent) (hn : (es.map Dirent.dName).Nodup)
    (h1 : lit "." ∉ es.map Dirent.dName) (h2 : lit ".." ∉ es.map Dirent.dName) : Listing where
  entries := dotEntry :: dotdotEntry :: es
  nodup := List.nodup_cons.mpr
    ⟨by simpa [dotEntry, dotdotEntry, lit] using h1,List.nodup_cons.mpr ⟨h2,hn⟩⟩
  dot := by simp [dotEntry]
  dotdot := by simp [dotdotEntry]

def Listing.empty : Listing :=
  Listing.ofEntries [] List.nodup_nil List.not_mem_nil List.not_mem_nil

/-- Nothing is there, nothing can be opened, and allocated blocks are zero. -/
def Env.bare : Env where
  file _ := .absent
  dir _ := none
  openFd _ := -1
  stat _ := none
  trigger _ := ⟨false,false,false⟩
  wild := Wild.silent
  mallocSession := ⟨0,0,0,0,0,0,0,none,0,0,none,0,0,0,0,0,none,none,none,0,0,0,0,0⟩
  mallocConnection := ⟨none,0,0,0,0,0,none,0,0,0,0,none⟩

inductive Handle where
  | file (path : Str)
  | dir (path : Str)
  | fd (n : ℤ)
  deriving DecidableEq

inductive Mode where
  | read
  | write
  deriving DecidableEq

/-- The functions that are handed a pointer which may be null. -/
inductive Sink where
  | format
  | strtoull
  | strncmp
  | strcmp
  | strlen
  | readdir
  | opendir
  deriving DecidableEq

/-- The character arrays that are written without a bound of their own. -/
inductive Buf where
  | resetDiskStr
  | statsDiskStr
  | showDeviceStr
  | getDeviceNumbersDevPath
  | getAdapterDetailsPath
  | getAdapterDetailsTempVal
  | fcHbaResetPath
  | fillConnectionSessionPath
  | fillConnectionConnectionPath
  | fillConnectionStr
  | fillSessionHostPath
  | fillSessionDevPath
  | iscsiConnectionPath
  | iscsiConnectionConnStr
  | iscsiConnectionStr
  | iscsiStubHostPath
  deriving DecidableEq

def Buf.size : Buf → ℕ
  | .resetDiskStr => 32
  | .statsDiskStr => 32
  | .showDeviceStr => 16
  | .getDeviceNumbersDevPath => 256
  | .getAdapterDetailsPath => 1024
  | .getAdapterDetailsTempVal => 128
  | .fcHbaResetPath => 1024
  | .fillConnectionSessionPath => 1024
  | .fillConnectionConnectionPath => 2048
  | .fillConnectionStr => 256
  | .fillSessionHostPath => 512
  | .fillSessionDevPath => 1024
  | .iscsiConnectionPath => 1024
  | .iscsiConnectionConnStr => 2048
  | .iscsiConnectionStr => 256
  | .iscsiStubHostPath => 256

inductive Handler where
  | cmdAlias | cmdErrors | cmdList | cmdOnline | cmdOffline | cmdReset | cmdStats | cmdShow | cmdScan
  deriving DecidableEq

inductive Device where
  | listEnclosure | listControllers | listBlockDevs | listMultipathDevs | listFcAdapters
  | listIscsiDevs | listGenericDevs | listCdromDevs | listTapeDevs
  | getDiskStats | getFcDevStats
  | showDiskDetails | showFcPortDetails | showEnclosureDetails | showIscsiDetails
  | fcHbaReset
  | setDiskAlias | setFcportAlias | setIscsiAlias
  | getDiskErrorCount | getFcportErrorCount | getIscsiErrorCount
  | setDiskOnline | setFcportOnline | setIscsiDevOnline
  | setDiskOffline | setFcportOffline | setIscsiDevOffline
  | scsiScanDiskDev | scsiScanFcportDev | scsiScanIscsiDev
  deriving DecidableEq

inductive Event where
  | helpCmd
  | versionCmd
  | handler (h : Handler)
  | device (f : Device) (arg : Option Str)
  | validated (cmd sub : Str) (ok : Bool)
  | opened (h : Handle) (mode : Mode)
  | closed (h : Handle)
  | delivered (path data : Str)
  | nullUse (s : Sink)
  | overrun (b : Buf)
  | out (o : Out)

abbrev Tool := Prog Env Event

def print (o : Out) : Tool Unit := emit (.out o)

/-- `printf` and `print_info`; the newline that the macro adds is left out. -/
def printInfo (text : Str) : Tool Unit := print (.info text)

/-- `perror` and `print_err` write to the error stream; what they add is left out. -/
def printErr (text : Str) : Tool Unit := print (.error text)

/-- A null pointer reaches a function that follows it. -/
def nullFault {α : Type} (s : Sink) : Tool α := do
  emit (.nullUse s)
  crash

def InArrays : Event → Prop
  | .overrun _ => False
  | _ => True

/-- A run with every store in its array comes to its end, with a value. -/
def Ends {α : Type} (m : Tool α) (env : Env) (a : α) : Prop := Emits InArrays m env ∧ Returns m env a

/-! ## Directories -/

def opendir (path : Str) : Tool (Option (List Dirent)) := do
  let env ← ask
  match env.dir path with
  | none => pure none
  | some l =>
    emit (.opened (.dir path) .read)
    pure (some l.entries)

def closedir (path : Str) : Tool Unit := emit (.closed (.dir path))

def forEachDir (entries : List Dirent) : List Dirent :=
  entries.filter fun e => e.dName != "." && e.dName != ".."

@[simp] theorem forEachDir_ofEntries (es : List Dirent) (hn : (es.map Dirent.dName).Nodup)
    (h1 : lit "." ∉ es.map Dirent.dName) (h2 : lit ".." ∉ es.map Dirent.dName) :
    forEachDir (Listing.ofEntries es hn h1 h2).entries = es := by
  simp only [forEachDir, Listing.ofEntries, dotEntry, dotdotEntry, bne_self_eq_false,
    Bool.false_and, Bool.and_false, Bool.false_eq_true, not_false_eq_true, List.filter_cons_of_neg,
    List.filter_eq_self, Bool.and_eq_true, bne_iff_ne]
  intro e he
  have hm : e.dName ∈ es.map Dirent.dName := List.mem_map_of_mem he
  exact ⟨fun hd => h1 (hd ▸ hm),fun hd => h2 (hd ▸ hm)⟩

def scandirCount (path : Str) : Tool ℤ := do
  let env ← ask
  match env.dir path with
  | none => pure (-1)
  | some l =>
    emit (.opened (.dir path) .read)
    emit (.closed (.dir path))
    pure l.entries.length

/-! ## Streams that are read -/

/-- A stream just opened for reading: the bytes to come, or an error at the first read. -/
abbrev Stream := Option Str

def fopenRead (path : Str) : Tool (Option Stream) := do
  let env ← ask
  match env.file path with
  | .absent => pure none
  | .unreadable =>
    emit (.opened (.file path) .read)
    pure (some none)
  | .bytes b =>
    emit (.opened (.file path) .read)
    pure (some (some b))

def fclose (path : Str) : Tool Unit := emit (.closed (.file path))

/-- The next line with its newline, or as much of it as `n` bytes take. -/
def lineBytes : ℕ → Str → Str
  | 0, _ => []
  | _, [] => []
  | n+1, c :: b => if c = '\n' then [c] else c :: lineBytes n b

/-- What a string function sees of an array: the bytes before the first NUL. -/
def cString (b : Str) : Str := b.takeWhile (· ≠ nul)

/-- `fgets(line, size, fp)` on a fresh stream, read as a string. -/
def fgets (size : ℕ) : Stream → Option Str
  | none => none
  | some [] => none
  | some b => some (cString (lineBytes (size-1) b))

/-- `read(fd, buf, n)` at the start of a file: its count, and what the array then holds. -/
def readFd (n : ℕ) (buf : Str) : Stream → ℤ × Str
  | none => (-1,buf)
  | some b => ((b.take n).length,b.take n ++ buf.drop (b.take n).length)

def removeNewline (p : Str) : Str := p.takeWhile (· ≠ '\n')

/-! ## Formatted output into arrays -/

def Env.format (env : Env) (fmt : Str) : Str := (expand fmt).getD (env.wild.text fmt)

/-- `snprintf(buf, size, fmt)`, without a text where the format is null. -/
def snprintfFmt (size : ℕ) : Option Str → Tool Str
  | none => do
    emit (.nullUse .format)
    pure []
  | some fmt => do
    let env ← ask
    pure (cut size (env.format fmt))

/-- Storing `bytes` bytes in an array, which may be too small for them. -/
def storeBytes (b : Buf) (bytes : ℕ) : Tool Unit :=
  if b.size < bytes then emit (.overrun b) else pure ()

/-- Storing a string and its terminator in an array that is not told to stop at its end. -/
def store (b : Buf) (s : Str) : Tool Str := do
  storeBytes b (s.length+1)
  pure s

def sprintfFmt (b : Buf) : Option Str → Tool Str
  | none => do
    emit (.nullUse .format)
    pure []
  | some fmt => do
    let env ← ask
    store b (env.format fmt)

/-- `snprintf(buf, size, "%s", s)` with a size that is not the array's. -/
def copyArg (b : Buf) (size : ℕ) (s : Str) : Tool Str := do
  storeBytes b (stored size s)
  pure (cut size s)

/-- A `%s` argument: the C library writes a null pointer in words. -/
def orNull (s : Option Str) : Str := s.getD "(null)"

end ScsiCli.Machine
