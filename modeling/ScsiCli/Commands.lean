import ScsiCli.DiskDetails
import ScsiCli.FcpUtils
import ScsiCli.IscsiUtils

/-!
# The command line

The two tables, the handlers they name, the trigger of a reset and the entry
point. The argument vector is the list of its strings: `argc` is its length and
`argv[i]` past the end is the null pointer. Memory is always granted.
-/

set_option autoImplicit false

namespace ScsiCli.Commands
open ScsiCli.RunTrace ScsiCli.ByteString ScsiCli.NumberText ScsiCli.Records
open ScsiCli.Machine ScsiCli.SysfsUtils ScsiCli.DiskUtils ScsiCli.DiskDetails
open ScsiCli.FcpUtils ScsiCli.IscsiUtils

abbrev Argv := List Str

def SCSI_TOOL_NAME : Str := "scsi-cli"
def SCSI_TOOL_VERSION : Str := "v0.1"

structure SupportedCmd where
  cmds : Str
  fn : Handler
  cmdDesc : Str

structure SupportedSubCmd where
  cmd : Str
  subCmd : Str
  subCmdDesc : Str

def cmdStr : List SupportedCmd :=
  [⟨"alias",.cmdAlias,"Create handy alias for disk, adater, controller"⟩,
   ⟨"errors",.cmdErrors,"Show errors for a device"⟩,
   ⟨"list",.cmdList,"List all device on this host"⟩,
   ⟨"online",.cmdOnline,"Change device state to online"⟩,
   ⟨"offline",.cmdOffline,"Change device state to offline"⟩,
   ⟨"reset",.cmdReset,"Reset a device"⟩,
   ⟨"stats",.cmdStats,"Show statistics of a device"⟩,
   ⟨"show",.cmdShow,"Show details"⟩,
   ⟨"scan",.cmdScan,"Scan a system for device"⟩]

def subCmdStr : List SupportedSubCmd :=
  [⟨"list","cd-rom","List CD-ROM devices from the host"⟩,
   ⟨"list","tape","List Tape devices from the host"⟩,
   ⟨"list","medium-changer","List Medium Changer devices from the host"⟩,
   ⟨"list","enclosure","List Enclosure devices from the host"⟩,
   ⟨"list","fc_hba","List Fiber Channel HBA instlled"⟩,
   ⟨"list","iscsi","List iSCSI Sessions"⟩,
   ⟨"list","disk","List disks from the host"⟩,
   ⟨"list","controller","List disk controllers from the host"⟩,
   ⟨"list","generic","List generic disk from the host"⟩,
   ⟨"list","multipath","List multipath disk from the host"⟩,
   ⟨"show","disk","Show details of a disk"⟩,
   ⟨"show","fc_port","show details of an fc port"⟩,
   ⟨"show","iscsi","show details of an iscsi host"⟩,
   ⟨"scan","block","Rescan system for block devices"⟩,
   ⟨"scan","fc_hba","Rescan system for FC adapters"⟩,
   ⟨"reset","adapter","Reset a given adapter"⟩,
   ⟨"reset","port","Reset a port"⟩,
   ⟨"reset","issue_logo","force device to issue logout"⟩,
   ⟨"reset","issue_lip","Issue Loop Initialization Primitive"⟩,
   ⟨"stats","disk","Show statistics for block device"⟩,
   ⟨"stats","fc_port","Show statistics for Fiber Channel port"⟩]

/-! ## The tables -/

def listSubcommands (cmd : Str) : Tool Unit :=
  print (.subCommands cmd
    ((subCmdStr.filter fun p => cmd = p.cmd).map fun p => (p.subCmd,p.subCmdDesc)))

def validateCommand (cmd : Str) : ℤ :=
  if (cmdStr.find? fun p => cmd = p.cmds).isSome then 0 else -eagain

def supportedPair (cmd sub : Str) : Bool :=
  subCmdStr.any fun p => cmd = p.cmd && sub = p.subCmd

/-- The command is compared with the whole first table before the second is searched. -/
def validateSubcommand (argv : Argv) : Tool ℤ := do
  match argv[1]? with
  | none => nullFault .strcmp
  | some cmd =>
    match argv[2]? with
    | none =>
      if subCmdStr.any fun p => cmd = p.cmd then nullFault .strcmp
      else pure (-enoent)
    | some sub =>
      emit (.validated cmd sub (supportedPair cmd sub))
      pure (if supportedPair cmd sub then 0 else -enoent)

/-! ## Resets -/

/-- Opening the trigger for writing, the buffered write and the close that delivers it. -/
def issue (path : Str) : Tool Bool := do
  let env ← ask
  if (env.trigger path).opens then do
    emit (.opened (.file path) .write)
    if (env.trigger path).writes && (env.trigger path).closes then emit (.delivered path "1")
    emit (.closed (.file path))
    pure true
  else pure false

/-- The path of the trigger for a command and a host; none for an unknown command. -/
def resetPath (command fcHost : Str) : Tool (Option Str) := do
  if strncmpEq command "issue_logo" 10 then do
    printInfo (" Issuing LOGO command for FC host " ++ fcHost ++ "\n")
    let p ← store .fcHbaResetPath ("/sys/class/fc_host/" ++ fcHost ++ "/device/issue_logo")
    pure (some p)
  else if strncmpEq command "issue_lip" 9 then do
    printInfo ("Issuing LIP (Loop Initialization Protocol) for FC host " ++ fcHost ++ "\n")
    pure (some (cut 1024 ("/sys/class/fc_host/" ++ fcHost ++ "/issue_lip")))
  else if strncmpEq command "adapter" 7 then do
    printInfo (" Issuing Reset for " ++ fcHost ++ "\n")
    pure (some (cut 1024 ("/sys/class/fc_host/" ++ fcHost ++ "/device/reset")))
  else do
    printInfo (" Unknown Command " ++ command ++ " \n")
    pure none

def fcHbaReset (argv : Argv) : Tool ℤ := do
  emit (.device .fcHbaReset argv[3]?)
  match argv[3]? with
  | none =>
    printInfo " Usage:\n\n"
    printInfo (" Missing argument for the sub-command [" ++ orNull argv[2]? ++ "]\n\n")
    printInfo (" scsi reset <" ++ orNull argv[2]? ++ "> [<arg>] \n")
    pure (-einval)
  | some fcHost =>
    let err ← validateSubcommand argv
    if err < 0 then pure err
    else do
      match ← resetPath (orNull argv[2]?) fcHost with
      | none => pure (-einval)
      | some path =>
        printInfo ("Issuing " ++ path ++ "\n")
        if ← issue path then do
          printInfo ("Command " ++ orNull argv[2]? ++ " issued Sucessfully to " ++ fcHost ++ "\n")
          pure 0
        else do
          printErr path
          pure (-einval)

/-! ## Handlers -/

/-- `handle_cmd_errors`: the statuses of the listings are not looked at. -/
def handleCmdErrors (argv : Argv) : Tool Unit := do
  listSubcommands (orNull argv[1]?)
  let _ ← listEnclosure
  let _ ← listControllers
  let _ ← listBlockDevs
  let _ ← listMultipathDevs
  let _ ← listFcAdapters
  let _ ← listIscsiDevs
  pure ()

/-- Conditional statements in sequence, each of which may set the status and
leaves at once when it is negative. -/
def runBlocks : List (Bool × (ℤ → Tool ℤ)) → ℤ → Tool ℤ
  | [], err => pure err
  | b :: bs, err =>
    if b.1 then do
      let err ← b.2 err
      if err < 0 then pure err else runBlocks bs err
    else runBlocks bs err

/-- The part that the handlers of alias, errors, online and offline share: the
first operation whose name is a prefix of the sub-command. -/
def chooseOperation (sub : Str) (disk fcPort iscsi : Tool ℤ) : Tool ℤ :=
  if strncmpEq sub "disk" 4 then disk
  else if strncmpEq sub "fc_port" 7 then fcPort
  else if strncmpEq sub "iscsi" 5 then iscsi
  else do
    printInfo ("Unknown Sub-command '" ++ sub ++ "' \n")
    pure 0

def notSupported (argv : Argv) : Tool ℤ := do
  printInfo ("(" ++ decimal argv.length ++ ") Command '" ++ orNull argv[1]? ++
    "' is not currently supported")
  pure 0

def cmdAlias (argv : Argv) : Tool ℤ := do
  emit (.handler .cmdAlias)
  if 2 < argv.length then do
    printInfo ("Set '" ++ orNull argv[2]? ++ "' for device to your favourite name")
    let err ← validateSubcommand argv
    if err < 0 then pure err
    else do
      let err ← chooseOperation (orNull argv[2]?) (setDiskAlias argv[3]?)
        (setFcportAlias argv[3]?) (setIscsiAlias argv[3]?)
      pure err
  else notSupported argv

def cmdErrors (argv : Argv) : Tool ℤ := do
  emit (.handler .cmdErrors)
  if 2 < argv.length then do
    printInfo ("Get Error Details for " ++ orNull argv[3]?)
    let err ← validateSubcommand argv
    if err < 0 then pure err
    else do
      let err ← chooseOperation (orNull argv[2]?) (getDiskErrorCount argv[3]?)
        (getFcportErrorCount argv[3]?) (getIscsiErrorCount argv[3]?)
      pure (if err < 0 then err else 0)
  else notSupported argv

def cmdOnline (argv : Argv) : Tool ℤ := do
  emit (.handler .cmdOnline)
  if 2 < argv.length then do
    let err ← validateSubcommand argv
    if err < 0 then pure err
    else do
      printInfo ("Call '" ++ orNull argv[1]? ++ "' command")
      let err ← chooseOperation (orNull argv[2]?) (setDiskOnline argv[3]?)
        (setFcportOnline argv[3]?) (setIscsiDevOnline argv[3]?)
      pure (if err < 0 then err else 0)
  else notSupported argv

def cmdOffline (argv : Argv) : Tool ℤ := do
  emit (.handler .cmdOffline)
  if 2 < argv.length then do
    let err ← validateSubcommand argv
    if err < 0 then pure err
    else do
      printInfo ("Call '" ++ orNull argv[3]? ++ "' command")
      let err ← chooseOperation (orNull argv[2]?) (setDiskOffline argv[3]?)
        (setFcportOffline argv[3]?) (setIscsiDevOffline argv[3]?)
      pure (if err < 0 then err else 0)
  else notSupported argv

def listBlocks (sub : Str) : List (Bool × (ℤ → Tool ℤ)) :=
  [(sub = "fc_hba",fun _ => listFcAdapters),
   (sub = "iscsi",fun _ => listIscsiDevs),
   (sub = "controller",fun _ => listControllers),
   (sub = "disk",fun _ => listBlockDevs),
   (sub = "multipath",fun _ => listMultipathDevs),
   (sub = "generic",fun _ => listGenericDevs),
   (sub = "enclosure",fun _ => listEnclosure),
   (sub = "cd-rom",fun _ => listCdromDevs),
   (sub = "medium-changer",fun err => do
      print (.commandLabel "Medium-Changer")
      pure err),
   (sub = "tape",fun _ => listTapeDevs)]

def cmdList (argv : Argv) : Tool ℤ := do
  emit (.handler .cmdList)
  if 2 < argv.length then do
    let err ← validateSubcommand argv
    if err < 0 then pure err
    else runBlocks (listBlocks (orNull argv[2]?)) err
  else do
    handleCmdErrors argv
    pure 0

/-- Only the first of the sub-commands does anything. -/
def resetBlocks (argv : Argv) (sub : Str) : List (Bool × (ℤ → Tool ℤ)) :=
  [(strncmpEq sub "adapter" 7,fun _ => fcHbaReset argv),
   (strncmpEq sub "port" 4,fun err => pure err),
   (strncmpEq sub "issue_logo" 10,fun err => pure err),
   (strncmpEq sub "issue_lip" 9,fun err => pure err)]

def cmdReset (argv : Argv) : Tool ℤ := do
  emit (.handler .cmdReset)
  if 2 < argv.length then do
    let err ← validateSubcommand argv
    if err < 0 then pure err
    else
      match argv[3]? with
      | none =>
        printInfo ("Please provide FC port name to '" ++ orNull argv[2]? ++ "' reset command")
        pure err
      | some arg =>
        let diskStr ← copyArg .resetDiskStr arg.length arg
        if strncmpEq diskStr "host" 4 then do
          let err ← runBlocks (resetBlocks argv (orNull argv[2]?)) err
          pure (if err < 0 then err else 0)
        else do
          printInfo "Please use a valid FC adapter\n"
          pure err
  else do
    handleCmdErrors argv
    pure 0

def statsFailed (name : Str) (err : ℤ) : Tool Unit :=
  printErr ("Can not get statistics for " ++ name ++ ", (err=" ++ decimal err ++ ")")

def statsDisk (diskStr : Str) : Tool Unit := do
  let (err,d) ← getDiskStats allocScsiDev diskStr
  if err < 0 then statsFailed diskStr err
  else print (.diskStats d.dstat diskStr)

def statsFcPort (diskStr : Str) : Tool Unit := do
  let (err,f) ← getFcDevStats diskStr {}
  if err < 0 then statsFailed diskStr err
  else print (.fcPortStats f)

/-- The missing argument is answered before the pair is looked at, and a failed
reading is not reported. The size of the copy passes through an `int`. -/
def cmdStats (argv : Argv) : Tool ℤ := do
  emit (.handler .cmdStats)
  if 2 < argv.length then do
    match argv[3]? with
    | none =>
      printInfo ("Please provide " ++ orNull argv[2]? ++ " name to display Statistics")
      pure 0
    | some arg =>
      let err ← validateSubcommand argv
      if err < 0 then pure err
      else do
        let len := int32 (arg.length+2)
        let diskStr ← copyArg .statsDiskStr (uint64 len) arg
        if strncmpEq (orNull argv[2]?) "disk" 4 then statsDisk diskStr
        if strncmpEq (orNull argv[2]?) "fc_port" 7 then statsFcPort diskStr
        pure 0
  else do
    handleCmdErrors argv
    pure 0

def showBlocks (sub arg : Str) : List (Bool × (ℤ → Tool ℤ)) :=
  [(strncmpEq sub "disk" 4,fun _ => showDiskDetails (some arg) allocScsiDev),
   (strncmpEq sub "fc_port" 7,fun _ => showFcPortDetails arg),
   (strncmpEq sub "enclosure" 9,fun _ => showEnclosureDetails sub allocScsiDev),
   (strncmpEq sub "iscsi" 5,fun _ => showIscsiDetails arg)]

def cmdShow (argv : Argv) : Tool ℤ := do
  emit (.handler .cmdShow)
  if 2 < argv.length then do
    let err ← validateSubcommand argv
    if err < 0 then pure err
    else
      match argv[3]? with
      | none =>
        printInfo ("Please provide " ++ orNull argv[2]? ++ " name to display details")
        pure err
      | some arg =>
        let _ ← copyArg .showDeviceStr arg.length arg
        runBlocks (showBlocks (orNull argv[2]?) arg) err
  else do
    handleCmdErrors argv
    pure 0

/-- The number of arguments is compared the other way round. -/
def cmdScan (argv : Argv) : Tool ℤ := do
  emit (.handler .cmdScan)
  if argv.length < 2 then do
    let err ← validateSubcommand argv
    if err < 0 then pure err
    else do
      let err ← chooseOperation (orNull argv[2]?) (scsiScanDiskDev argv[3]?)
        (scsiScanFcportDev argv[3]?) (scsiScanIscsiDev argv[3]?)
      pure (if err < 0 then err else 0)
  else notSupported argv

/-! ## Entry -/

def stripDashes (s : Str) : Str := s.dropWhile (· = '-')

def parseTests (cmd : Str) (argv : Argv) : List (Bool × Tool ℤ) :=
  [(strncmpEq cmd "list" 4,cmdList argv),
   (strncmpEq cmd "show" 4,cmdShow argv),
   (strncmpEq cmd "scan" 4,cmdScan argv),
   (strncmpEq cmd "reset" 5,cmdReset argv),
   (strncmpEq cmd "alias" 4,cmdAlias argv),
   (strncmpEq cmd "stats" 4,cmdStats argv),
   (strncmpEq cmd "online" 6,cmdOnline argv),
   (strncmpEq cmd "offline" 7,cmdOffline argv),
   (strncmpEq cmd "errors" 6,cmdErrors argv)]

/-- The nine tests follow one another; the last handler run sets the status.
Without a first argument the null pointer is followed at once. -/
def parseCmd (argv : Argv) : Tool ℤ := do
  match argv[1]? with
  | none => crash
  | some arg =>
    let cmd := stripDashes arg
    let err := validateCommand cmd
    if err < 0 then pure err
    else (parseTests cmd argv).foldlM (fun err t => if t.1 then t.2 else pure err) err

def generalHelp : Tool Unit := print .generalHelp

def helpCmd (argv : Argv) : Tool ℤ := do
  emit .helpCmd
  match argv[2]? with
  | none =>
    generalHelp
    pure 0
  | some sub =>
    if strncmpEq sub "list" 4 then
      printInfo " list            List Block Devices, FC Adapters"
    if strncmpEq sub "stats" 5 then
      printInfo "stats           Show statistics for Block Devices, FC Adapters"
    pure 0

def padding : ℕ := 15

def versionCmd : Tool Unit := do
  emit .versionCmd
  printInfo (" " ++ SCSI_TOOL_NAME ++ " - " ++ SCSI_TOOL_VERSION ++ "\n")
  printInfo "\n"
  printInfo (" " ++ List.rightpad padding ' ' "version" ++ " Shows the program version\n")

/-- What `strerror` says of a number that is no error; the statuses are negative. -/
def strerror (n : ℤ) : Str := "Unknown error " ++ decimal n

def reportError (argv : Argv) (err : ℤ) : Tool Unit :=
  if err = -enodev then
    printInfo ("\n " ++ orNull argv[0]? ++ ": No Valid Device found \n")
  else if err = -eagain then
    printErr (orNull argv[0]? ++ ": Command '" ++ orNull argv[1]? ++ "' not supported (" ++
      strerror err ++ ") ")
  else if err = -enoent then
    printErr (orNull argv[0]? ++ ": Sub Command '" ++ orNull argv[2]? ++ "' not supported (" ++
      strerror err ++ ")")
  else printErr (orNull argv[0]? ++ ": Command " ++ orNull argv[1]? ++ " returned error. (" ++
    strerror err ++ ")")

def asksHelp (str : Str) : Bool := strncmpEq str "help" 4 || strncmpEq str "h" 1

def asksVersion (str : Str) : Bool := strncmpEq str "version" 7 || strncmpEq str "v" 1

def handleCmd (argv : Argv) : Tool ℤ := do
  if argv.length = 0 then do
    generalHelp
    pure 0
  else
    match argv[1]? with
    | none => crash
    | some arg =>
      let str := stripDashes arg
      if asksHelp str then helpCmd argv
      else if asksVersion str then do
        versionCmd
        pure 0
      else do
        let ret ← parseCmd argv
        if ret < 0 then do
          reportError argv ret
          pure (-einval)
        else pure ret

def main (argv : Argv) : Tool ℤ := do
  if argv.length < 2 then do
    generalHelp
    pure 0
  else do
    let err ← handleCmd argv
    if err = -enotty then generalHelp
    pure (if err = 0 then 0 else 1)

end ScsiCli.Commands
