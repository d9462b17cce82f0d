import BareMetal.DownloadTool.Options
import BareMetal.Endian
import BareMetal.Host.Exit
import BareMetal.Host.HostName
import BareMetal.Target.Monitor
import BareMetal.Target.Profile
import BareMetal.Target.Records
import BareMetal.Text.Quoted

/-!
# Runs of the download tool

Each job resolves the addresses that it needs, reaches the target, and tells what has been started.
-/

namespace BareMetal.DownloadTool

open Host Target

/-! ## Addresses -/

/-- The content of an object file. -/
def readObject (path : String) : Run Bytes := do
  match (← get).files.read path with
  | .ok content => return content
  | .error e => throw (.chain ["failed to read " ++ path ++ ": " ++ e.message, e.message])

def objectCauses (e : ObjectFile.Error) : List String := [e.message]

def logObject (message : String) : Run Unit := Run.log .debug "sweetada_common::elf" message

/-- Warns of the libraries without a name that an object file asks for. -/
def logLibraries (file : Bytes) : Run Unit :=
  (ObjectFile.unnamedLibraries file).forM fun number =>
    Run.log .warn "goblin::elf::dynamic" ("Invalid DT_NEEDED " ++ Numeral.decimal number)

/-- The address of a symbol. -/
def symbolAddress (file : Bytes) (name : String) : Run UInt32 := do
  logLibraries file
  let value ← Run.ofExcept objectCauses (ObjectFile.symbolValue file name)
  logObject ("Symbol " ++ name ++ " = 0x" ++ Numeral.hex value)
  Run.ofExcept objectCauses (ObjectFile.symbolAddress file name)

/-- The address of a section. -/
def sectionAddress (file : Bytes) (name : String) : Run UInt32 := do
  logLibraries file
  let value ← Run.ofExcept objectCauses (ObjectFile.sectionValue file name)
  logObject ("Section " ++ name ++ " @ 0x" ++ Numeral.hex value)
  Run.ofExcept objectCauses (ObjectFile.sectionAddress file name)

/-- The address to start at in an object file that has been read. -/
def resolveIn (file : Bytes) (start : StartAddress) (thumb : Bool) : Run UInt32 := do
  if let .symbol name := start then
    let _ ← symbolAddress file name
  Run.ofExcept objectCauses (start.resolve (some file) thumb)

/-- The address to start at; the object file is read only for a symbol. -/
def resolve (start : StartAddress) (path : String) (thumb : Bool) : Run UInt32 := do
  match start with
  | .address _ => Run.ofExcept objectCauses (start.resolve none thumb)
  | .symbol _ => resolveIn (← readObject path) start thumb

/-- An address as the debug server and the monitor are given it. -/
def addressText (a : UInt32) : String := "0x" ++ Numeral.hex a.toNat

/-! ## Debug servers -/

def ioError (e : OsError) : IoError := { kind := .other, message := e.message }

/-- Why a debug server cannot be reached while the network is down. -/
def connectFailure (host : String) : IoError :=
  match HostName.lookupFailure? host with
  | some message => { kind := .other, message }
  | none => ioError .networkUnreachable

/-- The line to a debug server. -/
def connectStream (host : String) (port : Nat) : Run Line := do
  let address := host ++ ":" ++ Numeral.decimal port
  match (← get).network.stream with
  | some l =>
    Run.log .debug "sweetada_link::openocd" ("Connected to OpenOCD at " ++ address)
    return l
  | none =>
    Run.context "No connection to OpenOCD server"
      (Run.ofExcept Target.Error.chain
        (.error (.connect address (connectFailure host))))

/-- Has a conversation with a debug server. -/
def converseStream {α : Type} (l : Line) (t : Talk α) : Run α :=
  Run.converse "" l t fun after w => { w with network.stream := some after }

/-- Reads the profile of a target. -/
def readProfile (path : String) : Run Profile := do
  let text ← Run.readTextOr ("Failed to read profile " ++ path) path
  match Profile.parse? text with
  | none => throw (.chain ["Failed to parse JSON in: " ++ path, "the profile is malformed"])
  | some p =>
    if let some description := p.description then
      Run.log .info "sweetada_flash::profile" ("Profile " ++ path ++ ": " ++ description)
    return p

/-- Asks a debug server to shut down. -/
def shutdown (o : ServerOptions) : Run Unit := do
  let l ← connectStream o.host o.port
  converseStream l do
    DebugServer.send "shutdown"
    DebugServer.close
  Run.printLine "- Sent shutdown to OpenOCD"

/-- A program as it is run with a search path of its own. -/
def processWith (path : String) (w : World) : Shell.State :=
  (Shell.State.ofWorld w).setBinding "PATH"
    { value := some (Shell.Raw.ofText path), exported := true }

/-- Starts a program with a search path of its own, whose failure to start is told as `failure`.  A
program that goes on by itself writes after everything else; `told` is what comes before. -/
def launch (path : String) (l : ServerLaunch) (failure : String) (told : Run Unit) : Run Unit := do
  let w ← get
  let s := processWith path (if l.detach then { w with output := #[], errors := #[] } else w)
  let after ← Run.context failure (Run.spawn true s l.program l.arguments)
  if l.detach then
    modify fun w' => { w' with output := w.output, errors := w.errors }
    told
    modify fun w' => (w'.write after.world.output .output).write after.world.errors .errors
  else
    Run.demandSuccess l.program after
    told

/-- Starts a debug server in a terminal. -/
def startServer (installation config : String) (wait : Bool) : Run Unit := do
  match Terminal.ofPlatform .current with
  | none => Run.fail "Platform not recognized"
  | some terminal =>
    let l := ServerLaunch.ofTerminal terminal config wait
    let path ← Run.ofExcept id
      (ServerLaunch.searchPath installation ((← get).lookupEnv "PATH"))
    Run.log .debug "sweetada_flash::server" (l.program ++ " " ++ Quoted.list l.arguments)
    launch path l
      ("System failure or OpenOCD executable not found, running " ++ l.program)
      (Run.printLine ("- Started OpenOCD with " ++ config ++ " on " ++ Platform.current.name))

/-- What to send for a kernel that starts at an address. -/
def ServerOptions.download (o : ServerOptions) (elf : String) (address : UInt32)
    (p : Profile) : Download :=
  p.apply {
    elf
    startAddress := addressText address
    debug := o.debug
    noload := o.noload
    noexec := o.noexec
    commandFile := o.commandFile
    commands := (o.commands.map Download.splitCommands).getD [] }

/-- Sends a kernel through a debug server. -/
def download (o : ServerOptions) (elf : String) (start : StartAddress) : Run Unit := do
  let p ← match o.profile with
    | some path => readProfile path
    | none => pure {}
  let address ← resolve start elf (o.thumb || p.thumb)
  Run.printLine ("- Start address " ++ addressText address)
  let l ← connectStream o.host o.port
  converseStream l do
    (o.download elf address p).run true
    DebugServer.close
  Run.printLine ""

/-- Carries out what is asked of a debug server. -/
def debugServer (o : ServerOptions) : Run Unit := do
  if o.shutdown then shutdown o
  else match o.config, o.installation, o.elf, o.start with
    | some config, some installation, _, _ => startServer installation config o.wait
    | some _, none, _, _ => Run.fail "No OpenOCD prefix specified"
    | none, _, some elf, some start => download o elf start
    | none, _, _, _ => Run.fail "ELF file and start symbol must both be specified"

/-! ## Serial lines -/

/-- The name of the serial line at a port; a refusal is a text without a number. -/
def serialName (files : FileSystem) (port : String) : Except String String :=
  match files.openPath .writing port with
  | .ok (.device (.serial name)) => .ok name
  | .ok _ => .error OsError.notTerminal.text
  | .error e => .error e.text

/-- A line that has been opened with some settings.  Without time to wait nothing is ever seen to
arrive, and a time that is too long for the system makes it refuse to wait for a write. -/
def configure (c : SerialConfig) (l : Line) : Line :=
  let l := { l with pausable := c.flow = .software }
  if c.timeoutMs = 0 then { l with incoming := [], peer := none }
  else if SerialConfig.maxTimeoutMs < c.timeoutMs then
    { l with writeError := some (0, { kind := .invalidInput, message := OsError.invalid.text }) }
  else l

/-- Opens the serial line at a port, and gives its name as well. -/
def openSerial (port : String) (c : SerialConfig) : Run (String × Line) := do
  let w ← get
  let refuse (reason : String) : Run (String × Line) :=
    Run.ofExcept Target.Error.chain (.error (.serial port reason))
  match serialName w.files port with
  | .error reason => refuse reason
  | .ok name =>
    if c.baud.speed ∉ BaudRate.supported then
      return ← refuse OsError.invalid.text
    Run.log .debug "sweetada_link::serial"
      ("Opened " ++ port ++ " at " ++ Numeral.decimal c.baud.speed ++ " baud, flow control " ++
        c.flow.label)
    return (name, configure c ((w.serial.lookup name).getD {}))

/-- Sends S-records to a monitor. -/
def records (file port : String) (baud : BaudRate) (flow : FlowControl) : Run Unit := do
  let text ← Run.readText file
  let (name, l) ← openSerial port { baud, flow }
  Run.log .debug "sweetada_flash::flash"
    ("Line delay " ++ Numeral.decimal (Records.lineDelay baud.speed) ++ " ms")
  let start ← Run.converseSerial name "." l (Records.send text)
  modify fun w => w.printError "\n"
  Run.printLine ("- Sent " ++ file ++ match start with
    | some a => ", start address 0x" ++ Numeral.hexPad 8 a.toNat
    | none => "")

/-- The name by which a monitor fetches a kernel. -/
def monitorFileName (elf : String) : Except (List String) String :=
  match Path.fileName? elf with
  | some name => .ok name
  | none => .error ["No file name in " ++ elf]

/-- Has a monitor fetch a kernel and start it. -/
def monitor (port : String) (baud : BaudRate) (elf : String) (start : StartAddress)
    (timeout : Nat) : Run Unit := do
  let address := addressText (← resolve start elf false)
  let file ← Run.ofExcept id (monitorFileName elf)
  let (name, l) ← openSerial port { baud, flow := .software, timeoutMs := timeout * 1000 }
  Run.context ("dBUG on " ++ port ++ " did not respond")
    (Run.converseSerial name "" l (Monitor.run true file address))
  Run.printLine ("- Started " ++ file ++ " at " ++ address)

/-! ## The network loader -/

/-- Runs the commands that make a target reachable. -/
def setUpNetwork (n : NetworkSetup) (target : String) : Run Unit := do
  match n.interface with
  | none => return ()
  | some interface =>
    (n.commands interface target).forM fun (program, arguments) => do
      Run.log .debug "sweetada_flash::flash" (program ++ " " ++ Quoted.list arguments)
      Run.call program arguments
    Run.printLine ("- Configured " ++ interface)

/-- The socket to a loader. -/
def connectPackets (address : String) (timeout : Nat) : Run Loader.Socket := do
  let refuse (e : IoError) : Run Loader.Socket :=
    Run.ofExcept Target.Error.chain (.error (.connect address e))
  match (← get).network.packets with
  | none => refuse (ioError .networkUnreachable)
  | some s =>
    if timeout = 0 then
      refuse { kind := .invalidInput, message := "cannot set a 0 duration timeout" }
    else
      Run.log .debug "sweetada_link::bba" ("BBA target " ++ address)
      return s

/-- Exchanges packets with a loader; every piece that has been sent is shown as a dot. -/
def exchange {α : Type} (s : Loader.Socket) (x : Loader.Exchange α) : Run (α × Loader.Socket) := do
  let (result, after) := x { s with events := #[] }
  modify fun w => after.events.foldl
    (fun w e => match e with
      | .progress => w.print "."
      | e => Run.showEvent "" w e)
    { w with network.packets := some after }
  return (← Run.ofExcept Target.Error.chain result, after)

/-- Sends a kernel to a loader and starts it. -/
def loader (o : LoaderOptions) : Run Unit := do
  let object ← readObject o.elf
  let load ← match o.load with
    | some load => pure load
    | none => sectionAddress object ".text"
  let start ← resolveIn object o.start false
  let binary ← Run.readFile o.binary
  setUpNetwork o.network o.targetIp
  let address := o.targetIp ++ ":" ++ Numeral.decimal o.targetPort
  let socket ← connectPackets address o.timeout
  Run.printLine ("- Uploading " ++ Numeral.decimal binary.size ++ " bytes to " ++
    addressText load ++ " on " ++ address)
  let (_, socket) ← exchange socket (Loader.upload load binary)
  Run.printLine ""
  let _ ← exchange socket (Loader.execute start)
  Run.printLine ("- Executing at " ++ addressText start)

/-! ## Jobs -/

def perform : Job → Run Unit
  | .debugServer o => debugServer o
  | .records file port baud flow => records file port baud flow
  | .monitor port baud elf start timeout => monitor port baud elf start timeout
  | .loader o => loader o

/-- What the tool tells of the host, before it looks at its command line. -/
def hostRecord : Log.Record where
  level := .debug
  target := "sweetada_flash"
  message := "Host " ++ Platform.current.name ++ " (" ++ Endian.little.name ++ " endian)"

/-- Carries out a command line. -/
def run (j : Job) : Run Unit := do
  Run.ofExcept (fun e => ["Configuration error: " ++ e]) j.validate
  perform j

/-- The whole tool, from its arguments to its end. -/
def execute (arguments : List String) (w : World) : Exit :=
  Exit.ofTool tool (Job.parse w.environment arguments) run (w.startLog.log hostRecord)

end BareMetal.DownloadTool
