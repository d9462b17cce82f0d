import BareMetal.CommandLine.Parse
import BareMetal.Target.ServerLaunch

/-!
# Options of the download tool

The command line of the tool that brings a kernel to a target: through a debug server, as S-records
or through a monitor on a serial line, or to a loader on the network.
-/

namespace BareMetal.DownloadTool

open CommandLine
open Target (BaudRate FlowControl NetworkSetup)

/-- What to do with a debug server. -/
structure ServerOptions where
  /-- The configuration of a server that is to be started. -/
  config : Option String
  installation : Option String
  wait : Bool
  shutdown : Bool
  elf : Option String
  start : Option StartAddress
  thumb : Bool
  debug : Bool
  noload : Bool
  noexec : Bool
  commandFile : Option String
  commands : Option String
  profile : Option String
  host : String
  port : Nat
  deriving DecidableEq, Repr

/-- What to send to a loader on the network. -/
structure LoaderOptions where
  elf : String
  binary : String
  targetIp : String
  targetPort : Nat
  load : Option UInt32
  start : StartAddress
  /-- How long to wait for a reply, in seconds. -/
  timeout : Nat
  network : NetworkSetup
  deriving DecidableEq, Repr

/-- How to reach the target. -/
inductive Job where
  | debugServer (o : ServerOptions)
  | records (file port : String) (baud : BaudRate) (flow : FlowControl)
  | monitor (port : String) (baud : BaudRate) (elf : String) (start : StartAddress)
      (timeout : Nat)
  | loader (o : LoaderOptions)
  deriving DecidableEq, Repr

/-! ## The grammar -/

/-- An option with a short name too. -/
def withShort (c : Char) (a : Argument) : Argument := { a with short := some c }

def serverOptions : List Argument :=
  [.option "server" .path,
   { Argument.option "prefix" .path with env := some "OPENOCD_PREFIX" },
   .flag "wait" (some 'w'),
   .flag "shutdown" none,
   withShort 'f' (.option "elf" .path),
   withShort 's' (.option "start" .start),
   .flag "thumb" none,
   .flag "debug" none,
   .flag "noload" none,
   .flag "noexec" none,
   .option "command-file" .path,
   .option "commands" .text,
   .option "profile" .path,
   .withDefault "host" .text "127.0.0.1",
   .withDefault "rpc-port" .port "6666"]

def loaderOptions : List Argument :=
  [.needed "elf" .path,
   .needed "binary" .path,
   .withDefault "target-ip" .ipv4 "192.168.2.2",
   .withDefault "target-port" .port "31313",
   .option "load" .word,
   .withDefault "start" .start "_start",
   .withDefault "timeout" .count "5",
   .option "setup-network" .text,
   { Argument.withDefault "host-ip" .ipv4 "192.168.2.1" with needs := some "setup-network" },
   { Argument.withDefault "mac" .text "00:d0:f1:02:bc:5d" with needs := some "setup-network" }]

/-- The download tool. -/
def tool : Tool where
  name := "sweetada-flash"
  version := "0.1.0"
  subcommands :=
    [{ name := "openocd", options := serverOptions },
     { name := "srec"
       options := [.withDefault "flow-control" .flow "none"]
       positionals := [.needed "file" .path, .needed "port" .text, .needed "baud" .baud] },
     { name := "dbug"
       options :=
         [withShort 'p' (.needed "port" .text), withShort 'b' (.needed "baud" .baud),
          withShort 'f' (.needed "elf" .path), withShort 's' (.needed "start" .start),
          .withDefault "timeout" .count "5"] },
     { name := "bba", options := loaderOptions }]

/-! ## Reading the matches -/

/-- A start address that is certain to be there. -/
def givenStart (m : Matches) : StartAddress := (m.start? "start").getD (.symbol "")

def givenBaud (m : Matches) : BaudRate := { speed := m.number "baud" }

def ServerOptions.ofMatches (m : Matches) : ServerOptions where
  config := m.text? "server"
  installation := m.text? "prefix"
  wait := m.has "wait"
  shutdown := m.has "shutdown"
  elf := m.text? "elf"
  start := m.start? "start"
  thumb := m.has "thumb"
  debug := m.has "debug"
  noload := m.has "noload"
  noexec := m.has "noexec"
  commandFile := m.text? "command-file"
  commands := m.text? "commands"
  profile := m.text? "profile"
  host := m.text "host"
  port := m.number "rpc-port"

def LoaderOptions.ofMatches (m : Matches) : LoaderOptions where
  elf := m.text "elf"
  binary := m.text "binary"
  targetIp := m.text "target-ip"
  targetPort := m.number "target-port"
  load := m.word? "load"
  start := givenStart m
  timeout := m.number "timeout"
  network := {
    interface := m.text? "setup-network"
    hostIp := m.text "host-ip"
    mac := m.text "mac" }

def Job.ofMatches (m : Matches) : String → Job
  | "openocd" => .debugServer (.ofMatches m)
  | "srec" => .records (m.text "file") (m.text "port") (givenBaud m) (m.flow "flow-control")
  | "dbug" =>
    .monitor (m.text "port") (givenBaud m) (m.text "elf") (givenStart m) (m.number "timeout")
  | _ => .loader (.ofMatches m)

/-- Reads a command line of the download tool. -/
def Job.parse (env : Environment) (arguments : List String) : Except Refusal Job :=
  (CommandLine.parse tool env arguments).map fun p => .ofMatches p.given p.subcommand

/-! ## What the grammar cannot say -/

/-- A hexadecimal digit of either case. -/
def isHexDigit (c : Char) : Bool := (Numeral.digit? c).isSome

/-- Six pairs of hexadecimal digits between colons. -/
def isMac (s : String) : Bool :=
  let pairs := Text.splitOn ':' s.toList
  pairs.length == 6 && pairs.all fun p => p.length == 2 && p.all isHexDigit

/-- A server that is to be started needs an installation; a download needs a kernel and a start. -/
def ServerOptions.validate (o : ServerOptions) : Except String Unit :=
  if o.shutdown then .ok ()
  else if o.config.isSome then
    if o.installation.isSome then .ok ()
    else .error "No OpenOCD prefix, use --prefix or set OPENOCD_PREFIX"
  else if o.elf.isNone then .error "ELF file not specified"
  else if o.start.isNone then .error "Start symbol not specified"
  else .ok ()

def Job.validate : Job → Except String Unit
  | .debugServer o => o.validate
  | .loader o =>
    if isMac o.network.mac then .ok ()
    else .error ("Invalid MAC address: " ++ o.network.mac)
  | _ => .ok ()

end BareMetal.DownloadTool
