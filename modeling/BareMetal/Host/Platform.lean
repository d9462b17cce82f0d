/-!
# Host platforms

The families of hosts, as far as opening a terminal is concerned.
-/

namespace BareMetal.Host

/-- A family of hosts. -/
inductive Platform where
  | unix
  | windows
  | unknown
  deriving DecidableEq, Repr

def Platform.name : Platform → String
  | unix => "unix"
  | windows => "windows"
  | unknown => "unknown"

/-- The host that the tools run on, a Unix other than Darwin. -/
def Platform.current : Platform := .unix

/-- Whether the host is a Darwin. -/
def Platform.isDarwin (_ : Platform) : Bool := false

/-- How a terminal is opened. -/
inductive Terminal where
  | windows
  | macOs
  | xterm
  deriving DecidableEq, Repr

/-- The terminal of a host. -/
def Terminal.ofPlatform : Platform → Option Terminal
  | .windows => some .windows
  | .unix => some (if Platform.isDarwin .unix then .macOs else .xterm)
  | .unknown => none

end BareMetal.Host
