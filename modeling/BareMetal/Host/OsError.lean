/-!
# Refusals of the system

Why the system refuses to open, write or run something, with the texts that users know.
-/

namespace BareMetal.Host

/-- Why the system refuses something. -/
inductive OsError where
  | notFound
  | noDevice
  | badFormat
  | badDescriptor
  | outOfMemory
  | notPermitted
  | notDirectory
  | isDirectory
  | invalid
  | notTerminal
  | noSpace
  | illegalSeek
  | nameTooLong
  | tooManyLinks
  | networkUnreachable
  deriving DecidableEq, Repr

namespace OsError

/-- The text of an error without its number. -/
def text : OsError → String
  | notFound => "No such file or directory"
  | noDevice => "No such device or address"
  | badFormat => "Exec format error"
  | badDescriptor => "Bad file descriptor"
  | outOfMemory => "Cannot allocate memory"
  | notPermitted => "Permission denied"
  | notDirectory => "Not a directory"
  | isDirectory => "Is a directory"
  | invalid => "Invalid argument"
  | notTerminal => "Inappropriate ioctl for device"
  | noSpace => "No space left on device"
  | illegalSeek => "Illegal seek"
  | nameTooLong => "File name too long"
  | tooManyLinks => "Too many levels of symbolic links"
  | networkUnreachable => "Network is unreachable"

def code : OsError → Nat
  | notFound => 2
  | noDevice => 6
  | badFormat => 8
  | badDescriptor => 9
  | outOfMemory => 12
  | notPermitted => 13
  | notDirectory => 20
  | isDirectory => 21
  | invalid => 22
  | notTerminal => 25
  | noSpace => 28
  | illegalSeek => 29
  | nameTooLong => 36
  | tooManyLinks => 40
  | networkUnreachable => 101

def message (e : OsError) : String := e.text ++ " (os error " ++ toString e.code ++ ")"

end OsError

end BareMetal.Host
