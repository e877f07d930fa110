import ProfilingTargets.Error.OsText
import ProfilingTargets.Text.Quoted
import ProfilingTargets.Text.Utf8

/-!
# Errors

What can go wrong, by cause, with one message for each cause and one exit status
for each kind. A step of a program can also break off without an error (`Panic`):
what it was doing is abandoned, and its caller gets no answer to look at.
-/

namespace ProfilingTargets

/-- An input or output error. -/
inductive IoError where
  /-- The operating system refused, with this error number. -/
  | os (code : Int)
  /-- A path with a NUL character in it cannot be passed to the operating system. -/
  | nulInPath
  /-- An address has no port. -/
  | invalidSocketAddress
  /-- The port of an address is no number below 65536. -/
  | invalidPort
  /-- Nobody knows the host of an address. -/
  | unknownHost
  /-- Nobody can be asked about the host of an address. -/
  | unresolvedHost
  /-- Another cause, in words. -/
  | other (text : String)
  deriving DecidableEq, Repr

namespace IoError

/-- No such file or directory. -/
def notFound : IoError := .os 2
/-- A component of a path that is not the last is no directory. -/
def notDirectory : IoError := .os 20
/-- A directory cannot be opened for writing. -/
def isDirectory : IoError := .os 21
/-- There is no such device. -/
def noDevice : IoError := .os 19
/-- The operation makes no sense here. -/
def invalidArgument : IoError := .os 22
/-- A device is full. -/
def noSpace : IoError := .os 28
/-- A name, or a whole path, is too long. -/
def nameTooLong : IoError := .os 36
/-- The access is not allowed. -/
def permissionDenied : IoError := .os 13
/-- The port is taken. -/
def addressInUse : IoError := .os 98
/-- The address belongs to another machine. -/
def addressNotAvailable : IoError := .os 99
/-- There is no route to the other side. -/
def networkUnreachable : IoError := .os 101

/-- The text in front of the reason why a host was not found. -/
def lookupFailure : String := "failed to lookup address information: "

/-- The text of the error. -/
def message : IoError → String
  | .os code => s!"{OsText.text code} (os error {code})"
  | .nulInPath => "file name contained an unexpected NUL byte"
  | .invalidSocketAddress => "invalid socket address"
  | .invalidPort => "invalid port value"
  | .unknownHost => lookupFailure ++ "Name or service not known"
  | .unresolvedHost => lookupFailure ++ "Temporary failure in name resolution"
  | .other text => text

end IoError

/-- An error of the sampler. -/
inductive ProfilerError where
  /-- The sampler cannot be set up. -/
  | creating
  /-- The sampler is running already. -/
  | running
  /-- The sampler is not running. -/
  | notRunning
  /-- An input or output error of the sampler. -/
  | io (error : IoError)
  deriving DecidableEq, Repr

/-- The text of the error. -/
def ProfilerError.message : ProfilerError → String
  | .creating => "create profiler error"
  | .running => "start running cpu profiler error"
  | .notRunning => "stop running cpu profiler error"
  | .io error => error.message

/-- What is wrong with an argument. -/
inductive ArgumentError where
  /-- The seconds of a capture are no whole number, but this value. -/
  | secondsNotWhole (value : List Char)
  /-- The seconds of a capture are out of range. -/
  | secondsOutOfRange (seconds least greatest : Nat)
  /-- A worker would pause after every no iterations. -/
  | zeroThrottle
  /-- Another fault, in words. -/
  | other (text : String)
  deriving DecidableEq, Repr

/-- The text of the fault. -/
def ArgumentError.message : ArgumentError → String
  | .secondsNotWhole value =>
    "seconds must be a whole number, got " ++ String.ofList (Quoted.encode value)
  | .secondsOutOfRange seconds least greatest =>
    s!"seconds must be between {least} and {greatest}, got {seconds}"
  | .zeroThrottle => "throttle_every must be at least 1"
  | .other text => text

/-- An error of the library. -/
inductive Error where
  /-- The sampler failed. -/
  | profiler (error : ProfilerError)
  /-- Input or output failed. -/
  | io (error : IoError)
  /-- An argument was refused. -/
  | invalidArgument (error : ArgumentError)
  /-- A worker did not finish. -/
  | worker (text : String)
  /-- The platform lacks what is asked for. -/
  | unsupportedPlatform (text : String)
  deriving DecidableEq, Repr

namespace Error

/-- The text of the error, with its kind in front. -/
def message : Error → String
  | .profiler error => "Profiler error: " ++ error.message
  | .io error => "I/O error: " ++ error.message
  | .invalidArgument error => "Invalid argument: " ++ error.message
  | .worker text => "Worker failed: " ++ text
  | .unsupportedPlatform text => "Unsupported platform: " ++ text

/-- The texts of the errors behind an error, nearest first. -/
def causes : Error → List String
  | .profiler (.io error) => [error.message, error.message]
  | .profiler error => [error.message]
  | .io error => [error.message]
  | _ => []

end Error

/-- How a program ends. -/
inductive ExitStatus where
  /-- All went well. -/
  | success
  /-- Any failure without a status of its own. -/
  | general
  /-- The arguments were refused. -/
  | invalidArguments
  /-- The profile failed. -/
  | profile
  deriving DecidableEq, Repr

/-- The number of a status. -/
def ExitStatus.code : ExitStatus → Nat
  | .success => 0
  | .general => 1
  | .invalidArguments => 2
  | .profile => 3

/-- The status of a program that ends with an error. -/
def Error.exitStatus : Error → ExitStatus
  | .profiler _ => .profile
  | .invalidArgument _ => .invalidArguments
  | _ => .general

/-- Why a step breaks off. -/
inductive Panic where
  /-- A division by zero. -/
  | divideByZero
  /-- A sequence longer than any memory. -/
  | capacityOverflow
  /-- An argument of the process that is not Unicode text. -/
  | notUnicode (argument : Bytes)
  /-- A step broke off on purpose. -/
  | raised (text : String)
  deriving DecidableEq, Repr

/-- The text of the break. -/
def Panic.message : Panic → String
  | .divideByZero => "attempt to divide by zero"
  | .capacityOverflow => "capacity overflow"
  | .notUnicode argument =>
    "not Unicode: " ++ String.ofList (Quoted.encode (Utf8.decodeLossy argument))
  | .raised text => text

/-- How a step ends that does not succeed. -/
inductive Failure where
  /-- With an error. -/
  | error (e : Error)
  /-- Broken off. -/
  | panic (p : Panic)
  deriving DecidableEq, Repr

end ProfilingTargets
