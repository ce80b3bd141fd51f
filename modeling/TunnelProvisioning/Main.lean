import TunnelProvisioning.Command.Run
import TunnelProvisioning.Log.Terminal

/-! # The program

The files that a command line names are looked at before the run, and their answers are all that the
run sees of the file system. No descriptor can be turned into a tunnel from here, so the run meets a
kernel without tunnel devices.
-/

namespace TunnelProvisioning.CommandLine

/-- The error with a number, which may be reported with its sign changed. -/
def numberedError (code : UInt32) : IoError :=
  .numbered (Int32.ofNat code.toNat).toInt.natAbs

def ioErrorOf : IO.Error → IoError
  | .noFileOrDirectory _ code _ => numberedError code
  | .permissionDenied _ code _ => numberedError code
  | .inappropriateType _ code _ => numberedError code
  | .invalidArgument _ code _ => numberedError code
  | .resourceBusy code _ => numberedError code
  | .resourceExhausted _ code _ => numberedError code
  | .noSuchThing _ code _ => numberedError code
  | .hardwareFault code _ => numberedError code
  | .otherError code _ => numberedError code
  | error => .described .other error.toString

/-- The result of an action, errors included. -/
def resultOf {α : Type} (action : IO α) : IO (Except IoError α) := do
  try
    return .ok (← action)
  catch error =>
    return .error (ioErrorOf error)

/-- What one path answers. -/
structure Answer where
  path : Path
  read : Except IoError (List UInt8)
  openNode : Except IoError Unit

def ask (path : Path) : IO Answer := do
  let read ← resultOf (IO.FS.readBinFile path.text)
  let openNode ← resultOf (discard (IO.FS.Handle.mk path.text .readWrite))
  return ⟨path, read.map (·.toList), openNode⟩

def Answer.isPresent (answer : Answer) : Bool :=
  match answer.read with
  | .ok _ => true
  | .error (.numbered code) => code ≠ 2 && code ≠ 20 && code ≠ 36
  | .error (.described _ _) => false

/-- The file system of which only some paths are known. -/
def fileSystemOf (answers : List Answer) : FileSystem where
  isPresent path :=
    match answers.find? (·.path = path) with
    | some answer => answer.isPresent
    | none => false
  read path :=
    match answers.find? (·.path = path) with
    | some answer => answer.read
    | none => .error .missing
  openNode path :=
    match answers.find? (·.path = path) with
    | some answer => answer.openNode
    | none => .error .missing

/-- Looks at the files that a command line names, and at the device node that the settings in them
name. -/
def filesFor (arguments : List String) : IO FileSystem := do
  match Invocation.ofArguments arguments with
  | .validate config => return fileSystemOf [← ask config]
  | .setup options =>
    let config ← ask options.config
    match loadedSettings (fileSystemOf [config]) options.config with
    | .ok settings => return fileSystemOf [config, ← ask settings.tunnel.devicePath]
    | .error _ => return fileSystemOf [config]
  | _ => return fileSystemOf []

end TunnelProvisioning.CommandLine

def main (arguments : List String) : IO UInt32 := do
  let logSetting ← IO.getEnv "RUST_LOG"
  let files ← TunnelProvisioning.CommandLine.filesFor arguments
  let host : TunnelProvisioning.Host Unit := { interfaces := () }
  let run := TunnelProvisioning.CommandLine.run .withoutDevices files logSetting host arguments
  for event in run.events do
    IO.eprintln s!"{event.level.name} {event.origin.path}: {event.printed}"
  if run.status = 2 then IO.eprint TunnelProvisioning.CommandLine.usage
  IO.print run.output
  return UInt32.ofNat run.status
