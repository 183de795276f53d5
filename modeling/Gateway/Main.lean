import Gateway.CommandLine
import Gateway.Startup

namespace Gateway.Program

/-! The program: it reads its configuration, sets the gateway up, and tells the
operator what it found. The network lies outside of this library. -/

def showNotices (filter : LevelFilter) (events : List Event) : IO Unit :=
  for event in events do
    match event with
    | .notice notice => if filter.shows notice.level then IO.println notice.line
    | _ => pure ()

def readContent (path : String) : IO (Option Bytes) := do
  try
    let content ← IO.FS.readBinFile path
    pure (some content.toList)
  catch _ => pure none

def fail (message : String) : IO UInt32 := do
  IO.eprintln message
  pure 1

def startGateway (filter : LevelFilter) (path : String) : IO UInt32 := do
  let loaded := GatewayConfig.load path (← readContent path)
  showNotices filter loaded.events
  match loaded.value with
  | .error fault => fail fault.message
  | .ok config => do
      let fresh ← IO.getRandomBytes (USize.ofNat Protector.keySize)
      let started := Router.ofConfig (.ofSequence []) fresh.toList config
      showNotices filter started.events
      match started.value with
      | .error fault => fail fault.message
      | .ok router => do
          IO.println (String.intercalate "\n" router.registered.keys)
          pure 0

def run (arguments : List String) : IO UInt32 := do
  match Arguments.parse {} arguments with
  | .help => do
      IO.println Arguments.usage
      pure 0
  | .invalid argument =>
      fail ("unexpected argument " ++ argument ++ "\n\n" ++ Arguments.usage)
  | .run arguments => do
      let level := (← IO.getEnv "LOG_LEVEL").getD "DEBUG"
      match LevelFilter.parse? level with
      | none => fail (LevelFilter.invalidMessage level)
      | some filter => startGateway filter arguments.config

end Gateway.Program

def main (arguments : List String) : IO UInt32 :=
  Gateway.Program.run arguments
