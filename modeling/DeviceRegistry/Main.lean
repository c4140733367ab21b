import DeviceRegistry.CommandLine.Run

/-!
# `DeviceRegistry.Main`: the program

The outer layer: it collects what a command finds where it runs, lets `CommandLine.run` decide, and
prints what that reports. It opens no connections: every registry is one that cannot be connected
to.
-/

set_option autoImplicit false

namespace DeviceRegistry.Main

open DeviceRegistry.CommandLine (Surroundings Ending Failure Stop Invocation)

/-! ### Collecting -/

/-- The variables in a block of them, each of which ends with a zero byte. -/
def variablesOf (block : List UInt8) : Settings.Environment :=
  (block.splitOn 0).filterMap fun line =>
    match (Text.lossy line).splitOn "=" with
    | name :: text :: more => some (name, String.intercalate "=" (text :: more))
    | _ => none

/-- Where the settings of the user are. -/
def settingsPath (env : Settings.Environment) : String :=
  let home := (env.lookup "HOME").getD "."
  let directory := match env.lookup "XDG_CONFIG_HOME" with
    | some path => if path.startsWith "/" then path else home ++ "/.config"
    | none => home ++ "/.config"
  directory ++ "/devreg/config.toml"

/-- Why a file cannot be read. -/
def reasonOf : IO.Error → String
  | .noFileOrDirectory .. => "No such file or directory (os error 2)"
  | .permissionDenied .. => "Permission denied (os error 13)"
  | .inappropriateType .. => "Is a directory (os error 21)"
  | e => e.toString

/-- The bytes of a file, or why it cannot be read. -/
def bytesOf (path : String) : IO (Except String (List UInt8)) := do
  try return .ok (← IO.FS.readBinFile path).data.toList
  catch e => return .error (reasonOf e)

/-- The files that arguments and settings name. -/
def filesNamed (s : Settings) (env : Settings.Environment) (args : List String) : List String :=
  let file := match (Invocation.read env args).toOption.map (·.command) with
    | some (.setCredentials _ file _ _) => [file]
    | some (.validateCredentials file) => [file]
    | some (.validateDevice file) => [file]
    | _ => []
  file ++ s.profiles.filterMap fun (_, p) => p.caCertificate

/-- What a command finds where the program runs. -/
def surroundings (args : List String) : IO Surroundings := do
  let env := match ← bytesOf "/proc/self/environ" with
    | .ok block => variablesOf block
    | .error _ => []
  let path := settingsPath env
  let settingsText := (← bytesOf path).toOption.map Text.lossy
  let known : Surroundings := ⟨env, path, settingsText, fun _ => .error ""⟩
  let files ← (filesNamed known.settings env args).mapM fun f => return (f, ← bytesOf f)
  return { known with files := fun f => (files.lookup f).getD (.error "") }

/-! ### Telling the user -/

/-- What the program can be asked to do. -/
def synopsis : String := String.intercalate "\n"
  ["Usage: devreg [OPTIONS] <COMMAND>",
    "",
    "Commands:",
    "  credentials get <DEVICE_ID> [-t <TENANT>]",
    "  credentials set <DEVICE_ID> -f <FILE> [--if-match <VERSION>] [-t <TENANT>]",
    "  credentials validate <FILE>",
    "  device validate <FILE>",
    "  config path",
    "  config show",
    "",
    "Options:",
    "  -p, --profile <PROFILE>    --registry <URL>    -o, --output <FORMAT>    --timeout <SECONDS>",
    "  -k, --insecure    -q, --quiet    -v, --verbose    -h, --help    -V, --version"]

/-- What the user is told about a failure. -/
def advice (f : Failure) : String := String.intercalate "\n"
  (f.code?.toList ++ [s!"Error: {f.message}"] ++ (f.help?.map ("help: " ++ ·)).toList)

/-- Tells the user how the program ends. -/
def tell : Ending → IO Unit
  | .success => return ()
  | .stopped .help => IO.println synopsis
  | .stopped .version => IO.println "devreg 0.1.0"
  | .stopped _ => IO.eprintln synopsis
  | .failed f => IO.eprintln (advice f)

end DeviceRegistry.Main

/-- Runs the program. -/
def main (args : List String) : IO UInt32 := do
  let w ← DeviceRegistry.Main.surroundings args
  let (report, _) := (DeviceRegistry.CommandLine.run w args).run ⟨[], []⟩
  IO.print report.output
  DeviceRegistry.Main.tell report.ending
  return UInt32.ofNat report.ending.exitCode
