import DeviceRegistry.Report

/-!
# `DeviceRegistry.CommandLine.Grammar`: commands and their arguments

A command is named by the words of a path (`Level`): each level has arguments of its own besides
those that hold at every level, and either positions for words or commands below it. `Given` holds
what some source has given; `Command` is what the program is asked to do.
-/

set_option autoImplicit false

namespace DeviceRegistry.CommandLine

/-- Why arguments are not read to an end. -/
inductive Stop where
  /-- The user asks for help. -/
  | help
  /-- The user asks for the version. -/
  | version
  /-- Nothing is given where a command is needed. -/
  | helpInstead
  | missingCommand
  | unknownCommand
  | unknownArgument
  | missingArgument
  /-- An argument is given twice. -/
  | repeated
  /-- An argument has a value that takes none. -/
  | surplusValue
  /-- An argument has no value, or none of those that it can have. -/
  | invalidValue
  /-- An argument has a value that cannot be read. -/
  | malformedValue
  deriving DecidableEq, Repr

/-- The exit code of a stop. -/
def Stop.exitCode : Stop → Nat
  | help | version => 0
  | _ => 2

/-- What the program is asked to do. -/
inductive Command where
  | getCredentials (deviceId : String) (tenant : Option String)
  | setCredentials (deviceId file : String) (ifMatch tenant : Option String)
  | validateCredentials (file : String)
  | validateDevice (file : String)
  /-- Shows where the settings are. -/
  | settingsPath
  | showSettings
  deriving DecidableEq, Repr

/-- What holds for every command. -/
structure Options where
  profile : Option String := none
  registry : Option String := none
  output : Option Format := none
  verbosity : Nat := 0
  quiet : Bool := false
  insecure : Bool := false
  timeout : Option UInt64 := none
  deriving DecidableEq, Repr

/-- What a source has given for each argument. -/
structure Given where
  profile : Option String := none
  registry : Option String := none
  output : Option Format := none
  verbosity : Nat := 0
  quiet : Option Bool := none
  insecure : Option Bool := none
  timeout : Option UInt64 := none
  tenant : Option String := none
  ifMatch : Option String := none
  file : Option String := none
  deviceId : Option String := none
  deriving DecidableEq, Repr

/-- What is given by two sources, the first of which counts more. -/
def Given.laidOver (upper lower : Given) : Given where
  profile := upper.profile.or lower.profile
  registry := upper.registry.or lower.registry
  output := upper.output.or lower.output
  verbosity := if upper.verbosity = 0 then lower.verbosity else upper.verbosity
  quiet := upper.quiet.or lower.quiet
  insecure := upper.insecure.or lower.insecure
  timeout := upper.timeout.or lower.timeout
  tenant := upper.tenant.or lower.tenant
  ifMatch := upper.ifMatch.or lower.ifMatch
  file := upper.file.or lower.file
  deviceId := upper.deviceId.or lower.deviceId

/-- What is given for every command. -/
def Given.options (g : Given) : Options where
  profile := g.profile
  registry := g.registry
  output := g.output
  verbosity := g.verbosity
  quiet := g.quiet.getD false
  insecure := g.insecure.getD false
  timeout := g.timeout

/-! ### Arguments -/

/-- What an argument does. -/
inductive Role where
  /-- It has a value. -/
  | value (take : String → Except Stop (Given → Given))
  /-- It is on or off. -/
  | switch (set : Bool → Given → Given)
  /-- It counts how often it is given. -/
  | counter (add : Given → Given)
  /-- It ends the reading. -/
  | stop (why : Stop)

/-- An argument: its name, its letter, the variable that may give it instead, and what it does. -/
structure Argument where
  name : String
  letter : Option Char := none
  envName : Option String := none
  role : Role

/-- Takes any text. -/
def takeText (set : String → Given → Given) : Role := .value fun s => .ok (set s)

/-- Takes the name of a file. -/
def takePath (set : String → Given → Given) : Role :=
  .value fun s => if s = "" then .error .invalidValue else .ok (set s)

/-- Takes the name of a format. -/
def takeFormat (set : Format → Given → Given) : Role :=
  .value fun s => match Format.ofName? s with
    | some f => .ok (set f)
    | none => .error .invalidValue

/-- A whole number of 64 bits. A plus sign may stand in front. -/
def word? (s : String) : Option UInt64 :=
  let digits := match s.toList with
    | '+' :: r => r
    | r => r
  (Decimal.natural? digits).bind fun n =>
    if n < 0x10000000000000000 then some (UInt64.ofNat n) else none

/-- Takes a whole number. -/
def takeWord (set : UInt64 → Given → Given) : Role :=
  .value fun s => match word? s with
    | some n => .ok (set n)
    | none => .error .malformedValue

/-- The arguments that hold at every level. -/
def sharedArguments : List Argument :=
  [{ name := "profile", letter := 'p', envName := "DEVREG_PROFILE"
     role := takeText fun s g => { g with profile := s } },
    { name := "registry", envName := "DEVREG_REGISTRY"
      role := takeText fun s g => { g with registry := s } },
    { name := "output", letter := 'o', envName := "DEVREG_OUTPUT"
      role := takeFormat fun f g => { g with output := f } },
    { name := "verbose", letter := 'v'
      role := .counter fun g => { g with verbosity := g.verbosity + 1 } },
    { name := "quiet", letter := 'q', role := .switch fun b g => { g with quiet := b } },
    { name := "insecure", letter := 'k', envName := "DEVREG_INSECURE"
      role := .switch fun b g => { g with insecure := b } },
    { name := "timeout", envName := "DEVREG_TIMEOUT"
      role := takeWord fun n g => { g with timeout := n } },
    { name := "help", letter := 'h', role := .stop .help },
    { name := "version", letter := 'V', role := .stop .version }]

/-- The tenant that a command is for. -/
def tenantArgument : Argument where
  name := "tenant"
  letter := 't'
  envName := "DEVREG_TENANT"
  role := takeText fun s g => { g with tenant := s }

/-- The file that a command sends. -/
def fileArgument : Argument where
  name := "file"
  letter := 'f'
  role := takePath fun s g => { g with file := s }

/-- The version that a command asserts. -/
def ifMatchArgument : Argument where
  name := "if-match"
  role := takeText fun s g => { g with ifMatch := s }

/-- The device that a command is for, by position. -/
def deviceArgument : Argument where
  name := "device_id"
  role := takeText fun s g => { g with deviceId := s }

/-! ### Levels -/

/-- A path of command words. -/
inductive Level where
  | root
  | credentials
  | device
  | settings
  | getCredentials
  | setCredentials
  | validateCredentials
  | validateDevice
  | settingsPath
  | showSettings
  deriving DecidableEq, Repr

namespace Level

/-- The commands below a level, by their words. -/
def commands : Level → List (String × Level)
  | root =>
    [("credentials", .credentials), ("creds", .credentials), ("device", .device),
      ("config", .settings)]
  | credentials =>
    [("get", .getCredentials), ("set", .setCredentials), ("validate", .validateCredentials)]
  | device => [("validate", .validateDevice)]
  | settings => [("path", .settingsPath), ("show", .showSettings)]
  | _ => []

/-- The word that asks for help wherever a command may stand. -/
def helpWord : String := "help"

/-- Whether a word names a command below a level. -/
def isCommand (l : Level) (word : String) : Bool :=
  !l.commands.isEmpty && (word = helpWord || (l.commands.lookup word).isSome)

/-- The arguments of a level, its own first. -/
def arguments (l : Level) : List Argument :=
  match l with
  | getCredentials => tenantArgument :: sharedArguments
  | setCredentials => fileArgument :: ifMatchArgument :: tenantArgument :: sharedArguments
  | _ => sharedArguments

/-- The arguments that words stand for by their position. -/
def positions : Level → List Argument
  | getCredentials | setCredentials => [deviceArgument]
  | validateCredentials | validateDevice => [fileArgument]
  | _ => []

/-- The command of a level, when all that it needs is given. -/
def command? (l : Level) (g : Given) : Option Command :=
  match l with
  | getCredentials => g.deviceId.map fun d => .getCredentials d g.tenant
  | setCredentials =>
    g.deviceId.bind fun d => g.file.map fun f => .setCredentials d f g.ifMatch g.tenant
  | validateCredentials => g.file.map .validateCredentials
  | validateDevice => g.file.map .validateDevice
  | settingsPath => some .settingsPath
  | showSettings => some .showSettings
  | root | credentials | device | settings => none

end Level

end DeviceRegistry.CommandLine
