import DeviceRegistry.CommandLine.Grammar
import DeviceRegistry.Settings.Environment

/-!
# `DeviceRegistry.CommandLine.Reader`: reading arguments

Words are read one by one. A word that names a command opens the level below, which has the rest of
the words; when that level has been read, the one above is closed. The value of an argument is only
taken when the next argument starts or the level is closed, so a fault in the words that follow is
noticed first. Closing a level fills in the variables for what its words have not given.
-/

set_option autoImplicit false

namespace DeviceRegistry.CommandLine

open DeviceRegistry.Settings (Environment)

/-- A level while its words are read. -/
structure Progress where
  given : Given := {}
  /-- The names of the arguments that were taken. -/
  taken : List String := []
  /-- An argument that is not yet taken, and its value if there is one. -/
  pending : Option (Argument × Option String) := none
  /-- Whether the next word may be the value of the pending argument. -/
  awaits : Bool := false
  /-- Whether words are no longer looked at for arguments and commands. -/
  literal : Bool := false
  /-- The positions that words can still stand for. -/
  positions : List Argument

namespace Progress

/-- A level of which nothing is read. -/
def start (l : Level) : Progress := { positions := l.positions }

/-! ### Taking arguments -/

/-- Takes an argument with its value. -/
def takeValue (p : Progress) (a : Argument) (text : String) : Except Stop Progress :=
  match a.role with
  | .value take =>
    if p.taken.contains a.name then .error .repeated
    else (take text).map fun set => { p with given := set p.given, taken := a.name :: p.taken }
  | _ => .error .surplusValue

/-- Takes the argument that is pending. -/
def settle (p : Progress) : Except Stop Progress :=
  match p.pending with
  | none => .ok p
  | some (_, none) => .error .invalidValue
  | some (a, some text) => { p with pending := none, awaits := false }.takeValue a text

/-- Takes an argument without a value. -/
def takeMark (p : Progress) (a : Argument) : Except Stop Progress := do
  let p ← p.settle
  match a.role with
  | .switch set =>
    if p.taken.contains a.name then .error .repeated
    else .ok { p with given := set true p.given, taken := a.name :: p.taken }
  | .counter add => .ok { p with given := add p.given, taken := a.name :: p.taken }
  | .stop why => .error why
  | .value _ => .ok { p with pending := some (a, none), awaits := true }

/-- Takes an argument with a value in the same word. -/
def takeAttached (p : Progress) (a : Argument) (text : String) : Except Stop Progress :=
  match a.role with
  | .value _ => do (← p.settle).takeValue a text
  | _ => .error .surplusValue

/-! ### Words -/

/-- Reads an argument by its name, behind two dashes. -/
def readName (l : Level) (p : Progress) (s : List Char) : Except Stop Progress :=
  let name := String.ofList (s.takeWhile (· ≠ '='))
  match l.arguments.find? fun a => a.name = name, s.dropWhile (· ≠ '=') with
  | none, _ => .error .unknownArgument
  | some a, [] => p.takeMark a
  | some a, _ :: text => p.takeAttached a (String.ofList text)

/-- Reads arguments by their letters, behind a dash. The rest of the word is the value of an
argument that has one. -/
def readLetters (l : Level) (p : Progress) : List Char → Except Stop Progress
  | [] => .ok p
  | c :: r =>
    match l.arguments.find? fun a => a.letter = some c with
    | none => .error .unknownArgument
    | some a =>
      match a.role, r with
      | .value _, [] => p.takeMark a
      | .value _, '=' :: text => p.takeAttached a (String.ofList text)
      | .value _, text => p.takeAttached a (String.ofList text)
      | _, r => do readLetters l (← p.takeMark a) r

/-- Reads a word by its position. -/
def readPosition (l : Level) (p : Progress) (word : String) : Except Stop Progress :=
  match p.positions with
  | a :: r => do
    let p ← p.settle
    return { p with pending := some (a, some word), positions := r }
  | [] =>
    if l.commands.isEmpty || (p.literal && l.isCommand word) then .error .unknownArgument
    else .error .unknownCommand

/-- Reads a word that names no command. -/
def readWord (l : Level) (p : Progress) (word : String) : Except Stop Progress :=
  if p.literal then p.readPosition l word
  else match word.toList with
    | ['-', '-'] => .ok { p with literal := true }
    | '-' :: '-' :: name => p.readName l name
    | '-' :: c :: r => p.readLetters l (c :: r)
    | _ =>
      match p.awaits, p.pending with
      | true, some (a, _) => .ok { p with pending := some (a, some word), awaits := false }
      | _, _ => p.readPosition l word

/-! ### Closing a level -/

/-- Takes an argument from its variable, if there is one that is set. -/
def takeVariable (env : Environment) (p : Progress) (a : Argument) : Except Stop Progress :=
  match a.envName.bind fun name => env.lookup name, a.role with
  | some text, .value _ => p.takeValue a text
  | some "true", .switch set =>
    .ok { p with given := set true p.given, taken := a.name :: p.taken }
  | some "false", .switch set =>
    .ok { p with given := set false p.given, taken := a.name :: p.taken }
  | some _, .switch _ => .error .invalidValue
  | _, _ => .ok p

/-- What the variables give for arguments that words have not given. -/
def readVariables (env : Environment) (l : Level) (taken : List String) : Except Stop Progress :=
  (l.arguments.filter fun a => !taken.contains a.name).foldlM (takeVariable env)
    { positions := [] }

end Progress

/-- What is given by words and by variables, and the command. -/
structure Reading where
  words : Given
  environment : Given
  command : Command

/-- Closes a level below which a command was read. -/
def closeAbove (env : Environment) (l : Level) (p : Progress) (below : Reading) :
    Except Stop Reading := do
  let p ← p.settle
  let v ← Progress.readVariables env l p.taken
  return { below with
    words := below.words.laidOver p.given
    environment := below.environment.laidOver v.given }

/-- Closes the level at which the words end. -/
def closeLast (env : Environment) (l : Level) (p : Progress) : Except Stop Reading := do
  let p ← p.settle
  let v ← Progress.readVariables env l p.taken
  match l.command? (p.given.laidOver v.given) with
  | some command => return ⟨p.given, v.given, command⟩
  | none =>
    if l.commands.isEmpty then .error .missingArgument
    else if p.taken.isEmpty && v.taken.isEmpty then .error .helpInstead
    else .error .missingCommand

/-- Looks for help about the command that words name. -/
def helpAbout (l : Level) : List String → Stop
  | [] => .help
  | word :: words =>
    match l.commands.lookup word with
    | some below => helpAbout below words
    | none =>
      if l.isCommand word && words.isEmpty then .help else .unknownCommand

/-- Reads the words of a level and those below it. -/
def readWords (env : Environment) (l : Level) (p : Progress) : List String → Except Stop Reading
  | [] => closeLast env l p
  | word :: words =>
    if !p.literal && !p.awaits && l.isCommand word then
      match l.commands.lookup word with
      | some below => do
        let reading ← readWords env below (.start below) words
        closeAbove env l p reading
      | none => .error (helpAbout l words)
    else do readWords env l (← p.readWord l word) words

/-- A command and what holds for it. -/
structure Invocation where
  options : Options
  command : Command
  deriving DecidableEq, Repr

/-- Reads arguments. Words count more than variables. -/
def Invocation.read (env : Environment) (args : List String) : Except Stop Invocation := do
  let r ← readWords env .root (.start .root) args
  return ⟨(r.words.laidOver r.environment).options, r.command⟩

end DeviceRegistry.CommandLine
