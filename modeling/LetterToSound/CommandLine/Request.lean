import LetterToSound.Files.Path
import LetterToSound.Words.Mode

namespace LetterToSound

structure Options where
  rules : Option Path := none
  mode : Option Mode := none
  all : Bool := false
  verbose : Bool := false
  inputs : List Path := []
deriving DecidableEq, Repr

inductive Request
  | help
  | version
  | transcribe (options : Options)
  | check (rules : Option Path)
  | showSettings
deriving DecidableEq, Repr

/-- A flag that needs a value. -/
inductive Setting
  | rules
  | mode
deriving DecidableEq, Repr

/-- A flag that stands alone. -/
inductive Switch
  | all
  | verbose
  | help
  | version
deriving DecidableEq, Repr

inductive Flag
  | setting (setting : Setting)
  | switch (switch : Switch)
deriving DecidableEq, Repr

namespace Flag

def letter : Flag → Char
  | .setting .rules => 'r'
  | .setting .mode => 'm'
  | .switch .all => 'a'
  | .switch .verbose => 'v'
  | .switch .help => 'h'
  | .switch .version => 'V'

def name : Flag → Text
  | .setting .rules => "rules"
  | .setting .mode => "mode"
  | .switch .all => "all"
  | .switch .verbose => "verbose"
  | .switch .help => "help"
  | .switch .version => "version"

end Flag

inductive UsageError
  | unexpected (argument : Text)
  | missingValue (setting : Setting)
  | unwantedValue (switch : Switch)
  | emptyValue
  | unknownMode (name : Text)
  | repeated (flag : Flag)
  | modeAndAll
  | missingCommand
deriving DecidableEq, Repr

def UsageError.message : UsageError → Text
  | .unexpected argument => "unexpected argument " ++ argument
  | .missingValue setting => "a value is required for --" ++ Flag.name (.setting setting)
  | .unwantedValue switch => "no value is allowed for --" ++ Flag.name (.switch switch)
  | .emptyValue => "an empty value is not allowed"
  | .unknownMode name => Mode.unknownMessage name
  | .repeated flag => "--" ++ flag.name ++ " cannot be used twice"
  | .modeAndAll => "--mode cannot be used with --all"
  | .missingCommand => "a command is required"

/-- What ends the reading of arguments early: a request for help or for the version is granted at
once, whatever follows. -/
inductive Stop
  | granted (request : Request)
  | wrong (error : UsageError)
deriving DecidableEq, Repr

def Setting.give (setting : Setting) (value : Text) (options : Options) : Except Stop Options :=
  if value = [] then .error (.wrong .emptyValue)
  else
    match setting with
    | .rules =>
      if options.rules.isSome then .error (.wrong (.repeated (.setting .rules)))
      else .ok { options with rules := some value }
    | .mode =>
      match Mode.ofName? value with
      | none => .error (.wrong (.unknownMode value))
      | some named =>
        if options.mode.isSome then .error (.wrong (.repeated (.setting .mode)))
        else .ok { options with mode := some named }

def Switch.turnOn (switch : Switch) (options : Options) : Except Stop Options :=
  match switch with
  | .all =>
    if options.all then .error (.wrong (.repeated (.switch .all)))
    else .ok { options with all := true }
  | .verbose =>
    if options.verbose then .error (.wrong (.repeated (.switch .verbose)))
    else .ok { options with verbose := true }
  | .help => .error (.granted .help)
  | .version => .error (.granted .version)

/-- Arguments that have been read and not judged: a setting before its value, a value that was an
argument of its own, or a run of inputs. -/
inductive Pending
  | nothing
  | awaiting (setting : Setting)
  | given (setting : Setting) (value : Text)
  | inputs (paths : List Text)
deriving DecidableEq, Repr

structure Progress where
  options : Options := {}
  pending : Pending := .nothing
deriving DecidableEq, Repr

namespace Progress

def settle (progress : Progress) : Except Stop Options :=
  match progress.pending with
  | .nothing => .ok progress.options
  | .awaiting setting => .error (.wrong (.missingValue setting))
  | .given setting value => setting.give value progress.options
  | .inputs paths =>
    if [] ∈ paths then .error (.wrong .emptyValue)
    else .ok { progress.options with inputs := progress.options.inputs ++ paths }

/-- A command is recognised but where a value is awaited and right after an input. -/
def allowsCommand (progress : Progress) : Bool :=
  match progress.pending with
  | .nothing | .given _ _ => true
  | .awaiting _ | .inputs _ => false

end Progress

/-- What may stand among the arguments of a command. -/
structure Level where
  flags : List Flag
  commands : List Text
  takesInputs : Bool

namespace Level

/-- Reads the letters of a short flag. What follows the letter of a setting is its value. -/
def readLetters (level : Level) (options : Options) : Text → Except Stop Progress
  | [] => .ok { options }
  | c :: rest =>
    match level.flags.find? (·.letter = c) with
    | none => .error (.wrong (.unexpected ['-', c]))
    | some (.switch switch) => do level.readLetters (← switch.turnOn options) rest
    | some (.setting setting) =>
      match rest with
      | [] => .ok { options, pending := .awaiting setting }
      | '=' :: value => return { options := ← setting.give value options }
      | value => return { options := ← setting.give value options }

/-- Reads a long flag. What follows an equals sign is its value. -/
def readName (level : Level) (options : Options) (t : Text) : Except Stop Progress :=
  match level.flags.find? (·.name = t.takeWhile (· ≠ '=')), t.dropWhile (· ≠ '=') with
  | none, _ => .error (.wrong (.unexpected ("--" ++ t)))
  | some (.switch switch), [] => return { options := ← switch.turnOn options }
  | some (.switch switch), _ :: _ => .error (.wrong (.unwantedValue switch))
  | some (.setting setting), [] => .ok { options, pending := .awaiting setting }
  | some (.setting setting), _ :: value => return { options := ← setting.give value options }

def readInput (level : Level) (progress : Progress) (argument : Text) : Except Stop Progress :=
  match progress.pending with
  | .inputs paths => .ok { progress with pending := .inputs (paths ++ [argument]) }
  | _ => do
    let options ← progress.settle
    if level.takesInputs then return { options, pending := .inputs [argument] }
    else .error (.wrong (.unexpected argument))

/-- Reads one argument in which dashes have their meaning. -/
def readArgument (level : Level) (progress : Progress) (argument : Text) : Except Stop Progress :=
  match argument with
  | '-' :: '-' :: name => do level.readName (← progress.settle) name
  | '-' :: c :: letters => do level.readLetters (← progress.settle) (c :: letters)
  | _ =>
    match progress.pending with
    | .awaiting setting => .ok { progress with pending := .given setting argument }
    | _ => level.readInput progress argument

/-- Reads arguments up to a command, which is given with the arguments after it. After two dashes
every argument is an input. -/
def read (level : Level) (progress : Progress) (afterDashes : Bool) :
    List Text → Except Stop (Progress × Option (Text × List Text))
  | [] => .ok (progress, none)
  | argument :: rest =>
    if afterDashes then do
      level.read (← level.readInput progress argument) true rest
    else if progress.allowsCommand ∧ argument ∈ level.commands then
      .ok (progress, some (argument, rest))
    else if argument = ['-', '-'] then level.read progress true rest
    else do level.read (← level.readArgument progress argument) false rest

end Level

namespace Request

/-- Help can be had for each command by its name. -/
def ofHelp (command : List Text) : Except Stop Request :=
  let known : List (List Text) :=
    [[], ["check".toList], ["config".toList], ["help".toList],
      ["config".toList, "show".toList], ["config".toList, "help".toList]]
  if command ∈ known then .ok .help else .error (.wrong (.unexpected (command.getLast?.getD [])))

def ofCheck (arguments : List Text) : Except Stop Request := do
  let level : Level := ⟨[.setting .rules, .switch .help], [], false⟩
  let (progress, _) ← level.read {} false arguments
  return .check (← progress.settle).rules

def ofConfigShow (arguments : List Text) : Except Stop Request := do
  let level : Level := ⟨[.switch .help], [], false⟩
  let (progress, _) ← level.read {} false arguments
  let _ ← progress.settle
  return .showSettings

def ofConfig (arguments : List Text) : Except Stop Request := do
  let level : Level := ⟨[.switch .help], ["show", "help"], false⟩
  let (progress, command?) ← level.read {} false arguments
  let _ ← progress.settle
  match command? with
  | none => .error (.wrong .missingCommand)
  | some (command, arguments) =>
    if command = "show".toList then ofConfigShow arguments
    else ofHelp ("config".toList :: arguments)

def ofCommand (command : Text) (arguments : List Text) : Except Stop Request :=
  if command = "check".toList then ofCheck arguments
  else if command = "config".toList then ofConfig arguments
  else ofHelp arguments

def ofArguments (arguments : List Text) : Except Stop Request := do
  let level : Level :=
    ⟨[.setting .rules, .setting .mode, .switch .all, .switch .verbose, .switch .help,
      .switch .version], ["check", "config", "help"], true⟩
  let (progress, command?) ← level.read {} false arguments
  let request? ← command?.mapM fun (command, arguments) => ofCommand command arguments
  let options ← progress.settle
  if options.all ∧ options.mode.isSome then .error (.wrong .modeAndAll)
  else return request?.getD (.transcribe options)

/-- Reads the arguments of the program. The flags before a command are judged after it, and have
no effect on it. -/
def read (arguments : List Text) : Except UsageError Request :=
  match ofArguments arguments with
  | .ok request | .error (.granted request) => .ok request
  | .error (.wrong error) => .error error

end Request

end LetterToSound
