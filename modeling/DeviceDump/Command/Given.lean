/-
What one place of an argument list is given, taken argument by argument from left to right.

The first thing wrong ends it, as does a switch that asks for help or for the version. A setting is given at most once
at one place and its value must be one of its own; the value is the part after `=` or the next argument, which must
then be a plain word.
-/
import DeviceDump.Command.Option
import DeviceDump.Command.Request

namespace DeviceDump.Command

/-- the options and the operand that one place is given -/
structure Given where
  format : Option Format := none
  logFormat : Option Log.Format := none
  logLevel : Option Log.Level := none
  verbose : Bool := false
  extended : Bool := false
  operand : Option Text := none

namespace Given

/-- a value of a setting, once -/
def once {α : Type} (current : Option α) (setting : Setting) (value : Text) (read : Text → Option α) :
    Except Stop (Option α) :=
  if current.isSome then .error (.usage (.repeated setting.option))
  else
    match read value with
    | none => .error (.usage (.invalidValue setting.option value))
    | some a => .ok (some a)

/-- take a setting's value -/
def set (g : Given) (setting : Setting) (value : Text) : Except Stop Given :=
  match setting with
  | .format => (once g.format setting value Format.ofName?).map ({ g with format := · })
  | .logFormat => (once g.logFormat setting value Log.Format.ofName?).map ({ g with logFormat := · })
  | .logLevel => (once g.logLevel setting value Log.Level.ofName?).map ({ g with logLevel := · })

/-- take a switch -/
def turnOn (g : Given) : Switch → Except Stop Given
  | .help => .error .help
  | .version => .error .version
  | .verbose => if g.verbose then .error (.usage (.repeated "--verbose")) else .ok { g with verbose := true }
  | .extended => if g.extended then .error (.usage (.repeated "--extended")) else .ok { g with extended := true }

/-- take a cluster of switches, letter by letter -/
def turnOnAll (g : Given) (place : Place) : Text → Except Stop Given
  | [] => .ok g
  | letter :: rest =>
    match (Switch.ofPlace place).find? (·.letter? = some letter) with
    | none => .error (.usage (.unknownOption ['-', letter]))
    | some switch => do (← g.turnOn switch).turnOnAll place rest

/-- take a switch by its name -/
def turnOnNamed (g : Given) (place : Place) (name : Text) (value : Option Text) : Except Stop Given :=
  match (Switch.ofPlace place).find? (·.name = name), value with
  | none, _ => .error (.usage (.unknownOption ("--" ++ name)))
  | some _, some _ => .error (.usage (.unneededValue ("--" ++ name)))
  | some switch, none => g.turnOn switch

/-- take an operand; a path must not be empty, and no place takes two -/
def addOperand (g : Given) (place : Place) (word : Text) : Except Stop Given :=
  match place, g.operand with
  | .normalize, none => .ok { g with operand := some word }
  | .parse, none =>
    if word.isEmpty then .error (.usage (.invalidValue "path" word)) else .ok { g with operand := some word }
  | _, _ => .error (.usage (.unexpectedOperand word))

/-- take operands only -/
def addOperands (g : Given) (place : Place) : List Text → Except Stop Given
  | [] => .ok g
  | word :: rest => do (← g.addOperand place word).addOperands place rest

/-- take the arguments after a command's name -/
def takeCommand (g : Given) (place : Place) : List Text → Except Stop Given
  | [] => .ok g
  | argument :: rest =>
    match Word.of argument with
    | .escape => g.addOperands place rest
    | .plain word => do (← g.addOperand place word).takeCommand place rest
    | .short letters => do (← g.turnOnAll place letters).takeCommand place rest
    | .long name value =>
      match Setting.ofName? name with
      | none => do (← g.turnOnNamed place name value).takeCommand place rest
      | some setting =>
        match value, rest with
        | some value, rest => do (← g.set setting value).takeCommand place rest
        | none, [] => .error (.usage (.missingValue setting.option))
        | none, next :: rest =>
          match Word.of next with
          | .plain value => do (← g.set setting value).takeCommand place rest
          | _ => .error (.usage (.missingValue setting.option))

/-- take the value that was left for later -/
def settle (g : Given) : Option (Setting × Text) → Except Stop Given
  | none => .ok g
  | some (setting, value) => g.set setting value

end Given

end DeviceDump.Command
