/-
The command line: which argument lists ask for what.

A command's name divides the list: options before it belong to the program, options after it to the command. A setting
may be given at both places, and then the command's place counts.

Arguments are taken from left to right. One thing is taken late: at the program's place a value given as an argument
of its own is looked at when the next option is met, or, if the command's name comes first, when the command's own
arguments have been taken.

The environment gives the log level and the dump's path where the command line does not. The log level is looked up
for each of the two places, so it must be sound unless the command line gives one at both.
-/
import DeviceDump.Command.Given

namespace DeviceDump.Command

/-- the arguments of the word `help`: nothing or one command's name -/
def takeHelp : List Text → Stop
  | [] => .help
  | [word] => if word = "help".toList ∨ (Place.ofCommand? word).isSome then .help else .usage (.unknownCommand word)
  | _ :: word :: _ => .usage (.unknownCommand word)

/-- take a whole argument list: the command, and what the program's place and the command's are given -/
def takeProgram (g : Given) (waiting : Option (Setting × Text)) : List Text → Except Stop (Place × Given × Given)
  | [] => .error (.usage .noCommand)
  | argument :: rest =>
    match Word.of argument with
    | .escape => .error (.usage .noCommand)
    | .plain word =>
      if word = "help".toList then .error (takeHelp rest)
      else
        match Place.ofCommand? word with
        | none => .error (.usage (.unknownCommand word))
        | some place => do
          let inner ← ({} : Given).takeCommand place rest
          let outer ← g.settle waiting
          return (place, outer, inner)
    | .short letters => do
      let g ← g.settle waiting
      takeProgram (← g.turnOnAll .program letters) none rest
    | .long name value => do
      let g ← g.settle waiting
      match Setting.ofName? name with
      | none => takeProgram (← g.turnOnNamed .program name value) none rest
      | some setting =>
        match value, rest with
        | some value, rest => takeProgram (← g.set setting value) none rest
        | none, [] => .error (.usage (.missingValue setting.option))
        | none, next :: rest =>
          match Word.of next with
          | .plain value => takeProgram g (some (setting, value)) rest
          | _ => .error (.usage (.missingValue setting.option))

/-! ## From arguments to a request -/

/-- a path stands for standard input if its only component is `-` -/
def Source.ofPath (path : Text) : Source :=
  match path.splitOnP (· == '/') with
  | [] => .file path
  | first :: rest =>
    if first = ['-'] ∧ rest.all (fun part => part.isEmpty || part == ['.']) then .standardInput else .file path

/-- the source of a dump: the operand, else the environment's path, else the usual one -/
def sourceOf (environment : Environment) (operand : Option Text) : Except Stop Source :=
  match operand, environment.dumpPath with
  | some path, _ => .ok (.ofPath path)
  | none, none => .ok (.ofPath defaultDumpPath)
  | none, some path => if path.isEmpty then .error (.usage (.invalidValue "path" path)) else .ok (.ofPath path)

/-- the environment's log level, if a place needs it -/
def environmentLevel (environment : Environment) (outer inner : Given) : Except Stop (Option Log.Level) :=
  if outer.logLevel.isSome && inner.logLevel.isSome then .ok none
  else
    match environment.logLevel with
    | none => .ok none
    | some name =>
      match Log.Level.ofName? name with
      | none => .error (.usage (.invalidValue Setting.logLevel.option name))
      | some level => .ok (some level)

/-- what a command is to do -/
def actionOf (environment : Environment) (place : Place) (g : Given) : Except Stop Action :=
  match place, g.operand with
  | .normalize, some input => .ok (.normalize input)
  | .parse, operand => (sourceOf environment operand).map (.parse · g.verbose)
  | .version, _ => .ok (.version g.extended)
  | .normalize, none => .error (.usage .missingOperand)
  | .program, _ => .error (.usage .noCommand)

/-- the request that arguments make in an environment -/
def Request.of? (environment : Environment) (arguments : List Text) : Except Stop Request := do
  let (place, outer, inner) ← takeProgram {} none arguments
  let action ← actionOf environment place inner
  let level ← environmentLevel environment outer inner
  return { action
           format := inner.format <|> outer.format
           logFormat := (inner.logFormat <|> outer.logFormat).getD .text
           logLevel := (inner.logLevel <|> outer.logLevel <|> level).getD .warn }

end DeviceDump.Command
