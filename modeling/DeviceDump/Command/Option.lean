/-
Options and the forms of arguments.

Settings take a value and may be given before or after a command's name; switches take none, and each place has its
own. An argument is an option with a name (`--name`, `--name=value`), a cluster of one-letter switches (`-v`), the
mark `--` after which every argument is an operand, or a plain word; a lone `-` is a plain word.
-/
import DeviceDump.Text.Basic

namespace DeviceDump.Command

/-! ## Options -/

/-- where options are being taken: before a command's name, or after it -/
inductive Place where
  | program
  | normalize
  | parse
  | version
  deriving DecidableEq

/-- the command with a name -/
def Place.ofCommand? (word : Text) : Option Place :=
  if word = "normalize".toList then some .normalize
  else if word = "parse".toList then some .parse
  else if word = "version".toList then some .version
  else none

/-- options that take a value -/
inductive Setting where
  | format
  | logFormat
  | logLevel
  deriving DecidableEq

namespace Setting

def name : Setting → Text
  | .format => "format"
  | .logFormat => "log-format"
  | .logLevel => "log-level"

def ofName? (t : Text) : Option Setting := [format, logFormat, logLevel].find? (·.name = t)

/-- the name with its dashes -/
def option (s : Setting) : Text := "--" ++ s.name

end Setting

/-- options that take no value -/
inductive Switch where
  | help
  | version
  | verbose
  | extended
  deriving DecidableEq

namespace Switch

/-- the switches of a place -/
def ofPlace : Place → List Switch
  | .program => [help, version]
  | .normalize => [help]
  | .parse => [help, verbose]
  | .version => [help, extended]

def name : Switch → Text
  | .help => "help"
  | .version => "version"
  | .verbose => "verbose"
  | .extended => "extended"

def letter? : Switch → Option Char
  | .help => some 'h'
  | .version => some 'V'
  | .verbose => some 'v'
  | .extended => none

end Switch

/-! ## Words -/

/-- an argument by its form -/
inductive Word where
  | plain (t : Text)
  | escape
  | long (name : Text) (value : Option Text)
  | short (letters : Text)

def Word.of : Text → Word
  | ['-', '-'] => .escape
  | '-' :: '-' :: t =>
    match t.dropWhile (· != '=') with
    | [] => .long t none
    | _ :: value => .long (t.takeWhile (· != '=')) (some value)
  | ['-'] => .plain ['-']
  | '-' :: letters => .short letters
  | t => .plain t

end DeviceDump.Command
