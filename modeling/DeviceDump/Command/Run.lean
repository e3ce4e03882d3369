/-
Running a request: what is printed, what is logged and how the run ends.

Everything read from outside comes in through one function, from a source to its bytes, so a run is a function of its
arguments, its environment and what reading gives. Confirmations are printed before it is known whether the record is
valid.
-/
import DeviceDump.Command.Arguments
import DeviceDump.Command.Outcome

namespace DeviceDump.Command

/-- the program's name and version -/
def programName : Text := "coapdump"
def programVersion : Text := "0.1.0"

/-- the machine that the program is built for -/
def buildTarget : Text := "x86_64-unknown-linux-gnu"

/-! ## The actions -/

/-- bring a list of tokens into canonical form -/
def normalizeAction (input : Text) (format : Format) : Result :=
  match Hex.normalize input with
  | .error e => .failed [] [] [] (.ofToken "normalize failed" e)
  | .ok canonical =>
    let normalized : Normalized := ⟨input, canonical⟩
    { output := normalized.render format
      events := [.normalizedTokens input canonical, .normalizedInput normalized.parts.length] }

/-- the context of an error while reading -/
def Source.context : Source → Text
  | .standardInput => "failed reading stdin"
  | .file path => "failed reading " ++ path

/-- what is reported before reading -/
def Source.events : Source → List Log.Event
  | .standardInput => []
  | .file path => [.readingDump path]

/-- the text behind a source -/
def readText (contents : Except ReadError ByteArray) : Except ReadError Text :=
  match contents with
  | .error e => .error e
  | .ok bytes =>
    match Text.ofUtf8? bytes with
    | none => .error .notUtf8
    | some text => .ok text

/-- the confirmations as they are printed -/
def confirmationLines (r : Report) : List Text := r.confirmations.map fun c => "Check OK: " ++ c.message

/-- check a dump's record and print it -/
def checkAction (events : List Log.Event) (r : Record) (verbose : Bool) (format : Format) : Result :=
  let report := ({ verbose } : Expectation).check r
  let events := events ++ Log.ofReport verbose report
  let confirmations := if verbose then Text.lineSeq (confirmationLines report) else []
  match report.result with
  | .error violations => .failed confirmations events violations (.ofViolations "validation failed" violations)
  | .ok record => { output := confirmations ++ record.render format, events }

/-- read a dump, check it and print it -/
def parseAction (source : Source) (contents : Except ReadError ByteArray) (verbose : Bool) (format : Format) : Result :=
  match readText contents with
  | .error e => .failed [] source.events [] (.ofRead source.context e)
  | .ok text =>
    let scanned := Dump.scan text
    let events := source.events ++ Log.ofScan scanned
    match scanned with
    | (_, some e) => .failed [] events [] (.ofDump "parse failed" e)
    | (reading, none) => checkAction events reading.record verbose format

/-- the program's name and version on one line -/
def versionLine : Text := programName ++ ' ' :: programVersion

/-- what the program is, a line per property -/
def extendedLines : List Text :=
  ["name: " ++ programName, "version: " ++ programVersion, "target: " ++ buildTarget,
    "required_fields: " ++ (", " : Text).intercalate Field.required]

def versionAction (extended : Bool) : Result where
  output := Text.lineSeq (if extended then extendedLines else [versionLine])

/-! ## Runs -/

/-- carry out a request -/
def Request.perform (r : Request) (read : Source → Except ReadError ByteArray) : Outcome :=
  let result :=
    match r.action with
    | .normalize input => normalizeAction input (r.format.getD .raw)
    | .parse source verbose => parseAction source (read source) verbose (r.format.getD .pretty)
    | .version extended => versionAction extended
  result.outcome r.logFormat r.logLevel

/-- how the program is used -/
def usageLines : List Text :=
  ["Usage: " ++ programName ++ " [OPTIONS] <COMMAND>", [],
    "Commands:",
    "  normalize <INPUT>           bring a list of hex tokens into canonical form",
    "  parse [-v|--verbose] [PATH] read and check a dump; - stands for standard input",
    "  version [--extended]        show the version", [],
    "Options:",
    "  --format <FORMAT>           json, table, pretty or raw",
    "  --log-format <FORMAT>       text or json",
    "  --log-level <LEVEL>         error, warn, info, debug or trace",
    "  -h, --help",
    "  -V, --version"]

/-- a run that makes no request -/
def Stop.outcome : Stop → Outcome
  | .help => ⟨.success, Text.lineSeq usageLines, []⟩
  | .version => ⟨.success, Text.line versionLine, []⟩
  | .usage e => ⟨.usage, [], Text.line ("error: " ++ e.message)⟩

/-- a whole run -/
def run (environment : Environment) (arguments : List Text) (read : Source → Except ReadError ByteArray) : Outcome :=
  match Request.of? environment arguments with
  | .error stop => stop.outcome
  | .ok request => request.perform read

end DeviceDump.Command
