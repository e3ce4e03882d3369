/-
The program: arguments, environment, files and standard streams on one side, `Request.of?` and `Request.perform` on
the other. Nothing is decided here; a source is read only if the request asks for it.
-/
import DeviceDump.Command.Run

namespace DeviceDump.Command

/-- an error of the system, by its number; some calls give the number with its sign turned round -/
def ReadError.ofIO (e : IO.Error) : ReadError :=
  let known (code : UInt32) (text : String) :=
    ReadError.ofSystem (if code < 0x80000000 then code else 0 - code).toNat text.toList
  match e with
  | .noFileOrDirectory _ code text
  | .permissionDenied _ code text
  | .inappropriateType _ code text
  | .invalidArgument _ code text
  | .resourceExhausted _ code text
  | .noSuchThing _ code text
  | .otherError code text => known code text
  | e => ⟨.other, e.toString.toList⟩

/-- all bytes of a stream -/
def readAll (stream : IO.FS.Stream) : IO ByteArray := do
  let mut bytes := ByteArray.empty
  repeat
    let chunk ← stream.read 65536
    if chunk.isEmpty then break
    bytes := bytes ++ chunk
  return bytes

/-- the bytes behind a source -/
def Source.read (source : Source) : IO (Except ReadError ByteArray) := do
  try
    match source with
    | .standardInput => return .ok (← readAll (← IO.getStdin))
    | .file path => return .ok (← IO.FS.readBinFile (String.ofList path))
  catch e => return .error (.ofIO e)

/-- carry out a request, reading its source if it has one -/
def Request.execute (request : Request) : IO Outcome := do
  match request.action with
  | .parse source _ =>
    let contents ← source.read
    return request.perform fun _ => contents
  | _ => return request.perform fun _ => .error .notFound

end DeviceDump.Command

open DeviceDump.Command in
def main (arguments : List String) : IO UInt32 := do
  let environment : Environment :=
    { dumpPath := (← IO.getEnv "COAPDUMP_DUMP_PATH").map String.toList
      logLevel := (← IO.getEnv "COAPDUMP_LOG_LEVEL").map String.toList }
  let outcome ←
    match Request.of? environment (arguments.map String.toList) with
    | .error stop => pure stop.outcome
    | .ok request => request.execute
  IO.print (String.ofList outcome.stdout)
  IO.eprint (String.ofList outcome.stderr)
  return outcome.status.code.toUInt32
