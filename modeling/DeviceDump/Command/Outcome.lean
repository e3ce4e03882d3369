/-
What a finished run leaves behind: its exit status and what it wrote to the two standard streams.

On standard error the log lines come first, then one line per violation, then the failure's own line.
-/
import DeviceDump.Command.Status
import DeviceDump.Log.Event

namespace DeviceDump.Command

/-- a finished run, as seen from outside -/
structure Outcome where
  status : Status
  stdout : Text := []
  stderr : Text := []
  deriving DecidableEq

/-- a finished run, before its events are written down -/
structure Result where
  status : Status := .success
  output : Text := []
  events : List Log.Event := []
  /-- the lines that say why the run failed -/
  complaints : List Text := []

namespace Result

/-- a run ended by a failure -/
def failed (output : Text) (events : List Log.Event) (violations : List Violation) (f : Failure) : Result where
  status := f.status
  output := output
  events := events
  complaints := violations.map Violation.message ++ [f.message]

/-- write the events down as asked for -/
def outcome (r : Result) (logFormat : Log.Format) (logLevel : Log.Level) : Outcome where
  status := r.status
  stdout := r.output
  stderr := Text.lineSeq (Log.lines logFormat logLevel r.events) ++ Text.lineSeq (r.complaints.map ("error: " ++ ·))

end Result

end DeviceDump.Command
