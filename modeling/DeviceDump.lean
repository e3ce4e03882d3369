import DeviceDump.Command.Directory
import DeviceDump.Main
import DeviceDump.Proofs.Text.Blank
import DeviceDump.Proofs.Text.Digits
import DeviceDump.Proofs.Text.Literal
import DeviceDump.Proofs.Text.Lines
import DeviceDump.Proofs.Text.SevenBit
import DeviceDump.Proofs.Text.Spaced
import DeviceDump.Proofs.Value.Dumped
import DeviceDump.Proofs.Value.AsciiField
import DeviceDump.Proofs.Value.IntegerField
import DeviceDump.Proofs.Record.History
import DeviceDump.Proofs.Record.Merge
import DeviceDump.Proofs.Dump.Meaning
import DeviceDump.Proofs.Dump.RoundTrip
import DeviceDump.Proofs.Dump.Concatenation
import DeviceDump.Proofs.Dump.Spacing
import DeviceDump.Proofs.Dump.BlankLines
import DeviceDump.Proofs.Dump.TokenValues
import DeviceDump.Proofs.Check.Verdict
import DeviceDump.Proofs.Check.Findings
import DeviceDump.Proofs.Wording
import DeviceDump.Proofs.Table
import DeviceDump.Proofs.Command.Call
import DeviceDump.Proofs.Command.ParseRun
import DeviceDump.Proofs.Hex.Numeral
import DeviceDump.Proofs.Hex.Tokens
import DeviceDump.Proofs.Hex.Normalize
import DeviceDump.Proofs.Hex.Canonical
import DeviceDump.Proofs.Hex.Bytes
import DeviceDump.Proofs.Hex.Tokenwise
import DeviceDump.Proofs.Hex.Concatenation
import DeviceDump.Proofs.Hex.Pairs
import DeviceDump.Proofs.Check.Acceptance
import DeviceDump.Proofs.Command.PrettyRun
import DeviceDump.Proofs.Check.Passing
import DeviceDump.Proofs.Check.LineOrder
import DeviceDump.Proofs.Json.Unambiguous
import DeviceDump.Proofs.Command.JsonRun
import DeviceDump.Proofs.Command.NormalizeRun
import DeviceDump.Proofs.Dump.Overwrites
import DeviceDump.Proofs.Command.Directory
