/-
Emoji sequences: pictures written with several characters, which take two columns together.

As with ligatures text is read from its end. A `Sequence` is what has been read of a picture, and `extend` says what the
character before it does: how many columns it adds to those that are there already, and what has been read then. A
person takes a skin tone; joined pictures are one; two regional letters are a flag, and so is the black flag with the
code of a region in tags behind it.
-/
import DeviceDump.Text.Emoji
import DeviceDump.Text.Width.Ligature

namespace DeviceDump.Text

/-- what has been read of a picture -/
inductive Sequence where
  /-- a whole picture -/
  | picture
  | skinTone
  /-- so many regional letters -/
  | regional (count : Nat)
  /-- a picture with a joiner before it -/
  | joined
  /-- a keycap's frame before a joiner -/
  | joinedKeycap
  /-- so many regional letters before a joiner -/
  | joinedRegional (count : Nat)
  /-- the end of tags before a joiner, and before it so many letters, or so many digits -/
  | joinedTags (letters digits : Nat)
  deriving DecidableEq

namespace Sequence

/-- what a character has of a picture by itself -/
def ofChar? (c : Char) : Option Sequence :=
  if isSkinTone c then some .skinTone
  else if isRegional c then some (.regional 1)
  else if isEmoji c then some .picture
  else none

/-- a character before a joined picture -/
def extendJoined (c : Char) : Option (Int × Sequence) :=
  if c.toNat = 0x20E3 then some (0, .joinedKeycap)
  else if c.toNat = 0xE007F then some (0, .joinedTags 0 0)
  else if isRegional c then some (1, .joinedRegional 1)
  else if isSkinTone c then some (0, .skinTone)
  else if isEmoji c then some (0, .picture)
  else none

/-- a character before tags: a region's code has three to six letters, or three digits and up to four letters -/
def extendTags (letters digits : Nat) (c : Char) : Option (Int × Sequence) :=
  if inRanges [(0xE0061, 0xE007A)] c then
    if digits = 0 ∧ letters < 6 then some (0, .joinedTags (letters + 1) 0) else none
  else if inRanges [(0xE0030, 0xE0039)] c then
    if digits < 3 ∧ letters ≤ 4 then some (0, .joinedTags letters (digits + 1)) else none
  else if c.toNat = 0x1F3F4 ∧ (digits = 3 ∨ digits = 0 ∧ 3 ≤ letters) then some (0, .picture)
  else none

/-- what a character before a sequence adds in columns, and what has been read then; `none` if they do not combine -/
def extend (s : Sequence) (c : Char) : Option (Int × Sequence) :=
  match s with
  | .picture => if isJoiner c then some (0, .joined) else none
  | .skinTone =>
    if takesSkinTone c then some (0, .picture) else if isJoiner c then some (0, .joined) else none
  | .regional count =>
    if isRegional c then some (1, .regional (count + 1))
    else if isJoiner c ∧ 2 ≤ count then some (0, .joined)
    else none
  | .joined => extendJoined c
  | .joinedKeycap => none
  | .joinedRegional count =>
    if isRegional c then some (if count % 2 = 1 then -1 else 3, .joinedRegional (count + 1))
    else if isJoiner c ∧ 2 ≤ count then some (0, .joined)
    else none
  | .joinedTags letters digits => extendTags letters digits c

end Sequence

end DeviceDump.Text
