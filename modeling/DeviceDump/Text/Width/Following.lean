/-
What follows a place in a text, as far as it bears on how many columns the character at that place takes: a part of a
ligature or of an emoji sequence, a newline, and the selectors that stand before it.

A selector chooses a form of the character right before it. Inside a ligature, and between an emoji and the joiner
after it, a selector does not hide what follows; elsewhere it does.
-/
import DeviceDump.Text.Width.Ligature
import DeviceDump.Text.Width.Sequence

namespace DeviceDump.Text

/-- characters that choose a form of the one before them -/
inductive Selector where
  | text
  | emoji
  | wide
  deriving DecidableEq

def Selector.ofChar? (c : Char) : Option Selector :=
  match c.toNat with
  | 0xFE01 => some .wide
  | 0xFE0E => some .text
  | 0xFE0F => some .emoji
  | _ => none

/-- what the next character in front may combine with -/
inductive Join where
  | nothing
  | newline
  | ligature (e : Ending)
  | sequence (s : Sequence)
  deriving DecidableEq

/-- what a character by itself may combine with -/
def Join.ofChar (c : Char) : Join :=
  match Ending.ofChar? c, Sequence.ofChar? c with
  | some e, _ => .ligature e
  | none, some s => .sequence s
  | none, none => .nothing

/-- can a selector stand in front of it without taking its place? -/
def Join.bears (s : Selector) : Join → Bool
  | .ligature e => e.bearsSelectors
  | .sequence .joined | .sequence .joinedKeycap => s = .emoji
  | _ => false

/-- what follows a place: what may be combined with, and the selectors before it -/
structure Following where
  join : Join := .nothing
  selectors : List Selector := []
  deriving DecidableEq

namespace Following

/-- a whole picture -/
def picture : Following := { join := .sequence .picture }

def has (f : Following) (s : Selector) : Bool := f.selectors.contains s

/-- one more selector in front -/
def select (f : Following) (s : Selector) : Following :=
  if f.join.bears s then { f with selectors := s :: f.selectors } else { selectors := [s] }

/-- without an emoji selector that found no picture; it keeps pictures from being joined across it -/
def dropEmoji (f : Following) : Following :=
  match f.join with
  | .ligature _ => { f with selectors := f.selectors.filter (· ≠ .emoji) }
  | _ => {}

end Following

end DeviceDump.Text
