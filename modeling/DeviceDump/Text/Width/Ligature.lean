/-
Ligatures: letters that take fewer columns together than one by one.

Text is read from its end, since what a letter takes depends on what follows it. An `Ending` is the part of a ligature
that has been read, and `extend` says what the character before it does: how many columns it adds to those that the
ending has already, and what ending is left. `pass` says what may stand inside a ligature without a trace: ignorable
marks and, outside Arabic, joiners. Arabic ligatures are open to every transparent character instead.
-/
import DeviceDump.Text.Extending

namespace DeviceDump.Text

/-! ## Letters -/

/-- the letters of the Arabic joining group Lam -/
def isLam (c : Char) : Bool :=
  inRanges [(0x644, 0x644), (0x6B5, 0x6B8), (0x76A, 0x76A), (0x8A6, 0x8A6), (0x8C7, 0x8C7)] c

/-- the letters of the Arabic joining group Alef -/
def isAlef (c : Char) : Bool :=
  inRanges [(0x622, 0x623), (0x625, 0x625), (0x627, 0x627), (0x671, 0x673), (0x675, 0x675), (0x773, 0x774),
    (0x870, 0x882)] c

/-- the code points that extend what is before them and yet take room in a line of Arabic -/
def obstructingRanges : List (Nat × Nat) :=
  [(0x9BE, 0x9BE), (0x9D7, 0x9D7), (0xB3E, 0xB3E), (0xB57, 0xB57), (0xBBE, 0xBBE), (0xBD7, 0xBD7), (0xCC0, 0xCC0),
    (0xCC2, 0xCC2), (0xCC7, 0xCC8), (0xCCA, 0xCCB), (0xCD5, 0xCD6), (0xD3E, 0xD3E), (0xD57, 0xD57), (0xDCF, 0xDCF),
    (0xDDF, 0xDDF), (0x1715, 0x1715), (0x1734, 0x1734), (0x1B35, 0x1B35), (0x1B3B, 0x1B3B), (0x1B3D, 0x1B3D),
    (0x1B43, 0x1B44), (0x1BAA, 0x1BAA), (0x1BF2, 0x1BF3), (0x200C, 0x200C), (0x2D7F, 0x2D7F), (0x302E, 0x302F),
    (0xA953, 0xA953), (0xA9C0, 0xA9C0), (0x111C0, 0x111C0), (0x11235, 0x11235), (0x1133E, 0x1133E),
    (0x1134D, 0x1134D), (0x11357, 0x11357), (0x113B8, 0x113B8), (0x113C2, 0x113C2), (0x113C5, 0x113C5),
    (0x113C7, 0x113C9), (0x113CF, 0x113CF), (0x114B0, 0x114B0), (0x114BD, 0x114BD), (0x115AF, 0x115AF),
    (0x116B6, 0x116B6), (0x11930, 0x11930), (0x1193D, 0x1193D), (0x11F41, 0x11F41), (0x16FF0, 0x16FF1),
    (0x1D165, 0x1D166), (0x1D16D, 0x1D172), (0x1D250, 0x1D252), (0x1D25F, 0x1D25F), (0x1D280, 0x1D281)]

/-- the format characters that let Arabic letters join across them -/
def transparentFormatRanges : List (Nat × Nat) :=
  [(0xAD, 0xAD), (0x61C, 0x61C), (0x70F, 0x70F), (0x200B, 0x200B), (0x200E, 0x200F), (0x202A, 0x202E),
    (0x2060, 0x2064), (0x206A, 0x206F), (0xFEFF, 0xFEFF), (0x1BCA0, 0x1BCA3), (0x1D173, 0x1D17A),
    (0xE0001, 0xE0001)]

/-- the characters across which Arabic letters join: the property Joining_Type with the value Transparent -/
def isTransparent (c : Char) : Bool :=
  (isExtending c && !inRanges obstructingRanges c) || inRanges transparentFormatRanges c

/-- the marks that are ignorable wherever they stand -/
def isIgnorableMark (c : Char) : Bool :=
  inRanges [(0x34F, 0x34F), (0x17B4, 0x17B5), (0x180B, 0x180D), (0x180F, 0x180F), (0xFE00, 0xFE0F),
    (0xE0100, 0xE01EF)] c

/-- the Khmer letters that take a place below another one, behind the sign U+17D2 -/
def isKhmerSubscript (c : Char) : Bool :=
  inRanges [(0x1780, 0x1782), (0x1784, 0x1787), (0x1789, 0x178C), (0x178E, 0x1793), (0x1795, 0x1798), (0x179B, 0x179D),
    (0x17A0, 0x17A0), (0x17A2, 0x17A2), (0x17A7, 0x17A7), (0x17AB, 0x17AC), (0x17AF, 0x17AF)] c

/-- the consonants of Tifinagh -/
def isTifinaghConsonant (c : Char) : Bool := inRanges [(0x2D31, 0x2D65), (0x2D6F, 0x2D6F)] c

/-- the zero-width joiner -/
def isJoiner (c : Char) : Bool := c.toNat == 0x200D

/-! ## Endings -/

/-- the part of a ligature that has been read; `joined` tells of a joiner before it -/
inductive Ending where
  | arabicAlef
  | hebrewLamed (joined : Bool)
  | bugineseYa (joined : Bool)
  /-- the Buginese vowel i before a joined ya -/
  | bugineseVowel
  | tifinaghConsonant (joined : Bool)
  /-- a Tifinagh consonant with the script's own joiner before it -/
  | tifinaghJoined
  /-- one of the two Lisu tones that stand second -/
  | lisuTone
  | orkhonI (joined : Bool)
  | khmerSubscript
  | kiratRaiE
  | kiratRaiAi
  deriving DecidableEq

namespace Ending

/-- the ending that a character is by itself -/
def ofChar? (c : Char) : Option Ending :=
  match c.toNat with
  | 0x5DC => some (.hebrewLamed false)
  | 0x1A10 => some (.bugineseYa false)
  | 0xA4FC | 0xA4FD => some .lisuTone
  | 0x10C03 => some (.orkhonI false)
  | 0x16D67 => some .kiratRaiE
  | 0x16D68 => some .kiratRaiAi
  | _ =>
    if isAlef c then some .arabicAlef
    else if isKhmerSubscript c then some .khmerSubscript
    else if isTifinaghConsonant c then some (.tifinaghConsonant false)
    else none

/-- the vowels of Kirat Rai are drawn together only when they touch; in the other scripts a selector may come between -/
def bearsSelectors : Ending → Bool
  | .kiratRaiE | .kiratRaiAi => false
  | _ => true

/-- an ending with a joiner before it -/
def join : Ending → Ending
  | .hebrewLamed _ => .hebrewLamed true
  | .bugineseYa _ => .bugineseYa true
  | .tifinaghConsonant _ => .tifinaghConsonant true
  | .orkhonI _ => .orkhonI true
  | e => e

/-- what is left of an ending behind a character that leaves no trace in it -/
def pass (e : Ending) (c : Char) : Option Ending :=
  match e with
  | .arabicAlef | .kiratRaiE | .kiratRaiAi => none
  | e => if isJoiner c then some e.join else if isIgnorableMark c then some e else none

/-- what a character before an ending adds in columns, and the ending that is left; `none` if they do not combine -/
def extend (e : Ending) (c : Char) : Option (Int × Option Ending) :=
  match e, c.toNat with
  | .arabicAlef, _ =>
    if isLam c then some (0, none) else if isTransparent c then some (0, some .arabicAlef) else none
  | .hebrewLamed true, 0x5D0 => some (0, none)
  | .bugineseYa true, 0x1A17 => some (0, some .bugineseVowel)
  | .bugineseVowel, 0x1A15 => some (0, none)
  | .tifinaghConsonant _, 0x2D7F => some (1, some .tifinaghJoined)
  | .tifinaghConsonant true, _ => if isTifinaghConsonant c then some (0, none) else none
  | .tifinaghJoined, _ => if isTifinaghConsonant c then some (-1, none) else none
  | .lisuTone, n => if 0xA4F8 ≤ n ∧ n ≤ 0xA4FB then some (0, none) else none
  | .orkhonI true, 0x10C32 => some (0, none)
  | .khmerSubscript, 0x17D2 => some (-1, none)
  | .kiratRaiE, 0x16D63 => some (0, none)
  | .kiratRaiE, 0x16D67 => some (0, some .kiratRaiAi)
  | .kiratRaiE, 0x16D68 => some (1, some .kiratRaiE)
  | .kiratRaiE, 0x16D69 => some (0, none)
  | .kiratRaiAi, 0x16D63 => some (0, none)
  | _, _ => none

end Ending

end DeviceDump.Text
