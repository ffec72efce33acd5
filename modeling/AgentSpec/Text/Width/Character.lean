import AgentSpec.Text.Ranges
import AgentSpec.Text.Width.EmojiTable
import AgentSpec.Text.Width.Table

/-!
Single characters on a character grid: the columns they take alone, and the classes of those that
act on their neighbours.
-/
namespace AgentSpec.Text

/-- Columns of a character that stands alone. -/
def charWidth (c : Char) : Nat :=
  if c.toNat ≤ 0xA0 then 1
  -- the Khmer sign for "and so on" is drawn as three
  else if c.toNat = 0x17D8 then 3
  else if inRanges zeroWidthRanges c.toNat then 0
  else if inRanges wideRanges c.toNat then 2
  else 1

/-! ## Controls of style -/

/-- Joins two pictures, or two letters, into one. -/
def isJoiner (c : Char) : Bool := c.toNat == 0x200D

/-- Asks for the picture of the character before it. -/
def isPictureSelector (c : Char) : Bool := c.toNat == 0xFE0F

/-- Asks for the plain sign instead of a picture. -/
def isTextSelector (c : Char) : Bool := c.toNat == 0xFE0E

/-- Asks for the wide form of a quotation mark. -/
def isWideSelector (c : Char) : Bool := c.toNat == 0xFE01

/-- Invisible characters that do not keep letters from merging. -/
def isUnseen (c : Char) : Bool :=
  inRanges [(0x34F, 0x34F), (0x17B4, 0x17B5), (0x180B, 0x180D), (0x180F, 0x180F), (0x200D, 0x200D),
    (0xFE00, 0xFE0F), (0xE0100, 0xE01EF)] c.toNat

/-! ## Pictures -/

/-- A picture by itself. -/
def isPicture (c : Char) : Bool := inRanges pictureRanges c.toNat

/-- Has a picture that can be asked for. -/
def hasPicture (c : Char) : Bool := inRanges styledRanges c.toNat

/-- Takes one column where its plain sign is asked for.  Two ideographs stay wide. -/
def hasNarrowSign (c : Char) : Bool :=
  hasPicture c && isPicture c && c.toNat != 0x1F21A && c.toNat != 0x1F22F

/-- A tone of skin. -/
def isSkinTone (c : Char) : Bool := 0x1F3FB ≤ c.toNat && c.toNat ≤ 0x1F3FF

/-- A picture that takes a tone of skin. -/
def takesSkinTone (c : Char) : Bool := inRanges skinRanges c.toNat

/-- Two of these letters are a flag. -/
def isFlagLetter (c : Char) : Bool := 0x1F1E6 ≤ c.toNat && c.toNat ≤ 0x1F1FF

/-- The frame of a key, which goes around the character before it. -/
def isKeyFrame (c : Char) : Bool := c.toNat == 0x20E3

/-- The black flag, which tags turn into the flag of a region. -/
def isTaggedFlag (c : Char) : Bool := c.toNat == 0x1F3F4

def isTagLetter (c : Char) : Bool := 0xE0061 ≤ c.toNat && c.toNat ≤ 0xE007A

def isTagDigit (c : Char) : Bool := 0xE0030 ≤ c.toNat && c.toNat ≤ 0xE0039

def isTagEnd (c : Char) : Bool := c.toNat == 0xE007F

/-! ## Letters -/

/-- Quotation marks that have a wide form. -/
def isQuoteMark (c : Char) : Bool :=
  inRanges [(0x2018, 0x2019), (0x201C, 0x201D)] c.toNat

/-- Arabic letters of the group of alef. -/
def isAlef (c : Char) : Bool :=
  inRanges [(0x622, 0x623), (0x625, 0x625), (0x627, 0x627), (0x671, 0x673), (0x675, 0x675),
    (0x773, 0x774), (0x870, 0x882)] c.toNat

/-- Arabic letters of the group of lam. -/
def isLam (c : Char) : Bool :=
  inRanges [(0x644, 0x644), (0x6B5, 0x6B8), (0x76A, 0x76A), (0x8A6, 0x8A6), (0x8C7, 0x8C7)] c.toNat

/-- Marks that do not come between two cursive letters. -/
def isCursiveMark (c : Char) : Bool :=
  charWidth c == 0 && !inRanges cursiveEndRanges c.toNat

/-- Tifinagh letters. -/
def isTifinagh (c : Char) : Bool :=
  inRanges [(0x2D31, 0x2D65), (0x2D6F, 0x2D6F)] c.toNat

/-- Khmer letters that have a form below another letter. -/
def isKhmerSubscript (c : Char) : Bool :=
  inRanges [(0x1780, 0x1782), (0x1784, 0x1787), (0x1789, 0x178C), (0x178E, 0x1793),
    (0x1795, 0x1798), (0x179B, 0x179D), (0x17A0, 0x17A0), (0x17A2, 0x17A2), (0x17A7, 0x17A7),
    (0x17AB, 0x17AC), (0x17AF, 0x17AF)] c.toNat

end AgentSpec.Text
