import AgentSpec.Text.Width.Character

/-!
What follows a character, as far as it changes the columns of that character.

Several characters may be drawn as one: two letters of a flag, two pictures with a joiner between
them, letters that merge.  The last character of such a sequence decides what the ones before it
add, so a text is read from its end, and a sequel is what a reader has to know about the part that
has been read.
-/
namespace AgentSpec.Text

/-- Letters that merge with what stands before them. -/
inductive Merging
  | hebrewLamed
  | bugineseYa
  /-- The same, with the vowel before it. -/
  | bugineseVowelYa
  | tifinagh
  /-- The same, with the sign of a cluster before it. -/
  | tifinaghCluster
  | lisuTone
  | orkhonI
  | khmerSubscript
  | kiratE
  | kiratAi
deriving DecidableEq, Repr

namespace Merging

/-- The letter as one that merges, if it does. -/
def ofChar? (c : Char) : Option Merging :=
  match c.toNat with
  | 0x5DC => some .hebrewLamed
  | 0x1A10 => some .bugineseYa
  | 0xA4FC | 0xA4FD => some .lisuTone
  | 0x10C03 => some .orkhonI
  | 0x16D67 => some .kiratE
  | 0x16D68 => some .kiratAi
  | _ => if isTifinagh c then some .tifinagh else if isKhmerSubscript c then some .khmerSubscript
    else none

/-- What a character adds before the letter, and what of the letter is still open, if the two merge.
Some letters merge only across a joiner. -/
def before? (c : Char) (linked : Bool) : Merging → Option (Int × Option Merging)
  | .hebrewLamed => if linked && c.toNat == 0x5D0 then some (0, none) else none
  | .bugineseYa => if linked && c.toNat == 0x1A17 then some (0, some .bugineseVowelYa) else none
  | .bugineseVowelYa => if c.toNat == 0x1A15 then some (0, none) else none
  | .tifinagh =>
    if c.toNat == 0x2D7F then some (1, some .tifinaghCluster)
    else if linked && isTifinagh c then some (0, none)
    else none
  | .tifinaghCluster => if isTifinagh c then some (-1, none) else none
  | .lisuTone => if 0xA4F8 ≤ c.toNat && c.toNat ≤ 0xA4FB then some (0, none) else none
  | .orkhonI => if linked && c.toNat == 0x10C32 then some (0, none) else none
  -- the subscript goes below the letter before the sign
  | .khmerSubscript => if c.toNat == 0x17D2 then some (-1, none) else none
  | .kiratE => match c.toNat with
    | 0x16D63 | 0x16D69 => some (0, none)
    | 0x16D67 => some (0, some .kiratAi)
    | 0x16D68 => some (1, some .kiratE)
    | _ => none
  | .kiratAi => if c.toNat == 0x16D63 then some (0, none) else none

end Merging

/-- The sequence that has been read from its end. -/
inductive Shape
  | plain
  /-- An Arabic alef. -/
  | alef
  | merging (letter : Merging) (linked : Bool)
  | skinTone
  | picture
  | flagLetter
  /-- Two or more letters of flags. -/
  | flagLetters
  /-- A joiner and a picture. -/
  | joined
  /-- The frame of a key before that. -/
  | joinedKey
  /-- Letters of flags before that, and their number. -/
  | joinedFlags (letters : Nat)
  /-- The end of a flag's tags before that: its last letters, and digits before them. -/
  | joinedTags (letters digits : Nat)
deriving DecidableEq, Repr

namespace Shape

/-- The shape of a character with nothing behind it. -/
def ofChar (c : Char) : Shape :=
  if isFlagLetter c then .flagLetter
  else if isSkinTone c then .skinTone
  else if isPicture c then .picture
  else if isAlef c then .alef
  else match Merging.ofChar? c with
    | some letter => .merging letter false
    | none => .plain

/-- Columns of letters of flags before a joiner.  They pair up from the first one on: of an even
number the last two are a flag that is joined, of an odd number none is. -/
def flagColumns (letters : Nat) : Nat :=
  if letters % 2 = 0 then letters - 2 else letters

/-- What a character adds before the shape, if they are drawn as one. -/
def before? (c : Char) : Shape → Option (Int × Shape)
  | .plain | .joinedKey => none
  | .alef =>
    if isLam c then some (0, .plain) else if isCursiveMark c then some (0, .alef) else none
  | .merging letter linked =>
    if isJoiner c then some (0, .merging letter true)
    else if isUnseen c then some (0, .merging letter linked)
    else (letter.before? c linked).map fun (n, open_) =>
      (n, (open_.map (Shape.merging · true)).getD .plain)
  | .skinTone =>
    if takesSkinTone c then some (0, .picture) else if isJoiner c then some (0, .joined) else none
  | .picture => if isJoiner c then some (0, .joined) else none
  | .flagLetter => if isFlagLetter c then some (1, .flagLetters) else none
  | .flagLetters =>
    if isFlagLetter c then some (1, .flagLetters)
    else if isJoiner c then some (0, .joined)
    else none
  | .joined =>
    if isKeyFrame c then some (0, .joinedKey)
    else if isFlagLetter c then some (flagColumns 1, .joinedFlags 1)
    else if isSkinTone c then some (0, .skinTone)
    else if isTagEnd c then some (0, .joinedTags 0 0)
    else if isPicture c then some (0, .picture)
    else none
  | .joinedFlags n =>
    if isFlagLetter c then some ((flagColumns (n + 1) : Int) - flagColumns n, .joinedFlags (n + 1))
    else if isJoiner c && n % 2 == 0 then some (0, .joined)
    else none
  | .joinedTags letters digits =>
    if isTagLetter c && digits == 0 && letters < 6 then some (0, .joinedTags (letters + 1) 0)
    else if isTagDigit c && letters ≤ 4 && digits < 3 then
      some (0, .joinedTags letters (digits + 1))
    else if isTaggedFlag c && (digits == 3 || (digits == 0 && 3 ≤ letters)) then some (0, .picture)
    else none

/-- A joiner follows, and a picture that the one before may join. -/
def isJoined : Shape → Bool
  | .joined | .joinedKey => true
  | _ => false

/-- What of a shape stays open before a selector: letters merge across it. -/
def acrossSelector : Shape → Shape
  | .alef => .alef
  | .merging letter linked => .merging letter linked
  | _ => .plain

end Shape

/-- The style that is asked for. -/
inductive Style
  | asIs
  | picture
  | text
  | wide
deriving DecidableEq, Repr

/-- What follows a character. -/
structure Sequel where
  shape : Shape
  style : Style
deriving DecidableEq, Repr

namespace Sequel

def plain : Sequel := ⟨.plain, .asIs⟩

/-- The shape, where the style asked for was of no use. -/
def bare (s : Sequel) : Shape :=
  if s.style = .asIs then s.shape else s.shape.acrossSelector

/-- What the character adds before the sequel, and the sequel of the character before it. -/
def before (c : Char) (s : Sequel) : Int × Sequel :=
  if s.style = .picture && hasPicture c then
    (if s.shape.isJoined then 0 else 2, ⟨.picture, .asIs⟩)
  else if c.toNat ≤ 0xA0 then (1, plain)
  else if isPictureSelector c then
    (0, ⟨if s.bare.isJoined then s.bare else s.bare.acrossSelector, .picture⟩)
  else if isTextSelector c then (0, ⟨s.bare.acrossSelector, .text⟩)
  else if s.style = .text && hasNarrowSign c then (1, plain)
  else if s.style = .wide && isQuoteMark c then (2, plain)
  else match s.bare.before? c with
    | some (n, shape) => (n, ⟨shape, .asIs⟩)
    | none => (charWidth c, ⟨.ofChar c, if isWideSelector c then .wide else .asIs⟩)

end Sequel
end AgentSpec.Text
