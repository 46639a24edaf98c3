import CardQuery.Text.Basic

/-!
# Digits

A decimal digit is a character of one of the runs of ten that Unicode gives the
digits zero to nine of a script; its value is its place in the run.  A wider
class, the digit-like characters, also has digits that stand in no positional
notation, such as a raised two: text of that class can look like a number and
still have no reading as one.
-/

namespace CardQuery.Text

/-- Codes of the characters that write zero; the digits one to nine follow each
of them. -/
def zeroDigits : List Nat :=
  [0x30, 0x660, 0x6F0, 0x7C0, 0x966, 0x9E6, 0xA66, 0xAE6, 0xB66, 0xBE6, 0xC66,
   0xCE6, 0xD66, 0xDE6, 0xE50, 0xED0, 0xF20, 0x1040, 0x1090, 0x17E0, 0x1810,
   0x1946, 0x19D0, 0x1A80, 0x1A90, 0x1B50, 0x1BB0, 0x1C40, 0x1C50, 0xA620,
   0xA8D0, 0xA900, 0xA9D0, 0xA9F0, 0xAA50, 0xABF0, 0xFF10, 0x104A0, 0x10D30,
   0x11066, 0x110F0, 0x11136, 0x111D0, 0x112F0, 0x11450, 0x114D0, 0x11650,
   0x116C0, 0x11730, 0x118E0, 0x11950, 0x11C50, 0x11D50, 0x11DA0, 0x16A60,
   0x16AC0, 0x16B50, 0x1D7CE, 0x1D7D8, 0x1D7E2, 0x1D7EC, 0x1D7F6, 0x1E140,
   0x1E2F0, 0x1E950, 0x1FBF0]

/-- The value of a decimal digit. -/
def digitValue? (character : Char) : Option Nat :=
  zeroDigits.findSome? fun start =>
    if start ≤ character.toNat && character.toNat ≤ start + 9 then
      some (character.toNat - start)
    else none

def isDigit (character : Char) : Bool := (digitValue? character).isSome

/-- Digits outside positional notation: raised, lowered, circled and their
like. -/
def unpositionedDigitRanges : List (Nat × Nat) :=
  [(0xB2, 0xB3), (0xB9, 0xB9), (0x1369, 0x1371), (0x19DA, 0x19DA),
   (0x2070, 0x2070), (0x2074, 0x2079), (0x2080, 0x2089), (0x2460, 0x2468),
   (0x2474, 0x247C), (0x2488, 0x2490), (0x24EA, 0x24EA), (0x24F5, 0x24FD),
   (0x24FF, 0x24FF), (0x2776, 0x277E), (0x2780, 0x2788), (0x278A, 0x2792),
   (0x10A40, 0x10A43), (0x10E60, 0x10E68), (0x11052, 0x1105A),
   (0x1F100, 0x1F10A)]

/-- Whether the character has a digit value, in positional notation or not. -/
def isDigitLike (character : Char) : Bool :=
  isDigit character || inRanges unpositionedDigitRanges character

/-- The number that a run of decimal digits writes, the most significant
first. -/
def digitsValue? (text : Text) : Option Nat :=
  text.foldlM
    (fun value character => (digitValue? character).map (10 * value + ·)) 0

/-- The decimal digits of a number, without leading zeros. -/
def ofNat (number : Nat) : Text := Nat.toDigits 10 number

/-- A whole number in decimal, with a sign when it is below zero. -/
def ofInt (number : Int) : Text :=
  if number < 0 then '-' :: ofNat number.natAbs else ofNat number.natAbs

/-- A digit from `0` to `9` is in the first run. -/
theorem digitValue?_of_isDigit {character : Char}
    (digit : character.isDigit = true) :
    digitValue? character = some (character.toNat - '0'.toNat) := by
  have bounds : 0x30 ≤ character.toNat ∧ character.toNat ≤ 0x39 := by
    simpa [Char.isDigit, UInt32.le_iff_toNat_le] using digit
  simp [digitValue?, zeroDigits, bounds]

theorem isDigit_of_isDigit {character : Char}
    (digit : character.isDigit = true) : isDigit character = true := by
  rw [isDigit, digitValue?_of_isDigit digit]
  rfl

theorem digitsValue?_isSome {text : Text}
    (digits : ∀ character ∈ text, isDigit character = true) :
    (digitsValue? text).isSome = true := by
  suffices general : ∀ start,
      (text.foldlM
        (fun value character => (digitValue? character).map (10 * value + ·))
        start).isSome = true from general 0
  induction text with
  | nil => intro start; rfl
  | cons first rest ih =>
      intro start
      obtain ⟨value, found⟩ :=
        Option.isSome_iff_exists.mp (digits first (by simp))
      simpa [found] using ih (fun character member =>
        digits character (by simp [member])) _

end CardQuery.Text
