import Http1Client.Text.Mark

/-!
# Writing directions

Each character of a domain name runs with the text to the left or to the right,
or follows its neighbours. A name in which anything runs from right to left must
be one that reads the same when it is put into other text, so each label keeps to
one direction: it starts with a letter, and neither a letter of the other
direction nor the wrong kind of digits comes after.

The table has the classes of Unicode 17, as far as this rule tells them apart; the
rule is the one of the library `url` for hosts.
-/

namespace Http1Client.Url.DomainName

/-- How a character takes part in the direction of a text. -/
inductive Direction where
  /-- A letter that runs from left to right. -/
  | left
  /-- A letter that runs from right to left. -/
  | right
  | europeanDigit
  | arabicDigit
  /-- A mark that goes with the character before it. -/
  | mark
  | neutral
  deriving DecidableEq, Repr

/-- The characters outside ASCII that are neither a nonspacing mark of the usual
kind nor run from left to right. -/
def directions : Array (Nat × Nat × Direction) :=
  #[(0xA1, 0xD7, .neutral), (0xF7, 0xF7, .neutral), (0x2B9, 0x2BA, .neutral),
    (0x2C2, 0x2CF, .neutral), (0x2D2, 0x2ED, .neutral), (0x2EF, 0x2FF, .neutral),
    (0x375, 0x375, .neutral), (0x3F6, 0x3F6, .neutral), (0x58A, 0x58F, .neutral),
    (0x5BE, 0x5BE, .right), (0x5C0, 0x5C0, .right), (0x5C3, 0x5C3, .right),
    (0x5C6, 0x5C6, .right), (0x5D0, 0x5F4, .right), (0x606, 0x607, .neutral),
    (0x608, 0x608, .right), (0x609, 0x60A, .neutral), (0x60B, 0x60B, .right),
    (0x60C, 0x60C, .neutral), (0x60D, 0x60D, .right), (0x60E, 0x60F, .neutral),
    (0x61B, 0x64A, .right), (0x660, 0x669, .arabicDigit), (0x66A, 0x66A, .neutral),
    (0x66B, 0x66C, .arabicDigit), (0x66D, 0x66F, .right), (0x671, 0x6D5, .right),
    (0x6DE, 0x6DE, .neutral), (0x6E5, 0x6E6, .right), (0x6E9, 0x6E9, .neutral),
    (0x6EE, 0x6EF, .right), (0x6F0, 0x6F9, .europeanDigit), (0x6FA, 0x710, .right),
    (0x712, 0x72F, .right), (0x74D, 0x7A5, .right), (0x7B1, 0x7EA, .right),
    (0x7F4, 0x7F5, .right), (0x7F6, 0x7F9, .neutral), (0x7FA, 0x7FA, .right),
    (0x7FE, 0x815, .right), (0x81A, 0x81A, .right), (0x824, 0x824, .right),
    (0x828, 0x828, .right), (0x830, 0x858, .right), (0x85E, 0x88F, .right),
    (0x8A0, 0x8C9, .right), (0x9F2, 0x9F3, .neutral), (0x9FB, 0x9FB, .neutral),
    (0xAF1, 0xAF1, .neutral), (0xBF3, 0xBFA, .neutral), (0xC78, 0xC7E, .neutral),
    (0xCBF, 0xCBF, .left), (0xCC6, 0xCC6, .left), (0xE3F, 0xE3F, .neutral),
    (0xF3A, 0xF3D, .neutral), (0x1390, 0x1399, .neutral), (0x1400, 0x1400, .neutral),
    (0x169B, 0x169C, .neutral), (0x17DB, 0x17DB, .neutral), (0x17F0, 0x180A, .neutral),
    (0x1940, 0x1945, .neutral), (0x19DE, 0x19FF, .neutral), (0x200C, 0x20C1, .neutral),
    (0x2104, 0x214D, .neutral), (0x218A, 0x2335, .neutral), (0x237B, 0x2394, .neutral),
    (0x2396, 0x26AB, .neutral), (0x26AD, 0x27FF, .neutral), (0x2900, 0x2BFF, .neutral),
    (0x2CE5, 0x2CEA, .neutral), (0x2CF9, 0x2CFF, .neutral), (0x2E00, 0x3004, .neutral),
    (0x3008, 0x3020, .neutral), (0x3030, 0x3030, .neutral), (0x3037, 0x3037, .neutral),
    (0x303D, 0x303F, .neutral), (0x30A0, 0x30A0, .neutral), (0x30FB, 0x30FB, .neutral),
    (0x31C0, 0x31E5, .neutral), (0x4DC0, 0x4DFF, .neutral), (0xA490, 0xA4C6, .neutral),
    (0xA60D, 0xA60F, .neutral), (0xA673, 0xA673, .neutral), (0xA67E, 0xA67F, .neutral),
    (0xA700, 0xA721, .neutral), (0xA788, 0xA788, .neutral), (0xA828, 0xA82B, .neutral),
    (0xA838, 0xA839, .neutral), (0xA874, 0xA877, .neutral), (0xAB6A, 0xAB6B, .neutral),
    (0xFBB2, 0xFBC2, .right), (0xFBC3, 0xFDFF, .neutral), (0xFE45, 0xFE46, .neutral),
    (0xFE73, 0xFE73, .right), (0x10101, 0x10101, .neutral), (0x10140, 0x1018C, .neutral),
    (0x10190, 0x101A0, .neutral), (0x102E1, 0x102FB, .europeanDigit), (0x10800, 0x1091B, .right),
    (0x1091F, 0x1091F, .neutral), (0x10920, 0x10A00, .right), (0x10A10, 0x10A35, .right),
    (0x10A40, 0x10AE4, .right), (0x10AEB, 0x10B35, .right), (0x10B39, 0x10B3F, .neutral),
    (0x10B40, 0x10D23, .right), (0x10D30, 0x10D49, .arabicDigit), (0x10D4A, 0x10D4F, .right),
    (0x10D6E, 0x10D6E, .neutral), (0x10D6F, 0x10D8F, .right), (0x10E60, 0x10E7E, .arabicDigit),
    (0x10E80, 0x10EA9, .right), (0x10EAD, 0x10EC7, .right), (0x10ED0, 0x10ED8, .neutral),
    (0x10F00, 0x10F45, .right), (0x10F51, 0x10F81, .right), (0x10F86, 0x10FF6, .right),
    (0x11052, 0x11065, .neutral), (0x11660, 0x1166C, .neutral), (0x11A07, 0x11A08, .left),
    (0x11C3F, 0x11C3F, .left), (0x11FD5, 0x11FF1, .neutral), (0x16FE2, 0x16FE2, .neutral),
    (0x1CC00, 0x1CEF0, .neutral), (0x1D1E9, 0x1D241, .neutral), (0x1D245, 0x1D245, .neutral),
    (0x1D300, 0x1D356, .neutral), (0x1E2FF, 0x1E2FF, .neutral), (0x1E800, 0x1E8CF, .right),
    (0x1E922, 0x1E943, .right), (0x1E94B, 0x1ED3D, .right), (0x1EEF0, 0x1F12F, .neutral),
    (0x1F16D, 0x1F16F, .neutral), (0x1F1AD, 0x1F1AD, .neutral), (0x1F260, 0x1FBFA, .neutral)]

/-- The direction of a character of ASCII. -/
def asciiDirection (c : Char) : Direction :=
  if c.isAlpha then .left else if c.isDigit then .europeanDigit else .neutral

/-- The direction of a character. -/
def direction (c : Char) : Direction :=
  if c.toNat < 0x80 then asciiDirection c
  else
    (Text.Table.find? directions c.toNat).getD (if Text.isNonspacing c then .mark else .left)

namespace Direction

/-- What makes a name one with text from right to left. -/
def turns : Direction → Bool
  | .right | .arabicDigit => true
  | _ => false

/-- May stand in a label that runs from left to right. -/
def fitsLeft : Direction → Bool
  | .left | .europeanDigit | .mark | .neutral => true
  | _ => false

/-- May end a label that runs from left to right. -/
def endsLeft : Direction → Bool
  | .left | .europeanDigit => true
  | _ => false

/-- May stand in a label that runs from right to left. -/
def fitsRight : Direction → Bool
  | .left => false
  | _ => true

/-- May end a label that runs from right to left. -/
def endsRight : Direction → Bool
  | .right | .europeanDigit | .arabicDigit => true
  | _ => false

/-- A label keeps to the direction that its first character has. Marks at its end
do not count, and digits of two kinds do not mix where it runs from right to
left. -/
def keepOne : List Direction → Bool
  | [] => true
  | first :: rest =>
    let core := rest.reverse.dropWhile (· = .mark)
    match first with
    | .left => core.head?.all endsLeft && core.all fitsLeft
    | .right =>
      core.head?.all endsRight && core.all fitsRight &&
        !(core.contains .europeanDigit && core.contains .arabicDigit)
    | _ => false

end Direction

end Http1Client.Url.DomainName
