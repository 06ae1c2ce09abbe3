import Conform.Text.Ranges

namespace Conform.Text

/-- Unicode 14 white space, with the four separators from 0x1C on. -/
def blankRanges : List (Nat × Nat) :=
  [(0x9, 0xD), (0x1C, 0x20), (0x85, 0x85), (0xA0, 0xA0), (0x1680, 0x1680), (0x2000, 0x200A),
   (0x2028, 0x2029), (0x202F, 0x202F), (0x205F, 0x205F), (0x3000, 0x3000)]

def isBlank (c : Nat) : Bool :=
  inRanges blankRanges c

end Conform.Text
