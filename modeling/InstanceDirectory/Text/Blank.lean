/-!
# Blank characters

The characters with the Unicode property White_Space, which a configured number may have
around it.
-/

namespace InstanceDirectory
namespace Text

/-- Code points of blank characters beside the ranges of `isBlank`. -/
def blankCodes : List Nat := [0x20, 0x85, 0xA0, 0x1680, 0x2028, 0x2029, 0x202F, 0x205F, 0x3000]

/-- Decide whether a character is blank. -/
def isBlank (c : Char) : Bool :=
  (0x09 ≤ c.toNat && c.toNat ≤ 0x0D) || (0x2000 ≤ c.toNat && c.toNat ≤ 0x200A)
    || blankCodes.contains c.toNat

/-- A text without the blank characters around it. -/
def trim (text : List Char) : List Char :=
  ((text.dropWhile isBlank).reverse.dropWhile isBlank).reverse

end Text
end InstanceDirectory
