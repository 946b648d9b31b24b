import AssetLink.Text.Bounds

/-!
White space as Unicode has it, and text without the white space around it.
-/

namespace AssetLink.Text

/-- Bounds of the code points with the property White_Space. -/
def blankBounds : List Nat :=
  [0x9, 0xE, 0x20, 0x21, 0x85, 0x86, 0xA0, 0xA1, 0x1680, 0x1681, 0x2000, 0x200B,
    0x2028, 0x202A, 0x202F, 0x2030, 0x205F, 0x2060, 0x3000, 0x3001]

def isBlank (c : Char) : Bool :=
  within blankBounds c.toNat

def trim (text : String) : String :=
  .ofList ((text.toList.dropWhile isBlank).reverse.dropWhile isBlank).reverse

end AssetLink.Text
