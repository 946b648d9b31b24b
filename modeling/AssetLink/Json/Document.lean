/-!
JSON documents as written. Literals are kept as they stand: whether a numeral
fits a number and whether escapes make up text is decided by whoever reads it.
Where the text is malformed or ends too early the document has `broken`, and
nothing after it, so that a reader going from left to right meets the faults in
the order of the text.
-/

namespace AssetLink.Json

abbrev Digit := Fin 10

instance Digit.neZero : @NeZero Nat Zero.ofOfNat0 10 :=
  Nat.instNeZeroSucc

structure Exponent where
  negative : Bool
  digits : List Digit
deriving DecidableEq, Repr

structure Numeral where
  negative : Bool
  whole : List Digit
  fraction : Option (List Digit)
  exponent : Option Exponent
deriving DecidableEq, Repr

/-- A piece of a string literal. A `unit` is written by its sixteen bits and may
be half of a character. -/
inductive Piece
  | char (c : Char)
  | unit (code : Nat)
deriving DecidableEq, Repr

inductive Document
  | null
  | bool (value : Bool)
  | number (numeral : Numeral)
  | string (pieces : List Piece)
  | array (items : List Document)
  | object (members : List (Document × Document))
  | broken

def Piece.text? : List Piece → Option (List Char)
  | [] => some []
  | .char c :: rest => (text? rest).map (c :: ·)
  | .unit high :: .unit low :: rest =>
      if 0xD800 ≤ high ∧ high < 0xDC00 then
        if 0xDC00 ≤ low ∧ low < 0xE000 then
          (text? rest).map (Char.ofNat (0x10000 + (high - 0xD800) * 0x400 + (low - 0xDC00)) :: ·)
        else none
      else if 0xDC00 ≤ high ∧ high < 0xE000 then none
      else (text? (.unit low :: rest)).map (Char.ofNat high :: ·)
  | .unit code :: rest =>
      if 0xD800 ≤ code ∧ code < 0xE000 then none
      else (text? rest).map (Char.ofNat code :: ·)

end AssetLink.Json
