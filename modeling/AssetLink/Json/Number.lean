import AssetLink.Json.Document
import AssetLink.Number.Binary64

/-!
The number that a numeral is read as. Without fraction and exponent it is an
integer, if it is one of the integers from `-2 ^ 63` to `2 ^ 64 - 1` and is not
written `-0`. Any other numeral is a float: its leading digits, as many as make
up a word of sixty-four bits, are taken as a whole number and scaled by powers
of ten, with a rounding at each step.
-/

namespace AssetLink.Json

inductive Number
  | int (value : Int)
  | float (value : FiniteBinary64)
deriving DecidableEq

def wordLimit : Nat := 0xFFFFFFFFFFFFFFFF

/-- Append digits to a number as long as it stays within a word; the digits from
the first that does not fit are left. -/
def appendDigits : Nat → List Digit → Nat × List Digit
  | n, [] => (n, [])
  | n, d :: rest =>
      if wordLimit < 10 * n + d.val then (n, d :: rest) else appendDigits (10 * n + d.val) rest

/-- `10 ^ exponent` times a finite magnitude. Powers past the largest that the
format has are taken off in steps, and a result that is too large is none. -/
def scale? (x : Binary64) (exponent : Int) : Option Binary64 :=
  if exponent.natAbs ≤ 308 then
    some (if 0 ≤ exponent then x.mul (.tenPower exponent.toNat)
      else x.div (.tenPower exponent.natAbs))
  else if x.isZero then some x
  else if 0 ≤ exponent then none
  else scale? (x.div (.tenPower 308)) (exponent + 308)
termination_by exponent.natAbs
decreasing_by omega

def finite? (x : Binary64) : Option FiniteBinary64 :=
  if h : x.isFinite = true then some ⟨x, h⟩ else none

def naturalOf (digits : List Digit) : Nat :=
  digits.foldl (fun n d => 10 * n + d.val) 0

namespace Exponent

def value (e : Exponent) : Int :=
  if e.negative then -(naturalOf e.digits) else naturalOf e.digits

/-- Beyond thirty-one bits an exponent is as good as infinite. -/
def isExtreme (e : Exponent) : Bool :=
  0x7FFFFFFF < naturalOf e.digits

end Exponent

namespace Numeral

/-- The whole number of the leading digits and the power of ten that goes with
it, before the exponent that is written. -/
def parts (n : Numeral) : Nat × Int :=
  let (whole, dropped) := appendDigits 0 n.whole
  let places := n.fraction.getD []
  let (digits, unread) := appendDigits whole places
  (digits, dropped.length - (places.length - unread.length : Nat))

def float? (n : Numeral) : Option FiniteBinary64 := do
  let (digits, power) := n.parts
  let magnitude ←
    match n.exponent with
    | none => scale? (.ofNat digits) power
    | some e =>
        if e.isExtreme then if digits ≠ 0 ∧ !e.negative then none else some .zero
        else scale? (.ofNat digits) (power + e.value)
  finite? (.withSign n.negative magnitude)

def integer (n : Numeral) : Int :=
  if n.negative then -(naturalOf n.whole) else naturalOf n.whole

def isInteger (n : Numeral) : Bool :=
  n.fraction.isNone && n.exponent.isNone

def number? (n : Numeral) : Option Number :=
  if n.isInteger ∧ (n.negative → n.integer ≠ 0) ∧
      -0x8000000000000000 ≤ n.integer ∧ n.integer ≤ wordLimit then
    some (.int n.integer)
  else n.float?.map .float

end Numeral

end AssetLink.Json
