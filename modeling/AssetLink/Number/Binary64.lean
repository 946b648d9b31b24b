/-!
Binary64 numbers as their sixty-four interchange bits, with their finite values
as ratios of naturals. Products and quotients are formed exactly and rounded
once, to the nearest number and on a tie to the even one.
-/

namespace AssetLink

structure Binary64 where
  bits : UInt64
deriving DecidableEq, Inhabited

namespace Binary64

def isNegative (x : Binary64) : Bool :=
  x.bits.toNat >>> 63 == 1

def biasedExponent (x : Binary64) : Nat :=
  (x.bits.toNat >>> 52) % 2048

def fraction (x : Binary64) : Nat :=
  x.bits.toNat % (1 <<< 52)

def isFinite (x : Binary64) : Bool :=
  x.biasedExponent != 2047

def isNaN (x : Binary64) : Bool :=
  x.biasedExponent == 2047 && x.fraction != 0

def isZero (x : Binary64) : Bool :=
  x.bits.toNat % (1 <<< 63) == 0

/-- Equality of the numbers, not of the bits: the two zeros are equal and a NaN
equals nothing. -/
def sameNumber (x y : Binary64) : Bool :=
  !x.isNaN && !y.isNaN && (x == y || x.isZero && y.isZero)

def zero : Binary64 := ⟨0⟩

def infinity : Binary64 := ⟨0x7FF0000000000000⟩

def nan : Binary64 := ⟨0x7FF8000000000000⟩

def neg (x : Binary64) : Binary64 :=
  ⟨x.bits ^^^ 0x8000000000000000⟩

def withSign (negative : Bool) (x : Binary64) : Binary64 :=
  if negative then x.neg else x

/-- A finite magnitude is `significand * 2 ^ exponent`. -/
def significand (x : Binary64) : Nat :=
  if x.biasedExponent = 0 then x.fraction else (1 <<< 52) + x.fraction

def exponent (x : Binary64) : Int :=
  (max x.biasedExponent 1 : Nat) - 1075

def numerator (x : Binary64) : Nat :=
  x.significand <<< x.exponent.toNat

def denominator (x : Binary64) : Nat :=
  1 <<< (-x.exponent).toNat

/-- `num / den` to the nearest natural, a half to the even one. -/
def roundQuotient (num den : Nat) : Nat :=
  let below := num / den
  let rest := 2 * (num % den)
  if rest < den then below
  else if den < rest then below + 1
  else below + below % 2

def scaled (num den : Nat) (exponent : Int) : Nat × Nat :=
  (num <<< (-exponent).toNat, den <<< exponent.toNat)

/-- The exponent at which `num / den` has a significand of fifty-three bits, or
the least one that the format has. -/
def unitExponent (num den : Nat) : Int :=
  let low := (num.log2 : Int) - den.log2 - 53
  let unit := scaled num den low
  max (if 1 <<< 53 ≤ unit.1 / unit.2 then low + 1 else low) (-1074)

/-- The number nearest to `num / den`. A significand that rounds up to
fifty-four bits carries into the exponent, and past the last exponent stands
infinity. -/
def ofRatio (num den : Nat) : Binary64 :=
  if num = 0 then zero else
  let unit := unitExponent num den
  let parts := scaled num den unit
  let word := ((unit + 1074).toNat <<< 52) + roundQuotient parts.1 parts.2
  ⟨UInt64.ofNat (min word infinity.bits.toNat)⟩

def ofNat (n : Nat) : Binary64 :=
  ofRatio n 1

def mul (x y : Binary64) : Binary64 :=
  ofRatio (x.numerator * y.numerator) (x.denominator * y.denominator)

def div (x y : Binary64) : Binary64 :=
  ofRatio (x.numerator * y.denominator) (x.denominator * y.numerator)

def tenPower (n : Nat) : Binary64 :=
  ofNat (Nat.pow 10 n)

/-- The number of decimal digits, estimated from the binary logarithm and
corrected by one comparison. -/
def digitCount (n : Nat) : Nat :=
  let estimate := n.log2 * 30102 / 100000
  if Nat.pow 10 (estimate + 1) ≤ n then estimate + 2 else estimate + 1

/-- The number nearest to `digits * 10 ^ exponent`. Beyond the exponents that
any binary64 number has the answer is settled without forming the power. -/
def ofDecimal (digits : Nat) (exponent : Int) : Binary64 :=
  let magnitude := digitCount digits + exponent
  if digits = 0 ∨ magnitude < -330 then zero
  else if 310 < magnitude then infinity
  else ofRatio (digits * Nat.pow 10 exponent.toNat) (Nat.pow 10 (-exponent).toNat)

end Binary64

abbrev FiniteBinary64 := { x : Binary64 // x.isFinite = true }

end AssetLink
