import AssetLink.Number.Binary64

/-!
The shortest decimal that reads back as a binary64 number. For one to seventeen
digits the two neighbours of the number on that decimal grid are tried; the
first grid with a neighbour inside the interval of reals that round to the
number decides the length, and of two such neighbours the nearer one is taken.
-/

namespace AssetLink

inductive Tie
  | up
  | even
deriving DecidableEq

/-- `digits * 10 ^ exponent`. -/
structure Decimal where
  digits : Nat
  exponent : Int
deriving DecidableEq, Repr

namespace Decimal

def trim (d : Decimal) : Decimal :=
  if d.digits ≠ 0 ∧ d.digits % 10 = 0 then
    trim ⟨d.digits / 10, d.exponent + 1⟩
  else d
termination_by d.digits
decreasing_by
  rename_i h
  exact Nat.div_lt_self (Nat.pos_of_ne_zero h.1) (by decide)

def compareBinary (d : Decimal) (m : Nat) (e : Int) : Ordering :=
  compare ((d.digits * Nat.pow 10 d.exponent.toNat) <<< (-e).toNat)
    ((m * Nat.pow 10 (-d.exponent).toNat) <<< e.toNat)

end Decimal

namespace Binary64

def hasNarrowGap (x : Binary64) : Bool :=
  x.fraction == 0 && 1 < x.biasedExponent

/-- Whether `d` is among the reals that round to `x`. The ends belong to the
interval when the significand is even. -/
def readsBack (x : Binary64) (d : Decimal) : Bool :=
  let unit := x.exponent - 2
  let low := d.compareBinary (4 * x.significand - if x.hasNarrowGap then 1 else 2) unit
  let high := d.compareBinary (4 * x.significand + 2) unit
  if x.significand % 2 = 0 then low.isGE && high.isLE else low.isGT && high.isLT

/-- The exponent `k` with `10 ^ (k - 1) ≤ x < 10 ^ k`, for a magnitude that is
not zero. -/
def decimalMagnitude (x : Binary64) : Int :=
  digitCount (x.numerator * Nat.pow 10 400 / x.denominator) - 400

def belowOnGrid (x : Binary64) (count : Nat) : Decimal :=
  let exponent := x.decimalMagnitude - count
  ⟨x.numerator * Nat.pow 10 (-exponent).toNat / (x.denominator * Nat.pow 10 exponent.toNat),
    exponent⟩

/-- Of the two neighbours on a grid the one that reads back, the nearer one if
both do. -/
def onGrid? (tie : Tie) (x : Binary64) (count : Nat) : Option Decimal :=
  let below := x.belowOnGrid count
  let above : Decimal := ⟨below.digits + 1, below.exponent⟩
  let middle : Decimal := ⟨10 * below.digits + 5, below.exponent - 1⟩
  match x.readsBack below, x.readsBack above with
  | false, false => none
  | true, false => some below
  | false, true => some above
  | true, true =>
      match middle.compareBinary x.significand x.exponent with
      | .gt => some below
      | .lt => some above
      | .eq => some (if tie = .even ∧ below.digits % 2 = 0 then below else above)

def shortest (tie : Tie) (x : Binary64) : Decimal :=
  if x.isZero then ⟨0, 0⟩
  else ((List.range' 1 17).findSome? (x.onGrid? tie)).getD (x.belowOnGrid 17) |>.trim

def positional (d : Decimal) : String :=
  let text := toString d.digits
  if 0 ≤ d.exponent then text ++ String.ofList (List.replicate d.exponent.toNat '0')
  else
    let places := d.exponent.natAbs
    let padded := (List.replicate (places + 1 - text.length) '0') ++ text.toList
    String.ofList (padded.take (padded.length - places)) ++ "." ++
      String.ofList (padded.drop (padded.length - places))

def text (x : Binary64) : String :=
  if x.isNaN then "NaN"
  else
    (if x.isNegative then "-" else "") ++
      (if x.isFinite then positional (x.shortest .up) else "inf")

end Binary64

end AssetLink
