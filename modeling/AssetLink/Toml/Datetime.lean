import AssetLink.Toml.Text
import AssetLink.Toml.Value

/-!
Dates and times: a date, a time, or a date and a time with or without an offset
from universal time. Their canonical text has a `T` between date and time, a
capital `Z`, and no zeros at the end of a fraction.
-/

namespace AssetLink.Toml

def twoDigits (low high : Nat) : Scan Nat := do
  let a ← Scan.charIf Char.isDigit
  let b ← Scan.charIf Char.isDigit
  let n := 10 * (a.toNat - '0'.toNat) + (b.toNat - '0'.toNat)
  if low ≤ n ∧ n ≤ high then return n else failure

def twoDigitText (n : Nat) : String :=
  .ofList [Nat.digitChar (n / 10), Nat.digitChar (n % 10)]

def isLeap (year : Nat) : Bool :=
  year % 4 == 0 && (year % 100 != 0 || year % 400 == 0)

def daysIn (year month : Nat) : Nat :=
  if month = 2 then if isLeap year then 29 else 28
  else if month = 4 ∨ month = 6 ∨ month = 9 ∨ month = 11 then 30
  else 31

def date : Scan String := do
  let century ← twoDigits 0 99
  let year ← twoDigits 0 99
  Scan.char '-'
  let month ← twoDigits 1 12
  Scan.char '-'
  let day ← twoDigits 1 (daysIn (100 * century + year) month)
  return twoDigitText century ++ s!"{twoDigitText year}-{twoDigitText month}-{twoDigitText day}"

/-- Nine digits of a fraction count, and zeros at its end do not. -/
def fractionText (digits : List Char) : String :=
  match ((digits.take 9).reverse.dropWhile (· == '0')).reverse with
  | [] => ""
  | shown => "." ++ .ofList shown

def secondFraction : Scan (List Char) := do
  Scan.char '.'
  match ← Scan.takeWhile Char.isDigit with
  | [] => failure
  | digits => return digits

def time : Scan String := do
  let hour ← twoDigits 0 23
  Scan.char ':'
  let minute ← twoDigits 0 59
  Scan.char ':'
  let second ← twoDigits 0 60
  let fraction ← Scan.optional secondFraction
  return s!"{twoDigitText hour}:{twoDigitText minute}:{twoDigitText second}"
    ++ fraction.elim "" fractionText

def offset : Scan String :=
  (do discard (Scan.charIf fun c => c == 'Z' || c == 'z'); return "Z")
    <|> do
      let sign ← Scan.charIf fun c => c == '+' || c == '-'
      let hour ← twoDigits 0 23
      Scan.char ':'
      let minute ← twoDigits 0 59
      let sign := if hour = 0 ∧ minute = 0 then '+' else sign
      return sign.toString ++ s!"{twoDigitText hour}:{twoDigitText minute}"

def timeAfterDate : Scan String := do
  discard (Scan.charIf fun c => c == 'T' || c == 't' || c == ' ')
  let time ← time
  return s!"T{time}" ++ (← Scan.optional offset).getD ""

def datetime : Scan Value :=
  (do
    let date ← date
    return .datetime (date ++ (← Scan.optional timeAfterDate).getD ""))
    <|> .datetime <$> time

def wholeDatetime? (text : String) : Option Value :=
  match datetime text.toList with
  | some (value, []) => some value
  | _ => none

end AssetLink.Toml
