import AssetLink.Toml.Text
import AssetLink.Toml.Value

/-!
Integers and floats. Digits may be set apart by single underscores. A float is
the number nearest to its decimal, and one beyond the largest is refused.
-/

namespace AssetLink.Toml

def naturalOf (base : Nat) (digits : List Char) : Nat :=
  digits.foldl (fun n c => base * n + (hexValue? c).getD 0) 0

def moreDigits (isDigit : Char → Bool) : List Char → List Char × List Char
  | '_' :: c :: rest =>
      if isDigit c then
        let (digits, rest) := moreDigits isDigit rest
        (c :: digits, rest)
      else ([], '_' :: c :: rest)
  | c :: rest =>
      if isDigit c then
        let (digits, rest) := moreDigits isDigit rest
        (c :: digits, rest)
      else ([], c :: rest)
  | [] => ([], [])

def digitsOf (isDigit : Char → Bool) : Scan (List Char) := do
  let first ← Scan.charIf isDigit
  let (digits, rest) := moreDigits isDigit (← get)
  set rest
  return first :: digits

/-- Whether a minus stands here; a plus is passed over. -/
def sign : Scan Bool := do
  match ← Scan.optional (Scan.charIf fun c => c == '+' || c == '-') with
  | some c => return c == '-'
  | none => return false

/-- Decimal digits without a needless zero in front. -/
def decimalDigits : Scan (List Char) := do
  match ← Scan.peek with
  | some '0' =>
      Scan.char '0'
      return ['0']
  | _ => digitsOf Char.isDigit

def inRange (n : Int) : Scan Value :=
  if -0x8000000000000000 ≤ n ∧ n < 0x8000000000000000 then return .integer (.ofInt n) else failure

def decimalInteger : Scan Value := do
  let negative ← sign
  let n : Int := naturalOf 10 (← decimalDigits)
  inRange (if negative then -n else n)

def basedInteger (opening : String) (base : Nat) (isDigit : Char → Bool) : Scan Value := do
  Scan.literal opening
  inRange (naturalOf base (← digitsOf isDigit))

def integer : Scan Value :=
  basedInteger "0x" 16 (fun c => (hexValue? c).isSome)
    <|> basedInteger "0o" 8 (fun c => '0' ≤ c && c ≤ '7')
    <|> basedInteger "0b" 2 (fun c => c == '0' || c == '1')
    <|> decimalInteger

def fractionDigits : Scan (List Char) := do
  Scan.char '.'
  digitsOf Char.isDigit

def exponent : Scan Int := do
  discard (Scan.charIf fun c => c == 'e' || c == 'E')
  let negative ← sign
  let n : Int := naturalOf 10 (← digitsOf Char.isDigit)
  return if negative then -n else n

def decimalFloat : Scan Value := do
  let negative ← sign
  let whole ← decimalDigits
  let fraction ← Scan.optional fractionDigits
  let power ← if fraction.isSome then Scan.optional exponent else some <$> exponent
  let places := fraction.getD []
  let magnitude :=
    Binary64.ofDecimal (naturalOf 10 (whole ++ places)) (power.getD 0 - places.length)
  let x := Binary64.withSign negative magnitude
  if x = .infinity then failure else return .float x

def namedFloat : Scan Value := do
  let negative ← sign
  let x ← (do Scan.literal "inf"; return Binary64.infinity)
    <|> (do Scan.literal "nan"; return Binary64.nan)
  return .float (.withSign negative x)

def float : Scan Value :=
  decimalFloat <|> namedFloat

end AssetLink.Toml
