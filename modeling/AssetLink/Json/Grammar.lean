import AssetLink.Json.Document

/-!
From text to documents. Every function takes the characters that are left and
gives back those after what it read.
-/

namespace AssetLink.Json

def isBlank (c : Char) : Bool :=
  c = ' ' || c = '\n' || c = '\t' || c = '\r'

def skipBlanks (cs : List Char) : List Char :=
  cs.dropWhile isBlank

def digit? (c : Char) : Option Digit :=
  if '0' ≤ c ∧ c ≤ '9' then some (Fin.ofNat 10 (c.toNat - '0'.toNat)) else none

def takeDigits : List Char → List Digit × List Char
  | [] => ([], [])
  | c :: rest =>
      match digit? c with
      | none => ([], c :: rest)
      | some d =>
          let (digits, rest) := takeDigits rest
          (d :: digits, rest)

def hexDigit? (c : Char) : Option Nat :=
  if '0' ≤ c ∧ c ≤ '9' then some (c.toNat - '0'.toNat)
  else if 'a' ≤ c ∧ c ≤ 'f' then some (c.toNat - 'a'.toNat + 10)
  else if 'A' ≤ c ∧ c ≤ 'F' then some (c.toNat - 'A'.toNat + 10)
  else none

def fraction? : List Char → Option (Option (List Digit) × List Char)
  | '.' :: rest =>
      match takeDigits rest with
      | ([], _) => none
      | (digits, rest) => some (some digits, rest)
  | rest => some (none, rest)

def exponentSign : List Char → Bool × List Char
  | '-' :: rest => (true, rest)
  | '+' :: rest => (false, rest)
  | rest => (false, rest)

def exponent? : List Char → Option (Option Exponent × List Char)
  | c :: rest =>
      if c = 'e' || c = 'E' then
        let (negative, rest) := exponentSign rest
        match takeDigits rest with
        | ([], _) => none
        | (digits, rest) => some (some ⟨negative, digits⟩, rest)
      else some (none, c :: rest)
  | [] => some (none, [])

/-- A numeral after its sign. A leading zero stands alone. -/
def numeral? (negative : Bool) (cs : List Char) : Option (Numeral × List Char) := do
  let (whole, rest) := takeDigits cs
  guard (whole ≠ [] ∧ (whole.head? = some 0 → whole = [0]))
  let (fraction, rest) ← fraction? rest
  let (exponent, rest) ← exponent? rest
  return (⟨negative, whole, fraction, exponent⟩, rest)

def escape? : List Char → Option (Piece × List Char)
  | 'u' :: a :: b :: c :: d :: rest => do
      let code := ((← hexDigit? a) * 16 + (← hexDigit? b)) * 16 + (← hexDigit? c)
      return (.unit (code * 16 + (← hexDigit? d)), rest)
  | '"' :: rest => some (.char '"', rest)
  | '\\' :: rest => some (.char '\\', rest)
  | '/' :: rest => some (.char '/', rest)
  | 'b' :: rest => some (.char '\x08', rest)
  | 'f' :: rest => some (.char '\x0C', rest)
  | 'n' :: rest => some (.char '\n', rest)
  | 'r' :: rest => some (.char '\r', rest)
  | 't' :: rest => some (.char '\t', rest)
  | _ => none

def string? : Nat → List Piece → List Char → Option (List Piece × List Char)
  | 0, _, _ => none
  | _ + 1, read, '"' :: rest => some (read.reverse, rest)
  | fuel + 1, read, '\\' :: rest =>
      match escape? rest with
      | some (piece, rest) => string? fuel (piece :: read) rest
      | none => none
  | fuel + 1, read, c :: rest =>
      if c.toNat < 0x20 then none else string? fuel (.char c :: read) rest
  | _ + 1, _, [] => none

def orBroken {α : Type} (make : α → Document) : Option (α × List Char) → Document × List Char
  | some (value, rest) => (make value, rest)
  | none => (.broken, [])

def word? (word : String) (cs : List Char) : Option (Unit × List Char) :=
  if word.toList.isPrefixOf cs then some ((), cs.drop word.length) else none

mutual

def valueAt : Nat → List Char → Document × List Char
  | 0, _ => (.broken, [])
  | fuel + 1, cs =>
      match skipBlanks cs with
      | [] => (.broken, [])
      | '{' :: rest =>
          let (members, rest) := membersAt fuel true rest
          (.object members, rest)
      | '[' :: rest =>
          let (items, rest) := itemsAt fuel true rest
          (.array items, rest)
      | '"' :: rest => orBroken .string (string? (rest.length + 1) [] rest)
      | '-' :: rest => orBroken .number (numeral? true rest)
      | 'n' :: rest => orBroken (fun _ => .null) (word? "ull" rest)
      | 't' :: rest => orBroken (fun _ => .bool true) (word? "rue" rest)
      | 'f' :: rest => orBroken (fun _ => .bool false) (word? "alse" rest)
      | c :: rest => orBroken .number (numeral? false (c :: rest))

def itemsAt : Nat → Bool → List Char → List Document × List Char
  | 0, _, _ => ([.broken], [])
  | fuel + 1, first, cs =>
      match first, skipBlanks cs with
      | _, ']' :: rest => ([], rest)
      | false, ',' :: rest =>
          match skipBlanks rest with
          | ']' :: _ => ([.broken], [])
          | rest => itemAt fuel rest
      | true, rest => itemAt fuel rest
      | false, _ => ([.broken], [])

def itemAt : Nat → List Char → List Document × List Char
  | 0, _ => ([.broken], [])
  | fuel + 1, cs =>
      let (first, rest) := valueAt fuel cs
      let (others, rest) := itemsAt fuel false rest
      (first :: others, rest)

/-- The members up to the closing brace. A name is any value here, and only a
reader may refuse it. -/
def membersAt : Nat → Bool → List Char → List (Document × Document) × List Char
  | 0, _, _ => ([(.broken, .broken)], [])
  | fuel + 1, first, cs =>
      match first, skipBlanks cs with
      | _, '}' :: rest => ([], rest)
      | false, ',' :: rest =>
          match skipBlanks rest with
          | '}' :: _ => ([(.broken, .broken)], [])
          | rest => memberAt fuel rest
      | true, rest => memberAt fuel rest
      | false, _ => ([(.broken, .broken)], [])

def memberAt : Nat → List Char → List (Document × Document) × List Char
  | 0, _ => ([(.broken, .broken)], [])
  | fuel + 1, cs =>
      match valueAt fuel cs with
      | (.string name, rest) =>
          match skipBlanks rest with
          | ':' :: rest =>
              let (first, rest) := valueAt fuel rest
              let (others, rest) := membersAt fuel false rest
              ((.string name, first) :: others, rest)
          | _ => ([(.string name, .broken)], [])
      | (name, _) => ([(name, .broken)], [])

end

/-- The document at the front of a text and whether anything but blanks follows
it. Each step of the descent takes at most three units of fuel for a
character. -/
def read (text : String) : Document × Bool :=
  let cs := text.toList
  let (document, rest) := valueAt (3 * cs.length + 3) cs
  (document, (skipBlanks rest) ≠ [])

end AssetLink.Json
