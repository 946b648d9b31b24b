import AssetLink.Toml.Scan

/-!
The four kinds of quoted text and the keys.
-/

namespace AssetLink.Toml

def hexValue? (c : Char) : Option Nat :=
  if '0' ≤ c ∧ c ≤ '9' then some (c.toNat - '0'.toNat)
  else if 'a' ≤ c ∧ c ≤ 'f' then some (c.toNat - 'a'.toNat + 10)
  else if 'A' ≤ c ∧ c ≤ 'F' then some (c.toNat - 'A'.toNat + 10)
  else none

def codePoint (count : Nat) : Scan Char := do
  let cs ← get
  let digits ← (cs.take count).mapM fun c => StateT.lift (hexValue? c)
  if digits.length < count then failure
  let code := digits.foldl (fun n d => 16 * n + d) 0
  if code < 0xD800 ∨ (0xDFFF < code ∧ code < 0x110000) then
    set (cs.drop count)
    return .ofNat code
  else failure

def escaped : Scan Char := do
  match ← Scan.charIf fun _ => true with
  | 'b' => return '\x08'
  | 't' => return '\t'
  | 'n' => return '\n'
  | 'f' => return '\x0C'
  | 'r' => return '\r'
  | '"' => return '"'
  | '\\' => return '\\'
  | 'u' => codePoint 4
  | 'U' => codePoint 8
  | _ => failure

abbrev Rest := List Char × List Char

/-- Text on one line after its opening quote. Only between double quotes does a
backslash escape. -/
def lineText (quote : Char) : Nat → List Char → List Char → Option Rest
  | 0, _, _ => none
  | _ + 1, _, [] => none
  | fuel + 1, read, c :: rest =>
      if c = quote then some (read.reverse, rest)
      else if c = '\\' ∧ quote = '"' then
        match escaped rest with
        | some (c, rest) => lineText quote fuel (c :: read) rest
        | none => none
      else if isVisible c then lineText quote fuel (c :: read) rest
      else none

def dropBlankLines : Nat → List Char → List Char
  | 0, cs => cs
  | fuel + 1, cs =>
      match cs with
      | ' ' :: rest => dropBlankLines fuel rest
      | '\t' :: rest => dropBlankLines fuel rest
      | '\n' :: rest => dropBlankLines fuel rest
      | '\r' :: '\n' :: rest => dropBlankLines fuel rest
      | cs => cs

/-- After a backslash at the end of a line the text goes on with the next
character that is neither blank nor line end. -/
def foldedLine? (cs : List Char) : Option (List Char) := do
  let (_, rest) ← newline (cs.dropWhile isBlank)
  return dropBlankLines rest.length rest

/-- Text over several lines after its opening quotes. Up to two quotes may stand
in it, also right before the three that close it. -/
def blockText (quote : Char) : Nat → List Char → List Char → Option Rest
  | 0, _, _ => none
  | _ + 1, _, [] => none
  | fuel + 1, read, c :: rest =>
      if c = quote then
        let count := 1 + (rest.takeWhile (· == quote)).length
        let rest := rest.drop (count - 1)
        if count < 3 then blockText quote fuel (List.replicate count quote ++ read) rest
        else if count ≤ 5 then
          some ((List.replicate (count - 3) quote ++ read).reverse, rest)
        else none
      else if c = '\\' ∧ quote = '"' then
        match foldedLine? rest with
        | some rest => blockText quote fuel read rest
        | none =>
            match escaped rest with
            | some (c, rest) => blockText quote fuel (c :: read) rest
            | none => none
      else if isVisible c then blockText quote fuel (c :: read) rest
      else
        match newline (c :: rest) with
        | some (_, rest) => blockText quote fuel ('\n' :: read) rest
        | none => none

def quotedWith (scan : Nat → List Char → List Char → Option Rest) : Scan String := do
  let cs ← get
  match scan (cs.length + 1) [] cs with
  | some (text, rest) =>
      set rest
      return .ofList text
  | none => failure

def lineString (quote : Char) : Scan String := do
  Scan.char quote
  quotedWith (lineText quote)

/-- A line end right after the opening quotes is not part of the text. -/
def blockString (quote : Char) : Scan String := do
  Scan.literal (.ofList [quote, quote, quote])
  discard (Scan.optional newline)
  quotedWith (blockText quote)

def string : Scan String :=
  blockString '"' <|> lineString '"' <|> blockString '\'' <|> lineString '\''

def isBareKeyChar (c : Char) : Bool :=
  c.isAlphanum || c == '-' || c == '_'

def bareKey : Scan String := do
  match ← Scan.takeWhile isBareKeyChar with
  | [] => failure
  | cs => return .ofList cs

def simpleKey : Scan String := do
  blanks
  let key ← lineString '"' <|> lineString '\'' <|> bareKey
  blanks
  return key

/-- No key has this many parts, and no value this many levels. -/
def maxDepth : Nat := 80

def dottedTail : Nat → Scan (List String)
  | 0 => failure
  | fuel + 1 => do
      match ← Scan.optional (Scan.char '.') with
      | none => return []
      | some _ => return (← simpleKey) :: (← dottedTail fuel)

/-- The parts of a key: the path to its table, and its name there. -/
structure Key where
  path : List String
  name : String
deriving DecidableEq, Repr

def Key.ofParts (first : String) : List String → Key
  | [] => ⟨[], first⟩
  | second :: rest =>
      let key := ofParts second rest
      ⟨first :: key.path, key.name⟩

def key : Scan Key := do
  let first ← simpleKey
  let rest ← dottedTail (maxDepth - 1)
  return .ofParts first rest

end AssetLink.Toml
