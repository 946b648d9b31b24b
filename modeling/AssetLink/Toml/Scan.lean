/-!
Scanners: functions that take a construct off the front of a text or refuse it,
and a few of them that every construct is made of.
-/

namespace AssetLink.Toml

abbrev Scan := StateT (List Char) Option

namespace Scan

def peek : Scan (Option Char) := do
  return (← get).head?

def charIf (p : Char → Bool) : Scan Char := do
  match ← get with
  | c :: rest =>
      if p c then
        set rest
        return c
      else failure
  | [] => failure

def char (c : Char) : Scan Unit := do
  discard (charIf (· == c))

def literal (text : String) : Scan Unit := do
  let cs ← get
  if text.toList.isPrefixOf cs then set (cs.drop text.length) else failure

def takeWhile (p : Char → Bool) : Scan (List Char) := do
  let cs ← get
  set (cs.dropWhile p)
  return cs.takeWhile p

def optional {α : Type} (scan : Scan α) : Scan (Option α) :=
  some <$> scan <|> pure none

end Scan

def isBlank (c : Char) : Bool :=
  c == ' ' || c == '\t'

/-- The characters that comments and literal text may hold. -/
def isVisible (c : Char) : Bool :=
  c == '\t' || (0x20 ≤ c.toNat && c.toNat ≤ 0x7E) || 0x80 ≤ c.toNat

def blanks : Scan Unit := do
  discard (Scan.takeWhile isBlank)

def newline : Scan Unit :=
  Scan.literal "\n" <|> Scan.literal "\r\n"

def comment : Scan Unit := do
  Scan.char '#'
  discard (Scan.takeWhile isVisible)

def endOfText : Scan Unit := do
  if (← get).isEmpty then return else failure

def lineEnd : Scan Unit := do
  blanks
  discard (Scan.optional comment)
  newline <|> endOfText

/-- Drop one construct after another, until none is there or none was taken. -/
def dropEach (scan : List Char → Option (List Char)) : Nat → List Char → List Char
  | 0, cs => cs
  | fuel + 1, cs =>
      match scan cs with
      | some rest => if rest.length < cs.length then dropEach scan fuel rest else rest
      | none => cs

def listGap : Scan Unit := do
  let step : Scan Unit := do
    blanks
    discard (Scan.optional comment)
    newline
  modify fun cs => dropEach (fun cs => (step cs).map (·.2)) cs.length cs
  blanks

end AssetLink.Toml
