import AssetLink.Text.Extending
import AssetLink.Text.Unprintable

/-!
Quoted text. Quotes, backslashes and the usual controls are written with a
backslash; what cannot be seen on its own is written as its code point.
-/

namespace AssetLink.Text

def quotedChar (c : Char) : String :=
  match c with
  | '\x00' => "\\0"
  | '\t' => "\\t"
  | '\n' => "\\n"
  | '\r' => "\\r"
  | '"' => "\\\""
  | '\\' => "\\\\"
  | c =>
      if isExtending c || isUnprintable c then
        "\\u\x7b" ++ String.ofList (Nat.toDigits 16 c.toNat) ++ "\x7d"
      else c.toString

def quoted (s : String) : String :=
  "\"" ++ String.join (s.toList.map quotedChar) ++ "\""

end AssetLink.Text
