/-!
Sets of code points given by increasing bounds: the set starts at the first
bound, stops at the second, starts again at the third, and so on.
-/

namespace AssetLink.Text

def within (bounds : List Nat) (code : Nat) : Bool :=
  match bounds with
  | start :: stop :: rest => if code < stop then decide (start ≤ code) else within rest code
  | [start] => decide (start ≤ code)
  | [] => false

end AssetLink.Text
