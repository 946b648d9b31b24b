/-!
Placeholders in text. Occurrences are taken from the left and do not overlap,
and what is put in their place is not looked at again.
-/

namespace AssetLink.Text

/-- Replace the placeholder after passing over the first `skip` characters. -/
def replaceAfter (placeholder new : List Char) : Nat → List Char → List Char
  | _, [] => []
  | skip + 1, _ :: rest => replaceAfter placeholder new skip rest
  | 0, c :: rest =>
      if placeholder.isPrefixOf (c :: rest) then
        new ++ replaceAfter placeholder new (placeholder.length - 1) rest
      else c :: replaceAfter placeholder new 0 rest

def replaceAll (placeholder new text : String) : String :=
  .ofList (replaceAfter placeholder.toList new.toList 0 text.toList)

end AssetLink.Text
