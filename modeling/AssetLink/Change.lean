import AssetLink.AssetError

/-!
Changes to a state that may fail.
-/

namespace AssetLink

/-- A change to a state that answers or fails. What was written before a failure
stays written, so that a failing change leaves the state alone only if it is
made that way. -/
abbrev Change (σ α : Type) := ExceptT AssetError (StateM σ) α

namespace Change

variable {σ τ α : Type}

def apply (change : Change σ α) (s : σ) : Except AssetError α × σ :=
  change.run.run s

def within (read : σ → τ) (write : τ → σ → σ) (change : Change τ α) : Change σ α :=
  ExceptT.mk fun s =>
    let done := change.apply (read s)
    (done.1, write done.2 s)

def build (change : Change σ Unit) (start : σ) : Except AssetError σ :=
  let done := change.apply start
  done.1.map fun _ => done.2

end Change

end AssetLink
