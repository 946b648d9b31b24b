import AssetLink.Files.World

/-!
Providers: sources of implementations that can be listed by identifier and made.
A provider may keep a state of its own, which listing and making may change.
-/

namespace AssetLink

structure Provider (σ ι : Type) where
  identifiers : World → Act σ (List String)
  instantiate : World → String → Attempt σ ι

namespace Provider

variable {σ τ ι : Type}

def within (provider : Provider σ ι) (read : τ → σ) (write : σ → τ → τ) : Provider τ ι where
  identifiers w := Act.within read write (provider.identifiers w)
  instantiate w identifier :=
    ExceptT.mk (Act.within read write (provider.instantiate w identifier).run)

/-- A fixed table. It lists its entries as they stand, repeats included, and the
first entry of an identifier answers for it. -/
def table (entries : List (String × Except AssetError ι)) : Provider σ ι where
  identifiers _ := pure (entries.map (·.1))
  instantiate _ identifier :=
    Attempt.ofExcept ((entries.lookup identifier).getD
      (.error (.inputValidation s!"unknown '{identifier}'")))

def firstListing (w : World) (identifier : String) :
    List (Provider σ ι) → Act σ (Option (Provider σ ι))
  | [] => pure none
  | provider :: rest => do
      if (← provider.identifiers w).contains identifier then return some provider
      else firstListing w identifier rest

def sortedUnion (lists : List (List String)) : List String :=
  (Dictionary.ofList (lists.flatten.map fun identifier => (identifier, ()))).keys

/-- Several providers as one: it lists what any of them lists, in order and
once, and the first that lists an identifier makes it. -/
def combined (providers : List (Provider σ ι)) : Provider σ ι where
  identifiers w := do
    return sortedUnion (← providers.mapM (·.identifiers w))
  instantiate w identifier := do
    match ← (firstListing w identifier providers : Act σ _) with
    | some provider => provider.instantiate w identifier
    | none =>
        throw (.inputValidation
          s!"HybridPluginSystem: No plug-in registered with the identifier '{identifier}'")

def combine (providers : List (Provider σ ι)) : Except AssetError (Provider σ ι) :=
  if providers.isEmpty then
    .error (.inputValidation
      "HybridPluginSystem: At least one child implementation factory must be provided")
  else .ok (combined providers)

end Provider

end AssetLink
