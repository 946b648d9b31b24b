import AssetLink.Logging.Event

/-!
Computations that log. The events of a computation stand in the order in which
they were logged, and those of its parts are put one after the other.
-/

namespace AssetLink

structure Logged (α : Type) where
  value : α
  events : List Event := []

namespace Logged

variable {α β : Type}

def pure (value : α) : Logged α :=
  ⟨value, []⟩

def bind (x : Logged α) (f : α → Logged β) : Logged β :=
  let y := f x.value
  ⟨y.value, x.events ++ y.events⟩

instance : Monad Logged where
  pure := pure
  bind := bind

instance : LawfulMonad Logged := LawfulMonad.mk' Logged
  (by intro α x; cases x; simp [Functor.map, bind, pure])
  (by intro α β x f; simp [Bind.bind, Pure.pure, bind, pure])
  (by intro α β γ x f g; simp [Bind.bind, bind])

def log (event : Event) : Logged Unit :=
  ⟨(), [event]⟩

@[simp] theorem value_pure (a : α) : (Pure.pure a : Logged α).value = a := rfl

@[simp] theorem events_pure (a : α) : (Pure.pure a : Logged α).events = [] := rfl

@[simp] theorem value_bind (x : Logged α) (f : α → Logged β) :
    (x >>= f).value = (f x.value).value := rfl

@[simp] theorem events_bind (x : Logged α) (f : α → Logged β) :
    (x >>= f).events = x.events ++ (f x.value).events := rfl

@[simp] theorem value_map (f : α → β) (x : Logged α) : (f <$> x).value = f x.value := rfl

@[simp] theorem events_map (f : α → β) (x : Logged α) : (f <$> x).events = x.events :=
  List.append_nil x.events

@[simp] theorem value_log (event : Event) : (log event).value = () := rfl

@[simp] theorem events_log (event : Event) : (log event).events = [event] := rfl

end Logged

abbrev Act (σ α : Type) := StateT σ Logged α

/-- Steps that may also fail. What was logged and changed before a failure
stays. -/
abbrev Attempt (σ α : Type) := ExceptT AssetError (Act σ) α

namespace Attempt

variable {σ τ α : Type}

def ofExcept (result : Except AssetError α) : Attempt σ α :=
  ExceptT.mk (pure result)

end Attempt

def Act.within {σ τ α : Type} (read : τ → σ) (write : σ → τ → τ) (act : Act σ α) : Act τ α :=
  fun s => do
    let done ← act (read s)
    return (done.1, write done.2 s)

end AssetLink
