import AssetLink.Host.Session
import AssetLink.Proofs.Host.Lifetime

/-!
The delegates of a session. A delegate is held until another one takes its name or it is
dropped; it may also be given up before it can be held. Whatever a host does, the
closes can be accounted for: there are those that it asked for, and one more for each
delegate that it gave up.
-/

namespace AssetLink

namespace UIDelegate

def left (delegate : UIDelegate) : UIDelegate :=
  (release.run delegate).value.2

/-- A delegate that was given up: it has been closed once more since. -/
def GivenUp (gone : UIDelegate) : Prop :=
  ∃ held log, Held.Released .uiDelegate held gone log

theorem givenUp_left (delegate : UIDelegate) : delegate.left.GivenUp :=
  ⟨delegate, _, Held.released delegate⟩

theorem implementation_left (delegate : UIDelegate) :
    delegate.left.implementation = delegate.implementation := by
  rw [left, Held.run_release]
  cases delegate.implementation.work.close delegate.received <;> rfl

theorem closes_left (delegate : UIDelegate) : delegate.left.closes = delegate.closes + 1 :=
  (Held.released (c := .uiDelegate) delegate).received.2

def ofHost (delegate : UIDelegate) : Nat :=
  if delegate.implementation.origin = .host then 1 else 0

theorem ofHost_left (delegate : UIDelegate) : delegate.left.ofHost = delegate.ofHost := by
  rw [ofHost, implementation_left, ofHost]

def hostCloses (delegate : UIDelegate) : Nat :=
  delegate.ofHost * delegate.closes

theorem hostCloses_left (delegate : UIDelegate) :
    delegate.left.hostCloses = delegate.hostCloses + delegate.ofHost := by
  rw [hostCloses, ofHost_left, closes_left, Nat.mul_add, Nat.mul_one, hostCloses]

def Request.closes : Request → Nat
  | close => 1
  | _ => 0

def asked (delegate : UIDelegate) (request : Request) : UIDelegate :=
  (request.serve.run delegate).value.2

theorem hostCloses_asked (delegate : UIDelegate) (request : Request) :
    (delegate.asked request).hostCloses =
      delegate.hostCloses + delegate.ofHost * request.closes := by
  have closes : (delegate.asked request).closes = delegate.closes + request.closes := by
    rw [asked, Request.run_serve, UIDelegate.closes, List.count_append]
    cases request <;> rfl
  have same : (delegate.asked request).ofHost = delegate.ofHost := by
    rw [asked, Request.run_serve]
    rfl
  rw [hostCloses, same, closes, Nat.mul_add, hostCloses]

end UIDelegate

namespace Session

open UIDelegate (hostCloses ofHost)

def givenUp (s : Session) : Nat :=
  (s.released.map ofHost).sum

theorem closes_eq (s : Session) :
    s.closes = s.delegates.total hostCloses + (s.released.map hostCloses).sum := by
  have weight : (fun delegate : UIDelegate =>
      if delegate.implementation.origin = .host then delegate.closes else 0) = hostCloses := by
    funext delegate
    rw [hostCloses, ofHost, ite_mul, Nat.one_mul, Nat.zero_mul]
  rw [closes, weight, ← List.sum, List.map_append, List.sum_append, List.map_map]
  rfl

inductive Deed
  | hold (name : String) (c : Capability) (held : Held c)
  | ask (name : String) (request : UIDelegate.Request)
  | drop (name : String)
  | fail (c : Capability) (failure : DefaultFailure c)

namespace Deed

def perform : Deed → Act Session Unit
  | hold name c held => Session.hold name c held
  | ask name request => do
      let _ ← Session.ask name .uiDelegate request.serve
  | drop name => Session.drop name
  | fail _ failure => modify (recordFailure failure)

def after (s : Session) (deed : Deed) : Session :=
  (deed.perform.run s).value.2

def requested (s : Session) : Deed → Nat
  | ask name request =>
      (s.delegates.get? name).elim 0 fun delegate => delegate.ofHost * request.closes
  | _ => 0

/-- What is held was not closed before, and what failed was given up. -/
def Proper : Deed → Prop
  | hold _ .uiDelegate delegate => UIDelegate.closes delegate = 0
  | fail .uiDelegate failure =>
      ∀ gone, failure.abandoned = some gone →
        UIDelegate.GivenUp gone ∧ UIDelegate.closes gone = 1
  | _ => True

def without (s : Session) (name : String) : Session :=
  { s with
    delegates := s.delegates.erase name
    released := ((s.delegates.get? name).map UIDelegate.left).toList ++ s.released }

theorem after_drop (s : Session) (name : String) : after s (drop name) = without s name := by
  rw [after, perform, Session.drop, without]
  cases there : s.delegates.get? name with
  | none => simp [there]
  | some old =>
      simp [there]
      rfl

theorem after_hold (s : Session) (name : String) (delegate : UIDelegate) :
    after s (hold name .uiDelegate delegate) =
      { without s name with delegates := s.delegates.insert name delegate } := by
  rw [after, perform, Session.hold, without]
  cases there : s.delegates.get? name with
  | none => simp [there]
  | some old =>
      simp [there]
      rfl

theorem after_ask (s : Session) (name : String) (request : UIDelegate.Request) :
    after s (ask name request) =
      { s with delegates := (s.delegates.get? name).elim s.delegates fun delegate =>
          s.delegates.insert name (delegate.asked request) } := by
  rw [after, perform, Session.ask]
  cases there : s.delegates.get? name with
  | none => simp [there, held]
  | some old =>
      simp [there, held]
      rfl

theorem after_fail (s : Session) (failure : DefaultFailure .uiDelegate) :
    after s (fail .uiDelegate failure) =
      { s with released := failure.abandoned.toList ++ s.released } := by
  obtain ⟨error, abandoned⟩ := failure
  cases abandoned <;> rfl

theorem closes_without (s : Session) (name : String) :
    (without s name).closes + s.givenUp = s.closes + (without s name).givenUp := by
  have weighed := Dictionary.total_erase hostCloses s.delegates name
  rw [closes_eq, closes_eq, givenUp, givenUp, without]
  cases there : s.delegates.get? name with
  | none =>
      rw [there] at weighed
      simp at weighed ⊢
      omega
  | some old =>
      rw [there] at weighed
      simp [UIDelegate.hostCloses_left, UIDelegate.ofHost_left] at weighed ⊢
      omega

theorem closes_hold (s : Session) (name : String) {delegate : UIDelegate}
    (unclosed : delegate.closes = 0) :
    (after s (hold name .uiDelegate delegate)).closes = (without s name).closes := by
  rw [after_hold, closes_eq, closes_eq, Dictionary.total_insert, hostCloses, unclosed]
  simp [without]

theorem closes_ask (s : Session) (name : String) (request : UIDelegate.Request) :
    (after s (ask name request)).closes = s.closes + (ask name request).requested s := by
  rw [after_ask, closes_eq, closes_eq, requested]
  cases there : s.delegates.get? name with
  | none => simp
  | some delegate =>
      have weighed := Dictionary.total_erase hostCloses s.delegates name
      rw [there] at weighed
      simp [Dictionary.total_insert, UIDelegate.hostCloses_asked] at weighed ⊢
      omega

theorem closes_fail (s : Session) {failure : DefaultFailure .uiDelegate}
    (proper : (fail .uiDelegate failure).Proper) :
    (after s (fail .uiDelegate failure)).closes + s.givenUp =
      s.closes + (after s (fail .uiDelegate failure)).givenUp := by
  rw [after_fail, closes_eq, closes_eq, givenUp, givenUp]
  cases there : failure.abandoned with
  | none => simp
  | some gone =>
      have closed : hostCloses gone = ofHost gone := by
        rw [hostCloses, (proper gone there).2, Nat.mul_one]
      simp [closed]
      omega

/-- A deed adds to the closes what it asks for, and one for each of the host's delegates
that it gives up. -/
theorem closes_after (s : Session) {deed : Deed} (proper : deed.Proper) :
    (after s deed).closes + s.givenUp = s.closes + (after s deed).givenUp + deed.requested s := by
  cases deed with
  | hold name c held =>
      cases c with
      | manager => rfl
      | uiDelegate =>
          rw [closes_hold s name proper, closes_without, after_hold]
          rfl
  | ask name request =>
      have same : (after s (ask name request)).givenUp = s.givenUp := by
        rw [after_ask]
        rfl
      rw [closes_ask, same, Nat.add_right_comm]
  | drop name =>
      rw [after_drop, closes_without]
      rfl
  | fail c failure =>
      cases c with
      | manager => rfl
      | uiDelegate => exact closes_fail s proper

theorem givenUp_of_mem_released {s : Session} {deed : Deed} (proper : deed.Proper)
    (before : ∀ gone ∈ s.released, gone.GivenUp) :
    ∀ gone ∈ (after s deed).released, gone.GivenUp := by
  have dropped name : ∀ gone ∈ (without s name).released, gone.GivenUp := by
    rw [without]
    refine List.forall_mem_append.2 ⟨fun gone member => ?_, before⟩
    obtain ⟨old, -, rfl⟩ := Option.map_eq_some_iff.1 (Option.mem_toList.1 member)
    exact old.givenUp_left
  cases deed with
  | hold name c held =>
      cases c with
      | manager => exact before
      | uiDelegate =>
          rw [after_hold]
          exact dropped name
  | ask name request =>
      rw [after_ask]
      exact before
  | drop name =>
      rw [after_drop]
      exact dropped name
  | fail c failure =>
      cases c with
      | manager => exact before
      | uiDelegate =>
          rw [after_fail]
          refine List.forall_mem_append.2 ⟨fun gone member => ?_, before⟩
          exact (proper gone (Option.mem_toList.1 member)).1

def requestedAlong (s : Session) : List Deed → Nat
  | [] => 0
  | deed :: rest => deed.requested s + requestedAlong (deed.after s) rest

theorem closes_foldl {s : Session} {deeds : List Deed} (proper : ∀ deed ∈ deeds, deed.Proper) :
    (deeds.foldl after s).closes + s.givenUp =
      s.closes + (deeds.foldl after s).givenUp + requestedAlong s deeds := by
  induction deeds generalizing s with
  | nil => rfl
  | cons deed rest ih =>
      rw [List.forall_mem_cons] at proper
      have first := closes_after s proper.1
      have others := ih (s := after s deed) proper.2
      rw [List.foldl_cons, requestedAlong]
      omega

theorem givenUp_foldl {s : Session} {deeds : List Deed} (proper : ∀ deed ∈ deeds, deed.Proper)
    (before : ∀ gone ∈ s.released, gone.GivenUp) :
    ∀ gone ∈ (deeds.foldl after s).released, gone.GivenUp := by
  induction deeds generalizing s with
  | nil => exact before
  | cons deed rest ih =>
      rw [List.forall_mem_cons] at proper
      exact ih proper.2 (givenUp_of_mem_released proper.1 before)

section Started

variable {σ : Type} {provider : Provider σ (Implementation .uiDelegate)} {w : World} {path : String}
  {s t : σ} {log : List Event}

/-- A default delegate that was made can be held. -/
theorem proper_hold_of_started {delegate : UIDelegate} (name : String)
    (started : Default.Started provider w path s (.ok delegate) t log) :
    (hold name .uiDelegate delegate).Proper := by
  obtain ⟨-, -, -, closes⟩ := started.received rfl
  exact closes

theorem proper_fail_of_started {failure : DefaultFailure .uiDelegate}
    (started : Default.Started provider w path s (.error failure) t log) :
    (fail .uiDelegate failure).Proper := by
  intro gone abandoned
  obtain ⟨-, -, -, closes⟩ := started.received abandoned
  refine ⟨?_, closes⟩
  cases started with
  | unread | unmade => cases abandoned
  | made load make configured =>
      cases configured with
      | refused configure release =>
          cases abandoned
          exact ⟨_, _, release⟩

end Started

end Deed

/-- Whatever is done in a session, every delegate that was given up has been closed once
more, and the host's own delegates were closed as often as that and as the host asked
for it. -/
theorem closes_of_deeds (w : World) {deeds : List Deed} (proper : ∀ deed ∈ deeds, deed.Proper) :
    let s : Session := deeds.foldl Deed.after { world := w }
    (∀ gone ∈ s.released, gone.GivenUp) ∧
      s.closes = s.givenUp + Deed.requestedAlong { world := w } deeds := by
  intro s
  refine ⟨Deed.givenUp_foldl proper (List.forall_mem_nil _), ?_⟩
  have accounted := Deed.closes_foldl (s := { world := w }) proper
  rw [show givenUp { world := w } = 0 from rfl, show closes { world := w } = 0 from rfl,
    Nat.add_zero, Nat.zero_add] at accounted
  exact accounted

end Session

end AssetLink
