import AssetLink.Proofs.Host.Starting
import AssetLink.Proofs.Host.Surveying

/-!
A delegate's life with a host. Everything the host asks of it is passed on and
answered by the implementation itself, and when the host has done with it, it is
closed once more, whatever came before. What is made for a survey is not closed.
-/

namespace AssetLink

namespace UIDelegate

inductive Request
  | configure (settings : InfoDictionary)
  | close
  | info
  | settings
  | identifier
  | displayName

inductive Reply
  | done (result : Except AssetError Unit)
  | dictionary (result : Except AssetError InfoDictionary)
  | text (value : String)

namespace Request

def call : Request → Call
  | configure given => .configure given
  | close => .close
  | info => .info
  | settings => .settings
  | identifier => .identifier
  | displayName => .displayName

/-- What the host asks for its log before it passes a request on. -/
def aside : Request → History
  | configure _ => [.identifier]
  | _ => []

def answer (implementation : Implementation .uiDelegate) (history : History) : Request → Reply
  | configure given => .done (implementation.configure history given)
  | close => .done (implementation.work.close history)
  | info => .dictionary (implementation.info history)
  | settings => .dictionary (implementation.settings history)
  | identifier => .text (implementation.identifier history)
  | displayName => .text (implementation.displayName history)

def notes (implementation : Implementation .uiDelegate) (history : History) : Request → List Event
  | configure given => [.configuring .uiDelegate (implementation.identifier history) given.size]
  | _ => []

def serve : Request → Act UIDelegate Reply
  | configure given => .done <$> (Held.configure given).run
  | close => .done <$> UIDelegate.close.run
  | info => .dictionary <$> Held.info.run
  | settings => .dictionary <$> Held.settings.run
  | identifier => .text <$> Held.identifier
  | displayName => .text <$> Held.displayName

def heard (requests : List Request) : History :=
  requests.flatMap fun request => request.aside ++ [request.call]

theorem heard_cons (request : Request) (rest : List Request) :
    heard (request :: rest) = request.aside ++ [request.call] ++ heard rest :=
  List.flatMap_cons

theorem run_serve (request : Request) (held : UIDelegate) :
    request.serve.run held =
      ⟨(request.answer held.implementation (held.received ++ request.aside),
          { held with received := held.received ++ (request.aside ++ [request.call]) }),
        request.notes held.implementation held.received⟩ := by
  cases request with
  | configure given =>
      rw [serve, StateT.run_map, Held.run_configure]
      rfl
  | close | info | settings | identifier | displayName =>
      rw [aside, List.append_nil]
      · rfl
      · nofun

theorem level_of_mem_notes {request : Request} {implementation : Implementation .uiDelegate}
    {history : History} {event : Event} (member : event ∈ request.notes implementation history) :
    event.level = .debug := by
  cases request with
  | configure given =>
      rw [List.mem_singleton.1 member]
      rfl
  | _ => cases member

theorem run_mapM_serve (requests : List Request) (held : UIDelegate) :
    (requests.mapM serve).run held =
      ⟨(requests.mapIdx fun i request => request.answer held.implementation
            (held.received ++ heard (requests.take i) ++ request.aside),
          { held with received := held.received ++ heard requests }),
        (requests.mapIdx fun i request => request.notes held.implementation
          (held.received ++ heard (requests.take i))).flatten⟩ := by
  induction requests generalizing held with
  | nil =>
      rw [heard, List.flatMap_nil, List.append_nil]
      rfl
  | cons request rest ih =>
      rw [List.mapM_cons, StateT.run_bind, run_serve, Logged.mk_bind, StateT.run_bind, ih,
        heard_cons, List.mapIdx_cons, List.mapIdx_cons]
      simp [heard]

end Request

/-- A delegate's life: one request after another, and then it is given up. -/
def live (requests : List Request) : Act UIDelegate (List Reply) := do
  let replies ← requests.mapM Request.serve
  release
  return replies

theorem run_live (implementation : Implementation .uiDelegate) (requests : List Request) :
    let given := release.run ⟨implementation, Request.heard requests⟩
    (live requests).run ⟨implementation, []⟩ =
      ⟨(requests.mapIdx fun i request => request.answer implementation
            (Request.heard (requests.take i) ++ request.aside), given.value.2),
        (requests.mapIdx fun i request => request.notes implementation
          (Request.heard (requests.take i))).flatten ++ given.events⟩ := by
  intro given
  rw [live, StateT.run_bind, Request.run_mapM_serve, Logged.mk_bind, StateT.run_bind]
  simp [given]

theorem errors_live (implementation : Implementation .uiDelegate) (requests : List Request) :
    ((live requests).run ⟨implementation, []⟩).events.filter (·.level = .error) =
      (release.run ⟨implementation, Request.heard requests⟩).events.filter (·.level = .error) := by
  have quiet : (requests.mapIdx fun i request => request.notes implementation
      (Request.heard (requests.take i))).flatten.filter (·.level = .error) = [] := by
    refine List.filter_eq_nil_iff.2 fun event member => ?_
    obtain ⟨notes, noted, member⟩ := List.mem_flatten.1 member
    obtain ⟨i, within, rfl⟩ := List.mem_mapIdx.1 noted
    simp [Request.level_of_mem_notes member]
  rw [run_live, List.filter_append, quiet, List.nil_append]

theorem run_create {σ : Type} {c : Capability} (provider : Provider σ (Implementation c))
    (w : World) (identifier : String) (s : σ) :
    (provider.create w identifier).run.run s =
      (fun made => (made.1.map fun implementation => ⟨implementation, []⟩, made.2)) <$>
        (provider.instantiate w identifier).run.run s := by
  rw [Provider.create, Attempt.run_bind, map_eq_pure_bind]
  exact bind_congr fun made => by cases made.1 <;> rfl

/-- Whatever a host asks of a delegate is passed on and answered by the delegate
itself, and in the end it is closed once more. Should that fail, it is logged and
nothing else. Delegates that are made for a survey are not closed. -/
theorem life_ends_with_one_more_close {σ : Type} (implementation : Implementation .uiDelegate)
    (requests : List Request) (provider : Provider σ (Implementation .uiDelegate)) (w : World)
    (identifier : String) (s : σ) :
    let heard := Request.heard
    let life := (live requests).run ⟨implementation, []⟩
    let complaints := life.events.filter (·.level = .error)
    let survey := (Survey.run provider w).run.run { provider := s }
    life.value.1 = requests.mapIdx (fun i request =>
      request.answer implementation (heard (requests.take i) ++ request.aside)) ∧
    (match implementation.work.close (heard requests) with
      | .ok () => life.value.2 = ⟨implementation, heard requests ++ [.close]⟩ ∧ complaints = []
      | .error error =>
          let name := implementation.identifier (heard requests ++ [.close])
          let complaint : Event := .closeFailed name error
          life.value.2 = ⟨implementation, heard requests ++ [.close, .identifier]⟩ ∧
          complaints = [complaint] ∧
          complaint.message = s!"Error closing UI delegate '{name}': {error.message}") ∧
    (provider.create w identifier).run.run s =
      (fun made => (made.1.map fun implementation => ⟨implementation, []⟩, made.2)) <$>
        (provider.instantiate w identifier).run.run s ∧
    (provider.keeping.available w).run.run (s, []) =
      (fun done => (done.1, done.2, survey.value.2.made.map (·.implementation))) <$>
        (provider.available w).run.run s ∧
    ∀ delegate ∈ survey.value.2.made, delegate.received = [.identifier, .displayName, .info] := by
  intro heard life complaints survey
  have whole : life = _ := run_live implementation requests
  have errors : complaints = _ := errors_live implementation requests
  refine ⟨?_, ?_, run_create provider w identifier s, Survey.available_keeping provider w s,
    fun delegate member => ?_⟩
  · rw [whole]
  · rw [whole, errors, Held.run_release]
    cases implementation.work.close (heard requests) with
    | ok _ => exact ⟨rfl, rfl⟩
    | error error => exact ⟨rfl, rfl, rfl⟩
  · rw [Survey.onlyLooked_run provider w s delegate member]
    rfl

end UIDelegate

end AssetLink
