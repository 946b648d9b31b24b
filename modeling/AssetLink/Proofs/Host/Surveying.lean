import AssetLink.Host.Survey
import AssetLink.Proofs.Change

/-!
What a survey does to what it looks at. Whatever the provider makes is asked for
its identifier, its display name and its info, in this order and for nothing
else, whether the survey goes on after it or ends with it.
-/

namespace AssetLink

namespace Provider

variable {σ ι : Type}

def keeping (provider : Provider σ ι) : Provider (σ × List ι) ι :=
  let inner := provider.within Prod.fst fun (s : σ) (t : σ × List ι) => (s, t.2)
  { identifiers := inner.identifiers
    instantiate := fun w identifier => do
      let made ← inner.instantiate w identifier
      modify fun (s, kept) => (s, kept ++ [made])
      return made }

theorem run_identifiers_keeping (provider : Provider σ ι) (w : World) (s : σ) (kept : List ι) :
    (provider.keeping.identifiers w).run (s, kept) =
      (fun listed => (listed.1, listed.2, kept)) <$> (provider.identifiers w).run s := rfl

theorem run_instantiate_keeping (provider : Provider σ ι) (w : World) (identifier : String)
    (s : σ) (kept : List ι) :
    (provider.keeping.instantiate w identifier).run.run (s, kept) =
      (fun made => (made.1, made.2, kept ++ made.1.toOption.toList)) <$>
        (provider.instantiate w identifier).run.run s := by
  rw [keeping, Attempt.run_bind]
  change (fun made => (made.1, made.2, kept)) <$>
    (provider.instantiate w identifier).run.run s >>= _ = _
  rw [bind_map_left, map_eq_pure_bind]
  refine bind_congr fun made => ?_
  rcases made with ⟨_ | implementation, t⟩
  · simp [Except.toOption]
  · rfl

end Provider

namespace Survey

variable {σ : Type} {c : Capability}

def looked (implementation : Implementation c) : Held c :=
  ⟨implementation, [.identifier, .displayName, .info]⟩

def told (implementation : Implementation c) : Except AssetError Detail :=
  (implementation.info [.identifier, .displayName]).map fun info =>
    ⟨implementation.identifier [], implementation.displayName [.identifier], info⟩

def noted (s : Survey σ c) (identifier : String) (made : Except AssetError (Implementation c) × σ) :
    Except AssetError Unit × Survey σ c :=
  match made with
  | (.error error, provider) => (.error error, { s with provider })
  | (.ok implementation, provider) =>
      let s := { s with provider, made := s.made ++ [looked implementation] }
      match told implementation with
      | .error error => (.error error, s)
      | .ok detail => (.ok (), { s with details := s.details.insert identifier detail })

theorem run_detail (implementation : Implementation c) :
    Held.detail.run.run ⟨implementation, []⟩ =
      pure (told implementation, looked implementation) := by
  change StateT.run (ExceptT.run (Held.info >>= _))
    ⟨implementation, [.identifier, .displayName]⟩ = _
  rw [Attempt.run_bind, told]
  change (pure (implementation.info [.identifier, .displayName], looked implementation) : Logged _)
    >>= _ = _
  rw [pure_bind]
  cases implementation.info [.identifier, .displayName] <;> rfl

theorem run_look (provider : Provider σ (Implementation c)) (w : World) (identifier : String)
    (s : Survey σ c) :
    (look provider w identifier).run.run s =
      noted s identifier <$> (provider.instantiate w identifier).run.run s.provider := by
  rw [look, Attempt.run_bind, map_eq_pure_bind]
  change (fun made => (made.1, { s with provider := made.2 })) <$>
    (provider.instantiate w identifier).run.run s.provider >>= _ = _
  rw [bind_map_left]
  refine bind_congr fun made => ?_
  rcases made with ⟨_ | implementation, t⟩
  · rfl
  · dsimp only [noted]
    rw [Attempt.run_logged_bind]
    change Held.detail.run.run ⟨implementation, []⟩ >>= _ = _
    rw [run_detail, pure_bind]
    cases told implementation <;> rfl

theorem run_forM_look_cons (provider : Provider σ (Implementation c)) (w : World)
    (identifier : String) (rest : List String) (s : Survey σ c) :
    ((identifier :: rest).forM (look provider w)).run.run s = do
      let made ← (provider.instantiate w identifier).run.run s.provider
      let seen := noted s identifier made
      match seen.1 with
      | .ok _ => (rest.forM (look provider w)).run.run seen.2
      | .error error => return (.error error, seen.2) := by
  rw [List.forM_eq_forM, List.forM_cons, Attempt.run_bind, run_look, bind_map_left]
  refine bind_congr fun made => ?_
  dsimp only
  cases (noted s identifier made).1 <;> rfl

/-- Everything made so far was asked for its details and for nothing else. -/
def OnlyLooked (s : Survey σ c) : Prop :=
  ∀ held ∈ s.made, held = looked held.implementation

theorem OnlyLooked.noted {s : Survey σ c} (h : s.OnlyLooked) (identifier : String)
    (made : Except AssetError (Implementation c) × σ) : (s.noted identifier made).2.OnlyLooked := by
  rcases made with ⟨_ | implementation, provider⟩
  · exact h
  · have left : ∀ held ∈ s.made ++ [looked implementation], held = looked held.implementation := by
      simpa [or_imp, forall_and] using ⟨h, rfl⟩
    rw [Survey.noted]
    cases told implementation <;> exact left

theorem OnlyLooked.forM_look {s : Survey σ c} (h : s.OnlyLooked)
    (provider : Provider σ (Implementation c)) (w : World) (identifiers : List String) :
    ((identifiers.forM (look provider w)).run.run s).value.2.OnlyLooked := by
  induction identifiers generalizing s with
  | nil => exact h
  | cons identifier rest ih =>
      rw [run_forM_look_cons, Logged.value_bind]
      have seen := h.noted identifier ((provider.instantiate w identifier).run.run s.provider).value
      dsimp only
      split
      · exact ih seen
      · exact seen

def keeping (s : Survey σ c) : Survey (σ × List (Implementation c)) c :=
  { s with provider := (s.provider, s.made.map (·.implementation)) }

theorem noted_keeping (s : Survey σ c) (identifier : String)
    (made : Except AssetError (Implementation c) × σ) :
    noted s.keeping identifier
        (made.1, made.2, s.made.map (·.implementation) ++ made.1.toOption.toList) =
      ((noted s identifier made).1, (noted s identifier made).2.keeping) := by
  rcases made with ⟨_ | implementation, t⟩
  · simp [noted, keeping, Except.toOption]
  · simp only [noted, keeping]
    cases told implementation <;> simp [looked, Except.toOption]

theorem run_forM_look_keeping (provider : Provider σ (Implementation c)) (w : World)
    (identifiers : List String) (s : Survey σ c) :
    (identifiers.forM (look provider.keeping w)).run.run s.keeping =
      (fun done => (done.1, done.2.keeping)) <$>
        (identifiers.forM (look provider w)).run.run s := by
  induction identifiers generalizing s with
  | nil => rfl
  | cons identifier rest ih =>
      rw [run_forM_look_cons, run_forM_look_cons, map_bind, keeping,
        Provider.run_instantiate_keeping, bind_map_left]
      refine bind_congr fun made => ?_
      have seen := noted_keeping s identifier made
      rw [keeping] at seen
      dsimp only
      rw [seen]
      cases (noted s identifier made).1 with
      | ok _ => exact ih _
      | error _ => rfl

theorem run_run (provider : Provider σ (Implementation c)) (w : World) (s : Survey σ c) :
    (run provider w).run.run s = (provider.identifiers w).run s.provider >>= fun listed =>
      (listed.1.forM (look provider w)).run.run { s with provider := listed.2 } := by
  rw [run]
  change StateT.run (ExceptT.run (ExceptT.lift (onProvider (provider.identifiers w)) >>= _)) s = _
  rw [ExceptT.run_bind_lift, StateT.run_bind]
  change (fun listed => (listed.1, { s with provider := listed.2 })) <$>
    (provider.identifiers w).run s.provider >>= _ = _
  rw [bind_map_left]

theorem run_keeping (provider : Provider σ (Implementation c)) (w : World) (s : Survey σ c) :
    (run provider.keeping w).run.run s.keeping =
      (fun done => (done.1, done.2.keeping)) <$> (run provider w).run.run s := by
  rw [run_run, run_run, map_bind, keeping, Provider.run_identifiers_keeping, bind_map_left]
  exact bind_congr fun listed =>
    run_forM_look_keeping provider w listed.1 { s with provider := listed.2 }

theorem onlyLooked_run (provider : Provider σ (Implementation c)) (w : World) (s : σ) :
    ((run provider w).run.run { provider := s }).value.2.OnlyLooked := by
  have started : ∀ t, OnlyLooked ({ provider := t } : Survey σ c) := fun t held member => by
    cases member
  rw [run_run, Logged.value_bind]
  exact (started _).forM_look provider w _

/-- A provider that keeps what it made has been asked by a survey to make just
what the survey has looked at. -/
theorem available_keeping (provider : Provider σ (Implementation c)) (w : World) (s : σ) :
    (provider.keeping.available w).run.run (s, []) =
      (fun done => (done.1, done.2,
        ((run provider w).run.run { provider := s }).value.2.made.map (·.implementation))) <$>
        (provider.available w).run.run s := by
  have kept := run_keeping provider w { provider := s }
  rw [keeping, List.map_nil] at kept
  change (fun done => (done.1.map fun _ => done.2.details, done.2.provider)) <$>
    (run provider.keeping w).run.run _ = _
  rw [kept]
  rfl

end Survey

end AssetLink
