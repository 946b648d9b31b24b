import Mathlib
import AssetLink.Host.Default
import AssetLink.Proofs.Change
import AssetLink.Proofs.DefaultConfig.Loading
import AssetLink.Proofs.Discovery.Scanning

/-!
How a default implementation comes about. The config is loaded, what it names is
made, and what was made is configured; each step is taken only if the one before
succeeded, and the first failure is handed back as it is.
-/

namespace AssetLink

def Call.configured? : Call → Option InfoDictionary
  | .configure given => some given
  | _ => none

namespace Held

variable {c : Capability}

theorem run_configure (settings : InfoDictionary) (held : Held c) :
    (configure settings).run.run held =
      ⟨(held.implementation.configure (held.received ++ [.identifier]) settings,
          { held with received := held.received ++ [.identifier, .configure settings] }),
        [.configuring c (held.implementation.identifier held.received) settings.size]⟩ := by
  rw [List.append_cons held.received .identifier [.configure settings]]
  rfl

/-- What becomes of an implementation that is given up, with what is logged. A
delegate is closed, whether that succeeds or not; a manager is left alone. -/
inductive Released : (c : Capability) → Held c → Held c → List Event → Prop
  | manager (held : Manager) : Released .manager held held []
  | closed {held : UIDelegate} (close : held.implementation.work.close held.received = .ok ()) :
      Released .uiDelegate held { held with received := held.received ++ [.close] } []
  | closeFailed {held : UIDelegate} {e : AssetError}
      (close : held.implementation.work.close held.received = .error e) :
      Released .uiDelegate held { held with received := held.received ++ [.close, .identifier] }
        [.closeFailed (held.implementation.identifier (held.received ++ [.close])) e]

theorem run_close (held : UIDelegate) :
    UIDelegate.close.run.run held =
      ⟨(held.implementation.work.close held.received,
        { held with received := held.received ++ [.close] }), []⟩ := rfl

theorem run_release (held : UIDelegate) :
    UIDelegate.release.run held =
      match held.implementation.work.close held.received with
      | .ok () => ⟨((), { held with received := held.received ++ [.close] }), []⟩
      | .error e =>
          ⟨((), { held with received := held.received ++ [.close, .identifier] }),
            [.closeFailed (held.implementation.identifier (held.received ++ [.close])) e]⟩ := by
  rw [UIDelegate.release, StateT.run_bind, run_close]
  cases held.implementation.work.close held.received with
  | ok _ => rfl
  | error e =>
    rw [List.append_cons held.received .close [.identifier]]
    rfl

theorem released (held : Held c) :
    Released c held ((release c).run held).value.2 ((release c).run held).events := by
  cases c with
  | manager => exact .manager held
  | uiDelegate =>
    rw [release, run_release]
    cases close : held.implementation.work.close held.received with
    | ok _ => exact .closed close
    | error e => exact .closeFailed close

theorem Released.received {held left : Held c} {log : List Event} (h : Released c held left log) :
    left.received.filterMap Call.configured? = held.received.filterMap Call.configured? ∧
    left.received.count .close =
      held.received.count .close + if c = .uiDelegate then 1 else 0 := by
  cases h with
  | manager => exact ⟨rfl, rfl⟩
  | closed close => simp [Call.configured?]
  | closeFailed close => simp [Call.configured?]

end Held

namespace Starting

variable {σ α β : Type} {c : Capability}

theorem run_ofAttempt (attempt : Attempt σ α) (s : σ) :
    (ofAttempt attempt : Starting σ c α).run.run s =
      (fun done => (done.1.mapError fun error => { error }, done.2)) <$> attempt.run.run s := rfl

theorem run_map (x : Starting σ c α) (f : α → β) (s : σ) :
    (do return f (← x) : Starting σ c β).run.run s =
      (fun done => (done.1.map f, done.2)) <$> x.run.run s := by
  rw [Attempt.run_bind, map_eq_pure_bind]
  exact bind_congr fun done => by cases done.1 <;> rfl

end Starting

namespace Default

variable {σ : Type} {c : Capability}

/-- How configuring an implementation that was just made ends. If it refuses the
settings, it is given up before its error is handed back. -/
inductive Configured (settings : InfoDictionary) (implementation : Implementation c) :
    Except (DefaultFailure c) (Held c) → List Event → Prop
  | taken (configure : implementation.configure [.identifier] settings = .ok ()) :
      Configured settings implementation
        (.ok ⟨implementation, [.identifier, .configure settings]⟩)
        [.configuring c (implementation.identifier []) settings.size]
  | refused {error : AssetError} {left : Held c} {log : List Event}
      (configure : implementation.configure [.identifier] settings = .error error)
      (release : Held.Released c ⟨implementation, [.identifier, .configure settings]⟩ left log) :
      Configured settings implementation (.error { error, abandoned := some left })
        (.configuring c (implementation.identifier []) settings.size :: log)

/-- How making the default implementation for a config file ends, with the state
of the provider and the log that this leaves. -/
inductive Started (provider : Provider σ (Implementation c)) (w : World) (path : String) (s : σ) :
    Except (DefaultFailure c) (Held c) → σ → List Event → Prop
  | unread {error : AssetError} (load : DefaultConfig.read c w path = .error error) :
      Started provider w path s (.error { error }) s [.loadingConfig c path]
  | unmade {config : DefaultConfig} {error : AssetError} {t : σ} {log : List Event}
      (load : DefaultConfig.read c w path = .ok config)
      (make : (provider.instantiate w config.identifier).run.run s = ⟨(.error error, t), log⟩) :
      Started provider w path s (.error { error }) t (.loadingConfig c path :: log)
  | made {config : DefaultConfig} {implementation : Implementation c} {t : σ}
      {outcome : Except (DefaultFailure c) (Held c)} {making configuring : List Event}
      (load : DefaultConfig.read c w path = .ok config)
      (make : (provider.instantiate w config.identifier).run.run s =
        ⟨(.ok implementation, t), making⟩)
      (configured : Configured (config.settingsFor c) implementation outcome configuring) :
      Started provider w path s outcome t (.loadingConfig c path :: making ++ configuring)

def configureMade (settings : InfoDictionary) (implementation : Implementation c) :
    Logged (Except (DefaultFailure c) (Held c)) := do
  let (answer, held) ← (Held.configure settings).run.run ⟨implementation, []⟩
  match answer with
  | .ok () => return .ok held
  | .error error =>
      let ((), abandoned) ← (Held.release c).run held
      return .error { error, abandoned := some abandoned }

theorem configured (settings : InfoDictionary) (implementation : Implementation c) :
    Configured settings implementation (configureMade settings implementation).value
      (configureMade settings implementation).events := by
  rw [configureMade, Held.run_configure]
  cases configure : implementation.configure [.identifier] settings with
  | ok _ => simpa [configure] using Configured.taken configure
  | error e => simpa [configure] using Configured.refused configure (Held.released _)

theorem run_fromConfig (provider : Provider σ (Implementation c)) (w : World)
    (config : DefaultConfig) (s : σ) :
    (fromConfig provider w config).run.run s = do
      let made ← (provider.instantiate w config.identifier).run.run s
      match made.1 with
      | .ok implementation =>
          (fun outcome => (outcome, made.2)) <$>
            configureMade (config.settingsFor c) implementation
      | .error error => return (.error { error }, made.2) := by
  rw [fromConfig, Attempt.run_bind, Starting.run_ofAttempt, bind_map_left]
  refine bind_congr fun made => ?_
  rcases made with ⟨_ | implementation, t⟩
  · rfl
  -- What the provider made is its own from here on, so the state `t` stays.
  · change StateT.run (ExceptT.run (liftM ((Held.configure (config.settingsFor c)).run.run
      ⟨implementation, []⟩) >>= _)) t = _
    rw [Attempt.run_logged_bind]
    change _ = _ <$> (_ >>= _)
    rw [map_bind]
    refine bind_congr fun done => ?_
    rcases done with ⟨_ | _, held⟩
    · change StateT.run (ExceptT.run (liftM ((Held.release c).run held) >>= _)) t = _ <$> (_ >>= _)
      rw [Attempt.run_logged_bind, map_bind]
      rfl
    · rfl

theorem run_loadConfig (w : World) (path : String) (s : σ) :
    (loadConfig w path : Starting σ c DefaultConfig).run.run s =
      ⟨((DefaultConfig.read c w path).mapError fun error => { error }, s),
        [.loadingConfig c path]⟩ := by
  rw [loadConfig, Starting.run_ofAttempt, DefaultConfig.run_load]
  rfl

theorem run_loadConfig_bind {α : Type} (w : World) (path : String)
    (next : DefaultConfig → Starting σ c α) (s : σ) :
    (loadConfig w path >>= next).run.run s = do
      Logged.log (.loadingConfig c path)
      match DefaultConfig.read c w path with
      | .ok config => (next config).run.run s
      | .error error => return (.error { error }, s) := by
  rw [Attempt.run_bind, run_loadConfig]
  cases DefaultConfig.read c w path with
  | ok config => rfl
  | error e => rfl

theorem started (provider : Provider σ (Implementation c)) (w : World) (path : String) (s : σ) :
    let made := (fromFile provider w path).run.run s
    Started provider w path s made.value.1 made.value.2 made.events := by
  intro made
  have steps : made = _ := run_loadConfig_bind w path (fromConfig provider w) s
  rw [steps]
  cases load : DefaultConfig.read c w path with
  | error error => exact .unread load
  | ok config =>
    dsimp only
    rw [run_fromConfig]
    rcases make : (provider.instantiate w config.identifier).run.run s with ⟨⟨result, t⟩, log⟩
    cases result with
    | error error => simpa using Started.unmade load make
    | ok implementation => simpa using Started.made load make (configured _ _)

def made? : Except (DefaultFailure c) (Held c) → Option (Held c)
  | .ok held => some held
  | .error failure => failure.abandoned

theorem Started.received {provider : Provider σ (Implementation c)} {w : World} {path : String}
    {s t : σ} {outcome : Except (DefaultFailure c) (Held c)} {log : List Event} {held : Held c}
    (h : Started provider w path s outcome t log) (made : made? outcome = some held) :
    ∃ config, DefaultConfig.read c w path = .ok config ∧
      held.received.filterMap Call.configured? = [config.settingsFor c] ∧
      held.received.count .close =
        if c = .uiDelegate ∧ outcome.isOk = false then 1 else 0 := by
  cases h with
  | unread load => cases made
  | unmade load make => cases made
  | made load make configured =>
    refine ⟨_, load, ?_⟩
    cases configured with
    | taken configure =>
      cases made
      exact ⟨rfl, by simp [Except.isOk, Except.toBool]⟩
    | refused configure release =>
      cases made
      exact ⟨release.received.1, by simpa [Except.isOk, Except.toBool] using release.received.2⟩

def queries (c : Capability) (w : World) (path : String) : List Query :=
  match DefaultConfig.read c w path with
  | .ok config => [.instantiate config.identifier]
  | .error _ => []

theorem run_fromFile_recorded (provider : Provider σ (Implementation c)) (w : World)
    (path : String) (s : σ) (asked : List Query) :
    (fromFile provider.recorded w path).run.run (s, asked) =
      (fun made => (made.1, made.2, asked ++ queries c w path)) <$>
        (fromFile provider w path).run.run s := by
  rw [fromFile, fromFile, run_loadConfig_bind, run_loadConfig_bind, map_bind, queries]
  refine bind_congr fun _ => ?_
  cases DefaultConfig.read c w path with
  | error error => simp
  | ok config =>
    dsimp only
    rw [run_fromConfig, run_fromConfig, Provider.run_instantiate_recorded, bind_map_left, map_bind]
    refine bind_congr fun made => ?_
    rcases made with ⟨_ | implementation, t⟩
    · rfl
    · dsimp only
      rw [Functor.map_map]

/-- How it ends if only the environment may name the config file. -/
def ifNamed {α : Type} (w : World) (s : σ)
    (start : String → Logged (Except (DefaultFailure c) α × σ)) :
    Logged (Except (DefaultFailure c) (Option α) × σ) :=
  match w.valueOf? defaultConfigVariable with
  | none => ⟨(.ok none, s), [.configUnset c defaultConfigVariable]⟩
  | some path =>
      let made := start path
      ⟨(made.value.1.map some, made.value.2), .configFound c defaultConfigVariable :: made.events⟩

theorem run_configPath_bind {α : Type} (w : World) (start : String → Starting σ c α)
    (next : Option String → Starting σ c (Option α)) (unset : next none = pure none)
    (named : ∀ path, next (some path) = do return some (← start path)) (s : σ) :
    (liftM (configPath c w) >>= next).run.run s =
      ifNamed w s fun path => (start path).run.run s := by
  rw [Attempt.run_logged_bind, configPath, ifNamed]
  cases w.valueOf? defaultConfigVariable with
  | none =>
    dsimp only
    rw [bind_assoc, pure_bind, unset]
    rfl
  | some path =>
    dsimp only
    rw [bind_assoc, pure_bind, named, Starting.run_map]
    simp [bind, Logged.bind, Logged.log]

theorem run_fromEnvironment (provider : Provider σ (Implementation c)) (w : World) (s : σ) :
    (fromEnvironment provider w).run.run s =
      ifNamed w s fun path => (fromFile provider w path).run.run s :=
  run_configPath_bind w (fromFile provider w) _ rfl (fun _ => rfl) s

theorem run_managerFromEnvironment (w : World) :
    (managerFromEnvironment w).run.run () =
      ifNamed w () fun path => (managerFromPlugins w path).run.run () :=
  run_configPath_bind w (managerFromPlugins w) _ rfl (fun _ => rfl) ()

theorem run_managerFromPlugins (w : World) (path : String) :
    (managerFromPlugins w path).run.run () = do
      Logged.log (.loadingConfig .manager path)
      match DefaultConfig.read .manager w path with
      | .ok config =>
          let source ← pluginSource w config
          let made ← (fromConfig (Provider.plugins .manager) w config).run.run source
          return (made.1, ())
      | .error error => return (.error { error }, ()) := by
  rw [managerFromPlugins, run_loadConfig_bind]
  refine bind_congr fun _ => ?_
  cases DefaultConfig.read .manager w path with
  | error error => rfl
  | ok config =>
    dsimp only
    rw [Attempt.run_logged_bind]
    rfl

theorem run_managerFromPlugins_of_ok {w : World} {path : String} {config : DefaultConfig}
    (load : DefaultConfig.read .manager w path = .ok config) :
    let source := pluginSource w config
    let made := (fromFile (Provider.plugins .manager) w path).run.run source.value
    ∃ log, made.events = .loadingConfig .manager path :: log ∧
      (managerFromPlugins w path).run.run () =
        ⟨(made.value.1, ()), .loadingConfig .manager path :: (source.events ++ log)⟩ := by
  intro source made
  have steps : made = _ :=
    run_loadConfig_bind w path (fromConfig (.plugins .manager) w) source.value
  rw [load] at steps
  rw [run_managerFromPlugins, load, steps]
  refine ⟨((fromConfig (Provider.plugins .manager) w config).run.run source.value).events, rfl, ?_⟩
  simp [bind, Logged.bind, Logged.log, source]

/-- Every way to a default implementation takes its steps in order and stops at
the first failure, which is handed back as it is. What was made has been
configured once, with the settings of the config, and a delegate that refused
them has been closed once. -/
theorem starting_stops_at_first_failure (provider : Provider σ (Implementation c)) (w : World)
    (path : String) (s : σ) (asked : List Query) :
    let made := (fromFile provider w path).run.run s
    Started provider w path s made.value.1 made.value.2 made.events ∧
    (∀ held, made? made.value.1 = some held → ∃ config, DefaultConfig.read c w path = .ok config ∧
      held.received.filterMap Call.configured? =
        [if c = .uiDelegate then config.uiDelegateSettings else config.settings] ∧
      held.received.count .close =
        if c = .uiDelegate ∧ made.value.1.isOk = false then 1 else 0) ∧
    (∀ config : DefaultConfig, config.settingsFor .manager = config.settings ∧
      config.settingsFor .uiDelegate = config.uiDelegateSettings) ∧
    (∀ other config, DefaultConfig.read c w path = .ok config ↔
      DefaultConfig.read other w path = .ok config) ∧
    (fromFile provider.recorded w path).run.run (s, asked) =
      ⟨(made.value.1, made.value.2, asked ++ queries c w path), made.events⟩ ∧
    (match DefaultConfig.read .manager w path with
      | .error error => (managerFromPlugins w path).run.run () =
          ⟨(.error { error }, ()), [.loadingConfig .manager path]⟩
      | .ok config =>
          let source := pluginSource w config
          let made := (fromFile (Provider.plugins .manager) w path).run.run source.value
          ∃ log, made.events = .loadingConfig .manager path :: log ∧
            (managerFromPlugins w path).run.run () =
              ⟨(made.value.1, ()), .loadingConfig .manager path :: (source.events ++ log)⟩) ∧
    (fromEnvironment provider w).run.run s =
      ifNamed w s (fun path => (fromFile provider w path).run.run s) ∧
    (managerFromEnvironment w).run.run () =
      ifNamed w () fun path => (managerFromPlugins w path).run.run () := by
  intro made
  have began := started provider w path s
  refine ⟨began, ?_, fun config => ⟨rfl, rfl⟩,
    fun other config => DefaultConfig.read_eq_ok_iff, ?_, ?_, run_fromEnvironment provider w s,
    run_managerFromEnvironment w⟩
  · intro held given
    obtain ⟨config, load, received⟩ := began.received given
    refine ⟨config, load, ?_⟩
    cases c with
    | manager | uiDelegate => exact received
  · rw [run_fromFile_recorded]
    exact congrArg (Logged.mk _) (Logged.events_map _ _)
  · cases load : DefaultConfig.read .manager w path with
    | error error => simp [run_managerFromPlugins, load, bind, Logged.bind, Logged.log]
    | ok config => exact run_managerFromPlugins_of_ok load

/-- A delegate that takes no settings, not even none, and cannot be closed. -/
def stubborn : Implementation .uiDelegate where
  identifier _ := "panel"
  displayName _ := "Panel"
  configure _ _ := .error (.configuration "refused")
  work := { close := fun _ => .error (.configuration "stuck") }

def panelHost : World where
  root := .directory [("c", .file (.ofText
    "[manager]\nidentifier='p'\nsettings.a=1\n[uiDelegate]\nsettings.b=true"))] [] none

def panelSettings : InfoDictionary :=
  .ofList [("b", .bool true)]

theorem read_panelHost :
    DefaultConfig.read .uiDelegate panelHost "/c" =
      .ok ⟨"p", none, .ofList [("a", .int 1)], panelSettings, "/"⟩ := by cbv

theorem starting_stops_at_stubborn_delegate :
    let provider : Provider Unit (Implementation .uiDelegate) := .table [("p", .ok stubborn)]
    let left : UIDelegate := ⟨stubborn, [.identifier, .configure panelSettings, .close, .identifier]⟩
    let log : List Event := [.loadingConfig .uiDelegate "/c", .configuring .uiDelegate "panel" 1,
      .closeFailed "panel" (.configuration "stuck")]
    (fromFile provider panelHost "/c").run.run () =
      ⟨(.error ⟨.configuration "refused", some left⟩, ()), log⟩ ∧
    left.received.filterMap Call.configured? = [panelSettings] ∧
    left.received.count .close = 1 ∧
    (fromFile provider.recorded panelHost "/c").run.run ((), []) =
      ⟨(.error ⟨.configuration "refused", some left⟩, (), [.instantiate "p"]), log⟩ := by
  intro provider left log
  have run : (fromFile provider panelHost "/c").run.run () =
      ⟨(.error ⟨.configuration "refused", some left⟩, ()), log⟩ := by
    rw [fromFile, run_loadConfig_bind, read_panelHost]
    rfl
  obtain ⟨-, received, -, -, asked, -⟩ :=
    starting_stops_at_first_failure provider panelHost "/c" () []
  rw [run] at received asked
  obtain ⟨config, read, configured, closed⟩ := received left rfl
  obtain rfl := Except.ok.inj (read_panelHost.symm.trans read)
  refine ⟨run, configured, closed, asked.trans ?_⟩
  rw [queries, read_panelHost]
  rfl

end Default

end AssetLink
