import AssetLink.Change
import AssetLink.Logging.Logged
import Mathlib.Data.List.Forall2
import Mathlib.Order.Minimal

/-!
Sequences of steps that may fail. What succeeds is described result by result,
and a change that is made of changes is described by what each of them does to
the state it meets.
-/

namespace AssetLink

section Except

variable {ε α β γ : Type}

theorem except_bind_eq_ok_iff {x : Except ε α} {f : α → Except ε β} {b : β} :
    x >>= f = .ok b ↔ ∃ a, x = .ok a ∧ f a = .ok b := by
  cases x <;> simp [bind, Except.bind]

theorem except_bind_eq_error_iff {x : Except ε α} {f : α → Except ε β} {e : ε} :
    x >>= f = .error e ↔ x = .error e ∨ ∃ a, x = .ok a ∧ f a = .error e := by
  cases x <;> simp [bind, Except.bind]

theorem except_map_eq_ok_iff {x : Except ε α} {f : α → β} {b : β} :
    x.map f = .ok b ↔ ∃ a, x = .ok a ∧ f a = b := by
  cases x <;> simp [Except.map]

theorem except_map_eq_error_iff {x : Except ε α} {f : α → β} {e : ε} :
    x.map f = .error e ↔ x = .error e := by
  cases x <;> simp [Except.map]

theorem elim_eq_ok_iff {o : Option α} {e : ε} {f : α → Except ε β} {b : β} :
    o.elim (.error e) f = .ok b ↔ ∃ a, o = some a ∧ f a = .ok b := by
  cases o <;> simp

theorem mapM_eq_ok_iff {f : α → Except ε β} {xs : List α} {ys : List β} :
    xs.mapM f = .ok ys ↔ List.Forall₂ (fun x y => f x = .ok y) xs ys := by
  induction xs generalizing ys with
  | nil => simp [pure, Except.pure, eq_comm]
  | cons x rest ih =>
      rw [List.mapM_cons, except_bind_eq_ok_iff, List.forall₂_cons_left_iff]
      refine exists_congr fun y => ?_
      rw [except_bind_eq_ok_iff]
      simp only [ih, pure, Except.pure, Except.ok.injEq]
      grind

theorem exists_of_forall₂_of_mem {R : α → β → Prop} {xs : List α} {ys : List β}
    (h : List.Forall₂ R xs ys) {x : α} (member : x ∈ xs) : ∃ y ∈ ys, R x y := by
  induction h with
  | nil => cases member
  | cons first _ ih =>
      rcases List.mem_cons.1 member with rfl | later
      · exact ⟨_, List.mem_cons_self, first⟩
      · obtain ⟨y, present, related⟩ := ih later
        exact ⟨y, List.mem_cons_of_mem _ present, related⟩

theorem exists_forall₂_of_forall_exists {R : α → β → Prop} {xs : List α}
    (h : ∀ x ∈ xs, ∃ y, R x y) : ∃ ys, List.Forall₂ R xs ys := by
  induction xs with
  | nil => exact ⟨[], .nil⟩
  | cons x rest ih =>
      rw [List.forall_mem_cons] at h
      obtain ⟨y, first⟩ := h.1
      obtain ⟨ys, later⟩ := ih h.2
      exact ⟨y :: ys, .cons first later⟩

theorem forall₂_exists_iff {f : γ → α} {g : γ → β} {xs : List α} {ys : List β} :
    List.Forall₂ (fun x y => ∃ z, x = f z ∧ y = g z) xs ys ↔
      ∃ zs : List γ, xs = zs.map f ∧ ys = zs.map g := by
  constructor
  · intro h
    induction h with
    | nil => exact ⟨[], rfl, rfl⟩
    | cons first _ ih =>
        obtain ⟨z, rfl, rfl⟩ := first
        obtain ⟨zs, rfl, rfl⟩ := ih
        exact ⟨z :: zs, rfl, rfl⟩
  · rintro ⟨zs, rfl, rfl⟩
    rw [List.forall₂_map_left_iff, List.forall₂_map_right_iff]
    exact List.forall₂_same.2 fun z _ => ⟨z, rfl, rfl⟩

theorem mapM_eq_error_iff {f : α → Except ε β} {xs : List α} {e : ε} :
    xs.mapM f = .error e ↔
      ∃ before x after, xs = before ++ x :: after ∧ f x = .error e ∧
        ∀ y ∈ before, ∃ b, f y = .ok b := by
  induction xs with
  | nil => simp [pure, Except.pure]
  | cons x rest ih =>
      rw [List.mapM_cons, except_bind_eq_error_iff]
      simp only [except_bind_eq_error_iff, ih, pure, Except.pure, reduceCtorEq, and_false,
        exists_false, or_false]
      constructor
      · rintro (now | ⟨b, done, before, y, after, rfl, fault, earlier⟩)
        · exact ⟨[], x, rest, rfl, now, by simp⟩
        · exact ⟨x :: before, y, after, rfl, fault, List.forall_mem_cons.2 ⟨⟨b, done⟩, earlier⟩⟩
      · rintro ⟨_ | ⟨z, before⟩, y, after, split, fault, earlier⟩
        · cases split
          exact .inl fault
        · cases split
          obtain ⟨⟨b, done⟩, earlier⟩ := List.forall_mem_cons.1 earlier
          exact .inr ⟨b, done, before, y, after, rfl, fault, earlier⟩

theorem exists_of_mapM_eq_error {f : α → Except ε β} {xs : List α} {e : ε}
    (h : xs.mapM f = .error e) : ∃ x ∈ xs, f x = .error e := by
  obtain ⟨before, x, after, rfl, fault, -⟩ := mapM_eq_error_iff.1 h
  exact ⟨x, List.mem_append_right _ List.mem_cons_self, fault⟩

theorem option_mapM_eq_ok_iff {f : α → Except ε β} {o : Option α} {r : Option β} :
    o.mapM f = .ok r ↔ Option.Rel (fun a b => f a = .ok b) o r := by
  cases o with
  | none =>
      change Except.ok none = .ok r ↔ _
      rw [Except.ok.injEq]
      exact ⟨fun h => h ▸ .none, fun h => by cases h; rfl⟩
  | some a =>
      change (f a >>= fun b => pure (some b)) = .ok r ↔ _
      rw [except_bind_eq_ok_iff]
      constructor
      · rintro ⟨b, done, given⟩
        cases given
        exact .some done
      · intro h
        cases h with
        | some done => exact ⟨_, done, rfl⟩

theorem option_mapM_eq_error_iff {f : α → Except ε β} {o : Option α} {e : ε} :
    o.mapM f = .error e ↔ ∃ a, o = some a ∧ f a = .error e := by
  cases o with
  | none =>
      change Except.ok none = .error e ↔ _
      simp
  | some a =>
      change (f a >>= fun b => pure (some b)) = .error e ↔ _
      simp [except_bind_eq_error_iff, pure, Except.pure]

/-- What passes without faults and is stopped by a first fault fails just with
that. -/
theorem eq_error_iff_of_first {φ ι : Type} [Preorder ι] [WellFoundedLT ι] {applies : φ → Prop}
    {place : φ → ι} {error : φ → ε} {x : Except ε α}
    (passes : (∀ fault, ¬ applies fault) → ∃ a, x = .ok a)
    (stops : ∀ fault, MinimalFor applies place fault → x = .error (error fault)) {e : ε} :
    x = .error e ↔ ∃ fault, MinimalFor applies place fault ∧ error fault = e := by
  constructor
  · intro refused
    by_cases faulty : ∃ fault, applies fault
    · obtain ⟨fault, first⟩ := exists_minimalFor_of_wellFoundedLT applies place faulty
      exact ⟨fault, first, Except.error.inj ((stops fault first).symm.trans refused)⟩
    · obtain ⟨a, passed⟩ := passes (not_exists.1 faulty)
      cases passed.symm.trans refused
  · rintro ⟨fault, first, rfl⟩
    exact stops fault first

end Except

namespace Change

variable {σ τ α β : Type}

@[simp] theorem apply_pure (a : α) (s : σ) : (pure a : Change σ α).apply s = (.ok a, s) := rfl

@[simp] theorem apply_throw (e : AssetError) (s : σ) :
    (throw e : Change σ α).apply s = (.error e, s) := rfl

@[simp] theorem apply_modify (f : σ → σ) (s : σ) :
    (modify f : Change σ PUnit).apply s = (.ok ⟨⟩, f s) := rfl

@[simp] theorem apply_ofExcept (x : Except AssetError α) (s : σ) :
    (liftM x : Change σ α).apply s = (x, s) := by
  cases x <;> rfl

theorem apply_within (read : σ → τ) (write : τ → σ → σ) (change : Change τ α) (s : σ) :
    (within read write change).apply s =
      ((change.apply (read s)).1, write (change.apply (read s)).2 s) := rfl

theorem apply_bind (x : Change σ α) (f : α → Change σ β) (s : σ) :
    (x >>= f).apply s =
      match x.apply s with
      | (.ok a, t) => (f a).apply t
      | (.error e, t) => (.error e, t) := by
  rw [apply, ExceptT.run_bind, StateT.run_bind]
  simp only [apply]
  rcases x.run.run s with ⟨_ | _, t⟩ <;> rfl

theorem apply_get_bind (f : σ → Change σ α) (s : σ) :
    ((get : Change σ σ) >>= f).apply s = (f s).apply s := rfl

theorem apply_forM_modify (step : α → σ → σ) (xs : List α) (s : σ) :
    (forM xs fun x => modify (step x) : Change σ PUnit).apply s =
      (.ok ⟨⟩, xs.foldl (fun s x => step x s) s) := by
  induction xs generalizing s with
  | nil => rfl
  | cons x rest ih =>
      rw [List.forM_cons, apply_bind]
      exact ih _

def Fails (change : Change σ α) (s : σ) : Prop :=
  ∃ e, (change.apply s).1 = .error e

def Atomic (change : Change σ α) : Prop :=
  ∀ s, change.Fails s → (change.apply s).2 = s

section Decision

variable {change : Change σ Unit} {fault? : Option AssetError} {written : σ → σ}

/-- A step that cannot fail, taken unless it was decided against before. -/
theorem fails_iff_of_apply_eq
    (h : ∀ s, change.apply s = fault?.elim (.ok (), written s) fun e => (.error e, s)) (s : σ) :
    change.Fails s ↔ fault?.isSome = true := by
  rw [Fails, h]
  cases fault? <;> simp

theorem atomic_of_apply_eq
    (h : ∀ s, change.apply s = fault?.elim (.ok (), written s) fun e => (.error e, s)) :
    change.Atomic := by
  intro s failed
  obtain ⟨e, refused⟩ := Option.isSome_iff_exists.1 ((fails_iff_of_apply_eq h s).1 failed)
  rw [h, refused]
  rfl

end Decision

/-- In one state a change may be another one, which depends on the state. -/
theorem Atomic.of_apply_eq {change other : Change σ α} (atomic : other.Atomic) {s : σ}
    (same : change.apply s = other.apply s) (failed : change.Fails s) :
    (change.apply s).2 = s := by
  rw [Fails, same] at failed
  rw [same]
  exact atomic s failed

theorem build_bind (x : Change σ Unit) (f : Unit → Change σ Unit) (s : σ) :
    (x >>= f).build s = x.build s >>= (f ()).build := by
  simp only [build, apply_bind]
  rcases x.apply s with ⟨_ | _, t⟩ <;> rfl

theorem build_forM (step : α → Change σ Unit) (xs : List α) (s : σ) :
    (xs.forM step).build s = xs.foldlM (fun s x => (step x).build s) s := by
  induction xs generalizing s with
  | nil => rfl
  | cons x rest ih =>
      change (step x >>= fun _ => rest.forM step).build s = _
      rw [build_bind, List.foldlM_cons]
      exact congrArg _ (funext ih)

end Change

theorem Logged.mk_bind {α β : Type} (a : α) (events : List Event) (f : α → Logged β) :
    (⟨a, events⟩ : Logged α) >>= f = ⟨(f a).value, events ++ (f a).events⟩ := rfl

namespace Act

variable {σ α β : Type} {s t u : σ} {a : α} {b : β} {log more : List Event}

theorem run_bind_of_run {x : Act σ α} {f : α → Act σ β} (first : x.run s = ⟨(a, t), log⟩)
    (next : (f a).run t = ⟨(b, u), more⟩) : (x >>= f).run s = ⟨(b, u), log ++ more⟩ := by
  rw [StateT.run_bind, first, Logged.mk_bind]
  simp only [next]

theorem run_map_of_run {x : Act σ α} (f : α → β) (first : x.run s = ⟨(a, t), log⟩) :
    (do return f (← x) : Act σ β).run s = ⟨(f a, t), log⟩ := by
  have last : (pure (f a) : Act σ β).run t = ⟨(f a, t), []⟩ := rfl
  have done := run_bind_of_run (f := fun a => pure (f a)) first last
  rwa [List.append_nil] at done

theorem run_mapM_cons {f : α → Act σ β} {x : α} (xs : List α)
    (first : (f x).run s = ⟨(b, t), log⟩) :
    ((x :: xs).mapM f).run s =
      let rest := (xs.mapM f).run t
      ⟨(b :: rest.value.1, rest.value.2), log ++ rest.events⟩ := by
  rw [List.mapM_cons]
  exact run_bind_of_run first (run_map_of_run (b :: ·) rfl)

end Act

namespace Attempt

variable {ε σ α β : Type}

theorem run_bind (x : ExceptT ε (Act σ) α) (f : α → ExceptT ε (Act σ) β) (s : σ) :
    (x >>= f).run.run s = do
      let done ← x.run.run s
      match done.1 with
      | .ok a => (f a).run.run done.2
      | .error e => return (.error e, done.2) := by
  rw [ExceptT.run_bind, StateT.run_bind]
  exact bind_congr fun done => by cases done.1 <;> rfl

theorem run_logged_bind (x : Logged α) (f : α → ExceptT ε (Act σ) β) (s : σ) :
    (liftM x >>= f).run.run s = x >>= fun a => (f a).run.run s := by
  have lifted : (liftM x : ExceptT ε (Act σ) α).run.run s = (fun a => (.ok a, s)) <$> x := by
    change (Except.ok <$> (StateT.lift x : Act σ α)).run s = _
    simp
  rw [run_bind, lifted, bind_map_left]

end Attempt

end AssetLink
