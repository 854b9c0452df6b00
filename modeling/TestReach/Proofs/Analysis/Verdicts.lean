import TestReach.Proofs.Analysis.Relations
import Mathlib.Control.Basic

/-!
# Verdicts in effect

A loader that tells the module of a package without effects is asked at most once about it, and its
answer is kept. So all that is resolved through one cache comes to one function of the package,
which the cache holds in part. What is read through the cache can then be read without it.
-/

namespace TestReach

def ModuleCache.answer (cache : ModuleCache) (told : String → Except Failure (Option String))
    (package : String) : Except Failure (Option String) :=
  match cache.get? package with
  | some verdict => .ok verdict
  | none =>
    match told package with
    | .ok verdict => .ok verdict
    | .error e => .error (.moduleUnresolved package e.message)

theorem ModuleCache.answer_seed {cache : ModuleCache}
    {told : String → Except Failure (Option String)}
    {package : String} {verdict : Option String} (unknown : cache.get? package = none)
    (answered : told package = .ok verdict) :
    (cache.seed package verdict).answer told = cache.answer told := by
  funext other
  unfold answer
  rw [get?_seed]
  by_cases same : other = package
  · subst same
    simp [seeded, unknown, answered]
  · rw [if_neg same]

namespace Analysis

variable {m : Type → Type} [Monad m] {told answers : String → Except Failure (Option String)}

section

variable [LawfulMonad m] {α β : Type}

theorem run_get (next : ModuleCache → Analysis m α) (cache : ModuleCache) :
    (getThe ModuleCache >>= next : Analysis m α).run.run cache = (next cache).run.run cache := by
  simp only [getThe, MonadStateOf.get, liftM, monadLift, MonadLift.monadLift, ExceptT.lift,
    ExceptT.run_bind, ExceptT.run_mk, StateT.run_bind, map_eq_pure_bind, bind_assoc, pure_bind]
  exact pure_bind _ _

theorem run_set (after : ModuleCache) (next : PUnit → Analysis m α) (cache : ModuleCache) :
    (set after >>= next : Analysis m α).run.run cache = (next .unit).run.run after := by
  simp only [set, liftM, monadLift, MonadLift.monadLift, ExceptT.lift,
    ExceptT.run_bind, ExceptT.run_mk, StateT.run_bind, map_eq_pure_bind, bind_assoc, pure_bind]
  exact pure_bind _ _

theorem run_perform (effect : m α) (next : α → Analysis m β) (cache : ModuleCache) :
    (perform effect >>= next : Analysis m β).run.run cache =
      effect >>= fun a => (next a).run.run cache := by
  simp [perform, ExceptT.run_bind, liftM, monadLift, MonadLift.monadLift, ExceptT.lift]

end

def Determined {α : Type} (told answers : String → Except Failure (Option String))
    (analysis : Analysis m α) (result : Except Failure α) : Prop :=
  ∀ cache : ModuleCache, cache.answer told = answers →
    ∃ after : ModuleCache, after.answer told = answers ∧
      analysis.run.run cache = pure (result, after)

theorem Determined.pure {α : Type} (a : α) :
    Determined told answers (pure a : Analysis m α) (.ok a) := by
  intro cache agrees
  exact ⟨cache, agrees, rfl⟩

theorem Determined.throw {α : Type} (e : Failure) :
    Determined told answers (throw e : Analysis m α) (.error e) := by
  intro cache agrees
  exact ⟨cache, agrees, rfl⟩

variable [LawfulMonad m]

theorem Determined.bind {α β : Type} {analysis : Analysis m α} {result : Except Failure α}
    {next : α → Analysis m β} {rest : α → Except Failure β}
    (first : Determined told answers analysis result)
    (others : ∀ a, Determined told answers (next a) (rest a)) :
    Determined told answers (analysis >>= next) (result >>= rest) := by
  intro cache agrees
  obtain ⟨between, agrees, reached⟩ := first cache agrees
  cases result with
  | error e =>
    refine ⟨between, agrees, ?_⟩
    simp only [ExceptT.run_bind, StateT.run_bind, reached, pure_bind]
    rfl
  | ok a =>
    obtain ⟨after, agrees, last⟩ := others a between agrees
    refine ⟨after, agrees, ?_⟩
    simp only [ExceptT.run_bind, StateT.run_bind, reached, pure_bind]
    exact last

theorem determined_resolve {loader : Loader m} {locator : Locator}
    (asks : ∀ package, loader.moduleOf locator package = Pure.pure (told package))
    (package : String) :
    Determined told answers (resolve loader locator package) (answers package) := by
  rintro cache rfl
  cases known : cache.get? package with
  | some verdict =>
    refine ⟨cache, rfl, ?_⟩
    rw [resolve, run_get, known, ModuleCache.answer, known]
    rfl
  | none =>
    cases answered : told package with
    | error e =>
      refine ⟨cache, rfl, ?_⟩
      rw [resolve, run_get, known, ModuleCache.answer, known, answered]
      dsimp only
      rw [run_perform, asks, answered, pure_bind]
      rfl
    | ok verdict =>
      refine ⟨cache.seed package verdict, cache.answer_seed known answered, ?_⟩
      rw [resolve, run_get, known, ModuleCache.answer, known, answered]
      dsimp only
      rw [run_perform, asks, answered, pure_bind]
      dsimp only
      rw [run_get, run_set, ModuleCache.seeded, known]
      rfl

end Analysis

namespace Dataset

open Analysis

variable {m : Type → Type} [Monad m] [LawfulMonad m]
  {told answers : String → Except Failure (Option String)}
  {resolve : String → Analysis m (Option String)}

theorem relates_determined :
    Relates fun α (analysis : Analysis m α) (result : Except Failure α) =>
      Determined told answers analysis result where
  pure := .pure
  bind := .bind

variable (resolves : ∀ package, Determined told answers (resolve package) (answers package))
  (dataset : Dataset)

include resolves

theorem determined_extract (root? : Option Nat) :
    Determined told answers (dataset.extract resolve root?) (dataset.extract answers root?) :=
  extract_relates relates_determined resolves rfl rfl (fun _ => .throw) root?

theorem determined_extractAll :
    Determined told answers (dataset.extractAll resolve) (dataset.extractAll answers) :=
  extractAll_relates relates_determined resolves rfl rfl (fun _ => .throw) rfl

end Dataset

end TestReach
