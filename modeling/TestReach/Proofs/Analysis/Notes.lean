import TestReach.Proofs.Analysis.Steps
import TestReach.Proofs.Analysis.Verdicts

/-!
# Notes

What is done in a world can be noted while it is done. A world with notes goes the way of the world
without them: an effect leaves the notes alone, or it adds one that tells what it came to.
-/

namespace TestReach

variable {World Note α : Type}

def passing (effect : StateM World α) : StateM (World × List Note) α := fun (world, notes) =>
  let (a, last) := effect.run world
  (a, (last, notes))

def noting (note : α → Note) (effect : StateM World α) : StateM (World × List Note) α :=
  fun (world, notes) =>
    let (a, last) := effect.run world
    (a, (last, notes ++ [note a]))

theorem run_noting (note : α → Note) {effect : StateM World α} {world last : World} {a : α}
    (ran : effect.run world = (a, last)) (notes : List Note) :
    (noting note effect).run (world, notes) = (a, (last, notes ++ [note a])) := by
  have noted : (noting note effect).run (world, notes) =
      ((effect.run world).1, ((effect.run world).2, notes ++ [note (effect.run world).1])) := rfl
  rw [noted, ran]

theorem run_bind_of {State β : Type} {effect : StateM State α} {next : α → StateM State β}
    {state between : State} {a : α} (ran : effect.run state = (a, between)) :
    (effect >>= next).run state = (next a).run between := by
  rw [StateT.run_bind, ran]
  rfl

structure Question where
  package : String
  answer : Except Failure (Option String)

def Loader.asking (loader : Loader (StateM World)) : Loader (StateM (World × List Question)) where
  name := loader.name
  load := fun locator => passing (loader.load locator)
  moduleOf := fun locator package => noting (.mk package) (loader.moduleOf locator package)

namespace Analysis

theorem run_resolve (loader : Loader (StateM World)) (locator : Locator) (package : String)
    (cache : ModuleCache) (world : World) :
    ((resolve loader locator package).run.run cache).run world =
      match cache.get? package with
      | some verdict => ((.ok verdict, cache), world)
      | none =>
        match (loader.moduleOf locator package).run world with
        | (.error e, last) => ((.error (.moduleUnresolved package e.message), cache), last)
        | (.ok verdict, last) => ((.ok verdict, cache.seed package verdict), last) := by
  rw [resolve, run_get]
  cases known : cache.get? package with
  | some verdict => rfl
  | none =>
    dsimp only
    rw [run_perform, StateT.run_bind]
    rcases (loader.moduleOf locator package).run world with ⟨answer, last⟩
    cases answer with
    | error e => rfl
    | ok verdict =>
      change (((getThe ModuleCache >>= _ : Analysis (StateM World) _).run.run cache).run last) = _
      rw [run_get, run_set, ModuleCache.seeded, known]
      rfl

def questions (loader : Loader (StateM World)) (locator : Locator) (package : String)
    (cache : ModuleCache) (world : World) : List Question :=
  match cache.get? package with
  | some _ => []
  | none => [⟨package, ((loader.moduleOf locator package).run world).1⟩]

theorem run_asking (loader : Loader (StateM World)) (locator : Locator) (package : String)
    (cache : ModuleCache) (world : World) (asked : List Question) :
    ((resolve loader.asking locator package).run.run cache).run (world, asked) =
      let (ended, last) := ((resolve loader locator package).run.run cache).run world
      (ended, (last, asked ++ questions loader locator package cache world)) := by
  rw [run_resolve, run_resolve, questions]
  cases cache.get? package with
  | some verdict => simp
  | none =>
    have noted : (loader.asking.moduleOf locator package).run (world, asked) =
        (((loader.moduleOf locator package).run world).1,
          (((loader.moduleOf locator package).run world).2,
            asked ++ [⟨package, ((loader.moduleOf locator package).run world).1⟩])) := rfl
    simp only [noted]
    rcases (loader.moduleOf locator package).run world with ⟨answer, last⟩
    cases answer <;> rfl

end Analysis

section

variable {kind : Note → Prop} {β : Type}

/-- An effect in a world with notes that comes to what an effect without them comes to. The notes
that it adds are all of one kind. -/
def Follows (kind : Note → Prop) (noted : StateM (World × List Note) α) (plain : StateM World α) :
    Prop :=
  ∀ world notes, ∃ more, (∀ note ∈ more, kind note) ∧
    noted.run (world, notes) = ((plain.run world).1, ((plain.run world).2, notes ++ more))

theorem Follows.of_silent {noted : StateM (World × List Note) α} {plain : StateM World α}
    (ran : ∀ world notes,
      noted.run (world, notes) = ((plain.run world).1, ((plain.run world).2, notes))) :
    Follows kind noted plain := by
  intro world notes
  refine ⟨[], by simp, ?_⟩
  rw [ran, List.append_nil]

theorem Follows.pure (a : α) : Follows kind (pure a) (pure a : StateM World α) :=
  .of_silent fun _ _ => rfl

theorem Follows.bind {noted : StateM (World × List Note) α} {plain : StateM World α}
    {notedNext : α → StateM (World × List Note) β} {next : α → StateM World β}
    (first : Follows kind noted plain) (others : ∀ a, Follows kind (notedNext a) (next a)) :
    Follows kind (noted >>= notedNext) (plain >>= next) := by
  intro world notes
  obtain ⟨early, earlyKind, ran⟩ := first world notes
  obtain ⟨late, lateKind, ends⟩ :=
    others (plain.run world).1 (plain.run world).2 (notes ++ early)
  refine ⟨early ++ late, ?_, ?_⟩
  · intro note member
    rcases List.mem_append.1 member with member | member
    · exact earlyKind note member
    · exact lateKind note member
  · rw [StateT.run_bind, ran, ← List.append_assoc]
    exact ends

theorem follows_passing (effect : StateM World α) : Follows kind (passing effect) effect :=
  .of_silent fun _ _ => rfl

theorem follows_noting {note : α → Note} (kinds : ∀ a, kind (note a)) (effect : StateM World α) :
    Follows kind (noting note effect) effect := by
  intro world notes
  refine ⟨[note (effect.run world).1], ?_, rfl⟩
  simpa using kinds _

namespace Analysis

def Follows (kind : Note → Prop) (noted : Analysis (StateM (World × List Note)) α)
    (plain : Analysis (StateM World) α) : Prop :=
  ∀ cache, TestReach.Follows kind (noted.run.run cache) (plain.run.run cache)

theorem Follows.pure (a : α) : Follows kind (pure a) (pure a : Analysis (StateM World) α) :=
  fun _ => .pure _

theorem Follows.throw_bind (e : Failure) (notedNext : α → Analysis (StateM (World × List Note)) β)
    (next : α → Analysis (StateM World) β) :
    Follows kind (throw e >>= notedNext) (throw e >>= next) :=
  fun _ => .pure _

theorem Follows.throw (e : Failure) :
    Follows kind (throw e) (throw e : Analysis (StateM World) α) :=
  fun _ => .pure _

theorem Follows.bind {noted : Analysis (StateM (World × List Note)) α}
    {plain : Analysis (StateM World) α} {notedNext : α → Analysis (StateM (World × List Note)) β}
    {next : α → Analysis (StateM World) β} (first : Follows kind noted plain)
    (others : ∀ a, Follows kind (notedNext a) (next a)) :
    Follows kind (noted >>= notedNext) (plain >>= next) := by
  intro cache
  simp only [ExceptT.run_bind, StateT.run_bind]
  apply (first cache).bind
  rintro ⟨result, after⟩
  cases result with
  | error e => exact .pure _
  | ok a => exact others a after

theorem Follows.call {noted : StateM (World × List Note) (Except Failure α)}
    {plain : StateM World (Except Failure α)} (follows : TestReach.Follows kind noted plain) :
    Follows kind (call noted) (call plain) := by
  intro cache
  change TestReach.Follows kind (noted >>= fun result => Pure.pure (result, cache))
    (plain >>= fun result => Pure.pure (result, cache))
  exact follows.bind fun _ => .pure _

theorem Follows.perform {noted : StateM (World × List Note) α} {plain : StateM World α}
    (follows : TestReach.Follows kind noted plain) :
    Follows kind (perform noted) (perform plain) := by
  intro cache
  change TestReach.Follows kind (noted >>= fun a => Pure.pure (Except.ok a, cache))
    (plain >>= fun a => Pure.pure (Except.ok a, cache))
  exact follows.bind fun _ => .pure _

theorem Follows.ofExcept (result : Except Failure α) :
    Follows kind (ofExcept result) (ofExcept result : Analysis (StateM World) α) :=
  fun _ => .pure _

theorem Follows.modify (change : ModuleCache → ModuleCache) :
    Follows kind (modifyThe ModuleCache change)
      (modifyThe ModuleCache change : Analysis (StateM World) PUnit) :=
  fun _ => .pure _

end Analysis

end

def Loader.passing (loader : Loader (StateM World)) : Loader (StateM (World × List Note)) where
  name := loader.name
  load := fun locator => TestReach.passing (loader.load locator)
  moduleOf := fun locator package => TestReach.passing (loader.moduleOf locator package)

open Analysis

variable {kind : Note → Prop}

theorem Analysis.follows_resolve (loader : Loader (StateM World)) (locator : Locator)
    (package : String) :
    Follows kind (resolve loader.passing locator package) (resolve loader locator package) := by
  intro cache
  apply TestReach.Follows.of_silent
  intro world notes
  rw [run_resolve, run_resolve]
  cases cache.get? package with
  | some verdict => rfl
  | none =>
    have passed : (loader.passing.moduleOf locator package).run (world, notes) =
        (((loader.moduleOf locator package).run world).1,
          (((loader.moduleOf locator package).run world).2, notes)) := rfl
    rw [passed]
    rcases (loader.moduleOf locator package).run world with ⟨answer, last⟩
    cases answer <;> rfl

theorem Analysis.relates_follows :
    Relates fun α (noted : Analysis (StateM (World × List Note)) α)
      (plain : Analysis (StateM World) α) => Follows kind noted plain where
  pure := .pure
  bind := .bind

namespace Dataset

theorem follows_extractAll {noted : String → Analysis (StateM (World × List Note)) (Option String)}
    {resolve : String → Analysis (StateM World) (Option String)}
    (resolves : ∀ package, Analysis.Follows kind (noted package) (resolve package))
    (dataset : Dataset) :
    Analysis.Follows kind (dataset.extractAll noted) (dataset.extractAll resolve) :=
  extractAll_relates relates_follows resolves rfl rfl (fun _ => .throw) rfl

theorem follows_build (loader : Loader (StateM World)) (locator : Locator)
    (isSelected : String → Bool) :
    Analysis.Follows kind (build loader.passing locator isSelected)
      (build loader locator isSelected) := by
  apply Analysis.Follows.bind (.call (follows_passing _))
  intro packages
  dsimp only
  split
  · exact .throw_bind _ _ _
  · split
    · exact .throw_bind _ _ _
    · exact (Analysis.Follows.modify _).bind fun _ => .ofExcept _

end Dataset

namespace Engine

variable {noted : Engine (StateM (World × List Note))} {engine : Engine (StateM World)}

theorem follows_checkpoint (cancelled : noted.cancelled = passing engine.cancelled)
    (phase : Phase) :
    Analysis.Follows kind (noted.checkpoint phase) (engine.checkpoint phase) := by
  unfold checkpoint
  rw [cancelled]
  apply Analysis.Follows.bind (.perform (follows_passing _))
  intro stopped
  split
  · exact .throw _
  · exact .pure ()

theorem follows_select [Pattern.Compiler] (loads : noted.loader = engine.loader.passing)
    (places : ∀ path, noted.directory? path = passing (engine.directory? path))
    (cancelled : noted.cancelled = passing engine.cancelled) (path pattern : String) :
    Analysis.Follows kind (noted.select path pattern) (engine.select path pattern) := by
  unfold select
  rw [loads, places]
  split
  · exact .throw _
  · rename_i isSelected _
    apply Analysis.Follows.bind (.perform (follows_passing _))
    intro directory?
    apply (follows_checkpoint cancelled .analysis).bind
    intro _
    apply (Dataset.follows_build engine.loader _ isSelected).bind
    intro dataset
    apply (follows_checkpoint cancelled .extraction).bind
    intro _
    apply (dataset.follows_extractAll (follows_resolve engine.loader _)).bind
    intro reached
    exact .pure _

end Engine

end TestReach
