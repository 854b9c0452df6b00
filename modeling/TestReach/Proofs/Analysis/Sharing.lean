import TestReach.Proofs.Analysis.Memory
import TestReach.Proofs.Loader.Records

/-!
# Shared verdicts

Analyses of one memory may share a cache of verdicts. Whatever it was filled with, by seeding loaded
packages or by asking, are the verdicts of the memory itself. So the cache spares questions, and no
answer comes out different.
-/

namespace TestReach

section

variable {told : String → Except Failure (Option String)}

theorem Dataset.get?_seedAll (cache : ModuleCache) (packages : List Package) (path : String) :
    (seedAll cache packages).get? path =
      (cache.get? path).or
        ((packages.find? fun p => p.importPath = path).map Package.module?) := by
  induction packages generalizing cache with
  | nil => simp [seedAll]
  | cons p packages ih =>
    have step : seedAll cache (p :: packages) =
        seedAll (cache.seed p.importPath p.module?) packages := rfl
    rw [step, ih, ModuleCache.get?_seed, List.find?_cons]
    by_cases here : p.importPath = path
    · subst here
      cases known : cache.get? p.importPath <;> simp [ModuleCache.seeded, known]
    · simp [here, Ne.symm here]

theorem Dataset.answer_seedAll {packages : List Package}
    (first : ∀ path p, packages.find? (fun p => p.importPath = path) = some p →
      told path = .ok p.module?) (cache : ModuleCache) :
    (seedAll cache packages).answer told = cache.answer told := by
  funext path
  rw [ModuleCache.answer, get?_seedAll, ModuleCache.answer]
  cases cache.get? path with
  | some verdict => rfl
  | none =>
    cases found : packages.find? fun p => p.importPath = path with
    | none => rfl
    | some p =>
      rw [first path p found]
      rfl

end

namespace Analysis

variable {World α β : Type} {told answers : String → Except Failure (Option String)}

/-- An analysis that comes to one result and one world under all caches with the same answers in
effect, and leaves such caches behind. -/
def Steady (told answers : String → Except Failure (Option String))
    (analysis : Analysis (StateM World) α) : Prop :=
  ∀ (one two : ModuleCache) (world : World), one.answer told = answers → two.answer told = answers →
    ∃ result after other last, after.answer told = answers ∧ other.answer told = answers ∧
      (analysis.run.run one).run world = ((result, after), last) ∧
      (analysis.run.run two).run world = ((result, other), last)

theorem Determined.steady {analysis : Analysis (StateM World) α} {result : Except Failure α}
    (determined : Determined told answers analysis result) : Steady told answers analysis := by
  intro one two world agrees likewise
  obtain ⟨after, agrees, ran⟩ := determined one agrees
  obtain ⟨other, likewise, again⟩ := determined two likewise
  rw [ran, again]
  exact ⟨result, after, other, world, agrees, likewise, rfl, rfl⟩

theorem Steady.call (effect : StateM World (Except Failure α)) :
    Steady told answers (call effect) := by
  intro one two world agrees likewise
  exact ⟨(effect.run world).1, one, two, (effect.run world).2, agrees, likewise, rfl, rfl⟩

theorem Steady.perform (effect : StateM World α) : Steady told answers (perform effect) := by
  intro one two world agrees likewise
  exact ⟨.ok (effect.run world).1, one, two, (effect.run world).2, agrees, likewise, rfl, rfl⟩

theorem Steady.ofExcept (result : Except Failure α) :
    Steady told answers (ofExcept result : Analysis (StateM World) α) := by
  intro one two world agrees likewise
  exact ⟨result, one, two, world, agrees, likewise, rfl, rfl⟩

theorem Steady.modify {change : ModuleCache → ModuleCache}
    (keeps : ∀ cache, (change cache).answer told = cache.answer told) :
    Steady told answers (modifyThe ModuleCache change : Analysis (StateM World) PUnit) := by
  intro one two world agrees likewise
  exact ⟨.ok ⟨⟩, change one, change two, world, (keeps one).trans agrees,
    (keeps two).trans likewise, rfl, rfl⟩

theorem Steady.bind {analysis : Analysis (StateM World) α} {next : α → Analysis (StateM World) β}
    (here : Steady told answers analysis)
    (others : ∀ a, (∃ cache world after last, Ends analysis cache world a after last) →
      Steady told answers (next a)) :
    Steady told answers (analysis >>= next) := by
  intro one two world agrees likewise
  obtain ⟨result, after, other, last, agrees, likewise, ran, again⟩ :=
    here one two world agrees likewise
  simp only [ExceptT.run_bind, StateT.run_bind, ran, again]
  cases result with
  | error e => exact ⟨.error e, after, other, last, agrees, likewise, rfl, rfl⟩
  | ok a => exact others a ⟨one, world, after, last, ran⟩ after other last agrees likewise

end Analysis

open Analysis

theorem Engine.steady_checkpoint {World : Type} (engine : Engine (StateM World)) (phase : Phase)
    {told answers : String → Except Failure (Option String)} :
    Steady told answers (engine.checkpoint phase) := by
  unfold checkpoint
  refine (Steady.perform engine.cancelled).bind fun stop _ => ?_
  split
  · exact (Determined.throw _).steady
  · exact (Determined.pure _).steady

section

variable [Source.Parser] {World : Type} {memory : Memory}

theorem Memory.answer_load (registered : memory.Registered) (sure : memory.failing = [])
    (apart : memory.Apart) {locator : Locator} {packages : List Package}
    (loaded : Id.run (memory.load locator) = .ok packages) (cache : ModuleCache) :
    (Dataset.seedAll cache packages).answer memory.moduleOf = cache.answer memory.moduleOf :=
  Dataset.answer_seedAll (fun _ _ first => moduleOf_first registered sure apart loaded first) cache

section

variable (registered : memory.Registered) (sure : memory.failing = []) (apart : memory.Apart)
  {answers : String → Except Failure (Option String)}

include registered sure apart

theorem Dataset.steady_build (locator : Locator) (isSelected : String → Bool) :
    Steady memory.moduleOf answers
      (build memory.loader locator isSelected : Analysis (StateM World) Dataset) := by
  unfold build
  refine (Steady.call _).bind fun packages ⟨_, _, _, _, ends⟩ => ?_
  obtain ⟨-, loaded⟩ := ends.call
  rw [show memory.loader.load locator = memory.load locator from rfl, Memory.load_pure] at loaded
  obtain ⟨same, -⟩ := Prod.mk.inj loaded
  split
  · refine Steady.bind (Determined.throw _).steady fun _ ⟨_, _, _, _, ends⟩ => ?_
    exact absurd ends not_ends_throw
  · dsimp only
    split
    · refine Steady.bind (Determined.throw _).steady fun _ ⟨_, _, _, _, ends⟩ => ?_
      exact absurd ends not_ends_throw
    · -- Only seeding changes the cache, and what is seeded is what memory tells.
      refine (Steady.modify ?_).bind fun _ _ => .ofExcept _
      exact memory.answer_load registered sure apart same

variable [Pattern.Compiler]

theorem Engine.steady_select {engine : Engine (StateM World)}
    (loads : engine.loader = memory.loader) (path pattern : String) :
    Steady memory.moduleOf answers (engine.select path pattern) := by
  unfold select
  split
  · exact (Determined.throw _).steady
  · rw [loads]
    refine (Steady.perform _).bind fun directory? _ => ?_
    refine (engine.steady_checkpoint _).bind fun _ _ => ?_
    refine (Dataset.steady_build registered sure apart _ _).bind fun dataset _ => ?_
    refine (engine.steady_checkpoint _).bind fun _ _ => ?_
    refine Steady.bind ?_ fun _ _ => (Determined.pure _).steady
    exact (Dataset.determined_extractAll (determined_resolve fun _ => rfl) dataset).steady

theorem Engine.steady_analyze {engine : Engine (StateM World)}
    (loads : engine.loader = memory.loader) (path pattern : String) :
    Steady memory.moduleOf answers (engine.analyze path pattern) := by
  refine (engine.steady_select registered sure apart loads path pattern).bind fun _ _ => ?_
  exact (Determined.pure _).steady

end

namespace Engine

variable [Pattern.Compiler]

/-- What an analysis of a path by a pattern comes to with the verdicts of a cache. -/
def result (engine : Engine (StateM World)) (call : String × String)
    (state : ModuleCache × World) : Except Failure (List TargetListing) :=
  (((engine.analyze call.1 call.2).run.run state.1).run state.2).1.1

def after (engine : Engine (StateM World)) (state : ModuleCache × World)
    (call : String × String) : ModuleCache × World :=
  let ended := ((engine.analyze call.1 call.2).run.run state.1).run state.2
  (ended.1.2, ended.2)

def shared (engine : Engine (StateM World)) (world : World) (calls : List (String × String)) :
    ModuleCache × World :=
  calls.foldl engine.after (.empty, world)

section

variable {engine : Engine (StateM World)} (loads : engine.loader = memory.loader)
  (registered : memory.Registered) (sure : memory.failing = []) (apart : memory.Apart)

include loads registered sure apart

theorem answer_after (state : ModuleCache × World) (call : String × String) :
    (engine.after state call).1.answer memory.moduleOf = state.1.answer memory.moduleOf := by
  obtain ⟨_, _, _, _, agrees, -, ran, -⟩ :=
    steady_analyze registered sure apart loads call.1 call.2 state.1 state.1 state.2 rfl rfl
  rw [after, ran]
  exact agrees

theorem answer_shared (world : World) (calls : List (String × String)) :
    (engine.shared world calls).1.answer memory.moduleOf =
      ModuleCache.empty.answer memory.moduleOf := by
  have all (state : ModuleCache × World) :
      (calls.foldl engine.after state).1.answer memory.moduleOf =
        state.1.answer memory.moduleOf := by
    induction calls generalizing state with
    | nil => rfl
    | cons call calls ih =>
      rw [List.foldl_cons, ih, answer_after loads registered sure apart]
  exact all (.empty, world)

end

/-- Behind any analyses of the same memory, an analysis comes to what it comes to without a cache
from before, and each loaded package has the verdict that memory tells of it. -/
theorem analyze_shared (engine : Engine (StateM World)) (memory : Memory)
    (loads : engine.loader = memory.loader) (registered : memory.Registered)
    (sure : memory.failing = []) (apart : memory.Apart)
    (calls : List (String × String)) (world : World) (call : String × String) :
    let warm := engine.shared world calls
    let cold := (ModuleCache.empty, warm.2)
    engine.result call warm = engine.result call cold ∧
      (engine.after warm call).2 = (engine.after cold call).2 ∧
      ∀ locator packages, Id.run (memory.load locator) = .ok packages → ∀ p ∈ packages,
        ∃ verdict, (Dataset.seedAll warm.1 packages).get? p.importPath = some verdict ∧
          memory.moduleOf p.importPath = .ok verdict := by
  intro warm cold
  have agrees : warm.1.answer memory.moduleOf = ModuleCache.empty.answer memory.moduleOf :=
    answer_shared loads registered sure apart world calls
  obtain ⟨result, _, _, last, -, -, ran, again⟩ :=
    steady_analyze registered sure apart loads call.1 call.2 warm.1 cold.1 warm.2 agrees rfl
  refine ⟨?_, ?_, ?_⟩
  · rw [Engine.result, ran, Engine.result, again]
  · rw [after, ran, after, again]
  · intro locator packages loaded p member
    obtain ⟨first, found⟩ : ∃ first,
        packages.find? (fun q => q.importPath = p.importPath) = some first := by
      rw [← Option.isSome_iff_exists, List.find?_isSome]
      exact ⟨p, member, by simp⟩
    have told := Memory.moduleOf_first registered sure apart loaded found
    have seeded : (Dataset.seedAll warm.1 packages).answer memory.moduleOf p.importPath =
        .ok first.module? := by
      rw [memory.answer_load registered sure apart loaded, agrees, ModuleCache.answer, told]
      rfl
    rw [ModuleCache.answer, Dataset.get?_seedAll, found] at seeded
    rw [Dataset.get?_seedAll, found]
    cases known : warm.1.get? p.importPath with
    | none => exact ⟨first.module?, rfl, told⟩
    | some verdict =>
      rw [known] at seeded
      cases seeded
      exact ⟨first.module?, rfl, told⟩

end Engine

end

namespace Engine

def outsideSource : String := "package m_test\n\nfunc Run() \x7b\x7d\n"

def outsideTree : Source.Tree :=
  .node .plain .sourceFile ⟨⟨0, 0⟩, ⟨30, 3⟩⟩ [
    .on 0 0 14 .plain .packageClause [.on 0 8 14 .plain .packageIdentifier []],
    .on 2 16 29 .plain .functionDeclaration [
      .on 2 21 24 .name .identifier [], .on 2 24 26 .plain .parameterList [],
      .on 2 27 29 .body .block []]]

local instance testedCompiler : Pattern.Compiler := .words

local instance testedParser : Source.Parser :=
  .ofList [(meetingSource, meetingTree), (outsideSource, outsideTree)]

def testedMeeting : Memory := meeting.addExternalTests "a/m" [("x_test.go", outsideSource)]

def testedEngine : Engine (StateM Unit) := { meetingEngine with loader := testedMeeting.loader }

theorem analyze_shared_tested :
    let warm := testedEngine.shared () [("a/m", ""), ("b", ""), ("a/m", "("), ("a/m", "Run")]
    testedEngine.result ("a/...", "") warm = testedEngine.result ("a/...", "") (.empty, warm.2) ∧
      ∃ packages, Id.run (testedMeeting.load ⟨"a/m", none⟩) = .ok packages ∧
        packages.map Package.importPath = ["a/m_test", "a/m"] ∧
        (Dataset.seedAll warm.1 packages).get? "a/m_test" = some (some "a") := by
  intro warm
  have registered : testedMeeting.Registered :=
    (Memory.Registered.empty.package _ _ _).externalTests _ _
  have apart : testedMeeting.Apart := by decide +kernel
  obtain ⟨same, -, verdicts⟩ := analyze_shared testedEngine testedMeeting rfl registered rfl apart
    [("a/m", ""), ("b", ""), ("a/m", "("), ("a/m", "Run")] () ("a/...", "")
  obtain ⟨tests, own, loaded, outside, inside⟩ :
      ∃ tests own, Id.run (testedMeeting.load ⟨"a/m", none⟩) = .ok [tests, own] ∧
        tests.importPath = "a/m_test" ∧ own.importPath = "a/m" := ⟨_, _, rfl, rfl, rfl⟩
  refine ⟨same, [tests, own], loaded, by simp [outside, inside], ?_⟩
  obtain ⟨verdict, known, told⟩ := verdicts _ _ loaded tests (by simp)
  rw [outside] at known told
  have module : testedMeeting.moduleOf "a/m_test" = .ok (some "a") := by decide +kernel
  rw [module] at told
  cases told
  exact known

end Engine

end TestReach
