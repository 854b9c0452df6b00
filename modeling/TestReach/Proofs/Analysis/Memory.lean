import TestReach.Proofs.Analysis.Stages
import TestReach.Proofs.Loader.Names

/-!
# Analyses of packages in memory

An analysis of packages in memory reads a pattern, loads packages, builds a dataset and extracts the
dependencies of its targets. What it answers is what the loaded packages tell.
-/

namespace TestReach

open Packages Analysis

theorem Dataset.extractTarget_of_walk {dataset : Dataset}
    {answers : String → Except Failure (Option String)} {f : Function} {i : Nat}
    {node : CallGraph.Node} {module : String} {ds : List Dependency}
    (found : dataset.graph.node? i = some node)
    (inside : answers node.function.package = .ok (some module))
    (walked : dataset.walk answers module [] [i] = .ok ds) :
    dataset.extractTarget answers (f, i) = .ok (f, ds) := by
  rw [extractTarget, extract_live found, inside]
  change (dataset.walk answers module [] [i] >>= _) = _
  rw [walked]
  rfl

theorem Dataset.extractAll_of_walk {dataset : Dataset}
    {answers : String → Except Failure (Option String)} {f : Function} {i : Nat}
    {node : CallGraph.Node} {module : String} {ds : List Dependency}
    (targets : dataset.targets = [(f, i)]) (found : dataset.graph.node? i = some node)
    (inside : answers node.function.package = .ok (some module))
    (walked : dataset.walk answers module [] [i] = .ok ds) :
    dataset.extractAll answers = .ok [(f, ds)] := by
  rw [extractAll, targets, List.mapM_cons, List.mapM_nil,
    extractTarget_of_walk found inside walked]
  rfl

section

variable [Source.Parser] {World : Type} {memory : Memory} {cache after : ModuleCache}
  {world last : World}

theorem Memory.run_load {locator : Locator} {packages : List Package} :
    ((memory.loader : Loader (StateM World)).load locator).run world = (.ok packages, last) ↔
      Id.run (memory.load locator) = .ok packages ∧ world = last := by
  rw [show memory.loader.load locator = memory.load locator from rfl, Memory.load_pure]
  constructor
  · intro ran
    exact Prod.mk.inj ran
  · rintro ⟨same, rfl⟩
    rw [same]
    rfl

theorem Dataset.run_extractAll (memory : Memory) (dataset : Dataset) (locator : Locator)
    (cache : ModuleCache) :
    ∃ after, (dataset.extractAll (Analysis.resolve memory.loader locator) :
        Analysis (StateM World) _).run.run cache =
      pure (dataset.extractAll (cache.answer memory.moduleOf), after) := by
  have resolves (package : String) : Determined memory.moduleOf (cache.answer memory.moduleOf)
      (Analysis.resolve memory.loader locator package : Analysis (StateM World) _)
      (cache.answer memory.moduleOf package) :=
    determined_resolve (fun _ => rfl) package
  obtain ⟨after, -, ran⟩ := determined_extractAll resolves dataset cache rfl
  exact ⟨after, ran⟩

theorem Dataset.ends_extractAll_iff {dataset : Dataset} {locator : Locator}
    {reached : List (Function × List Dependency)} :
    (∃ after, Ends (dataset.extractAll (Analysis.resolve memory.loader locator)) cache world reached
        after last) ↔
      dataset.extractAll (cache.answer memory.moduleOf) = .ok reached ∧ world = last := by
  obtain ⟨after, ran⟩ := @Dataset.run_extractAll _ World memory dataset locator cache
  constructor
  · rintro ⟨_, ends⟩
    rw [Ends, ran] at ends
    obtain ⟨ended, rfl⟩ := Prod.mk.inj ends
    exact ⟨(Prod.mk.inj ended).1, rfl⟩
  · rintro ⟨extracted, rfl⟩
    refine ⟨after, ?_⟩
    rw [Ends, ran, extracted]
    rfl

namespace Engine

variable [Pattern.Compiler]

theorem select_ok {engine : Engine (StateM World)} (loads : engine.loader = memory.loader)
    {path pattern : String} {selection : Selection}
    (ends : Ends (engine.select path pattern) cache world selection after last) :
    ∃ isSelected packages, Pattern.Compiler.compile? pattern = some isSelected ∧
      Id.run (memory.load (Locator.ofPath path ((engine.directory? path).run world).1)) =
        .ok packages ∧
      Dataset.ofPackages packages isSelected = .ok selection.dataset ∧
      selection.dataset.extractAll
        ((Dataset.seedAll cache packages).answer memory.moduleOf) = .ok selection.reached := by
  obtain ⟨read, place, -, load, -, -, built, -, extracted⟩ := ends_select_iff.1 ends
  rw [loads] at load extracted
  rw [place]
  refine ⟨_, _, read, (Memory.run_load.1 load).1, built, ?_⟩
  exact (Dataset.ends_extractAll_iff.1 ⟨_, extracted⟩).1

theorem analyze_of_stages (engine : Engine (StateM World)) (cache : ModuleCache) (world : World)
    (loads : engine.loader = memory.loader) (calm : engine.cancelled = pure false)
    {path pattern : String} {isSelected : String → Bool} {packages : List Package}
    {dataset : Dataset} {reached : List (Function × List Dependency)}
    (read : Pattern.Compiler.compile? pattern = some isSelected)
    (loaded : Id.run (memory.load
      (Locator.ofPath path ((engine.directory? path).run world).1)) = .ok packages)
    (listed : packages.isEmpty = false) (clean : (Dataset.diagnostics packages).isEmpty = true)
    (built : Dataset.ofPackages packages isSelected = .ok dataset)
    (extracted : dataset.extractAll ((Dataset.seedAll cache packages).answer memory.moduleOf) =
      .ok reached) :
    ∃ after, Ends (engine.analyze path pattern) cache world (reached.map listing) after
      ((engine.directory? path).run world).2 := by
  rcases place : (engine.directory? path).run world with ⟨directory?, found⟩
  rw [place] at loaded
  rw [List.isEmpty_eq_false_iff] at listed
  rw [List.isEmpty_iff, Dataset.diagnostics_eq_nil_iff] at clean
  have load : (engine.loader.load (.ofPath path directory?)).run found = (.ok packages, found) := by
    rw [loads]
    exact Memory.run_load.2 ⟨loaded, rfl⟩
  have unhindered : engine.cancelled.run found = (false, found) := by
    rw [calm]
    rfl
  obtain ⟨after, extracts⟩ := Dataset.ends_extractAll_iff.2 ⟨extracted, rfl⟩
  rw [← loads] at extracts
  have selects := ends_select_iff.2
    (.stages read place unhindered load listed clean built unhindered extracts)
  exact ⟨after, ends_bind.2 ⟨_, _, _, selects, rfl⟩⟩

/-- Packages in memory that import paths tell apart are answered for as their calls lead, whatever
the cache and the world are. -/
theorem analyze_answers [Source.Parser.Naming] (engine : Engine (StateM World)) (memory : Memory)
    (loads : engine.loader = memory.loader) (path pattern : String) (cache after : ModuleCache)
    (world last : World) (entries : List TargetListing)
    (done : ((engine.analyze path pattern).run.run cache).run world = ((.ok entries, after), last))
    (separate : ∀ packages,
      Id.run (memory.load (Locator.ofPath path ((engine.directory? path).run world).1)) =
        .ok packages → Separate packages) :
    ∃ isSelected packages, Pattern.Compiler.compile? pattern = some isSelected ∧
      Id.run (memory.load (Locator.ofPath path ((engine.directory? path).run world).1)) =
        .ok packages ∧
      Answers packages ((Dataset.seedAll cache packages).answer memory.moduleOf) isSelected
        entries := by
  obtain ⟨selection, _, _, selects, ends⟩ := ends_bind.1 done
  obtain ⟨rfl, -, -⟩ := ends.pure
  obtain ⟨isSelected, packages, read, loaded, built, extracted⟩ := select_ok loads selects
  have worded := (Memory.loaded loaded).worded
  have regular := regular_of_worded (separate packages loaded) worded
  exact ⟨isSelected, packages, read, loaded,
    Dataset.ofPackages_answers regular worded built extracted⟩

end Engine

end

abbrev Pattern.Compiler.words : Pattern.Compiler where
  compile? pattern :=
    if pattern.toList.all Char.isAlphanum then
      some fun name => Text.holds pattern.toList name.toList
    else none

def meetingSource : String :=
  "package m\n\nfunc (t T) Get() \x7b A(t) \x7d\n\nfunc A(t T) \x7b t.Get() \x7d\n"

def meetingTree : Source.Tree :=
  .node .plain .sourceFile ⟨⟨0, 0⟩, ⟨62, 5⟩⟩ [
    .on 0 0 9 .plain .packageClause [.on 0 8 9 .plain .packageIdentifier []],
    .on 2 11 36 .plain .methodDeclaration [
      .on 2 16 21 .receiver .parameterList [
        .on 2 17 20 .plain .parameterDeclaration [
          .on 2 17 18 .name .identifier [], .on 2 19 20 .type .typeIdentifier []]],
      .on 2 22 25 .name .fieldIdentifier [], .on 2 25 27 .plain .parameterList [],
      .on 2 28 36 .body .block [
        .on 2 30 34 .plain .expressionStatement [
          .on 2 30 34 .plain .callExpression [
            .on 2 30 31 .function .identifier [],
            .on 2 31 34 .plain .argumentList [.on 2 32 33 .plain .identifier []]]]]],
    .on 4 38 61 .plain .functionDeclaration [
      .on 4 43 44 .name .identifier [],
      .on 4 44 49 .plain .parameterList [
        .on 4 45 48 .plain .parameterDeclaration [
          .on 4 45 46 .name .identifier [], .on 4 47 48 .type .typeIdentifier []]],
      .on 4 50 61 .body .block [
        .on 4 52 59 .plain .expressionStatement [
          .on 4 52 59 .plain .callExpression [
            .on 4 52 57 .function .selectorExpression [
              .on 4 52 53 .operand .identifier [], .on 4 54 57 .field .fieldIdentifier []],
            .on 4 57 59 .plain .argumentList []]]]]]

namespace Engine

local instance meetingCompiler : Pattern.Compiler := .words

local instance meetingParser : Source.Parser := .ofList [(meetingSource, meetingTree)]

local instance meetingNaming : Source.Parser.Naming :=
  Source.Parser.promises_ofList (by decide +kernel)

def meeting : Memory := Memory.empty.addPackage (some "a") "a/m" [("m.go", meetingSource)]

def meetingEngine : Engine (StateM Unit) where
  loader := meeting.loader
  toolchain := { runTests := fun _ => pure (.ok ()), summarize := fun _ _ => pure (.ok "") }
  settings := ⟨none, .set, .ownership, []⟩
  directory? := fun _ => pure none
  cancelled := pure false
  makeProfileDirectory := pure (.ok "/tmp/test-reach")
  removeProfileDirectory := fun _ => pure (.ok ())

def meetingPackages : List Package :=
  let declarations : List Source.Declaration :=
    [⟨"Get", some ⟨"T", false⟩, "/memory/a/m/m.go", 3, 3, true, 1, [⟨3, .bare "A"⟩]⟩,
      ⟨"A", none, "/memory/a/m/m.go", 5, 5, true, 1, [⟨5, .qualified "t" "Get"⟩]⟩]
  [⟨"a/m", "m", "/memory/a/m", some "a", false, false, false,
    [⟨"/memory/a/m/m.go", "m", [], declarations, [], [.bare "t"]⟩], []⟩]

def meetingDataset : Dataset where
  graph := ⟨#[some ⟨⟨"a/m", "(T).Get"⟩, false⟩, some ⟨⟨"a/m", "A"⟩, false⟩, none], [2],
    #[⟨0, 1, 3⟩, ⟨1, 0, 5⟩]⟩
  targets := [(⟨"a/m", "A"⟩, 1)]
  declarations := Dataset.declarationsOf meetingPackages
  files := .ofPackages meetingPackages

theorem load_meeting : Id.run (meeting.load ⟨"a/m", none⟩) = .ok meetingPackages := by
  decide +kernel

theorem extractAll_meeting :
    meetingDataset.extractAll ((Dataset.seedAll .empty meetingPackages).answer meeting.moduleOf) =
      .ok [(⟨"a/m", "A"⟩, [meetingDataset.dependency "a" 1 ⟨"a/m", "A"⟩,
        meetingDataset.dependency "a" 0 ⟨"a/m", "(T).Get"⟩])] := by
  generalize answered : (Dataset.seedAll .empty meetingPackages).answer meeting.moduleOf = answers
  have inside : answers "a/m" = .ok (some "a") := by
    rw [← answered]
    decide +kernel
  have first : meetingDataset.graph.node? 1 = some ⟨⟨"a/m", "A"⟩, false⟩ := rfl
  have second : meetingDataset.graph.node? 0 = some ⟨⟨"a/m", "(T).Get"⟩, false⟩ := rfl
  have ended : meetingDataset.walk answers "a" [0, 1] [] = .ok [] := by
    rw [Dataset.walk]
    rfl
  have behind : meetingDataset.walk answers "a" [1] [0] =
      .ok [meetingDataset.dependency "a" 0 ⟨"a/m", "(T).Get"⟩] :=
    Dataset.walk_inside (by decide) second (by decide) inside ended
  have walked : meetingDataset.walk answers "a" [] [1] =
      .ok [meetingDataset.dependency "a" 1 ⟨"a/m", "A"⟩,
        meetingDataset.dependency "a" 0 ⟨"a/m", "(T).Get"⟩] :=
    Dataset.walk_inside (by decide) first (by decide) inside behind
  exact Dataset.extractAll_of_walk rfl first inside walked

theorem analyze_answers_meeting :
    ∃ after, ((meetingEngine.analyze "a/m" "").run.run .empty).run () =
        ((.ok [⟨⟨"a/m", "A"⟩, [⟨⟨"a/m", "A"⟩, "a", 1, some "m.go:5"⟩,
          ⟨⟨"a/m", "(T).Get"⟩, "a", 1, some "m.go:3"⟩]⟩], after), ()) ∧
      ∃ isSelected packages, Pattern.Compiler.compile? "" = some isSelected ∧
        Id.run (meeting.load ⟨"a/m", none⟩) = .ok packages ∧
        Answers packages ((Dataset.seedAll .empty packages).answer meeting.moduleOf) isSelected
          [⟨⟨"a/m", "A"⟩, [⟨⟨"a/m", "A"⟩, "a", 1, some "m.go:5"⟩,
            ⟨⟨"a/m", "(T).Get"⟩, "a", 1, some "m.go:3"⟩]⟩] := by
  have read : Pattern.Compiler.compile? "" =
      some fun name => Text.holds "".toList name.toList := rfl
  have built : Dataset.ofPackages meetingPackages (fun name => Text.holds "".toList name.toList) =
      .ok meetingDataset := by
    decide +kernel
  obtain ⟨after, done⟩ := analyze_of_stages meetingEngine .empty () rfl rfl read load_meeting rfl
    rfl built extractAll_meeting
  refine ⟨after, done,
    analyze_answers meetingEngine meeting rfl "a/m" "" .empty after () () _ done ?_⟩
  intro packages loaded
  have same := loaded.symm.trans load_meeting
  rw [Except.ok.injEq] at same
  rw [same]
  exact ⟨by decide, by decide, by decide⟩

end Engine

end TestReach
