import TestReach.Proofs.Analysis.Datasets

/-!
# Stages

A selection reads its pattern, finds its place, loads packages, makes a dataset of them, and
extracts the dependencies of the targets. It ends if each of these stages comes to something, and if
it is not cancelled before the load or before the extraction.
-/

namespace TestReach

open Analysis

variable {World : Type} {cache after : ModuleCache} {world last : World}

theorem Dataset.ends_build_iff {loader : Loader (StateM World)} {locator : Locator}
    {isSelected : String → Bool} {dataset : Dataset} :
    Ends (build loader locator isSelected) cache world dataset after last ↔
      ∃ packages, (loader.load locator).run world = (.ok packages, last) ∧ packages ≠ [] ∧
        (∀ p ∈ packages, p.errors = []) ∧ ofPackages packages isSelected = .ok dataset ∧
        seedAll cache packages = after := by
  constructor
  · intro ends
    rw [Ends, run_build] at ends
    rcases load : (loader.load locator).run world with ⟨answer, loaded⟩
    rw [load] at ends
    cases answer with
    | error e => cases ends
    | ok packages =>
      dsimp only at ends
      split at ends
      · cases ends
      · rename_i some
        split at ends
        · cases ends
        · rename_i clean
          rw [not_not, diagnostics_eq_nil_iff] at clean
          obtain ⟨ended, rfl⟩ := Prod.mk.inj ends
          obtain ⟨built, rfl⟩ := Prod.mk.inj ended
          exact ⟨packages, rfl, some, clean, built, rfl⟩
  · rintro ⟨packages, load, some, clean, built, rfl⟩
    rw [← diagnostics_eq_nil_iff] at clean
    rw [Ends, run_build, load]
    dsimp only
    rw [if_neg some, if_neg (not_not.2 clean), built]

namespace Engine

theorem run_checkpoint (engine : Engine (StateM World)) (phase : Phase) (cache : ModuleCache)
    (world : World) :
    ((engine.checkpoint phase).run.run cache).run world =
      match engine.cancelled.run world with
      | (true, last) => ((.error (.cancelled phase), cache), last)
      | (false, last) => ((.ok (), cache), last) := by
  rw [checkpoint, run_perform, StateT.run_bind]
  rcases engine.cancelled.run world with ⟨cancelled, last⟩
  cases cancelled <;> rfl

theorem ends_checkpoint_iff {engine : Engine (StateM World)} {phase : Phase} :
    Ends (engine.checkpoint phase) cache world () after last ↔
      engine.cancelled.run world = (false, last) ∧ cache = after := by
  rw [Ends, run_checkpoint]
  rcases engine.cancelled.run world with ⟨cancelled, middle⟩
  constructor
  · intro ends
    cases cancelled with
    | true => cases ends
    | false =>
      cases ends
      exact ⟨rfl, rfl⟩
  · rintro ⟨answered, rfl⟩
    cases answered
    rfl

variable [Pattern.Compiler]

/-- The stages of a selection. The cache holds the modules of the loaded packages before anything is
extracted. -/
inductive Selects (engine : Engine (StateM World)) (path pattern : String) (cache : ModuleCache)
    (world : World) : Selection → ModuleCache → World → Prop
  | stages {isSelected : String → Bool} {directory? : Option String} {packages : List Package}
    {dataset : Dataset} {reached : List (Function × List Dependency)} {after : ModuleCache}
    {found started loaded calm last : World}
    (read : Pattern.Compiler.compile? pattern = some isSelected)
    (place : (engine.directory? path).run world = (directory?, found))
    (first : engine.cancelled.run found = (false, started))
    (load : (engine.loader.load (.ofPath path directory?)).run started = (.ok packages, loaded))
    (some : packages ≠ []) (clean : ∀ p ∈ packages, p.errors = [])
    (built : Dataset.ofPackages packages isSelected = .ok dataset)
    (second : engine.cancelled.run loaded = (false, calm))
    (extracted : Ends (dataset.extractAll (resolve engine.loader (.ofPath path directory?)))
      (Dataset.seedAll cache packages) calm reached after last) :
    Selects engine path pattern cache world ⟨.ofPath path directory?, dataset, reached⟩ after last

theorem ends_select_iff {engine : Engine (StateM World)} {path pattern : String}
    {selection : Selection} :
    Ends (engine.select path pattern) cache world selection after last ↔
      engine.Selects path pattern cache world selection after last := by
  constructor
  · intro ends
    unfold select at ends
    split at ends
    · exact absurd ends not_ends_throw
    · rename_i isSelected read
      obtain ⟨directory?, _, found, located, ends⟩ := ends_bind.1 ends
      obtain ⟨rfl, place⟩ := located.perform
      obtain ⟨_, _, started, check, ends⟩ := ends_bind.1 ends
      obtain ⟨first, rfl⟩ := ends_checkpoint_iff.1 check
      obtain ⟨dataset, _, loaded, builds, ends⟩ := ends_bind.1 ends
      obtain ⟨packages, load, some, clean, built, rfl⟩ := Dataset.ends_build_iff.1 builds
      obtain ⟨_, _, calm, check, ends⟩ := ends_bind.1 ends
      obtain ⟨second, rfl⟩ := ends_checkpoint_iff.1 check
      obtain ⟨reached, _, _, extracted, ends⟩ := ends_bind.1 ends
      obtain ⟨rfl, rfl, rfl⟩ := ends.pure
      exact .stages read place first load some clean built second extracted
  · rintro ⟨read, place, first, load, some, clean, built, second, extracted⟩
    rw [select, read]
    refine ends_bind.2 ⟨_, _, _, ends_perform place, ?_⟩
    refine ends_bind.2 ⟨_, _, _, ends_checkpoint_iff.2 ⟨first, rfl⟩, ?_⟩
    refine ends_bind.2 ⟨_, _, _, Dataset.ends_build_iff.2 ⟨_, load, some, clean, built, rfl⟩, ?_⟩
    refine ends_bind.2 ⟨_, _, _, ends_checkpoint_iff.2 ⟨second, rfl⟩, ?_⟩
    exact ends_bind.2 ⟨_, _, _, extracted, rfl⟩

theorem ends_analyze_iff {engine : Engine (StateM World)} {path pattern : String}
    {entries : List TargetListing} :
    Ends (engine.analyze path pattern) cache world entries after last ↔
      ∃ selection, engine.Selects path pattern cache world selection after last ∧
        selection.reached.map listing = entries := by
  constructor
  · intro ends
    obtain ⟨selection, _, _, selects, ends⟩ := ends_bind.1 ends
    obtain ⟨listed, rfl, rfl⟩ := ends.pure
    exact ⟨selection, ends_select_iff.1 selects, listed⟩
  · rintro ⟨selection, selects, rfl⟩
    exact ends_bind.2 ⟨selection, _, _, ends_select_iff.2 selects, rfl⟩

end Engine

end TestReach
