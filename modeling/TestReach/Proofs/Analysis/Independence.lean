import TestReach.Proofs.Analysis.Memory

/-!
# Targets on their own

An extraction reads the graph and the declarations, and the targets of a dataset change neither. So
what is listed for a target does not depend on which targets are extracted before it, or with it.
-/

namespace TestReach

open Packages Analysis

namespace Dataset

section

variable {m : Type → Type} [Monad m] {first second : Dataset} {resolve : String → m (Option String)}
  (graph : second.graph = first.graph) (declarations : second.declarations = first.declarations)

include graph declarations

theorem extract_congr [MonadExceptOf Failure m] (root? : Option Nat) :
    second.extract resolve root? = first.extract resolve root? := by
  have equal : Relates fun α (step other : m α) => other = step := by
    constructor
    case pure => exact fun _ => rfl
    case bind =>
      rintro _ _ _ _ next follow rfl same
      rw [funext same]
  exact extract_relates equal (fun _ => rfl) graph declarations (fun _ _ => rfl) root?

end

variable {packages : List Package} {isSelected others : String → Bool} {first second : Dataset}
  {answers : String → Except Failure (Option String)} {f : Function}
  {reached apart : List (Function × List Dependency)}

theorem extractAll_targets {dataset : Dataset} (done : dataset.extractAll answers = .ok reached) :
    reached.map Prod.fst = dataset.targets.map Prod.fst :=
  (mapM_ok (fun _ _ extracted => (extractTarget_ok extracted).1) done).1

theorem HasTargets.mem_targets_iff {dataset : Dataset} {i : Nat}
    (targets : dataset.HasTargets packages isSelected) :
    (f, i) ∈ dataset.targets ↔
      f ∈ dataset.targets.map Prod.fst ∧ dataset.graph.find? f = some i := by
  constructor
  · intro member
    exact ⟨List.mem_map_of_mem member, (targets.located _ member).1⟩
  · rintro ⟨member, found⟩
    obtain ⟨⟨_, j⟩, among, rfl⟩ := List.mem_map.1 member
    have same := (targets.located _ among).1.symm.trans found
    rw [Option.some.injEq] at same
    exact same ▸ among

theorem HasTargets.exists_list {dataset : Dataset}
    (targets : dataset.HasTargets packages isSelected)
    (done : dataset.extractAll answers = .ok reached)
    (chosen : f ∈ dataset.targets.map Prod.fst) :
    ∃ i ds, dataset.graph.find? f = some i ∧ dataset.extract answers (some i) = .ok ds ∧
      ∀ listed, (f, listed) ∈ reached ↔ listed = ds := by
  rw [← extractAll_targets done] at chosen
  obtain ⟨⟨f, ds⟩, member, rfl⟩ := List.mem_map.1 chosen
  obtain ⟨⟨_, i⟩, among, come⟩ := (mem_mapM_iff done).1 member
  obtain ⟨rfl, extracted⟩ := extractTarget_ok come
  have found := (targets.mem_targets_iff.1 among).2
  refine ⟨i, ds, found, extracted, ?_⟩
  intro listed
  constructor
  · intro other
    obtain ⟨⟨_, j⟩, also, comes⟩ := (mem_mapM_iff done).1 other
    obtain ⟨rfl, again⟩ := extractTarget_ok comes
    have here := (targets.mem_targets_iff.1 also).2.symm.trans found
    rw [Option.some.injEq] at here
    subst here
    exact Except.ok.inj (again.symm.trans extracted)
  · rintro rfl
    exact member

section

variable (own : ofPackages packages isSelected = .ok first)
  (other : ofPackages packages others = .ok second)

include own other

theorem ofPackages_extractAll (done : first.extractAll answers = .ok reached)
    (fewer : ∀ f ∈ second.targets.map Prod.fst, f ∈ first.targets.map Prod.fst) :
    ∃ apart, second.extractAll answers = .ok apart := by
  have graph := (ofPackages_ok other).1.trans (ofPackages_ok own).1.symm
  have declarations := (ofPackages_tables other).1.trans (ofPackages_tables own).1.symm
  apply mapM_of_forall
  rintro ⟨f, i⟩ among
  obtain ⟨chosen, found⟩ := (ofPackages_hasTargets other).mem_targets_iff.1 among
  obtain ⟨j, ds, here, extracted, -⟩ :=
    (ofPackages_hasTargets own).exists_list done (fewer f chosen)
  rw [graph, here, Option.some.injEq] at found
  refine ⟨(f, ds), ?_⟩
  rw [extractTarget, extract_congr graph declarations, ← found, extracted]
  rfl

theorem ofPackages_lists (done : first.extractAll answers = .ok reached)
    (doneApart : second.extractAll answers = .ok apart)
    (chosen : f ∈ first.targets.map Prod.fst) (chosenApart : f ∈ second.targets.map Prod.fst) :
    ∃ ds, ∀ listed, ((f, listed) ∈ reached ↔ listed = ds) ∧
      ((f, listed) ∈ apart ↔ listed = ds) := by
  have graph := (ofPackages_ok other).1.trans (ofPackages_ok own).1.symm
  have declarations := (ofPackages_tables other).1.trans (ofPackages_tables own).1.symm
  obtain ⟨i, ds, found, extracted, lists⟩ := (ofPackages_hasTargets own).exists_list done chosen
  obtain ⟨j, others, here, again, also⟩ :=
    (ofPackages_hasTargets other).exists_list doneApart chosenApart
  rw [graph, found, Option.some.injEq] at here
  rw [extract_congr graph declarations, ← here, extracted, Except.ok.injEq] at again
  subst again
  exact ⟨ds, fun listed => ⟨lists listed, also listed⟩⟩

end

end Dataset

namespace Engine

variable {World : Type}

theorem mem_listings_iff {reached : List (Function × List Dependency)} {f : Function}
    {ds : List Dependency} (lists : ∀ listed, (f, listed) ∈ reached ↔ listed = ds)
    (listed : List ListedDependency) :
    ⟨f, listed⟩ ∈ reached.map listing ↔ listed = ds.map Dependency.listed := by
  constructor
  · intro member
    obtain ⟨⟨g, others⟩, among, same⟩ := List.mem_map.1 member
    obtain ⟨rfl, rfl⟩ := TargetListing.mk.inj same
    rw [(lists others).1 among]
  · rintro rfl
    exact List.mem_map_of_mem ((lists ds).2 rfl)

section

variable [Source.Parser] [Source.Parser.Naming] {memory : Memory} {packages : List Package}
  {isSelected : String → Bool} {dataset : Dataset}

theorem mem_targets_iff_isTarget {locator : Locator}
    (loaded : Id.run (memory.load locator) = .ok packages)
    (built : Dataset.ofPackages packages isSelected = .ok dataset) (f : Function) :
    f ∈ dataset.targets.map Prod.fst ↔ IsTarget packages isSelected f := by
  rw [(Dataset.ofPackages_hasTargets built).mem_iff, ← Dataset.mem_selected_iff,
    Dataset.mem_selected (Memory.loaded loaded).worded]

theorem mem_entries_iff_isTarget {locator : Locator}
    (loaded : Id.run (memory.load locator) = .ok packages)
    (built : Dataset.ofPackages packages isSelected = .ok dataset)
    {answers : String → Except Failure (Option String)}
    {reached : List (Function × List Dependency)}
    (extracted : dataset.extractAll answers = .ok reached) (f : Function) :
    f ∈ (reached.map listing).map TargetListing.target ↔ IsTarget packages isSelected f := by
  rw [← mem_targets_iff_isTarget loaded built, ← Dataset.extractAll_targets extracted, List.map_map]
  rfl

/-- What is listed for a target depends on the packages alone. An analysis by another pattern lists
the same for it, whatever its other targets are; and it ends if all its targets were targets. -/
theorem analyze_independent [Pattern.Compiler] (engine : Engine (StateM World)) (memory : Memory)
    (loads : engine.loader = memory.loader) (path pattern other : String)
    (isOther : String → Bool) (readable : Pattern.Compiler.compile? other = some isOther)
    (cache after : ModuleCache) (world last : World) (entries : List TargetListing)
    (done : ((engine.analyze path pattern).run.run cache).run world =
      ((.ok entries, after), last)) :
    ∃ isSelected packages, Pattern.Compiler.compile? pattern = some isSelected ∧
      Id.run (memory.load (Locator.ofPath path ((engine.directory? path).run world).1)) =
        .ok packages ∧
      (∀ f, f ∈ entries.map TargetListing.target ↔ IsTarget packages isSelected f) ∧
      ((∀ f, IsTarget packages isOther f → IsTarget packages isSelected f) →
        ∃ apart left final, ((engine.analyze path other).run.run cache).run world =
          ((.ok apart, left), final)) ∧
      ∀ elsewhere apart left final,
        ((engine.directory? path).run elsewhere).1 = ((engine.directory? path).run world).1 →
        ((engine.analyze path other).run.run cache).run elsewhere = ((.ok apart, left), final) →
        (∀ f, f ∈ apart.map TargetListing.target ↔ IsTarget packages isOther f) ∧
        ∀ f, IsTarget packages isSelected f → IsTarget packages isOther f →
          ∃ ds, ∀ listed, (⟨f, listed⟩ ∈ entries ↔ listed = ds) ∧
            (⟨f, listed⟩ ∈ apart ↔ listed = ds) := by
  obtain ⟨_, ⟨read, place, first, load, some, clean, built, second, ends⟩, rfl⟩ :=
    ends_analyze_iff.1 done
  rename_i isSelected directory? packages dataset reached found started loaded calm
  rw [loads] at load ends
  obtain ⟨here, rfl⟩ := Memory.run_load.1 load
  obtain ⟨extracted, rfl⟩ := Dataset.ends_extractAll_iff.1 ⟨after, ends⟩
  rw [place]
  refine ⟨isSelected, packages, read, here, mem_entries_iff_isTarget here built extracted, ?_, ?_⟩
  · intro fewer
    obtain ⟨separate, builds⟩ := Dataset.exists_ofPackages packages isOther
    have subset : ∀ f ∈ separate.targets.map Prod.fst, f ∈ dataset.targets.map Prod.fst := by
      intro f
      rw [mem_targets_iff_isTarget here builds, mem_targets_iff_isTarget here built]
      exact fewer f
    obtain ⟨apart, extracts⟩ := Dataset.ofPackages_extractAll built builds extracted subset
    obtain ⟨left, ends⟩ := Dataset.ends_extractAll_iff.2 ⟨extracts, rfl⟩
    rw [← loads] at load ends
    exact ⟨_, left, _, ends_analyze_iff.2
      ⟨_, .stages readable place first load some clean builds second ends, rfl⟩⟩
  · intro elsewhere apart left final samePlace doneApart
    obtain ⟨selection, selects, rfl⟩ := ends_analyze_iff.1 doneApart
    obtain ⟨_, _, again, loaded, builds, extracts⟩ := select_ok loads (ends_select_iff.2 selects)
    obtain rfl := Option.some.inj (again.symm.trans readable)
    rw [samePlace] at loaded
    obtain rfl := Except.ok.inj (loaded.symm.trans here)
    refine ⟨mem_entries_iff_isTarget here builds extracts, ?_⟩
    intro f chosen chosenApart
    obtain ⟨ds, lists⟩ := Dataset.ofPackages_lists built builds extracted extracts
      ((mem_targets_iff_isTarget here built f).2 chosen)
      ((mem_targets_iff_isTarget here builds f).2 chosenApart)
    exact ⟨ds.map Dependency.listed, fun listed =>
      ⟨mem_listings_iff (fun ds => (lists ds).1) listed,
        mem_listings_iff (fun ds => (lists ds).2) listed⟩⟩

end

def volleySource : String :=
  "package m\n\nfunc A() \x7b B() \x7d\n\nfunc B() \x7b A() \x7d\n"

def volleyTree : Source.Tree :=
  .node .plain .sourceFile ⟨⟨0, 0⟩, ⟨46, 5⟩⟩ [
    .on 0 0 9 .plain .packageClause [.on 0 8 9 .plain .packageIdentifier []],
    .on 2 11 27 .plain .functionDeclaration [
      .on 2 16 17 .name .identifier [], .on 2 17 19 .plain .parameterList [],
      .on 2 20 27 .body .block [
        .on 2 22 25 .plain .expressionStatement [
          .on 2 22 25 .plain .callExpression [
            .on 2 22 23 .function .identifier [], .on 2 23 25 .plain .argumentList []]]]],
    .on 4 29 45 .plain .functionDeclaration [
      .on 4 34 35 .name .identifier [], .on 4 35 37 .plain .parameterList [],
      .on 4 38 45 .body .block [
        .on 4 40 43 .plain .expressionStatement [
          .on 4 40 43 .plain .callExpression [
            .on 4 40 41 .function .identifier [], .on 4 41 43 .plain .argumentList []]]]]]

local instance volleyCompiler : Pattern.Compiler := .words

local instance volleyParser : Source.Parser := .ofList [(volleySource, volleyTree)]

local instance volleyNaming : Source.Parser.Naming :=
  Source.Parser.promises_ofList (by decide +kernel)

def volley : Memory := Memory.empty.addPackage (some "a") "a/m" [("m.go", volleySource)]

def volleyEngine : Engine (StateM Unit) :=
  { meetingEngine with loader := volley.loader }

def volleyPackages : List Package :=
  let declarations : List Source.Declaration :=
    [⟨"A", none, "/memory/a/m/m.go", 3, 3, true, 1, [⟨3, .bare "B"⟩]⟩,
      ⟨"B", none, "/memory/a/m/m.go", 5, 5, true, 1, [⟨5, .bare "A"⟩]⟩]
  [⟨"a/m", "m", "/memory/a/m", some "a", false, false, false,
    [⟨"/memory/a/m/m.go", "m", [], declarations, [], []⟩], []⟩]

def volleyDataset : Dataset where
  graph := ⟨#[some ⟨⟨"a/m", "A"⟩, false⟩, some ⟨⟨"a/m", "B"⟩, false⟩], [],
    #[⟨0, 1, 3⟩, ⟨1, 0, 5⟩]⟩
  targets := [(⟨"a/m", "A"⟩, 0), (⟨"a/m", "B"⟩, 1)]
  declarations := Dataset.declarationsOf volleyPackages
  files := .ofPackages volleyPackages

theorem load_volley : Id.run (volley.load ⟨"a/m", none⟩) = .ok volleyPackages := by
  decide +kernel

theorem extractAll_volley :
    volleyDataset.extractAll ((Dataset.seedAll .empty volleyPackages).answer volley.moduleOf) =
      .ok [(⟨"a/m", "A"⟩, [volleyDataset.dependency "a" 0 ⟨"a/m", "A"⟩,
          volleyDataset.dependency "a" 1 ⟨"a/m", "B"⟩]),
        (⟨"a/m", "B"⟩, [volleyDataset.dependency "a" 1 ⟨"a/m", "B"⟩,
          volleyDataset.dependency "a" 0 ⟨"a/m", "A"⟩])] := by
  generalize answered : (Dataset.seedAll .empty volleyPackages).answer volley.moduleOf = answers
  have inside : answers "a/m" = .ok (some "a") := by
    rw [← answered]
    decide +kernel
  have first : volleyDataset.graph.node? 0 = some ⟨⟨"a/m", "A"⟩, false⟩ := rfl
  have second : volleyDataset.graph.node? 1 = some ⟨⟨"a/m", "B"⟩, false⟩ := rfl
  have ended (visited : List Nat) : volleyDataset.walk answers "a" visited [] = .ok [] := by
    rw [Dataset.walk]
    rfl
  have afterA : volleyDataset.walk answers "a" [0] [1] =
      .ok [volleyDataset.dependency "a" 1 ⟨"a/m", "B"⟩] :=
    Dataset.walk_inside rfl second (by decide) inside (ended [1, 0])
  have afterB : volleyDataset.walk answers "a" [1] [0] =
      .ok [volleyDataset.dependency "a" 0 ⟨"a/m", "A"⟩] :=
    Dataset.walk_inside rfl first (by decide) inside (ended [0, 1])
  have fromA := Dataset.extractTarget_of_walk (f := ⟨"a/m", "A"⟩) first inside
    (Dataset.walk_inside rfl first (by decide) inside afterA)
  have fromB := Dataset.extractTarget_of_walk (f := ⟨"a/m", "B"⟩) second inside
    (Dataset.walk_inside rfl second (by decide) inside afterB)
  have targets : volleyDataset.targets = [(⟨"a/m", "A"⟩, 0), (⟨"a/m", "B"⟩, 1)] := rfl
  rw [Dataset.extractAll, targets, List.mapM_cons, List.mapM_cons, List.mapM_nil, fromA, fromB]
  rfl

theorem analyze_independent_volley :
    ∃ isOther after apart left, Pattern.Compiler.compile? "B" = some isOther ∧
      ((volleyEngine.analyze "a/m" "").run.run .empty).run () =
        ((.ok [⟨⟨"a/m", "A"⟩, [⟨⟨"a/m", "A"⟩, "a", 1, some "m.go:3"⟩,
            ⟨⟨"a/m", "B"⟩, "a", 1, some "m.go:5"⟩]⟩,
          ⟨⟨"a/m", "B"⟩, [⟨⟨"a/m", "B"⟩, "a", 1, some "m.go:5"⟩,
            ⟨⟨"a/m", "A"⟩, "a", 1, some "m.go:3"⟩]⟩], after), ()) ∧
      ((volleyEngine.analyze "a/m" "B").run.run .empty).run () = ((.ok apart, left), ()) ∧
      ⟨⟨"a/m", "B"⟩, [⟨⟨"a/m", "B"⟩, "a", 1, some "m.go:5"⟩,
        ⟨⟨"a/m", "A"⟩, "a", 1, some "m.go:3"⟩]⟩ ∈ apart := by
  let holds (part name : String) : Bool := Text.holds part.toList name.toList
  have read : Pattern.Compiler.compile? "" = some (holds "") := rfl
  have readable : Pattern.Compiler.compile? "B" = some (holds "B") := rfl
  have built : Dataset.ofPackages volleyPackages (holds "") = .ok volleyDataset := by
    decide +kernel
  obtain ⟨after, done⟩ := analyze_of_stages volleyEngine .empty () rfl rfl read load_volley rfl
    rfl built extractAll_volley
  obtain ⟨isSelected, packages, same, loaded, -, ends, agrees⟩ :=
    analyze_independent volleyEngine volley rfl "a/m" "" "B" (holds "B") readable .empty after () ()
      _ done
  obtain rfl := Option.some.inj (same.symm.trans read)
  obtain rfl := Except.ok.inj (loaded.symm.trans load_volley)
  have all (name : String) : holds "" name = true := by
    simp [holds, Text.holds_iff]
  obtain ⟨apart, left, _, doneApart⟩ := ends <| by
    rintro f ⟨p, member, root, d, declared, none, same, own, -⟩
    exact ⟨p, member, root, d, declared, none, same, own, all d.name⟩
  have selected (isSelected : String → Bool) (named : isSelected "B" = true) :
      IsTarget volleyPackages isSelected ⟨"a/m", "B"⟩ :=
    ⟨_, List.mem_singleton.2 rfl, rfl, _, List.mem_cons_of_mem _ (List.mem_singleton.2 rfl), rfl,
      rfl, rfl, named⟩
  obtain ⟨ds, lists⟩ := (agrees () apart left () rfl doneApart).2 _ (selected _ (all "B"))
    (selected _ (by decide))
  refine ⟨holds "B", after, apart, left, readable, done, doneApart, ?_⟩
  exact (lists _).2.2 ((lists _).1.1 (List.mem_cons_of_mem _ (List.mem_singleton.2 rfl)))

end Engine

end TestReach
