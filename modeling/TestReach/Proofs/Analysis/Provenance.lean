import TestReach.Proofs.Analysis.Extractions
import TestReach.Proofs.Analysis.Memory
import TestReach.Proofs.Graph.Building

/-!
# Where dependencies come from

A node of the graph stands for a declared function, for a function that is called in a package
without files, or for a call that can lead to several functions. The last are purged. So a
dependency without a declaration is of a package that no file was read of, and one that has several
has the last of them. This is so of any packages, also where two of them share a path.
-/

namespace TestReach

open Analysis Packages

theorem Table.get?_ofList_eq_some_iff {κ α : Type} [DecidableEq κ] {pairs : List (κ × α)} {key : κ}
    {value : α} : (ofList pairs).get? key = some value ↔
      ∃ before behind, pairs = before ++ (key, value) :: behind ∧
        ∀ pair ∈ behind, pair.1 ≠ key := by
  rw [get?_ofList, Option.map_eq_some_iff]
  constructor
  · rintro ⟨⟨first, second⟩, found, rfl⟩
    obtain ⟨same, behind, before, split, other⟩ := List.find?_eq_some_iff_append.1 found
    obtain rfl : first = key := of_decide_eq_true same
    refine ⟨before.reverse, behind.reverse, ?_, ?_⟩
    · rw [← List.reverse_reverse pairs, split]
      simp
    · intro pair member
      simpa using other pair (List.mem_reverse.1 member)
  · rintro ⟨before, behind, rfl, other⟩
    refine ⟨(key, value), List.find?_eq_some_iff_append.2 ⟨by simp, behind.reverse, before.reverse,
      by simp, ?_⟩, rfl⟩
    intro pair member
    simpa using other pair (List.mem_reverse.1 member)

namespace CallGraph

variable {packages : List Package} {g : CallGraph}

def IsSource (packages : List Package) (f : Function) : Prop :=
  f ∈ functions packages ∨ isRead packages f.package = false

structure Sourced (packages : List Package) (g : CallGraph) : Prop where
  wf : g.WellFormed
  nodes : ∀ i node, g.node? i = some node → node.synthetic = false →
    IsSource packages node.function

namespace Sourced

variable (sourced : g.Sourced packages)

include sourced

theorem add {f : Function} {synthetic : Bool} (known : synthetic = true ∨ IsSource packages f) :
    (g.add f synthetic).1.Sourced packages := by
  refine ⟨sourced.wf.add f synthetic, ?_⟩
  intro i node found real
  rcases sourced.wf.node?_add f synthetic with ⟨-, same⟩ | ⟨-, -, nodes⟩
  · exact sourced.nodes i node (same ▸ found) real
  · rw [nodes] at found
    split at found
    · obtain rfl := Option.some.inj found
      refine known.resolve_left fun synthetic => ?_
      rw [synthetic] at real
      cases real
    · exact sourced.nodes i node found real

theorem connect (caller callee line : Nat) : (g.connect caller callee line).Sourced packages := by
  refine ⟨sourced.wf.connect caller callee line, ?_⟩
  intro i node found
  rw [node?_connect] at found
  exact sourced.nodes i node found

theorem addStub (f : Function) (callees : List Nat) : (g.addStub f callees).1.Sourced packages := by
  have kept (stub : Nat) (h : CallGraph) (sourced : h.Sourced packages) :
      (callees.foldl (fun g callee => g.connect stub callee 0) h).Sourced packages := by
    induction callees generalizing h with
    | nil => exact sourced
    | cons callee callees ih => exact ih _ (sourced.connect stub callee 0)
  exact kept _ _ (sourced.add (.inl rfl))

theorem purge {i : Nat} {f : Function} (found : g.purge.function? i = some f) :
    g.purge.node? i = some ⟨f, false⟩ ∧ IsSource packages f := by
  obtain ⟨node, here, rfl⟩ := Option.map_eq_some_iff.1 found
  rw [sourced.wf.node?_purge, Option.filter_eq_some_iff] at here
  obtain ⟨before, real⟩ := here
  rw [Bool.not_eq_true'] at real
  refine ⟨?_, sourced.nodes i node before real⟩
  rw [sourced.wf.node?_purge, before, Option.filter_some, real, if_pos Bool.not_false, ← real]

end Sourced

theorem isRead_of_target_unread {d : Declared} (parsed : d.parsed = parsedPackages packages)
    {package : Package} {scope : Scope} {callee : Source.Callee} {f : Function}
    (unread : d.target g package scope callee = .unread f) :
    isRead packages f.package = false := by
  have onValue (name : String) : d.onValue name ≠ .unread f := by
    unfold Declared.onValue
    split <;> simp
  cases callee with
  | bare name =>
    simp only [Declared.target] at unread
    split at unread
    · cases unread
    · split at unread <;> cases unread
  | method name => exact absurd unread (onValue name)
  | computed => cases unread
  | qualified qualifier name =>
    simp only [Declared.target] at unread
    split at unread
    · exact absurd unread (onValue name)
    · rename_i path bound
      split at unread
      · cases unread
      · split at unread
        · rename_i absent
          rw [parsed, parsedPackages_eq_none_iff] at absent
          cases unread
          exact absent
        · split at unread <;> cases unread

namespace Growth

variable {growth : Growth} {d : Declared} {values : List Nat}

theorem sourced_addCall (sourced : growth.graph.Sourced packages) (caller line : Nat)
    {target : Target} (known : ∀ f, target = .unread f → isRead packages f.package = false) :
    (growth.addCall d values caller line target).graph.Sourced packages := by
  cases target with
  | nowhere => exact sourced
  | node callee => exact sourced.connect caller callee line
  | unread f => exact (sourced.add (.inr (.inr (known f rfl)))).connect caller _ line
  | methods name =>
    simp only [addCall]
    split
    · exact sourced.connect caller _ line
    · exact (sourced.addStub _ _).connect caller _ line
  | values =>
    simp only [addCall]
    split
    · exact sourced
    · split
      · exact sourced.connect caller _ line
      · exact (sourced.addStub _ _).connect caller _ line

theorem sourced_step (sourced : growth.graph.Sourced packages)
    (parsed : d.parsed = parsedPackages packages) (call : Call) :
    (growth.step d values call).graph.Sourced packages := by
  unfold step
  split
  · exact sourced
  · exact sourced_addCall sourced _ _ fun f => isRead_of_target_unread parsed

theorem sourced_run (sourced : growth.graph.Sourced packages)
    (parsed : d.parsed = parsedPackages packages) (calls : List Call) :
    (calls.foldl (step d values) growth).graph.Sourced packages := by
  induction calls generalizing growth with
  | nil => exact sourced
  | cons call calls ih => exact ih (sourced_step sourced parsed call)

end Growth

theorem sourced_declareAll (packages : List Package) :
    (declareAll packages).1.Sourced packages := by
  have declares := declares_declareAll packages
  exact ⟨declares.wf, fun i node found _ => .inl (declares.real i node found).2⟩

theorem sourced_ofPackages (packages : List Package) : (ofPackages packages).Sourced packages := by
  let start : Growth := ⟨(declareAll packages).1, .empty, none⟩
  have sourced : start.graph.Sourced packages := sourced_declareAll packages
  exact Growth.sourced_run sourced rfl _

end CallGraph

namespace Dataset

variable {packages : List Package} {f : Function}

theorem isRead_eq_false_iff {path : String} :
    isRead packages path = false ↔ ∀ p ∈ packages, p.importPath = path → p.files = [] := by
  rw [← Bool.not_eq_true, isRead_iff]
  simp [Package.isParsed]

theorem get?_declarationsOf (own : f.isBuiltIn = false) :
    (declarationsOf packages).get? f =
      (Table.ofList (packages.flatMap Package.declared)).get? f := by
  rw [declarationsOf, Table.get?_ofList, Table.get?_ofList, ← List.filter_reverse,
    List.find?_filter]
  congr 2
  funext entry
  by_cases same : entry.1 = f <;> simp [same, own]

theorem get?_declarationsOf_eq_none_iff (own : f.isBuiltIn = false) :
    (declarationsOf packages).get? f = none ↔ f ∉ functions packages := by
  rw [get?_declarationsOf own, Table.get?_ofList_eq_none_iff, functions, List.mem_map]
  simp only [not_exists, not_and, ne_eq]

/-- A dependency of a declared function has the last of its declarations, and the size of that. -/
structure LastDeclared (packages : List Package) (d : Dependency)
    (declaration : Source.Declaration) : Prop where
  last : ∃ before behind,
    packages.flatMap Package.declared = before ++ (d.function, declaration) :: behind ∧
      ∀ entry ∈ behind, entry.1 ≠ d.function
  known : d.declaration? = some declaration
  size : d.weight = if declaration.hasBody then declaration.blocks else 0

/-- Whatever the loader answers with, and whatever an extraction from the dataset asks later: a
dependency is at the node of its function. If the function is declared in the load, the dependency
has the last of its declarations, and otherwise no file of its package was read. -/
theorem build_provenance {World : Type} {loader : Loader (StateM World)} {locator : Locator}
    {isSelected : String → Bool} {cache after : ModuleCache} {world last : World}
    {dataset : Dataset}
    (built : Ends (build loader locator isSelected) cache world dataset after last) :
    ∃ packages, (loader.load locator).run world = (.ok packages, last) ∧
      ∀ d, dataset.Yields d →
        dataset.graph.node? d.node = some ⟨d.function, false⟩ ∧
          (d.function ∈ functions packages → ∃ declaration, LastDeclared packages d declaration) ∧
          (d.function ∉ functions packages → d.declaration? = none ∧ d.weight = 0 ∧
            ∀ p ∈ packages, p.importPath = d.function.package → p.files = []) := by
  obtain ⟨packages, load, -, -, made, -⟩ := ends_build_iff.1 built
  refine ⟨packages, load, ?_⟩
  rintro d ⟨World, resolve, root?, cache, after, world, last, ds, ends, member⟩
  obtain ⟨root, -, lists⟩ := extract_lists ends
  have listed := lists d member
  have located := listed.located
  rw [(ofPackages_ok made).1] at located
  obtain ⟨node, source⟩ := (CallGraph.sourced_ofPackages packages).purge located
  have content : d.declaration? = (declarationsOf packages).get? d.function := by
    rw [listed.content, ← (ofPackages_tables made).1]
    rfl
  have size : d.weight = (d.declaration?.map Source.Declaration.weight).getD 0 := by
    rw [listed.content]
    rfl
  refine ⟨(ofPackages_ok made).1 ▸ node, ?_, ?_⟩
  · intro declared
    obtain ⟨declaration, known⟩ : ∃ declaration, d.declaration? = some declaration := by
      rw [← Option.ne_none_iff_exists', content]
      exact mt (get?_declarationsOf_eq_none_iff listed.own).1 (not_not.2 declared)
    have found := content.symm.trans known
    rw [get?_declarationsOf listed.own] at found
    refine ⟨declaration, Table.get?_ofList_eq_some_iff.1 found, known, ?_⟩
    rw [size, known]
    rfl
  · intro undeclared
    have none : d.declaration? = none := by
      rw [content]
      exact (get?_declarationsOf_eq_none_iff listed.own).2 undeclared
    refine ⟨none, ?_, isRead_eq_false_iff.1 (source.resolve_left undeclared)⟩
    rw [size, none]
    rfl

-- A function with two declarations, the second without a body, and one of a package without files.
def doubledSource : String :=
  "package m\n\nimport \"a/b\"\n\nfunc A() \x7b F(); b.G() \x7d\n\nfunc F() \x7b \x7d\n"

def doubledTree : Source.Tree :=
  .node .plain .sourceFile ⟨⟨0, 0⟩, ⟨63, 7⟩⟩ [
    .on 0 0 9 .plain .packageClause [.on 0 8 9 .plain .packageIdentifier []],
    .on 2 11 23 .plain .importDeclaration [
      .on 2 18 23 .plain .importSpec [.on 2 18 23 .path .literal []]],
    .on 4 25 48 .plain .functionDeclaration [
      .on 4 30 31 .name .identifier [], .on 4 31 33 .plain .parameterList [],
      .on 4 34 48 .body .block [
        .on 4 36 39 .plain .expressionStatement [
          .on 4 36 39 .plain .callExpression [
            .on 4 36 37 .function .identifier [], .on 4 37 39 .plain .argumentList []]],
        .on 4 41 46 .plain .expressionStatement [
          .on 4 41 46 .plain .callExpression [
            .on 4 41 44 .function .selectorExpression [
              .on 4 41 42 .operand .identifier [], .on 4 43 44 .field .fieldIdentifier []],
            .on 4 44 46 .plain .argumentList []]]]],
    .on 6 50 62 .plain .functionDeclaration [
      .on 6 55 56 .name .identifier [], .on 6 56 58 .plain .parameterList [],
      .on 6 59 62 .body .block []]]

def doubledAgainSource : String := "package m\n\nfunc F()\n"

def doubledAgainTree : Source.Tree :=
  .node .plain .sourceFile ⟨⟨0, 0⟩, ⟨20, 3⟩⟩ [
    .on 0 0 9 .plain .packageClause [.on 0 8 9 .plain .packageIdentifier []],
    .on 2 11 19 .plain .functionDeclaration [
      .on 2 16 17 .name .identifier [], .on 2 17 19 .plain .parameterList []]]

def doubled : Memory :=
  (Memory.empty.addPackage (some "a") "a/m"
    [("m.go", doubledSource), ("n.go", doubledAgainSource)]).addPackage (some "a") "a/b" []

def doubledPackages : List Package :=
  let declarations : List Source.Declaration :=
    [⟨"A", none, "/memory/a/m/m.go", 5, 5, true, 1, [⟨5, .bare "F"⟩, ⟨5, .qualified "b" "G"⟩]⟩,
      ⟨"F", none, "/memory/a/m/m.go", 7, 7, true, 1, []⟩]
  let again : Source.Declaration := ⟨"F", none, "/memory/a/m/n.go", 3, 3, false, 0, []⟩
  [⟨"a/m", "m", "/memory/a/m", some "a", false, false, false,
      [⟨"/memory/a/m/m.go", "m", [⟨none, "a/b"⟩], declarations, [], []⟩,
        ⟨"/memory/a/m/n.go", "m", [], [again], [], []⟩], []⟩,
    ⟨"a/b", "b", "/memory/a/b", some "a", false, true, false, [], []⟩]

def doubledDataset : Dataset where
  graph := ⟨#[some ⟨⟨"a/m", "A"⟩, false⟩, some ⟨⟨"a/m", "F"⟩, false⟩,
    some ⟨⟨"a/b", "G"⟩, false⟩], [], #[⟨0, 1, 5⟩, ⟨0, 2, 5⟩]⟩
  targets := [(⟨"a/m", "A"⟩, 0)]
  declarations := declarationsOf doubledPackages
  files := .ofPackages doubledPackages

def doubledDependencies : List Dependency :=
  [doubledDataset.dependency "a" 0 ⟨"a/m", "A"⟩, doubledDataset.dependency "a" 1 ⟨"a/m", "F"⟩,
    doubledDataset.dependency "a" 2 ⟨"a/b", "G"⟩]

local instance doubledParser : Source.Parser :=
  .ofList [(doubledSource, doubledTree), (doubledAgainSource, doubledAgainTree)]

theorem load_doubled : Id.run (doubled.load ⟨"a/m", none⟩) = .ok doubledPackages := by
  decide +kernel

theorem yields_doubled : ∀ d ∈ doubledDependencies, doubledDataset.Yields d := by
  have extracted : doubledDataset.extractAll
      ((seedAll .empty doubledPackages).answer doubled.moduleOf) =
        .ok [(⟨"a/m", "A"⟩, doubledDependencies)] := by
    generalize answered :
      (seedAll .empty doubledPackages).answer doubled.moduleOf = answers
    have here : answers "a/m" = .ok (some "a") := by
      rw [← answered]
      decide +kernel
    have there : answers "a/b" = .ok (some "a") := by
      rw [← answered]
      decide +kernel
    have first : doubledDataset.graph.node? 0 = some ⟨⟨"a/m", "A"⟩, false⟩ := rfl
    have second : doubledDataset.graph.node? 1 = some ⟨⟨"a/m", "F"⟩, false⟩ := rfl
    have third : doubledDataset.graph.node? 2 = some ⟨⟨"a/b", "G"⟩, false⟩ := rfl
    have ended : doubledDataset.walk answers "a" [2, 1, 0] [] = .ok [] := by
      rw [walk]
      rfl
    have last : doubledDataset.walk answers "a" [1, 0] [2] =
        .ok [doubledDataset.dependency "a" 2 ⟨"a/b", "G"⟩] :=
      walk_inside (by decide) third (by decide) there ended
    have behind : doubledDataset.walk answers "a" [0] [1, 2] =
        .ok [doubledDataset.dependency "a" 1 ⟨"a/m", "F"⟩,
          doubledDataset.dependency "a" 2 ⟨"a/b", "G"⟩] :=
      walk_inside (by decide) second (by decide) here last
    have walked : doubledDataset.walk answers "a" [] [0] = .ok doubledDependencies :=
      walk_inside (by decide) first (by decide) here behind
    exact extractAll_of_walk rfl first here walked
  have ended : ∃ after, Ends (doubledDataset.extractAll
      (Analysis.resolve (doubled.loader : Loader (StateM Unit)) ⟨"a/m", none⟩))
      (seedAll .empty doubledPackages) () [(⟨"a/m", "A"⟩, doubledDependencies)] after () :=
    ends_extractAll_iff.2 ⟨extracted, rfl⟩
  obtain ⟨after, ends⟩ := ended
  simpa using yields_of_extractAll ends

theorem build_provenance_doubled :
    Ends (build (doubled.loader : Loader (StateM Unit)) ⟨"a/m", none⟩ (· == "A")) .empty ()
        doubledDataset (seedAll .empty doubledPackages) () ∧
      doubledDependencies.map (fun d => (d.function.name, d.declaration?.map (·.line), d.weight)) =
        [("A", some 5, 1), ("F", some 3, 0), ("G", none, 0)] ∧
      ∀ d ∈ doubledDependencies,
        doubledDataset.graph.node? d.node = some ⟨d.function, false⟩ ∧
          (d.function ∈ functions doubledPackages →
            ∃ declaration, LastDeclared doubledPackages d declaration) ∧
          (d.function ∉ functions doubledPackages →
            ∀ p ∈ doubledPackages, p.importPath = d.function.package → p.files = []) := by
  have load : ((doubled.loader : Loader (StateM Unit)).load ⟨"a/m", none⟩).run () =
      (.ok doubledPackages, ()) := Memory.run_load.2 ⟨load_doubled, rfl⟩
  have built : Ends (build (doubled.loader : Loader (StateM Unit)) ⟨"a/m", none⟩ (· == "A")) .empty
      () doubledDataset (seedAll .empty doubledPackages) () :=
    ends_build_iff.2 ⟨_, load, by simp [doubledPackages], by decide, by decide +kernel, rfl⟩
  obtain ⟨packages, loaded, all⟩ := build_provenance built
  obtain rfl : packages = doubledPackages := by
    rw [load] at loaded
    cases loaded
    rfl
  refine ⟨built, by decide, ?_⟩
  intro d member
  obtain ⟨node, declared, undeclared⟩ := all d (yields_doubled d member)
  exact ⟨node, declared, fun absent => (undeclared absent).2.2⟩

end Dataset

end TestReach
