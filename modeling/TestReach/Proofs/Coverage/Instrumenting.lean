import TestReach.Proofs.Coverage.Partners
import TestReach.Proofs.Graph.Dispatch
import TestReach.Proofs.Loader.Records

/-!
# Instrumented packages

The packages of all dependencies are instrumented but for external test packages, which are known by
their paths. So the package of a dependency is left out if it has the path of an external test
package, be it one or not.
-/

namespace TestReach

open Analysis Packages

namespace Dependency

variable {ds : List Dependency} {files : FileIndex} {path : String}

theorem mem_distinctFrom {seen ss : List String} {s : String} :
    s ∈ distinctFrom seen ss ↔ s ∈ ss ∧ s ∉ seen := by
  induction ss generalizing seen with
  | nil => simp [distinctFrom]
  | cons first ss ih =>
    rw [distinctFrom]
    split
    · rename_i known
      rw [List.contains_iff_mem] at known
      rw [ih, List.mem_cons]
      constructor
      · rintro ⟨member, fresh⟩
        exact ⟨.inr member, fresh⟩
      · rintro ⟨rfl | member, fresh⟩
        · exact absurd known fresh
        · exact ⟨member, fresh⟩
    · rename_i fresh
      rw [List.contains_iff_mem] at fresh
      rw [List.mem_cons, ih, List.mem_cons, List.mem_cons, not_or]
      constructor
      · rintro (rfl | ⟨member, -, unseen⟩)
        · exact ⟨.inl rfl, fresh⟩
        · exact ⟨.inr member, unseen⟩
      · rintro ⟨rfl | member, unseen⟩
        · exact .inl rfl
        · by_cases same : s = first
          · exact .inl same
          · exact .inr ⟨member, same, unseen⟩

theorem nodup_distinctFrom (seen ss : List String) : (distinctFrom seen ss).Nodup := by
  induction ss generalizing seen with
  | nil => exact .nil
  | cons first ss ih =>
    rw [distinctFrom]
    split
    · exact ih seen
    · refine List.nodup_cons.2 ⟨fun member => ?_, ih _⟩
      exact (mem_distinctFrom.1 member).2 List.mem_cons_self

theorem nodup_packages (ds : List Dependency) (files : FileIndex) : (packages ds files).Nodup :=
  nodup_distinctFrom _ _

theorem mem_packages : path ∈ packages ds files ↔
    (∃ d ∈ ds, d.function.package = path) ∧ files.isExternalTest path = false := by
  rw [packages, mem_distinctFrom, List.mem_filter, List.mem_map]
  simp

theorem mem_packages_collapse : path ∈ packages (collapse ds) files ↔
    (∃ d ∈ ds, d.function.package = path) ∧ files.isExternalTest path = false := by
  rw [mem_packages]
  refine and_congr_left fun _ => ⟨?_, ?_⟩
  · rintro ⟨d, member, same⟩
    exact ⟨d, mem_of_mem_collapse member, same⟩
  · rintro ⟨d, member, rfl⟩
    obtain ⟨kept, among, same⟩ := exists_mem_collapse member
    exact ⟨kept, among, by rw [same]⟩

end Dependency

theorem FileIndex.isExternalTest_iff {packages : List Package} {path : String} :
    (FileIndex.ofPackages packages).isExternalTest path = true ↔
      ∃ p ∈ packages, p.externalTest = true ∧ p.importPath = path := by
  simp [isExternalTest, ofPackages, and_assoc]

variable {packages : List Package}

theorem function?_purge_ofPackages [Source.Parser] [Source.Parser.Naming]
    (loaded : Loaded packages) {i : Nat} {f : Function}
    (found : (CallGraph.ofPackages packages).purge.function? i = some f)
    (read : isRead packages f.package = true) : f ∈ functions packages := by
  have start := CallGraph.grown_declared packages
  obtain ⟨last, led, grown, -⟩ :=
    start.dispatchAll loaded rfl (by simp) fun _ (member : _ ∈ CallGraph.callsOf _ _) => member
  rcases grown.function?_purge_iff.1 ⟨i, found⟩ with declared | unread
  · exact declared
  · rw [(grown.outside f unread).1] at read
    cases read

theorem exists_declaration {f : Function} (declared : f ∈ functions packages)
    (own : f.isBuiltIn = false) :
    ∃ p ∈ packages, p.importPath = f.package ∧ ∃ declaration,
      (Dataset.declarationsOf packages).get? f = some declaration ∧
        (f, declaration) ∈ p.declared := by
  obtain ⟨p, listed, d, there, rfl⟩ := mem_functions.1 declared
  cases found : (Dataset.declarationsOf packages).get? (d.function p.importPath) with
  | none =>
    refine absurd rfl (Table.get?_ofList_eq_none_iff.1 found (_, d) ?_)
    simp only [List.mem_filter, List.mem_flatMap, Bool.not_eq_true']
    exact ⟨⟨p, listed, List.mem_map_of_mem there⟩, own⟩
  | some declaration =>
    have member := (List.mem_filter.1 (Table.mem_of_get?_ofList found)).1
    obtain ⟨q, among, declares⟩ := List.mem_flatMap.1 member
    exact ⟨q, among, (package_of_mem_declared declares).symm, declaration, rfl, declares⟩

namespace Coverage

section

variable {isSelected : String → Bool} {dataset : Dataset}
  (built : Dataset.ofPackages packages isSelected = .ok dataset)

include built

theorem isExternalTest_iff_record [Source.Parser] {World : Type}
    {read : String → StateM World (Except FileFault String)} {records : List Record}
    {world last : World} (done : (Record.assemble read records).run world = (.ok packages, last))
    {path : String} : dataset.files.isExternalTest path = true ↔
      ∃ r ∈ records, r.isRoot = true ∧ r.externalTestFiles ≠ [] ∧
        r.importPath ++ "_test" = path := by
  obtain ⟨groups, yields, same⟩ := Record.yields_assemble done
  rw [(Dataset.ofPackages_tables built).2, FileIndex.isExternalTest_iff, ← same]
  exact Record.exists_externalTest_iff yields

theorem exists_declaring [Source.Parser] [Source.Parser.Naming] {World : Type}
    {resolve : String → Analysis (StateM World) (Option String)} {cache after : ModuleCache}
    {world last : World} {reached : List (Function × List Dependency)} (loaded : Loaded packages)
    (ends : Ends (dataset.extractAll resolve) cache world reached after last) {d : Dependency}
    (member : d ∈ reached.flatMap Prod.snd) (parsed : isRead packages d.function.package = true) :
    ∃ p ∈ packages, p.importPath = d.function.package ∧ ∃ declaration,
      d.declaration? = some declaration ∧ (d.function, declaration) ∈ p.declared := by
  obtain ⟨entry, among, listed⟩ := List.mem_flatMap.1 member
  obtain ⟨target, -, -, lists⟩ := Dataset.extractAll_lists ends entry among
  have lists := lists d listed
  have declared : d.function ∈ functions packages :=
    function?_purge_ofPackages loaded ((Dataset.ofPackages_ok built).1 ▸ lists.located) parsed
  obtain ⟨p, there, path, declaration, found, declares⟩ := exists_declaration declared lists.own
  refine ⟨p, there, path, declaration, ?_, declares⟩
  rw [lists.content, ← found, ← (Dataset.ofPackages_tables built).1]
  rfl

end

/-- What a regular package declares is instrumented unless the package has the path of an external
test package. What else is left out is declared in external test files. -/
theorem packages_iff [Source.Parser] [Source.Parser.Naming] {World Place : Type}
    {read : String → StateM Place (Except FileFault String)}
    {records : List Record} {packages : List Package} {place there : Place}
    {isSelected : String → Bool} {dataset : Dataset}
    {resolve : String → Analysis (StateM World) (Option String)} {cache after : ModuleCache}
    {world last : World} {reached : List (Function × List Dependency)}
    (done : (Record.assemble read records).run place = (.ok packages, there))
    (clean : ∀ p ∈ packages, p.errors = [])
    (built : Dataset.ofPackages packages isSelected = .ok dataset)
    (ends : Ends (dataset.extractAll resolve) cache world reached after last) :
    let ds := reached.flatMap Prod.snd
    let instrumented := Dependency.packages (Dependency.collapse ds) dataset.files
    instrumented.Nodup ∧
      (∀ d ∈ ds, ∀ p ∈ packages, p.externalTest = false → ∀ declaration,
        d.declaration? = some declaration → (d.function, declaration) ∈ p.declared →
        (p.importPath ∈ instrumented ↔ ∀ r ∈ records, r.isRoot = true → r.externalTestFiles ≠ [] →
          r.importPath ++ "_test" ≠ p.importPath)) ∧
      ∀ d ∈ ds, d.function.package ∉ instrumented →
        (∀ r ∈ records, r.importPath ≠ d.function.package) →
        ∃ p ∈ packages, p.externalTest = true ∧ ∃ declaration,
          d.declaration? = some declaration ∧ (d.function, declaration) ∈ p.declared := by
  intro ds instrumented
  refine ⟨Dependency.nodup_packages _ _, ?_, ?_⟩
  · intro d member p listed regular declaration known declares
    have own := package_of_mem_declared declares
    rw [Dependency.mem_packages_collapse, ← Bool.not_eq_true,
      isExternalTest_iff_record built done]
    constructor
    · rintro ⟨-, apart⟩ r among root outside path
      exact apart ⟨r, among, root, outside, path⟩
    · intro apart
      refine ⟨⟨d, member, own⟩, ?_⟩
      rintro ⟨r, among, root, outside, path⟩
      exact apart r among root outside path
  · intro d member omitted apart
    obtain ⟨groups, yields, same⟩ := Record.yields_assemble done
    have test : dataset.files.isExternalTest d.function.package = true := by
      by_contra regular
      rw [Bool.not_eq_true] at regular
      exact omitted (Dependency.mem_packages_collapse.2 ⟨⟨d, member, rfl⟩, regular⟩)
    -- Whatever package has that path is an external test package, since no record has it.
    have outside : ∀ p ∈ packages, p.importPath = d.function.package →
        p.externalTest = true ∧ p.isParsed = true := by
      intro p listed path
      exact Record.externalTest_of_apart yields apart (same ▸ listed) path (clean p listed)
    have parsed : isRead packages d.function.package = true := by
      rw [(Dataset.ofPackages_tables built).2] at test
      obtain ⟨p, there, -, path⟩ := FileIndex.isExternalTest_iff.1 test
      exact isRead_iff.2 ⟨p, there, path, (outside p there path).2⟩
    obtain ⟨p, there, path, declares⟩ :=
      exists_declaring built ⟨Place, read, records, place, _, done⟩ ends member parsed
    exact ⟨p, there, (outside p there path).1, declares⟩

def testedSource : String :=
  "package m\nimport \"a/m_test\"\nfunc A() \x7b m_test.F() \x7d\n"

def testingSource : String := "package m_test\nfunc Help() \x7b\x7d\n"

def regularSource : String := "package m_test\nfunc F() \x7b\x7d\n"

def testedTree : Source.Tree :=
  .node .plain .sourceFile ⟨⟨0, 0⟩, ⟨52, 3⟩⟩ [
    .on 0 0 9 .plain .packageClause [.on 0 8 9 .plain .packageIdentifier []],
    .on 1 10 27 .plain .importDeclaration [
      .on 1 17 27 .plain .importSpec [.on 1 17 27 .path .literal []]],
    .on 2 28 51 .plain .functionDeclaration [
      .on 2 33 34 .name .identifier [], .on 2 34 36 .plain .parameterList [],
      .on 2 37 51 .body .block [
        .on 2 39 49 .plain .expressionStatement [
          .on 2 39 49 .plain .callExpression [
            .on 2 39 47 .function .selectorExpression [
              .on 2 39 45 .operand .identifier [], .on 2 46 47 .field .fieldIdentifier []],
            .on 2 47 49 .plain .argumentList []]]]]]

def testingTree : Source.Tree :=
  .node .plain .sourceFile ⟨⟨0, 0⟩, ⟨30, 2⟩⟩ [
    .on 0 0 14 .plain .packageClause [.on 0 8 14 .plain .packageIdentifier []],
    .on 1 15 29 .plain .functionDeclaration [
      .on 1 20 24 .name .identifier [], .on 1 24 26 .plain .parameterList [],
      .on 1 27 29 .body .block []]]

def regularTree : Source.Tree :=
  .node .plain .sourceFile ⟨⟨0, 0⟩, ⟨27, 2⟩⟩ [
    .on 0 0 14 .plain .packageClause [.on 0 8 14 .plain .packageIdentifier []],
    .on 1 15 26 .plain .functionDeclaration [
      .on 1 20 21 .name .identifier [], .on 1 21 23 .plain .parameterList [],
      .on 1 24 26 .body .block []]]

local instance collidingParser : Source.Parser :=
  .ofList [(testedSource, testedTree), (testingSource, testingTree), (regularSource, regularTree)]

local instance collidingNaming : Source.Parser.Naming :=
  Source.Parser.promises_ofList (by decide +kernel)

def colliding : Memory :=
  let tested := (Memory.empty.addPackage (some "a") "a/m" [("m.go", testedSource)]).addExternalTests
    "a/m" [("x_test.go", testingSource)]
  tested.addPackage (some "a") "a/m_test" [("f.go", regularSource)]

def collidingRecords : List Record :=
  colliding.records.map fun r =>
    { r with dependencyOnly := !Memory.isMatch "a/m" r.importPath }

def collidingCaller : Source.Declaration :=
  ⟨"A", none, "/memory/a/m/m.go", 3, 3, true, 1, [⟨3, .qualified "m_test" "F"⟩]⟩

def collidingCallee : Source.Declaration :=
  ⟨"F", none, "/memory/a/m_test/f.go", 2, 2, true, 1, []⟩

def collidingRegular : Package :=
  ⟨"a/m_test", "m_test", "/memory/a/m_test", some "a", false, true, false,
    [⟨"/memory/a/m_test/f.go", "m_test", [], [collidingCallee], [], []⟩], []⟩

def collidingTested : Package :=
  ⟨"a/m", "m", "/memory/a/m", some "a", false, false, false,
    [⟨"/memory/a/m/m.go", "m", [⟨none, "a/m_test"⟩], [collidingCaller], [], []⟩], []⟩

def collidingPackages : List Package :=
  let help : Source.Declaration :=
    ⟨"Help", none, "/memory/a/m/x_test.go", 2, 2, true, 1, []⟩
  [⟨"a/m_test", "m_test", "/memory/a/m", some "a", false, false, true,
      [⟨"/memory/a/m/x_test.go", "m_test", [], [help], [], []⟩], []⟩,
    collidingTested, collidingRegular]

def collidingDataset : Dataset where
  graph := ⟨#[some ⟨⟨"a/m_test", "Help"⟩, false⟩, some ⟨⟨"a/m", "A"⟩, false⟩,
    some ⟨⟨"a/m_test", "F"⟩, false⟩], [], #[⟨1, 2, 3⟩]⟩
  targets := [(⟨"a/m", "A"⟩, 1)]
  declarations := Dataset.declarationsOf collidingPackages
  files := .ofPackages collidingPackages

def collidingDependencies : List Dependency :=
  [collidingDataset.dependency "a" 1 ⟨"a/m", "A"⟩,
    collidingDataset.dependency "a" 2 ⟨"a/m_test", "F"⟩]

def collidingReached : List (Function × List Dependency) :=
  [(⟨"a/m", "A"⟩, collidingDependencies)]

theorem assemble_colliding :
    (Record.assemble (m := StateM Unit) (fun path => pure (colliding.read path))
      collidingRecords).run () = (.ok collidingPackages, ()) := by
  have read : Id.run (Record.assemble (fun path => pure (colliding.read path)) collidingRecords) =
      .ok collidingPackages := by decide +kernel
  rw [Record.assemble, Record.allPackages_pure (m := StateM Unit)]
  exact congrArg (fun result => (result, ())) read

theorem ofPackages_colliding :
    Dataset.ofPackages collidingPackages (· == "A") = .ok collidingDataset := by
  decide +kernel

theorem extractAll_colliding : ∃ after,
    Ends (collidingDataset.extractAll (Analysis.resolve colliding.loader ⟨"a/m", none⟩))
      (Dataset.seedAll .empty collidingPackages) () collidingReached after () := by
  refine Dataset.ends_extractAll_iff.2 ⟨?_, rfl⟩
  generalize answered :
    (Dataset.seedAll .empty collidingPackages).answer colliding.moduleOf = answers
  have here : answers "a/m" = .ok (some "a") := by
    rw [← answered]
    decide +kernel
  have there : answers "a/m_test" = .ok (some "a") := by
    rw [← answered]
    decide +kernel
  have first : collidingDataset.graph.node? 1 = some ⟨⟨"a/m", "A"⟩, false⟩ := rfl
  have second : collidingDataset.graph.node? 2 = some ⟨⟨"a/m_test", "F"⟩, false⟩ := rfl
  have ended : collidingDataset.walk answers "a" [2, 1] [] = .ok [] := by
    rw [Dataset.walk]
    rfl
  have behind : collidingDataset.walk answers "a" [1] [2] =
      .ok [collidingDataset.dependency "a" 2 ⟨"a/m_test", "F"⟩] :=
    Dataset.walk_inside (by decide) second (by decide) there ended
  have walked : collidingDataset.walk answers "a" [] [1] = .ok collidingDependencies :=
    Dataset.walk_inside (by decide) first (by decide) here behind
  exact Dataset.extractAll_of_walk rfl first here walked

theorem packages_iff_colliding :
    "a/m" ∈ Dependency.packages (Dependency.collapse (collidingReached.flatMap Prod.snd))
      collidingDataset.files := by
  obtain ⟨after, ends⟩ := extractAll_colliding
  obtain ⟨-, regular, -⟩ := packages_iff assemble_colliding (by decide) ofPackages_colliding ends
  have member : collidingDataset.dependency "a" 1 ⟨"a/m", "A"⟩ ∈
      collidingReached.flatMap Prod.snd := by
    simp [collidingReached, collidingDependencies]
  have listed : collidingTested ∈ collidingPackages := by simp [collidingPackages]
  refine (regular _ member collidingTested listed rfl collidingCaller ?_ ?_).2 ?_
  · decide
  · decide
  · decide +kernel

/-- Nothing but its path makes the package of the callee an external test package. -/
theorem packages_lost :
    (Record.assemble (m := StateM Unit) (fun path => pure (colliding.read path))
        collidingRecords).run () = (.ok collidingPackages, ()) ∧
      (collidingRecords.map Record.importPath).Nodup ∧
      (∀ p ∈ collidingPackages, p.errors = []) ∧
      Dataset.ofPackages collidingPackages (· == "A") = .ok collidingDataset ∧
      (∃ after, Ends
        (collidingDataset.extractAll (Analysis.resolve colliding.loader ⟨"a/m", none⟩))
        (Dataset.seedAll .empty collidingPackages) () collidingReached after ()) ∧
      collidingRegular ∈ collidingPackages ∧ collidingRegular.externalTest = false ∧
      (∃ d ∈ collidingReached.flatMap Prod.snd, d.declaration? = some collidingCallee ∧
        (d.function, collidingCallee) ∈ collidingRegular.declared) ∧
      collidingRegular.importPath ∉ Dependency.packages
        (Dependency.collapse (collidingReached.flatMap Prod.snd)) collidingDataset.files := by
  refine ⟨assemble_colliding, by decide +kernel, by decide, ofPackages_colliding,
    extractAll_colliding, by simp [collidingPackages], rfl, ?_, by decide⟩
  refine ⟨collidingDataset.dependency "a" 2 ⟨"a/m_test", "F"⟩, ?_, by decide, by decide⟩
  simp [collidingReached, collidingDependencies]

end Coverage

end TestReach
