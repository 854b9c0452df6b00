import TestReach.Proofs.Analysis.Extractions
import TestReach.Proofs.Analysis.Memory
import TestReach.Proofs.Coverage.Places

/-!
# Partners of rows

The row of a declared function is paired by the package of its file, its name without a receiver and
its line. A name that several functions of a package share is enough for a row to be kept, so the
row of a function that nothing reaches can stay beside a namesake that is reached; where the line
tells the functions apart, the weight is that of the function on it.
-/

namespace TestReach

open Analysis Packages

def Dependency.IsAt (d : Dependency) (name : String) (line : Nat) : Prop :=
  ∃ declaration ∈ d.declaration?, declaration.fileName? = some name ∧
    declaration.line ≤ line ∧ line ≤ declaration.endLine

instance (d : Dependency) (name : String) (line : Nat) : Decidable (d.IsAt name line) :=
  inferInstanceAs (Decidable (∃ declaration ∈ d.declaration?, declaration.fileName? = some name ∧
    declaration.line ≤ line ∧ line ≤ declaration.endLine))

namespace Coverage

variable {files : FileIndex} {rule : MatchRule} {ds : List Dependency} {row : Row}
  {d : Dependency}

theorem spans_iff {file name : String} (named : Text.Path.fileName? file = some name)
    {line : Nat} : spans d file (some line) = true ↔ d.IsAt name line := by
  unfold spans Dependency.IsAt
  cases d.declaration? with
  | none => simp
  | some declaration => simp [named, and_comm, and_assoc]

theorem mem_candidates_iff {key owner : String} {line : UInt64} {f : Function}
    (place : row.path = key ++ ":" ++ toString line ++ ":") (owned : files.owner? key = some owner)
    (function : row.function = f.shortName) :
    d ∈ candidates files .ownership ds row ↔
      d ∈ ds ∧ d.function.package = owner ∧ d.function.shortName = row.function := by
  have own : files.packageOf? (location row.path).1 = some owner := by
    rw [place, location_place, FileIndex.packageOf?, owned, Option.some_or]
  rw [candidates, List.mem_filter, Bool.and_eq_true, namesFunction_iff function, belongs, own,
    beq_iff_eq, Option.some.injEq, and_comm (a := d.function.package = owner), eq_comm (a := owner)]

theorem isSome_partner?_iff :
    (partner? files rule ds row).isSome = true ↔ ∃ d, d ∈ candidates files rule ds row := by
  rw [partner?, Option.isSome_or, Bool.or_eq_true, List.find?_isSome, List.isSome_head?]
  constructor
  · rintro (⟨d, member, -⟩ | some)
    · exact ⟨d, member⟩
    · exact List.exists_mem_of_ne_nil _ (by simpa using some)
  · rintro ⟨d, member⟩
    exact .inr (by simpa using List.ne_nil_of_mem member)

theorem partner?_eq {file : String} {line : Nat} (place : location row.path = (file, some line))
    (member : d ∈ candidates files rule ds row) (here : spans d file (some line) = true)
    (alone : ∀ other ∈ candidates files rule ds row, spans other file (some line) = true →
      other.function = d.function) :
    ∃ chosen ∈ ds, partner? files rule ds row = some chosen ∧ chosen.function = d.function := by
  cases found : (candidates files rule ds row).find? fun d => spans d file (some line) with
  | none => exact absurd here (by simpa using List.find?_eq_none.1 found d member)
  | some chosen =>
    have among := List.mem_of_find?_eq_some found
    have there := List.find?_some found
    refine ⟨chosen, (List.mem_filter.1 among).1, ?_, alone chosen among there⟩
    rw [partner?, place]
    dsimp only
    rw [found, Option.some_or]

theorem pair_append (rows more : List Row) :
    pair files rule ds (rows ++ more) = pair files rule ds rows ++ pair files rule ds more :=
  List.filterMap_append

theorem pair_cons_of_partner? (found : partner? files rule ds row = some d) (rows : List Row) :
    pair files rule ds (row :: rows) =
      { row with weight? := some d.weight } :: pair files rule ds rows := by
  rw [pair, List.filterMap_cons, found]
  rfl

theorem sublist_pair (files : FileIndex) (rule : MatchRule) (ds : List Dependency)
    (rows : List Row) : ∃ kept, kept.Sublist rows ∧
      List.Forall₂ (fun row paired => paired = { row with weight? := paired.weight? }) kept
        (pair files rule ds rows) := by
  induction rows with
  | nil => exact ⟨[], .slnil, .nil⟩
  | cons row rows ih =>
    obtain ⟨kept, sub, same⟩ := ih
    cases found : partner? files rule ds row with
    | none =>
      refine ⟨kept, sub.cons row, ?_⟩
      rwa [pair, List.filterMap_cons, found]
    | some d =>
      rw [pair_cons_of_partner? found]
      exact ⟨row :: kept, sub.cons_cons row, .cons rfl same⟩

/-- A row that enters the report. -/
def IsKept (files : FileIndex) (rule : MatchRule) (ds : List Dependency) (row : Row) : Prop :=
  pair files rule ds [row] ≠ []

theorem isKept_iff :
    IsKept files rule ds row ↔ ∃ d, d ∈ candidates files rule ds row := by
  rw [← isSome_partner?_iff, IsKept, pair, List.filterMap_cons]
  cases partner? files rule ds row <;> simp

end Coverage

namespace Dataset

variable {packages : List Package} {isSelected : String → Bool} {dataset : Dataset}
  {p : Package}

theorem exists_file_of_declared [Source.Parser] (loaded : Loaded packages)
    (paths : (packages.map Package.importPath).Nodup) (listed : p ∈ packages) {f : Function}
    (own : f.package = p.importPath) {declaration : Source.Declaration}
    (declared : (declarationsOf packages).get? f = some declaration) :
    ∃ file ∈ p.files, declaration.file = file.path := by
  have member := (List.mem_filter.1 (Table.mem_of_get?_ofList declared)).1
  obtain ⟨q, there, among⟩ := List.mem_flatMap.1 member
  obtain ⟨d, stated, same⟩ := List.mem_map.1 among
  obtain ⟨rfl, rfl⟩ := Prod.mk.inj same
  rw [package_function] at own
  obtain rfl := List.inj_on_of_nodup_map paths there listed own
  obtain ⟨file, inside, stated⟩ := List.mem_flatMap.1 stated
  exact ⟨file, inside, loaded.files Source.granted_file q there file inside d stated⟩

end Dataset

namespace Coverage

variable {packages : List Package} {isSelected : String → Bool} {dataset : Dataset}
  {ds : List Dependency} {d : Dependency} {p : Package} {name : String} {line : UInt64} {row : Row}

def namesakesSource : String :=
  "package m\ntype T int\nfunc (t T) Get() \x7b\x7d\ntype U int\n" ++
  "func (u U) Get() \x7b if u > 0 \x7b u-- \x7d \x7d\nfunc Get() \x7b\x7d\n" ++
  "func A(t T) \x7b t.Get() \x7d\n"

def namesakesTree : Source.Tree :=
  .node .plain .sourceFile ⟨⟨0, 0⟩, ⟨128, 7⟩⟩ [
    .on 0 0 9 .plain .packageClause [.on 0 8 9 .plain .packageIdentifier []],
    .on 1 10 20 .plain .typeDeclaration [
      .on 1 15 20 .plain .typeSpec [
        .on 1 15 16 .name .typeIdentifier [], .on 1 17 20 .plain .typeIdentifier []]],
    .on 2 21 40 .plain .methodDeclaration [
      .on 2 26 31 .receiver .parameterList [
        .on 2 27 30 .plain .parameterDeclaration [
          .on 2 27 28 .name .identifier [], .on 2 29 30 .type .typeIdentifier []]],
      .on 2 32 35 .name .fieldIdentifier [], .on 2 35 37 .plain .parameterList [],
      .on 2 38 40 .body .block []],
    .on 3 41 51 .plain .typeDeclaration [
      .on 3 46 51 .plain .typeSpec [
        .on 3 46 47 .name .typeIdentifier [], .on 3 48 51 .plain .typeIdentifier []]],
    .on 4 52 89 .plain .methodDeclaration [
      .on 4 57 62 .receiver .parameterList [
        .on 4 58 61 .plain .parameterDeclaration [
          .on 4 58 59 .name .identifier [], .on 4 60 61 .type .typeIdentifier []]],
      .on 4 63 66 .name .fieldIdentifier [], .on 4 66 68 .plain .parameterList [],
      .on 4 69 89 .body .block [
        .on 4 71 87 .plain .ifStatement [
          .on 4 74 79 .plain (.binaryExpression ">") [
            .on 4 74 75 .plain .identifier [], .on 4 78 79 .plain .literal []],
          .on 4 80 87 .plain .block [
            .on 4 82 85 .plain .incrementStatement [
              .on 4 82 83 .plain .expressionList [.on 4 82 83 .plain .identifier []]]]]]],
    .on 5 90 103 .plain .functionDeclaration [
      .on 5 95 98 .name .identifier [], .on 5 98 100 .plain .parameterList [],
      .on 5 101 103 .body .block []],
    .on 6 104 127 .plain .functionDeclaration [
      .on 6 109 110 .name .identifier [],
      .on 6 110 115 .plain .parameterList [
        .on 6 111 114 .plain .parameterDeclaration [
          .on 6 111 112 .name .identifier [], .on 6 113 114 .type .typeIdentifier []]],
      .on 6 116 127 .body .block [
        .on 6 118 125 .plain .expressionStatement [
          .on 6 118 125 .plain .callExpression [
            .on 6 118 123 .function .selectorExpression [
              .on 6 118 119 .operand .identifier [], .on 6 120 123 .field .fieldIdentifier []],
            .on 6 123 125 .plain .argumentList []]]]]]

local instance namesakesParser : Source.Parser := .ofList [(namesakesSource, namesakesTree)]

def namesakes : Memory := Memory.empty.addPackage (some "a") "a/m" [("m.go", namesakesSource)]

def namesakesPlain : Source.Declaration := ⟨"Get", none, "/memory/a/m/m.go", 6, 6, true, 1, []⟩

def namesakesFile : Source.File :=
  ⟨"/memory/a/m/m.go", "m", [],
    [⟨"Get", some ⟨"T", false⟩, "/memory/a/m/m.go", 3, 3, true, 1, []⟩,
      ⟨"Get", some ⟨"U", false⟩, "/memory/a/m/m.go", 5, 5, true, 3, []⟩, namesakesPlain,
      ⟨"A", none, "/memory/a/m/m.go", 7, 7, true, 1, [⟨7, .qualified "t" "Get"⟩]⟩],
    ["T", "U"], [.bare "u", .bare "u"]⟩

def namesakesPackage : Package :=
  ⟨"a/m", "m", "/memory/a/m", some "a", false, false, false, [namesakesFile], []⟩

def namesakesPackages : List Package := [namesakesPackage]

def namesakesDataset : Dataset where
  graph := ⟨#[some ⟨⟨"a/m", "(T).Get"⟩, false⟩, some ⟨⟨"a/m", "(U).Get"⟩, false⟩,
    some ⟨⟨"a/m", "Get"⟩, false⟩, some ⟨⟨"a/m", "A"⟩, false⟩, none], [4], #[⟨3, 0, 7⟩, ⟨3, 1, 7⟩]⟩
  targets := [(⟨"a/m", "A"⟩, 3)]
  declarations := Dataset.declarationsOf namesakesPackages
  files := .ofPackages namesakesPackages

def namesakesDependencies : List Dependency :=
  [namesakesDataset.dependency "a" 3 ⟨"a/m", "A"⟩,
    namesakesDataset.dependency "a" 0 ⟨"a/m", "(T).Get"⟩,
    namesakesDataset.dependency "a" 1 ⟨"a/m", "(U).Get"⟩]

def namesakesRow (path function : String) : Row := ⟨path, function, 50, none⟩

def namesakesReached : List (Function × List Dependency) :=
  [(⟨"a/m", "A"⟩, namesakesDependencies)]

theorem load_namesakes : Id.run (namesakes.load ⟨"a/m", none⟩) = .ok namesakesPackages := by
  decide +kernel

theorem ofPackages_namesakes :
    Dataset.ofPackages namesakesPackages (· == "A") = .ok namesakesDataset := by
  decide +kernel

theorem extractAll_namesakes : ∃ after,
    Ends (namesakesDataset.extractAll (Analysis.resolve namesakes.loader ⟨"a/m", none⟩))
      (Dataset.seedAll .empty namesakesPackages) () namesakesReached after () := by
  refine Dataset.ends_extractAll_iff.2 ⟨?_, rfl⟩
  generalize answered :
    (Dataset.seedAll .empty namesakesPackages).answer namesakes.moduleOf = answers
  have inside : answers "a/m" = .ok (some "a") := by
    rw [← answered]
    decide +kernel
  have first : namesakesDataset.graph.node? 3 = some ⟨⟨"a/m", "A"⟩, false⟩ := rfl
  have second : namesakesDataset.graph.node? 0 = some ⟨⟨"a/m", "(T).Get"⟩, false⟩ := rfl
  have third : namesakesDataset.graph.node? 1 = some ⟨⟨"a/m", "(U).Get"⟩, false⟩ := rfl
  have ended : namesakesDataset.walk answers "a" [1, 0, 3] [] = .ok [] := by
    rw [Dataset.walk]
    rfl
  have last : namesakesDataset.walk answers "a" [0, 3] [1] =
      .ok [namesakesDataset.dependency "a" 1 ⟨"a/m", "(U).Get"⟩] :=
    Dataset.walk_inside (by decide) third (by decide) inside ended
  have behind : namesakesDataset.walk answers "a" [3] [0, 1] =
      .ok [namesakesDataset.dependency "a" 0 ⟨"a/m", "(T).Get"⟩,
        namesakesDataset.dependency "a" 1 ⟨"a/m", "(U).Get"⟩] :=
    Dataset.walk_inside (by decide) second (by decide) inside last
  have walked : namesakesDataset.walk answers "a" [] [3] = .ok namesakesDependencies :=
    Dataset.walk_inside (by decide) first (by decide) inside behind
  exact Dataset.extractAll_of_walk rfl first inside walked

theorem yields_namesakes : ∀ d ∈ namesakesDependencies, namesakesDataset.Yields d := by
  obtain ⟨after, ends⟩ := extractAll_namesakes
  intro d member
  exact Dataset.yields_of_extractAll ends d (by simpa [namesakesReached] using member)

/-- The row of a dependency that is alone on its line is kept in its place, with the weight of its
declaration, and kept rows are in the order of the summary. -/
theorem pair_complete [Source.Parser] (loaded : Loaded packages)
    (paths : (packages.map Package.importPath).Nodup)
    (keys : (packages.flatMap fun p => p.files.flatMap (FileIndex.keysOf p)).Nodup)
    (built : Dataset.ofPackages packages isSelected = .ok dataset)
    (extracted : ∀ d ∈ ds, dataset.Yields d) (member : d ∈ ds) (listed : p ∈ packages)
    (regular : p.externalTest = false) (own : d.function.package = p.importPath)
    (here : d.IsAt name line.toNat)
    (alone : ∀ other ∈ ds, other.function.package = p.importPath →
      other.function.shortName = d.function.shortName → other.IsAt name line.toNat →
      other.function = d.function)
    (place : row.path = p.importPath ++ "/" ++ name ++ ":" ++ toString line ++ ":")
    (function : row.function = d.function.shortName) :
    (∀ before behind, pair dataset.files .ownership ds (before ++ row :: behind) =
      pair dataset.files .ownership ds before ++
        { row with weight? := some d.weight } :: pair dataset.files .ownership ds behind) ∧
      ∀ rows, ∃ kept, kept.Sublist rows ∧
        List.Forall₂ (fun row paired => paired = { row with weight? := paired.weight? }) kept
          (pair dataset.files .ownership ds rows) := by
  obtain ⟨declarations, files⟩ := Dataset.ofPackages_tables built
  obtain ⟨declaration, known, named, -⟩ := id here
  have declared : (Dataset.declarationsOf packages).get? d.function = some declaration := by
    rw [← declarations, ← known, (extracted d member).content]
    rfl
  obtain ⟨file, there, same⟩ :=
    Dataset.exists_file_of_declared loaded paths listed own declared
  rw [Source.Declaration.fileName?, same] at named
  have owned : dataset.files.owner? (p.importPath ++ "/" ++ name) = some p.importPath := by
    rw [files]
    exact FileIndex.owner?_eq keys listed there (FileIndex.mem_keysOf_place regular named)
  have located : location row.path = (p.importPath ++ "/" ++ name, some line.toNat) := by
    rw [place, location_place]
  have spanning (other : Dependency) :
      spans other (p.importPath ++ "/" ++ name) (some line.toNat) = true ↔
        other.IsAt name line.toNat := spans_iff (fileName?_place named p.importPath)
  have candidate (other : Dependency) : other ∈ candidates dataset.files .ownership ds row ↔
      other ∈ ds ∧ other.function.package = p.importPath ∧
        other.function.shortName = row.function := mem_candidates_iff place owned function
  obtain ⟨chosen, among, found, whose⟩ :=
    partner?_eq located ((candidate d).2 ⟨member, own, function.symm⟩) ((spanning d).2 here) <| by
      intro other listed there
      obtain ⟨among, package, short⟩ := (candidate other).1 listed
      exact alone other among package (short.trans function) ((spanning other).1 there)
  have weight : chosen.weight = d.weight := by
    rw [(extracted chosen among).content, (extracted d member).content, whose]
    rfl
  refine ⟨?_, sublist_pair dataset.files .ownership ds⟩
  intro before behind
  rw [pair_append, pair_cons_of_partner? found, weight]

theorem pair_complete_namesake :
    pair namesakesDataset.files .ownership namesakesDependencies
        [namesakesRow "a/m/m.go:5:" "Get"] =
      [{ namesakesRow "a/m/m.go:5:" "Get" with weight? := some 3 }] := by
  have member : namesakesDataset.dependency "a" 1 ⟨"a/m", "(U).Get"⟩ ∈ namesakesDependencies := by
    simp [namesakesDependencies]
  have here : (namesakesDataset.dependency "a" 1 ⟨"a/m", "(U).Get"⟩).IsAt "m.go"
      (5 : UInt64).toNat := by decide
  have alone : ∀ other ∈ namesakesDependencies, other.function.package = "a/m" →
      other.function.shortName = "Get" → other.IsAt "m.go" (5 : UInt64).toNat →
      other.function = ⟨"a/m", "(U).Get"⟩ := by decide
  have place : (namesakesRow "a/m/m.go:5:" "Get").path =
      "a/m" ++ "/" ++ "m.go" ++ ":" ++ toString (5 : UInt64) ++ ":" := by decide
  have short : (namesakesRow "a/m/m.go:5:" "Get").function =
      (Function.mk "a/m" "(U).Get").shortName := by decide
  have complete := pair_complete (Memory.loaded load_namesakes) (by decide) (by decide)
    ofPackages_namesakes yields_namesakes member (List.mem_singleton.2 rfl) rfl rfl here alone
    place short
  exact complete.1 [] []

/-- The row of a function is kept if and only if a function of its name is a dependency in the
package of its file, and every dependency is one that a target reaches. -/
theorem isKept_iff_reached {World : Type}
    {resolve : String → Analysis (StateM World) (Option String)} {cache after : ModuleCache}
    {world last : World} {reached : List (Function × List Dependency)} {file : Source.File}
    {f : Function} (built : Dataset.ofPackages packages isSelected = .ok dataset)
    (ends : Ends (dataset.extractAll resolve) cache world reached after last)
    (listed : p ∈ packages) (regular : p.externalTest = false) (there : file ∈ p.files)
    (named : Text.Path.fileName? file.path = some name)
    (place : row.path = p.importPath ++ "/" ++ name ++ ":" ++ toString line ++ ":")
    (function : row.function = f.shortName) :
    let ds := Dependency.collapse (reached.flatMap Prod.snd)
    (∃ owner ∈ packages,
      (∃ other ∈ owner.files, p.importPath ++ "/" ++ name ∈ FileIndex.keysOf owner other) ∧
        dataset.files.owner? (p.importPath ++ "/" ++ name) = some owner.importPath ∧
        (IsKept dataset.files .ownership ds row ↔
          ∃ d ∈ ds, d.function.package = owner.importPath ∧
            d.function.shortName = row.function)) ∧
      ∀ d ∈ ds, ∃ target ∈ dataset.targets, dataset.Lists target.2 d := by
  intro ds
  obtain ⟨-, files⟩ := Dataset.ofPackages_tables built
  have key : p.importPath ++ "/" ++ name ∈ FileIndex.keysOf p file :=
    FileIndex.mem_keysOf_place regular named
  obtain ⟨owner, among, other, inside, same, owned⟩ := FileIndex.exists_owner listed there key
  rw [← files] at owned
  refine ⟨⟨owner, among, ⟨other, inside, same⟩, owned, ?_⟩, ?_⟩
  · simp only [isKept_iff, mem_candidates_iff place owned function]
  · intro d member
    have found := Dependency.mem_of_mem_collapse member
    obtain ⟨entry, among, listed⟩ := List.mem_flatMap.1 found
    obtain ⟨target, chosen, -, lists⟩ := Dataset.extractAll_lists ends entry among
    exact ⟨target, chosen, lists d listed⟩

theorem collapse_namesakes :
    Dependency.collapse (namesakesReached.flatMap Prod.snd) = namesakesDependencies := by
  decide

theorem isKept_iff_reached_namesakes :
    IsKept namesakesDataset.files .ownership namesakesDependencies
        (namesakesRow "a/m/m.go:7:" "A") ∧
      ∀ d ∈ namesakesDependencies, ∃ target ∈ namesakesDataset.targets,
        namesakesDataset.Lists target.2 d := by
  obtain ⟨after, ends⟩ := extractAll_namesakes
  have named : Text.Path.fileName? namesakesFile.path = some "m.go" := by decide
  have place : (namesakesRow "a/m/m.go:7:" "A").path =
      "a/m" ++ "/" ++ "m.go" ++ ":" ++ toString (7 : UInt64) ++ ":" := by decide
  have short : (namesakesRow "a/m/m.go:7:" "A").function =
      (Function.mk "a/m" "A").shortName := by decide
  obtain ⟨⟨owner, among, -, -, kept⟩, lists⟩ := isKept_iff_reached ofPackages_namesakes ends
    (List.mem_singleton.2 rfl) rfl (List.mem_singleton.2 rfl) named place short
  rw [collapse_namesakes] at kept lists
  obtain rfl := List.mem_singleton.1 among
  exact ⟨kept.2 (by decide), lists⟩

/-- Nothing reaches the function on line 6, whose row is kept for the methods of its name. -/
theorem isKept_unreached :
    Id.run (namesakes.load ⟨"a/m", none⟩) = .ok namesakesPackages ∧
      Dataset.ofPackages namesakesPackages (· == "A") = .ok namesakesDataset ∧
      (∃ after, Ends
        (namesakesDataset.extractAll (Analysis.resolve namesakes.loader ⟨"a/m", none⟩))
        (Dataset.seedAll .empty namesakesPackages) () namesakesReached after ()) ∧
      (∀ d ∈ namesakesFile.declarations, d.line ≤ 6 ∧ 6 ≤ d.endLine ↔ d = namesakesPlain) ∧
      (∀ d ∈ Dependency.collapse (namesakesReached.flatMap Prod.snd),
        d.function ≠ namesakesPlain.function "a/m") ∧
      IsKept namesakesDataset.files .ownership
        (Dependency.collapse (namesakesReached.flatMap Prod.snd))
        (namesakesRow "a/m/m.go:6:" (namesakesPlain.function "a/m").shortName) := by
  refine ⟨load_namesakes, ofPackages_namesakes, extractAll_namesakes, by decide, by decide, ?_⟩
  rw [isKept_iff]
  exact ⟨namesakesDataset.dependency "a" 0 ⟨"a/m", "(T).Get"⟩, by decide⟩

end Coverage

end TestReach
