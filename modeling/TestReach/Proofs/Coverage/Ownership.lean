import TestReach.Proofs.Coverage.Partners

/-!
# Rows by owners and by substrings

A package that owns the file of a row stands in the row's path, so whatever is paired by ownership
is paired by substrings too. It is so for files that are printed with the path of their package, and
for files that nothing is known of. External tests loaded behind their package take over its files
of the same names, and their own path stands in no row.
-/

namespace TestReach

namespace Text

theorem prefix_of_cutLast? {mark cs before behind : List Char}
    (cut : cutLast? mark cs = some (before, behind)) : before <+: cs := by
  induction cs generalizing before with
  | nil => cases cut
  | cons c cs ih =>
    rw [cutLast?] at cut
    split at cut
    · rename_i later
      cases cut
      exact (List.prefix_cons_inj c).2 (ih later)
    · split at cut
      · cases cut
        exact List.nil_prefix
      · cases cut

theorem prefix_joinWith (mark : List Char) {pieces all : List (List Char)}
    (begins : pieces <+: all) : joinWith mark pieces <+: joinWith mark all := by
  obtain ⟨others, rfl⟩ := begins
  induction pieces with
  | nil => exact List.nil_prefix
  | cons piece pieces ih =>
    cases pieces with
    | cons next pieces =>
      simp only [List.cons_append, joinWith] at ih ⊢
      exact (List.prefix_append_right_inj _).2 ih
    | nil =>
      cases others with
      | nil => exact List.prefix_rfl
      | cons other others =>
        simp only [List.cons_append, List.nil_append, joinWith, List.append_assoc]
        exact List.prefix_append piece _

namespace Path

theorem prefix_reverse_dropWhile (pieces : List (List Char)) :
    (pieces.reverse.dropWhile isPassed).reverse <+: pieces := by
  simpa using List.reverse_prefix.2 (List.dropWhile_suffix isPassed (l := pieces.reverse))

theorem prefix_trimParts (pieces : List (List Char)) : trimParts pieces <+: pieces := by
  cases pieces with
  | nil => exact List.prefix_rfl
  | cons first rest =>
    have one : [first] <+: first :: rest := (List.prefix_cons_inj first).2 List.nil_prefix
    simp only [trimParts]
    split
    · split
      · exact one
      · split
        · exact List.nil_prefix
        · exact one
    · exact (List.prefix_cons_inj first).2 (prefix_reverse_dropWhile rest)

theorem prefix_of_reverse_eq {pieces before : List (List Char)} {last : List Char}
    (same : pieces.reverse = last :: before) : before.reverse <+: pieces :=
  ⟨[last], by rw [← List.reverse_reverse pieces, same, List.reverse_cons]⟩

theorem joinWith_parts (path : String) : joinWith ['/'] (parts path) = path.toList :=
  joinWith_splitAt '/' path.toList

theorem parts_of_isAbsolute {path : String} (absolute : isAbsolute path = true) :
    parts path = [] :: (parts path).drop 1 ∧ ['/'] <+: path.toList := by
  unfold isAbsolute at absolute
  unfold parts
  cases written : path.toList with
  | nil => simp [written] at absolute
  | cons c cs =>
    obtain rfl : c = '/' := by simpa [written] using absolute
    exact ⟨by simp [splitAt], (List.prefix_cons_inj '/').2 List.nil_prefix⟩

theorem prefix_parent? {path parent : String} (found : parent? path = some parent) :
    parent.toList <+: path.toList := by
  rw [parent?] at found
  cases absolute : isAbsolute path with
  | false =>
    simp only [absolute, Bool.false_eq_true, if_false] at found
    split at found
    · cases found
    · rename_i last before same
      cases found
      have begins : trimParts before.reverse <+: parts path :=
        (prefix_trimParts _).trans ((prefix_of_reverse_eq same).trans (prefix_trimParts _))
      rw [ofParts, if_neg (by decide), String.toList_ofList, ← joinWith_parts path]
      exact prefix_joinWith ['/'] begins
  | true =>
    obtain ⟨rooted, root⟩ := parts_of_isAbsolute absolute
    simp only [absolute, if_true] at found
    split at found
    · cases found
    · rename_i last before same
      cases found
      have begins : [] :: (before.dropWhile isPassed).reverse <+: parts path := by
        rw [rooted]
        refine (List.prefix_cons_inj []).2 ?_
        have shorter := prefix_reverse_dropWhile before.reverse
        rw [List.reverse_reverse] at shorter
        exact shorter.trans ((prefix_of_reverse_eq same).trans (prefix_reverse_dropWhile _))
      rw [ofParts, if_pos rfl]
      split
      · exact root
      · rw [String.toList_ofList, ← joinWith_parts path]
        exact prefix_joinWith ['/'] begins

theorem slash_not_mem_of_fileName? {path name : String} (named : fileName? path = some name) :
    '/' ∉ name.toList := by
  unfold fileName? at named
  split at named
  · rename_i part last
    split at named
    · cases named
    · cases named
      rw [String.toList_ofList]
      exact not_mem_of_mem_splitAt (List.mem_filter.1 (List.mem_of_getLast? last)).1
  · cases named

end Path

end Text

theorem Coverage.prefix_location (path : String) : (location path).1.toList <+: path.toList := by
  have trimmed : (Text.before? [':'] path.toList).getD path.toList <+: path.toList := by
    cases cut : Text.before? [':'] path.toList with
    | none => exact List.prefix_rfl
    | some rest => exact ⟨[':'], (Text.before?_eq_some.1 cut).symm⟩
  simp only [location]
  split
  · rename_i file line cut
    split
    · rw [String.toList_ofList]
      exact (Text.prefix_of_cutLast? cut).trans trimmed
    · rwa [String.toList_ofList]
  · rwa [String.toList_ofList]

theorem Table.get?_ofList_append {κ α : Type} [DecidableEq κ] (first second : List (κ × α))
    (key : κ) :
    (ofList (first ++ second)).get? key =
      ((ofList second).get? key).or ((ofList first).get? key) := by
  simp only [get?_ofList, List.reverse_append, List.find?_append, Option.map_or]

namespace FileIndex

variable {packages : List Package} {p : Package} {file key name : String}

theorem owner?_append (first second : List Package) (key : String) :
    (ofPackages (first ++ second)).owner? key =
      ((ofPackages second).owner? key).or ((ofPackages first).owner? key) := by
  simp only [owner?, ofPackages, List.flatMap_append, Table.get?_ofList_append]

theorem join_inj {path other name last : String} (plain : '/' ∉ name.toList)
    (short : '/' ∉ last.toList) (same : path ++ "/" ++ name = other ++ "/" ++ last) :
    path = other ∧ name = last := by
  have cut := congrArg (fun s : String => Text.cutLast? ['/'] s.toList) same
  simp only [String.toList_append, List.append_assoc, show "/".toList = ['/'] from rfl,
    List.singleton_append, Text.cutLast?_append plain, Text.cutLast?_append short,
    Option.some.injEq, Prod.mk.injEq, String.toList_inj] at cut
  exact cut

/-- A file as a summary prints it: by the path of a regular package and its name, where no file
stands at that path on disk. -/
def IsPrinted (packages : List Package) (file : String) : Prop :=
  (∃ p ∈ packages, p.externalTest = false ∧
    ∃ own ∈ p.files, ∃ name ∈ Text.Path.fileName? own.path, file = p.importPath ++ "/" ++ name) ∧
    ∀ q ∈ packages, ∀ other ∈ q.files, other.path ≠ file

/-- A printed file of a package whose external tests, if they stand behind it, have none of its
name. -/
def IsOwn (packages : List Package) (file : String) : Prop :=
  (∃ before p behind, packages = before ++ p :: behind ∧ p.externalTest = false ∧
    ∃ own ∈ p.files, ∃ name ∈ Text.Path.fileName? own.path, file = p.importPath ++ "/" ++ name ∧
      ∀ tests ∈ behind, tests.externalTest = true → tests.importPath = p.importPath ++ "_test" →
        ∀ other ∈ tests.files, Text.Path.fileName? other.path ≠ some name) ∧
    ∀ q ∈ packages, ∀ other ∈ q.files, other.path ≠ file

theorem IsOwn.isPrinted (own : IsOwn packages file) : IsPrinted packages file := by
  obtain ⟨⟨before, p, behind, rfl, regular, f, there, name, named, same, -⟩, apart⟩ := own
  exact ⟨⟨p, by simp, regular, f, there, name, named, same⟩, apart⟩

theorem printedPath_cases (p : Package) :
    printedPath p = p.importPath ∨
      p.externalTest = true ∧ p.importPath = printedPath p ++ "_test" := by
  unfold printedPath
  split
  · rename_i tested cut
    split
    · rename_i external
      refine .inr ⟨external, ?_⟩
      rw [← String.toList_inj, Text.before?_eq_some.1 cut]
      simp
    · exact .inl rfl
  · exact .inl rfl

theorem mem_keysOf {f : Source.File} (known : key ∈ keysOf p f) :
    key = f.path ∨ ∃ name, Text.Path.fileName? f.path = some name ∧
      key = printedPath p ++ "/" ++ name := by
  unfold keysOf at known
  split at known
  · rename_i name named
    rcases List.mem_cons.1 known with rfl | known
    · exact .inr ⟨name, named, rfl⟩
    · exact .inl (List.mem_singleton.1 known)
  · cases known

theorem prefix_of_owner? (own : IsOwn packages file) {owner : String}
    (owned : (ofPackages packages).owner? file = some owner) : owner.toList <+: file.toList := by
  obtain ⟨⟨before, p, behind, rfl, regular, f, there, name, named, same, alone⟩, apart⟩ := own
  have filed : file ∈ keysOf p f := same ▸ mem_keysOf_place regular named
  -- The last package that files something under this key is `p` or one behind it.
  obtain ⟨q, listed, other, inside, known, found⟩ :=
    exists_owner (show p ∈ p :: behind from List.mem_cons_self) there filed
  rw [owner?_append, found, Option.some_or] at owned
  cases owned
  obtain elsewhere | ⟨last, filename, printed⟩ := mem_keysOf known
  · exact absurd elsewhere.symm (apart q (List.mem_append_right before listed) other inside)
  rcases printedPath_cases q with itself | ⟨external, whole⟩
  · rw [printed, itself]
    simp
  · obtain ⟨path, rfl⟩ : p.importPath = printedPath q ∧ name = last :=
      join_inj (Text.Path.slash_not_mem_of_fileName? named)
        (Text.Path.slash_not_mem_of_fileName? filename) (same.symm.trans printed)
    rcases List.mem_cons.1 listed with rfl | listed
    · rw [regular] at external
      cases external
    · exact absurd filename (alone q listed external (path ▸ whole) other inside)

theorem prefix_of_packageOf? {owner : String}
    (named : IsOwn packages file ∨ (ofPackages packages).owner? file = none)
    (owned : (ofPackages packages).packageOf? file = some owner) :
    owner.toList <+: file.toList := by
  rw [packageOf?] at owned
  cases known : (ofPackages packages).owner? file with
  | some package =>
    rw [known, Option.some_or] at owned
    cases owned
    rcases named with own | unknown
    · exact prefix_of_owner? own known
    · rw [known] at unknown
      cases unknown
  | none =>
    rw [known, Option.none_or, Option.filter_eq_some_iff] at owned
    exact Text.Path.prefix_parent? owned.1

end FileIndex

namespace Coverage

variable {packages : List Package} {isSelected : String → Bool} {dataset : Dataset}
  {ds : List Dependency} {d : Dependency} {row : Row} {rows : List Row}

def Row.said (row : Row) : String × String × Float := (row.path, row.function, row.percent)

theorem map_said_pair (files : FileIndex) (rule : MatchRule) (ds : List Dependency)
    (rows : List Row) :
    (pair files rule ds rows).map Row.said =
      (rows.filter fun row => (partner? files rule ds row).isSome).map Row.said := by
  induction rows with
  | nil => rfl
  | cons row rows ih =>
    cases found : partner? files rule ds row with
    | none => simpa [pair, List.filterMap_cons, List.filter_cons, found] using ih
    | some d =>
      rw [pair_cons_of_partner? found, List.map_cons, ih, List.filter_cons, found]
      rfl

theorem holds_of_owns
    (named : FileIndex.IsOwn packages (location row.path).1 ∨
      (FileIndex.ofPackages packages).owner? (location row.path).1 = none)
    (owns : belongs (.ofPackages packages) .ownership row d = true) :
    belongs (.ofPackages packages) .substring row d = true := by
  rw [belongs, beq_iff_eq] at owns
  exact Text.holds_iff.2
    ((FileIndex.prefix_of_packageOf? named owns).trans (prefix_location row.path)).isInfix

/-- The rows that are kept by ownership are among those that are kept by substrings, in their
order, if their files are the own files of regular packages or not known at all. -/
theorem sublist_pair_substring (built : Dataset.ofPackages packages isSelected = .ok dataset)
    (named : ∀ row ∈ rows, FileIndex.IsOwn packages (location row.path).1 ∨
      dataset.files.owner? (location row.path).1 = none) (ds : List Dependency) :
    ((pair dataset.files .ownership ds rows).map Row.said).Sublist
      ((pair dataset.files .substring ds rows).map Row.said) := by
  obtain ⟨-, files⟩ := Dataset.ofPackages_tables built
  rw [files] at named ⊢
  have weaker : ∀ row ∈ rows, (partner? (.ofPackages packages) .ownership ds row).isSome = true →
      (partner? (.ofPackages packages) .substring ds row).isSome = true := by
    intro row member some
    obtain ⟨d, among⟩ := isSome_partner?_iff.1 some
    obtain ⟨listed, both⟩ := List.mem_filter.1 among
    obtain ⟨function, owns⟩ := Bool.and_eq_true_iff.1 both
    refine isSome_partner?_iff.2 ⟨d, List.mem_filter.2 ⟨listed, ?_⟩⟩
    rw [function, holds_of_owns (named row member) owns]
    rfl
  rw [map_said_pair, map_said_pair]
  refine List.Sublist.map Row.said ?_
  have narrowed : rows.filter (fun row =>
        (partner? (.ofPackages packages) .ownership ds row).isSome) =
      (rows.filter fun row => (partner? (.ofPackages packages) .substring ds row).isSome).filter
        fun row => (partner? (.ofPackages packages) .ownership ds row).isSome := by
    rw [List.filter_filter]
    refine List.filter_congr fun row member => ?_
    rw [Bool.eq_iff_iff, Bool.and_eq_true]
    exact ⟨fun some => ⟨some, weaker row member some⟩, And.left⟩
  rw [narrowed]
  exact List.filter_sublist

def testedFile : Source.File :=
  ⟨"/a/m/m.go", "m", [⟨some "t", "a/m_test"⟩],
    [⟨"A", none, "/a/m/m.go", 4, 4, true, 1, [⟨4, .qualified "t" "Get"⟩]⟩], [], []⟩

def tested : Package := ⟨"a/m", "m", "", some "a", false, false, false, [testedFile], []⟩

def testsFile : Source.File :=
  ⟨"/a/m/m.go", "m_test", [], [⟨"Get", none, "/a/m/m.go", 3, 3, true, 1, []⟩], [], []⟩

def tests : Package := ⟨"a/m_test", "m_test", "", some "a", false, true, true, [testsFile], []⟩

def testsDataset (packages : List Package) (graph : CallGraph) (node : Nat) : Dataset where
  graph := graph
  targets := [(⟨"a/m", "A"⟩, node)]
  declarations := Dataset.declarationsOf packages
  files := .ofPackages packages

def testsInFront : Dataset :=
  testsDataset [tests, tested]
    ⟨#[some ⟨⟨"a/m_test", "Get"⟩, false⟩, some ⟨⟨"a/m", "A"⟩, false⟩], [], #[⟨1, 0, 4⟩]⟩ 1

def testsBehind : Dataset :=
  testsDataset [tested, tests]
    ⟨#[some ⟨⟨"a/m", "A"⟩, false⟩, some ⟨⟨"a/m_test", "Get"⟩, false⟩], [], #[⟨0, 1, 4⟩]⟩ 0

def testsReached (dataset : Dataset) (target other : Nat) : List Dependency :=
  [dataset.dependency "a" target ⟨"a/m", "A"⟩, dataset.dependency "a" other ⟨"a/m_test", "Get"⟩]

def testsRows : List Row := [⟨"a/m/m.go:3:", "Get", 50, none⟩, ⟨"a/m/m.go:4:", "A", 50, none⟩]

theorem location_testsRows : ∀ row ∈ testsRows, (location row.path).1 = "a/m/m.go" := by
  simp only [testsRows, List.forall_mem_cons]
  decide

theorem sublist_pair_substring_tests :
    FileIndex.IsOwn [tests, tested] "a/m/m.go" ∧
      (pair testsInFront.files .ownership (testsReached testsInFront 1 0) testsRows).length = 1 ∧
      ((pair testsInFront.files .ownership (testsReached testsInFront 1 0) testsRows).map
        Row.said).Sublist
        ((pair testsInFront.files .substring (testsReached testsInFront 1 0) testsRows).map
          Row.said) := by
  have own : FileIndex.IsOwn [tests, tested] "a/m/m.go" :=
    ⟨⟨[tests], tested, [], rfl, rfl, testedFile, by decide, "m.go", by decide, by decide, by simp⟩,
      by decide⟩
  have built : Dataset.ofPackages [tests, tested] (· == "A") = .ok testsInFront := by
    decide +kernel
  exact ⟨own, by decide +kernel, sublist_pair_substring built
    (fun row member => .inl (location_testsRows row member ▸ own)) _⟩

/-- With its tests behind it, a package loses its file to them, and the row of their function is
kept by ownership alone. -/
theorem not_sublist_pair_substring :
    Dataset.ofPackages [tested, tests] (· == "A") = .ok testsBehind ∧
      (∀ row ∈ testsRows, FileIndex.IsPrinted [tested, tests] (location row.path).1) ∧
      ¬ ((pair testsBehind.files .ownership (testsReached testsBehind 0 1) testsRows).map
        Row.said).Sublist
        ((pair testsBehind.files .substring (testsReached testsBehind 0 1) testsRows).map
          Row.said) := by
  have printed : FileIndex.IsPrinted [tested, tests] "a/m/m.go" :=
    ⟨⟨tested, by decide, rfl, testedFile, by decide, "m.go", by decide, by decide⟩, by decide⟩
  have owned : (pair testsBehind.files .ownership (testsReached testsBehind 0 1) testsRows).map
      (fun row => row.said.2.1) = ["Get"] := by
    decide +kernel
  have held : (pair testsBehind.files .substring (testsReached testsBehind 0 1) testsRows).map
      (fun row => row.said.2.1) = ["A"] := by
    decide +kernel
  refine ⟨by decide +kernel, fun row member => location_testsRows row member ▸ printed, ?_⟩
  intro sub
  have functions := sub.map fun said => said.2.1
  rw [List.map_map, List.map_map] at functions
  simp only [Function.comp_def] at functions
  rw [owned, held] at functions
  revert functions
  decide

end Coverage

end TestReach
