import TestReach.Proofs.Loader.Records

/-!
# Accounts of a load

The files that a listing wants are read one after the other, and no others are. The first one that
cannot be read ends the load. Otherwise each file that was read comes to an entry or to a diagnostic
of the one package that it is wanted for.
-/

namespace TestReach

variable {World : Type} {read : String → StateM World (Except FileFault String)}
  {world last : World}

theorem run_bind_iff {α β : Type} {first : StateM World α} {next : α → StateM World β} {b : β} :
    (first >>= next).run world = (b, last) ↔
      ∃ a middle, first.run world = (a, middle) ∧ (next a).run middle = (b, last) := by
  refine ⟨run_bind_eq, ?_⟩
  rintro ⟨a, middle, step, ends⟩
  rw [StateT.run_bind, step]
  exact ends

/-- Files that are read one after the other, each by its path and with its source. -/
inductive Reads (read : String → StateM World (Except FileFault String)) :
    World → List (String × String) → World → Prop
  | done {world : World} : Reads read world [] world
  | file {world between last : World} {path source : String} {texts : List (String × String)}
    (here : (read path).run world = (.ok source, between))
    (others : Reads read between texts last) :
    Reads read world ((path, source) :: texts) last

/-- Files of which the first one that cannot be read is told of, and none behind it is read. -/
inductive Stops (read : String → StateM World (Except FileFault String)) :
    World → List String → Failure → World → Prop
  | here {world last : World} {path : String} {paths : List String} {fault : FileFault}
    (fails : (read path).run world = (.error fault, last)) :
    Stops read world (path :: paths) (.reading path fault) last
  | later {world between last : World} {path source : String} {paths : List String} {e : Failure}
    (reads : (read path).run world = (.ok source, between))
    (stops : Stops read between paths e last) : Stops read world (path :: paths) e last

theorem reads_append {one two : List (String × String)} :
    Reads read world (one ++ two) last ↔
      ∃ between, Reads read world one between ∧ Reads read between two last := by
  induction one generalizing world with
  | nil =>
    constructor
    · exact fun reads => ⟨world, .done, reads⟩
    · rintro ⟨between, reads, others⟩
      cases reads
      exact others
  | cons text one ih =>
    constructor
    · intro reads
      cases reads with
      | file here others =>
        obtain ⟨between, first, second⟩ := ih.1 others
        exact ⟨between, .file here first, second⟩
    · rintro ⟨between, reads, second⟩
      cases reads with
      | file here first => exact .file here (ih.2 ⟨between, first, second⟩)

theorem stops_append {one two : List String} {e : Failure} :
    Stops read world (one ++ two) e last ↔
      Stops read world one e last ∨ ∃ texts between, texts.map Prod.fst = one ∧
        Reads read world texts between ∧ Stops read between two e last := by
  induction one generalizing world with
  | nil =>
    constructor
    · exact fun stops => .inr ⟨[], world, rfl, .done, stops⟩
    · rintro (stops | ⟨texts, between, paths, reads, stops⟩)
      · cases stops
      · obtain rfl := List.map_eq_nil_iff.1 paths
        cases reads
        exact stops
  | cons path one ih =>
    constructor
    · intro stops
      cases stops with
      | here fails => exact .inl (.here fails)
      | later here stops =>
        rcases ih.1 stops with stops | ⟨texts, between, rfl, reads, stops⟩
        · exact .inl (.later here stops)
        · exact .inr ⟨_ :: texts, between, rfl, .file here reads, stops⟩
    · rintro (stops | ⟨texts, between, paths, reads, stops⟩)
      · cases stops with
        | here fails => exact .here fails
        | later here stops => exact .later here (ih.2 (.inl stops))
      · obtain ⟨⟨_, source⟩, texts, rfl, rfl, rfl⟩ := List.map_eq_cons_iff.1 paths
        cases reads with
        | file here reads => exact .later here (ih.2 (.inr ⟨texts, between, rfl, reads, stops⟩))

theorem exists_stops_iff {told : String → Except FileFault String} {paths : List String}
    (world : World) :
    (∃ e last, Stops (fun path => pure (told path)) world paths e last) ↔
      ∃ path ∈ paths, ∃ fault, told path = .error fault := by
  induction paths with
  | nil =>
    constructor
    · rintro ⟨e, last, stops⟩
      cases stops
    · rintro ⟨path, member, -⟩
      cases member
  | cons path paths ih =>
    constructor
    · rintro ⟨e, last, stops⟩
      cases stops with
      | here fails => exact ⟨path, List.mem_cons_self, _, congrArg Prod.fst fails⟩
      | later reads stops =>
        obtain rfl : world = _ := congrArg Prod.snd reads
        obtain ⟨other, member, fails⟩ := ih.1 ⟨e, last, stops⟩
        exact ⟨other, List.mem_cons_of_mem _ member, fails⟩
    · rintro ⟨other, member, fault, fails⟩
      cases here : told path with
      | error fault => exact ⟨_, world, .here (congrArg (·, world) here)⟩
      | ok source =>
        rcases List.mem_cons.1 member with rfl | member
        · rw [here] at fails
          cases fails
        · obtain ⟨e, last, stops⟩ := ih.2 ⟨other, member, fault, fails⟩
          exact ⟨e, last, .later (congrArg (·, world) here) stops⟩

section

variable [Source.Parser]

def ReadFiles.ofTexts : List (String × String) → ReadFiles
  | [] => ⟨[], []⟩
  | (path, source) :: texts =>
    match Source.File.parse path source with
    | .ok file => ⟨file :: (ofTexts texts).files, (ofTexts texts).errors⟩
    | .error e => ⟨(ofTexts texts).files, e.message :: (ofTexts texts).errors⟩

variable {directory : String} {names : List String}

theorem readFiles_ok_iff {own : ReadFiles} :
    (readFiles read directory names).run world = (.ok own, last) ↔
      ∃ texts, texts.map Prod.fst = names.map (Text.Path.join directory) ∧
        Reads read world texts last ∧ own = .ofTexts texts := by
  induction names generalizing world own with
  | nil =>
    constructor
    · intro done
      cases done
      exact ⟨[], rfl, .done, rfl⟩
    · rintro ⟨texts, paths, reads, rfl⟩
      obtain rfl := List.map_eq_nil_iff.1 paths
      cases reads
      rfl
  | cons name names ih =>
    rw [readFiles, run_bind_iff]
    constructor
    · rintro ⟨told, between, here, done⟩
      cases told with
      | error fault => cases done
      | ok source =>
        obtain ⟨rest, _, behind, done⟩ := run_bind_iff.1 done
        cases rest with
        | error e => cases done
        | ok rest =>
          cases done
          obtain ⟨texts, paths, reads, rfl⟩ := ih.1 behind
          refine ⟨(_, source) :: texts, by rw [List.map_cons, paths]; rfl, .file here reads, ?_⟩
          rw [ReadFiles.ofTexts]
          cases Source.File.parse (Text.Path.join directory name) source <;> rfl
    · rintro ⟨texts, paths, reads, rfl⟩
      obtain ⟨⟨_, source⟩, texts, rfl, rfl, others⟩ := List.map_eq_cons_iff.1 paths
      cases reads with
      | file here reads =>
        refine ⟨.ok source, _, here, run_bind_iff.2 ⟨_, last, ih.2 ⟨texts, others, reads, rfl⟩, ?_⟩⟩
        rw [ReadFiles.ofTexts]
        dsimp only
        cases Source.File.parse (Text.Path.join directory name) source <;> rfl

theorem readFiles_error_iff {e : Failure} :
    (readFiles read directory names).run world = (.error e, last) ↔
      Stops read world (names.map (Text.Path.join directory)) e last := by
  induction names generalizing world with
  | nil =>
    constructor
    · intro done
      cases done
    · intro stops
      cases stops
  | cons name names ih =>
    rw [readFiles, run_bind_iff]
    constructor
    · rintro ⟨told, between, here, done⟩
      cases told with
      | error fault =>
        cases done
        exact .here here
      | ok source =>
        obtain ⟨rest, _, behind, done⟩ := run_bind_iff.1 done
        cases rest with
        | error e =>
          cases done
          exact .later here (ih.1 behind)
        | ok rest => cases done
    · intro stops
      cases stops with
      | here fails => exact ⟨_, last, fails, rfl⟩
      | later here stops => exact ⟨_, _, here, run_bind_iff.2 ⟨_, last, ih.2 stops, rfl⟩⟩

end

namespace Record

def IsWanted (records : List Record) (r : Record) : Prop :=
  r.isRoot = true ∨
    ∃ root ∈ records, root.isRoot = true ∧ r.module?.isSome = true ∧ root.module? = r.module?

instance (records : List Record) (r : Record) : Decidable (r.IsWanted records) :=
  inferInstanceAs (Decidable (r.isRoot = true ∨
    ∃ root ∈ records, root.isRoot = true ∧ r.module?.isSome = true ∧ root.module? = r.module?))

def ownNames (records : List Record) (r : Record) : List String :=
  if r.IsWanted records then r.goFiles ++ r.cgoFiles ++ if r.isRoot then r.testFiles else []
  else []

def testNames (r : Record) : List String := if r.isRoot then r.externalTestFiles else []

def paths (r : Record) (names : List String) : List String :=
  names.map (Text.Path.join r.directory)

def wanted (records : List Record) : List String :=
  records.flatMap fun r => r.paths (r.ownNames records) ++ r.paths r.testNames

structure Supply where
  own : List (String × String)
  tests : List (String × String)

def Supply.texts (supply : Supply) : List (String × String) := supply.own ++ supply.tests

structure Supplied (records : List Record) (r : Record) (supply : Supply) : Prop where
  own : supply.own.map Prod.fst = r.paths (r.ownNames records)
  tests : supply.tests.map Prod.fst = r.paths r.testNames

/-- The packages of a record: its own, and in front of it that of its external tests if it is a root
that has some. What is wrong with its files is told behind what the listing itself tells. -/
def accounted [Source.Parser] (r : Record) (supply : Supply) : List Package :=
  let own := ReadFiles.ofTexts supply.own
  let tests := ReadFiles.ofTexts supply.tests
  let package : Package := {
    importPath := r.importPath
    name := r.name
    directory := r.directory
    module? := r.module?
    standard := r.standard
    dependencyOnly := r.dependencyOnly
    externalTest := false
    files := Source.numbered own.files
    errors := (r.error?.toList ++ r.dependencyErrors).map ListedError.message ++ own.errors }
  let testPackage : Package := {
    importPath := r.importPath ++ "_test"
    name := r.name ++ "_test"
    directory := r.directory
    module? := r.module?
    standard := false
    dependencyOnly := false
    externalTest := true
    files := Source.numbered tests.files
    errors := tests.errors }
  if r.isRoot = true ∧ r.externalTestFiles ≠ [] then [testPackage, package] else [package]

variable {records : List Record} {r : Record} {packages : List Package} {e : Failure}

theorem isParsed_iff : r.isParsed (rootModules records) = true ↔ r.IsWanted records := by
  rw [isParsed, Bool.or_eq_true, IsWanted]
  refine or_congr_right ?_
  cases own : r.module? with
  | none => simp
  | some module => simp [rootModules, and_assoc]

theorem testNames_eq_nil (without : ¬ (r.isRoot = true ∧ r.externalTestFiles ≠ [])) :
    r.testNames = [] := by
  unfold testNames
  split
  · rename_i root
    exact not_not.1 fun outside => without ⟨root, outside⟩
  · rfl

variable [Source.Parser]

theorem packages_eq {m : Type → Type} [Monad m] [LawfulMonad m]
    (read : String → m (Except FileFault String)) (records : List Record) (r : Record) :
    r.packages read (rootModules records) = do
      match ← readFiles read r.directory (r.ownNames records) with
      | .error e => return .error e
      | .ok own =>
        match ← readFiles read r.directory r.testNames with
        | .error e => return .error e
        | .ok tests =>
          return .ok (if r.isRoot = true ∧ r.externalTestFiles ≠ [] then
            [r.testPackage tests, r.package own] else [r.package own]) := by
  -- A record is read for in one way, with the files that it does not want left out: none are no
  -- reading at all.
  unfold Record.packages
  by_cases wanted : r.IsWanted records
  · rw [isParsed_iff.2 wanted, ownNames, if_pos wanted, if_neg (by decide)]
    refine bind_congr fun result => ?_
    cases result with
    | error e => rfl
    | ok own =>
      by_cases outside : r.isRoot = true ∧ r.externalTestFiles ≠ []
      · have tested : (!r.isRoot || r.externalTestFiles.isEmpty) = false := by simp [outside]
        have names : r.testNames = r.externalTestFiles := by simp [testNames, outside]
        dsimp only
        rw [tested, names, if_neg (by decide)]
        refine bind_congr fun result => ?_
        cases result with
        | error e => rfl
        | ok tests => exact congrArg (fun ps => pure (Except.ok ps)) (if_pos outside).symm
      · have without : (!r.isRoot || r.externalTestFiles.isEmpty) = true := by
          simpa [or_iff_not_imp_left] using outside
        rw [testNames_eq_nil outside]
        simp [without, outside, readFiles]
  · have unparsed : r.isParsed (rootModules records) = false := by
      rwa [← Bool.not_eq_true, isParsed_iff]
    have other : r.isRoot ≠ true := fun root => wanted (.inl root)
    simp [unparsed, ownNames, wanted, testNames, other, readFiles]

theorem packages_ok_iff :
    (r.packages read (rootModules records)).run world = (.ok packages, last) ↔
      ∃ supply, r.Supplied records supply ∧ Reads read world supply.texts last ∧
        packages = r.accounted supply := by
  rw [packages_eq, run_bind_iff]
  constructor
  · rintro ⟨own, between, here, done⟩
    cases own with
    | error e => cases done
    | ok own =>
      obtain ⟨tests, _, there, done⟩ := run_bind_iff.1 done
      cases tests with
      | error e => cases done
      | ok tests =>
        cases done
        obtain ⟨first, own, reads, rfl⟩ := readFiles_ok_iff.1 here
        obtain ⟨second, tests, others, rfl⟩ := readFiles_ok_iff.1 there
        exact ⟨⟨first, second⟩, ⟨own, tests⟩, reads_append.2 ⟨between, reads, others⟩, rfl⟩
  · rintro ⟨⟨first, second⟩, ⟨own, tests⟩, reads, rfl⟩
    obtain ⟨between, reads, others⟩ := reads_append.1 reads
    exact ⟨_, between, readFiles_ok_iff.2 ⟨first, own, reads, rfl⟩, run_bind_iff.2
      ⟨_, last, readFiles_ok_iff.2 ⟨second, tests, others, rfl⟩, rfl⟩⟩

theorem packages_error_iff :
    (r.packages read (rootModules records)).run world = (.error e, last) ↔
      Stops read world (r.paths (r.ownNames records) ++ r.paths r.testNames) e last := by
  rw [packages_eq, run_bind_iff, stops_append]
  constructor
  · rintro ⟨own, between, here, done⟩
    cases own with
    | error e =>
      cases done
      exact .inl (readFiles_error_iff.1 here)
    | ok own =>
      obtain ⟨tests, _, there, done⟩ := run_bind_iff.1 done
      cases tests with
      | error e =>
        cases done
        obtain ⟨texts, paths, reads, -⟩ := readFiles_ok_iff.1 here
        exact .inr ⟨texts, between, paths, reads, readFiles_error_iff.1 there⟩
      | ok tests => cases done
  · rintro (stops | ⟨texts, between, paths, reads, stops⟩)
    · exact ⟨_, last, readFiles_error_iff.2 stops, rfl⟩
    · exact ⟨_, between, readFiles_ok_iff.2 ⟨texts, paths, reads, rfl⟩, run_bind_iff.2
        ⟨_, last, readFiles_error_iff.2 stops, rfl⟩⟩

theorem allPackages_ok_iff {some : List Record} :
    (allPackages read (rootModules records) some).run world = (.ok packages, last) ↔
      ∃ supplies, List.Forall₂ (Supplied records) some supplies ∧
        Reads read world (supplies.flatMap Supply.texts) last ∧
        packages = (List.zipWith accounted some supplies).flatten := by
  induction some generalizing world packages with
  | nil =>
    constructor
    · intro done
      cases done
      exact ⟨[], .nil, .done, rfl⟩
    · rintro ⟨supplies, supplied, reads, rfl⟩
      cases supplied
      cases reads
      rfl
  | cons r some ih =>
    rw [allPackages, run_bind_iff]
    constructor
    · rintro ⟨first, between, here, done⟩
      cases first with
      | error e => cases done
      | ok first =>
        obtain ⟨rest, _, behind, done⟩ := run_bind_iff.1 done
        cases rest with
        | error e => cases done
        | ok rest =>
          cases done
          obtain ⟨supply, own, reads, rfl⟩ := packages_ok_iff.1 here
          obtain ⟨supplies, supplied, others, rfl⟩ := ih.1 behind
          exact ⟨supply :: supplies, .cons own supplied, reads_append.2 ⟨between, reads, others⟩,
            rfl⟩
    · rintro ⟨_, supplied, reads, rfl⟩
      cases supplied with
      | cons own supplied =>
        obtain ⟨between, reads, others⟩ := reads_append.1 reads
        exact ⟨_, between, packages_ok_iff.2 ⟨_, own, reads, rfl⟩, run_bind_iff.2
          ⟨_, last, ih.2 ⟨_, supplied, others, rfl⟩, rfl⟩⟩

theorem allPackages_error_iff {some : List Record} :
    (allPackages read (rootModules records) some).run world = (.error e, last) ↔
      Stops read world
        (some.flatMap fun r => r.paths (r.ownNames records) ++ r.paths r.testNames) e last := by
  induction some generalizing world with
  | nil =>
    constructor
    · intro done
      cases done
    · intro stops
      cases stops
  | cons r some ih =>
    rw [allPackages, run_bind_iff, List.flatMap_cons, stops_append]
    constructor
    · rintro ⟨first, between, here, done⟩
      cases first with
      | error e =>
        cases done
        exact .inl (packages_error_iff.1 here)
      | ok first =>
        obtain ⟨rest, _, behind, done⟩ := run_bind_iff.1 done
        cases rest with
        | error e =>
          cases done
          obtain ⟨supply, supplied, reads, -⟩ := packages_ok_iff.1 here
          refine .inr ⟨supply.texts, between, ?_, reads, ih.1 behind⟩
          rw [Supply.texts, List.map_append, supplied.own, supplied.tests]
        | ok rest => cases done
    · rintro (stops | ⟨texts, between, paths, reads, stops⟩)
      · exact ⟨_, last, packages_error_iff.2 stops, rfl⟩
      · obtain ⟨own, tests, rfl, first, second⟩ := List.map_eq_append_iff.1 paths
        exact ⟨_, between, packages_ok_iff.2 ⟨⟨own, tests⟩, ⟨first, second⟩, reads, rfl⟩,
          run_bind_iff.2 ⟨_, last, ih.2 stops, rfl⟩⟩

/-- A load fails exactly at the first file that cannot be read, of those that are wanted of roots
and of the packages that share a module with one. Otherwise each record comes to its packages, which
account for its files alone, and no other file is read. -/
theorem assemble_iff (read : String → StateM World (Except FileFault String))
    (records : List Record) (world last : World) :
    (∀ e, (assemble read records).run world = (.error e, last) ↔
      Stops read world (wanted records) e last) ∧
    (∀ packages, (assemble read records).run world = (.ok packages, last) ↔
      ∃ supplies, List.Forall₂ (Supplied records) records supplies ∧
        Reads read world (supplies.flatMap Supply.texts) last ∧
        packages = (List.zipWith accounted records supplies).flatten) ∧
    ∀ told : String → Except FileFault String,
      (∃ e, Id.run (assemble (fun path => pure (told path)) records) = .error e) ↔
        ∃ path ∈ wanted records, ∃ fault, told path = .error fault := by
  refine ⟨fun _ => allPackages_error_iff, fun _ => allPackages_ok_iff, fun told => ?_⟩
  rw [← exists_stops_iff ()]
  have ran : (assemble (m := StateM Unit) (fun path => pure (told path)) records).run () =
      (Id.run (assemble (fun path => pure (told path)) records), ()) := by
    rw [assemble, allPackages_pure (m := StateM Unit)]
    rfl
  constructor
  · rintro ⟨e, failed⟩
    rw [failed] at ran
    exact ⟨e, (), allPackages_error_iff.1 ran⟩
  · rintro ⟨e, _, stops⟩
    have failed := ran.symm.trans (allPackages_error_iff.2 stops)
    exact ⟨e, congrArg Prod.fst failed⟩

end Record

end TestReach
