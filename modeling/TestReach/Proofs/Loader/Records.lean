import TestReach.Proofs.Loader.Assembly
import Mathlib.Data.List.Forall2

/-!
# Records and their packages

Each record of a listing comes to its own package, with a package of external tests in front of it
if it is a root that has such tests. In memory, the tests of an import path go to the first record
of that path, and from there its module is told.
-/

namespace TestReach

namespace Record

inductive Yields (r : Record) : List Package → Prop
  | alone (own : ReadFiles) (without : r.isRoot = true → r.externalTestFiles = []) :
    Yields r [r.package own]
  | tested (own tests : ReadFiles) (root : r.isRoot = true) (outside : r.externalTestFiles ≠ [])
    (told : tests.files ≠ [] ∨ tests.errors ≠ []) :
    Yields r [r.testPackage tests, r.package own]

theorem Yields.of_mem {r : Record} {group : List Package} (yields : Yields r group) {p : Package}
    (member : p ∈ group) :
    p.importPath = r.importPath ∧ p.module? = r.module? ∨
      p.importPath = r.importPath ++ "_test" ∧ r.externalTestFiles ≠ [] ∧
        p.module? = r.module? := by
  cases yields with
  | alone own without =>
    rw [List.mem_singleton.1 member]
    exact .inl ⟨rfl, rfl⟩
  | tested own tests root outside told =>
    rw [List.mem_cons, List.mem_singleton] at member
    rcases member with rfl | rfl
    · exact .inr ⟨rfl, outside, rfl⟩
    · exact .inl ⟨rfl, rfl⟩

theorem Yields.exists_own {r : Record} {group : List Package} (yields : Yields r group) :
    ∃ p ∈ group, p.importPath = r.importPath := by
  cases yields with
  | alone own without => exact ⟨_, List.mem_singleton_self _, rfl⟩
  | tested own tests root outside told => exact ⟨r.package own, by simp, rfl⟩

theorem Yields.exists_externalTest_iff {r : Record} {group : List Package}
    (yields : Yields r group) {path : String} :
    (∃ p ∈ group, p.externalTest = true ∧ p.importPath = path) ↔
      r.isRoot = true ∧ r.externalTestFiles ≠ [] ∧ r.importPath ++ "_test" = path := by
  cases yields with
  | alone own without =>
    constructor
    · rintro ⟨p, member, test, -⟩
      rw [List.mem_singleton.1 member] at test
      cases test
    · rintro ⟨root, outside, -⟩
      exact absurd (without root) outside
  | tested own tests root outside told =>
    constructor
    · rintro ⟨p, member, test, path⟩
      rw [List.mem_cons, List.mem_singleton] at member
      rcases member with rfl | rfl
      · exact ⟨root, outside, path⟩
      · cases test
    · rintro ⟨-, -, path⟩
      exact ⟨r.testPackage tests, by simp, rfl, path⟩

theorem Yields.externalTest_of_ne {r : Record} {group : List Package} (yields : Yields r group)
    {p : Package} (member : p ∈ group) (other : p.importPath ≠ r.importPath) :
    p.externalTest = true := by
  cases yields with
  | alone own without =>
    rw [List.mem_singleton.1 member] at other
    exact absurd rfl other
  | tested own tests root outside told =>
    rw [List.mem_cons, List.mem_singleton] at member
    rcases member with rfl | rfl
    · rfl
    · exact absurd rfl other

theorem numbered_ne_nil {files : List Source.File} (some : files ≠ []) :
    Source.numbered files ≠ [] := by
  cases files with
  | nil => exact absurd rfl some
  | cons file files => simp [Source.numbered, Source.numberFileInits]

theorem Yields.isParsed {r : Record} {group : List Package} (yields : Yields r group) {p : Package}
    (member : p ∈ group) (test : p.externalTest = true) (clean : p.errors = []) :
    p.isParsed = true := by
  cases yields with
  | alone own without =>
    rw [List.mem_singleton.1 member] at test
    cases test
  | tested own tests root outside told =>
    rw [List.mem_cons, List.mem_singleton] at member
    rcases member with rfl | rfl
    · have some : (r.testPackage tests).files ≠ [] := by
        rcases told with files | errors
        · exact numbered_ne_nil files
        · exact absurd clean errors
      simpa [Package.isParsed] using some
    · cases test

theorem isParsed_of_isRoot {r : Record} (root : r.isRoot = true) (modules : List String) :
    r.isParsed modules = true := by
  simp [isParsed, root]

variable {records : List Record} {groups : List (List Package)}

theorem exists_yields_of_mem (yields : List.Forall₂ Yields records groups) {r : Record}
    (member : r ∈ records) : ∃ group ∈ groups, Yields r group := by
  induction yields with
  | nil => cases member
  | cons here others ih =>
    rcases List.mem_cons.1 member with rfl | member
    · exact ⟨_, by simp, here⟩
    · obtain ⟨group, among, yields⟩ := ih member
      exact ⟨group, by simp [among], yields⟩

theorem exists_record_of_mem (yields : List.Forall₂ Yields records groups) {group : List Package}
    (member : group ∈ groups) : ∃ r ∈ records, Yields r group := by
  induction yields with
  | nil => cases member
  | cons here others ih =>
    rcases List.mem_cons.1 member with rfl | member
    · exact ⟨_, by simp, here⟩
    · obtain ⟨r, among, yields⟩ := ih member
      exact ⟨r, by simp [among], yields⟩

theorem externalTest_of_apart (yields : List.Forall₂ Yields records groups) {path : String}
    (apart : ∀ r ∈ records, r.importPath ≠ path) {p : Package} (member : p ∈ groups.flatten)
    (there : p.importPath = path) (clean : p.errors = []) :
    p.externalTest = true ∧ p.isParsed = true := by
  obtain ⟨group, among, member⟩ := List.mem_flatten.1 member
  obtain ⟨r, recorded, yields⟩ := exists_record_of_mem yields among
  have external : p.externalTest = true :=
    yields.externalTest_of_ne member (there ▸ (apart r recorded).symm)
  exact ⟨external, yields.isParsed member external clean⟩

theorem exists_externalTest_iff (yields : List.Forall₂ Yields records groups) {path : String} :
    (∃ p ∈ groups.flatten, p.externalTest = true ∧ p.importPath = path) ↔
      ∃ r ∈ records, r.isRoot = true ∧ r.externalTestFiles ≠ [] ∧
        r.importPath ++ "_test" = path := by
  constructor
  · rintro ⟨p, member, test⟩
    obtain ⟨group, among, member⟩ := List.mem_flatten.1 member
    obtain ⟨r, listed, yields⟩ := exists_record_of_mem yields among
    exact ⟨r, listed, yields.exists_externalTest_iff.1 ⟨p, member, test⟩⟩
  · rintro ⟨r, listed, test⟩
    obtain ⟨group, among, yields⟩ := exists_yields_of_mem yields listed
    obtain ⟨p, member, test⟩ := yields.exists_externalTest_iff.2 test
    exact ⟨p, List.mem_flatten.2 ⟨group, among, member⟩, test⟩

variable [Source.Parser] {World : Type} {read : String → StateM World (Except FileFault String)}
  {world last : World}

theorem told_readFiles {directory : String} {names : List String} {own : ReadFiles}
    (done : (readFiles read directory names).run world = (.ok own, last)) (some : names ≠ []) :
    own.files ≠ [] ∨ own.errors ≠ [] := by
  cases names with
  | nil => exact absurd rfl some
  | cons name names =>
    rw [readFiles] at done
    obtain ⟨source, _, -, done⟩ := run_bind_eq done
    cases source with
    | error fault => cases done
    | ok source =>
      obtain ⟨rest, _, -, done⟩ := run_bind_eq done
      cases rest with
      | error e => cases done
      | ok rest =>
        cases done
        cases Source.File.parse (Text.Path.join directory name) source with
        | ok file => exact .inl (by simp)
        | error e => exact .inr (by simp)

theorem yields_packages {modules : List String} {r : Record} {packages : List Package}
    (done : (r.packages read modules).run world = (.ok packages, last)) : Yields r packages := by
  unfold Record.packages at done
  split at done
  · rename_i unparsed
    cases done
    refine .alone _ fun root => ?_
    rw [isParsed_of_isRoot root] at unparsed
    cases unparsed
  · obtain ⟨own, _, -, done⟩ := run_bind_eq done
    cases own with
    | error e => cases done
    | ok own =>
      dsimp only at done
      split at done
      · rename_i without
        cases done
        refine .alone own fun root => ?_
        simpa [root] using without
      · rename_i outside
        obtain ⟨tests, _, reads, done⟩ := run_bind_eq done
        cases tests with
        | error e => cases done
        | ok tests =>
          cases done
          simp only [Bool.or_eq_true, Bool.not_eq_true', not_or, Bool.not_eq_false,
            List.isEmpty_iff] at outside
          exact .tested own tests outside.1 outside.2 (told_readFiles reads outside.2)

theorem yields_allPackages {modules : List String} {records : List Record}
    {packages : List Package}
    (done : (allPackages read modules records).run world = (.ok packages, last)) :
    ∃ groups, List.Forall₂ Yields records groups ∧ groups.flatten = packages := by
  induction records generalizing packages world with
  | nil =>
    cases done
    exact ⟨[], .nil, rfl⟩
  | cons r records ih =>
    rw [allPackages] at done
    obtain ⟨first, _, here, done⟩ := run_bind_eq done
    cases first with
    | error e => cases done
    | ok first =>
      obtain ⟨rest, _, behind, done⟩ := run_bind_eq done
      cases rest with
      | error e => cases done
      | ok rest =>
        cases done
        obtain ⟨groups, others, rfl⟩ := ih behind
        exact ⟨first :: groups, .cons (yields_packages here) others, rfl⟩

theorem yields_assemble {records : List Record} {packages : List Package}
    (done : (assemble read records).run world = (.ok packages, last)) :
    ∃ groups, List.Forall₂ Yields records groups ∧ groups.flatten = packages :=
  yields_allPackages done

end Record

namespace Memory

/-- Memory as it is filled, step by step. -/
inductive Registered : Memory → Prop
  | empty : Registered .empty
  | package {memory : Memory} (before : Registered memory) (module? : Option String)
    (importPath : String) (files : List (String × String)) :
    Registered (memory.addPackage module? importPath files)
  | standard {memory : Memory} (before : Registered memory) (importPath : String) :
    Registered (memory.addStandard importPath)
  | tests {memory : Memory} (before : Registered memory) (importPath : String)
    (files : List (String × String)) : Registered (memory.addTests importPath files)
  | externalTests {memory : Memory} (before : Registered memory) (importPath : String)
    (files : List (String × String)) : Registered (memory.addExternalTests importPath files)
  | error {memory : Memory} (before : Registered memory) (importPath text : String) :
    Registered (memory.addError importPath text)
  | failing {memory : Memory} (before : Registered memory) (importPath : String) :
    Registered (memory.addFailing importPath)

/-- No package has the path that the external tests of another would have. -/
def Apart (memory : Memory) : Prop :=
  ∀ r ∈ memory.records, ∀ s ∈ memory.records, s.importPath ≠ r.importPath ++ "_test"

instance (memory : Memory) : Decidable memory.Apart :=
  inferInstanceAs (Decidable (∀ r ∈ memory.records, ∀ s ∈ memory.records,
    s.importPath ≠ r.importPath ++ "_test"))

def TestedFirst (records : List Record) : Prop :=
  records.Pairwise fun first second =>
    first.importPath = second.importPath → second.externalTestFiles = []

theorem TestedFirst.append {records : List Record} (before : TestedFirst records) {r : Record}
    (without : r.externalTestFiles = []) : TestedFirst (records ++ [r]) := by
  refine List.pairwise_append.2 ⟨before, by simp, ?_⟩
  intro first _ second member _
  rw [List.mem_singleton.1 member]
  exact without

theorem mem_changeFirst {importPath : String} {change : Record → Record} {records : List Record}
    {r : Record} (member : r ∈ changeFirst importPath change records) :
    r ∈ records ∨ ∃ s ∈ records, s.importPath = importPath ∧ r = change s := by
  induction records with
  | nil => cases member
  | cons first records ih =>
    rw [changeFirst] at member
    split at member
    · rename_i here
      rcases List.mem_cons.1 member with rfl | member
      · exact .inr ⟨first, by simp, here, rfl⟩
      · exact .inl (by simp [member])
    · rcases List.mem_cons.1 member with rfl | member
      · exact .inl (by simp)
      · rcases ih member with member | ⟨s, listed, there, rfl⟩
        · exact .inl (by simp [member])
        · exact .inr ⟨s, by simp [listed], there, rfl⟩

theorem TestedFirst.changeFirst {records : List Record} (before : TestedFirst records)
    (importPath : String) {change : Record → Record}
    (kept : ∀ r, (change r).importPath = r.importPath) :
    TestedFirst (changeFirst importPath change records) := by
  induction records with
  | nil => exact .nil
  | cons first records ih =>
    obtain ⟨behind, others⟩ := List.pairwise_cons.1 before
    rw [Memory.changeFirst]
    split
    · refine List.pairwise_cons.2 ⟨fun second member same => ?_, others⟩
      exact behind second member ((kept first).symm.trans same)
    · rename_i elsewhere
      refine List.pairwise_cons.2 ⟨fun second member same => ?_, ih others⟩
      rcases mem_changeFirst member with member | ⟨s, -, there, rfl⟩
      · exact behind second member same
      · exact absurd ((same.trans (kept s)).trans there) elsewhere

theorem Registered.testedFirst {memory : Memory} (registered : memory.Registered) :
    TestedFirst memory.records := by
  induction registered with
  | empty => exact .nil
  | package _ _ _ _ ih => exact ih.append rfl
  | standard _ _ ih => exact ih.append rfl
  | tests _ importPath _ ih => exact ih.changeFirst importPath fun _ => rfl
  | externalTests _ importPath _ ih => exact ih.changeFirst importPath fun _ => rfl
  | error _ importPath _ ih => exact ih.changeFirst importPath fun _ => rfl
  | failing _ _ ih => exact ih

theorem TestedFirst.find? {records : List Record} (first : TestedFirst records) {r : Record}
    (member : r ∈ records) (outside : r.externalTestFiles ≠ []) :
    records.find? (fun s => s.importPath = r.importPath) = some r := by
  obtain ⟨front, rest, rfl⟩ := List.append_of_mem member
  obtain ⟨-, -, across⟩ := List.pairwise_append.1 first
  have fresh : front.find? (fun s => s.importPath = r.importPath) = none := by
    rw [List.find?_eq_none]
    intro s listed same
    exact outside (across s listed r (by simp) (of_decide_eq_true same))
  rw [List.find?_append, fresh]
  simp

theorem yields_load [Source.Parser] {memory : Memory} {locator : Locator} {packages : List Package}
    (done : Id.run (memory.load locator) = .ok packages) :
    packages = [] ∨ ∃ groups, groups.flatten = packages ∧
      List.Forall₂ (fun (r : Record) group => Record.Yields
        { r with dependencyOnly := !isMatch locator.pattern r.importPath } group)
        memory.records groups := by
  have ran : (memory.load (m := StateM Unit) locator).run () = (.ok packages, ()) := by
    rw [Memory.load_pure, done]
    rfl
  unfold Memory.load at ran
  split at ran
  · obtain ⟨groups, yields, same⟩ := Record.yields_assemble ran
    exact .inr ⟨groups, same, List.forall₂_map_left_iff.1 yields⟩
  · cases ran
    exact .inl rfl

theorem first_of_yields {mark : Record → Bool} {records : List Record}
    {groups : List (List Package)}
    (yields : List.Forall₂ (fun (r : Record) group =>
      Record.Yields { r with dependencyOnly := mark r } group) records groups)
    {path : String} {p : Package}
    (first : groups.flatten.find? (fun p => p.importPath = path) = some p) :
    (∃ r, records.find? (fun r => r.importPath = path) = some r ∧ p.module? = r.module?) ∨
      ∃ r ∈ records, r.externalTestFiles ≠ [] ∧ r.importPath ++ "_test" = path ∧
        p.module? = r.module? := by
  induction yields with
  | nil => cases first
  | @cons r group records groups here others ih =>
    rw [List.flatten_cons, List.find?_append, Option.or_eq_some_iff] at first
    rcases first with among | ⟨elsewhere, later⟩
    · have there : p.importPath = path := by simpa using List.find?_some among
      rcases here.of_mem (List.mem_of_find?_eq_some among) with ⟨own, same⟩ | ⟨test, outside, same⟩
      · exact .inl ⟨r, by simp [← there, own], same⟩
      · exact .inr ⟨r, by simp, outside, test.symm.trans there, same⟩
    · obtain ⟨own, listed, itself⟩ := here.exists_own
      have skipped : r.importPath ≠ path := by
        rintro rfl
        exact List.find?_eq_none.1 elsewhere own listed (decide_eq_true itself)
      rcases ih later with ⟨s, found, same⟩ | ⟨s, member, rest⟩
      · exact .inl ⟨s, by simpa [skipped] using found, same⟩
      · exact .inr ⟨s, by simp [member], rest⟩

theorem moduleOf_first [Source.Parser] {memory : Memory} (registered : memory.Registered)
    (sure : memory.failing = []) (apart : memory.Apart) {locator : Locator}
    {packages : List Package} (loaded : Id.run (memory.load locator) = .ok packages)
    {path : String} {p : Package}
    (first : packages.find? (fun p => p.importPath = path) = some p) :
    memory.moduleOf path = .ok p.module? := by
  have told : memory.moduleOf path = .ok ((memory.findTested? path).bind Record.module?) := by
    simp [moduleOf, sure]
  rw [told]
  rcases yields_load loaded with rfl | ⟨groups, rfl, yields⟩
  · cases first
  · rcases first_of_yields yields first with ⟨r, found, same⟩ | ⟨r, member, outside, rfl, same⟩
    · have itself : memory.find? path = some r := found
      simp [findTested?, itself, same]
    · -- External tests have no record of their own: memory tells of the record that they test.
      have absent : memory.find? (r.importPath ++ "_test") = none := by
        rw [find?, List.find?_eq_none]
        intro s listed
        simpa using apart r member s listed
      have tested : memory.find? r.importPath = some r :=
        registered.testedFirst.find? member outside
      have before : Text.before? "_test".toList (r.importPath ++ "_test").toList =
          some r.importPath.toList := Text.before?_eq_some.2 String.toList_append
      rw [findTested?, absent, before]
      simp [tested, same]

end Memory

end TestReach
