import TestReach.Go.Listing
import TestReach.Loader.Memory
import TestReach.Proofs.Source.Files

/-!
# Loaded packages

Whatever reads their files, the packages of a listing hold files as they were read, with the
functions that initialise a package numbered. Packages in memory are loaded without effects.
-/

namespace TestReach

theorem run_bind_eq {World α β : Type} {world last : World} {first : StateM World α}
    {next : α → StateM World β} {b : β}
    (ran : (first >>= next).run world = (b, last)) :
    ∃ a middle, first.run world = (a, middle) ∧ (next a).run middle = (b, last) := by
  rcases step : first.run world with ⟨a, middle⟩
  refine ⟨a, middle, rfl, ?_⟩
  rw [StateT.run_bind, step] at ran
  exact ran

variable {m : Type → Type} [Monad m] [LawfulMonad m] [Source.Parser]

section

variable (told : String → Except FileFault String)

theorem readFiles_pure (directory : String) (names : List String) :
    readFiles (m := m) (fun path => pure (told path)) directory names =
      pure (readFiles (m := Id) (fun path => pure (told path)) directory names) := by
  induction names with
  | nil => rfl
  | cons name names ih =>
    simp only [readFiles, pure_bind, ih]
    split
    · rfl
    · cases readFiles (m := Id) (fun path => pure (told path)) directory names <;> rfl

theorem Record.packages_pure (modules : List String) (r : Record) :
    r.packages (m := m) (fun path => pure (told path)) modules =
      pure (r.packages (m := Id) (fun path => pure (told path)) modules) := by
  simp only [Record.packages, readFiles_pure (m := m), pure_bind]
  split
  · rfl
  · cases own : readFiles (m := Id) (fun path => pure (told path)) r.directory r.ownFiles with
    | error e => rfl
    | ok own =>
      dsimp only
      split
      · rfl
      · cases readFiles (m := Id) (fun path => pure (told path)) r.directory r.externalTestFiles <;>
          rfl

theorem Record.allPackages_pure (modules : List String) (records : List Record) :
    Record.allPackages (m := m) (fun path => pure (told path)) modules records =
      pure (Record.allPackages (m := Id) (fun path => pure (told path)) modules records) := by
  induction records with
  | nil => rfl
  | cons r records ih =>
    simp only [Record.allPackages, Record.packages_pure (m := m), pure_bind, ih]
    cases Record.packages (m := Id) (fun path => pure (told path)) modules r with
    | error e => rfl
    | ok first =>
      cases Record.allPackages (m := Id) (fun path => pure (told path)) modules records <;> rfl

end

theorem Memory.load_pure (memory : Memory) (locator : Locator) :
    memory.load (m := m) locator = pure (Id.run (memory.load locator)) := by
  unfold Memory.load
  split
  · exact Record.allPackages_pure memory.read _ _
  · rfl

section

variable {World : Type} {read : String → StateM World (Except FileFault String)}
  {world last : World} {P : Source.File → Prop}

theorem forall_readFiles (granted : Source.Granted P) {directory : String} {names : List String}
    {own : ReadFiles} (done : (readFiles read directory names).run world = (.ok own, last)) :
    ∀ file ∈ own.files, P file := by
  induction names generalizing own world with
  | nil =>
    cases done
    simp
  | cons name names ih =>
    rw [readFiles] at done
    obtain ⟨told, _, -, done⟩ := run_bind_eq done
    cases told with
    | error fault => cases done
    | ok source =>
      obtain ⟨others, _, behind, done⟩ := run_bind_eq done
      cases others with
      | error e => cases done
      | ok rest =>
        cases done
        intro file member
        rcases List.mem_append.1 member with member | member
        · split at member
          · rename_i parsed
            rw [List.mem_singleton.1 member]
            exact granted.parsed parsed
          · cases member
        · exact ih behind file member

namespace Record

theorem forall_packages (granted : Source.Granted P) {modules : List String} {r : Record}
    {packages : List Package} (done : (r.packages read modules).run world = (.ok packages, last)) :
    ∀ p ∈ packages, ∀ file ∈ p.files, P file := by
  unfold Record.packages at done
  split at done
  · cases done
    simp [Record.package, Source.numbered, Source.numberFileInits]
  · obtain ⟨own, _, reads, done⟩ := run_bind_eq done
    cases own with
    | error e => cases done
    | ok own =>
      have itself : ∀ file ∈ (r.package own).files, P file :=
        granted.numbered (forall_readFiles granted reads)
      dsimp only at done
      split at done
      · cases done
        simpa using itself
      · obtain ⟨tests, _, reads, done⟩ := run_bind_eq done
        cases tests with
        | error e => cases done
        | ok tests =>
          have outside : ∀ file ∈ (r.testPackage tests).files, P file :=
            granted.numbered (forall_readFiles granted reads)
          cases done
          simpa using ⟨outside, itself⟩

theorem forall_allPackages (granted : Source.Granted P) {modules : List String}
    {records : List Record} {packages : List Package}
    (done : (allPackages read modules records).run world = (.ok packages, last)) :
    ∀ p ∈ packages, ∀ file ∈ p.files, P file := by
  induction records generalizing packages world with
  | nil =>
    cases done
    simp
  | cons r records ih =>
    rw [allPackages] at done
    obtain ⟨first, _, here, done⟩ := run_bind_eq done
    cases first with
    | error e => cases done
    | ok first =>
      obtain ⟨rest, _, behind, done⟩ := run_bind_eq done
      cases rest with
      | error e => cases done
      | ok rest =>
        cases done
        intro p member
        rcases List.mem_append.1 member with member | member
        · exact forall_packages granted here p member
        · exact ih behind p member

end Record

end

/-- The packages of some listing, whatever reads their files and in whatever world. -/
def Packages.Loaded (packages : List Package) : Prop :=
  ∃ (World : Type) (read : String → StateM World (Except FileFault String))
    (records : List Record) (world last : World),
    (Record.assemble read records).run world = (.ok packages, last)

theorem Packages.Loaded.files {packages : List Package} (loaded : Loaded packages)
    {P : Source.File → Prop} (granted : Source.Granted P) :
    ∀ p ∈ packages, ∀ file ∈ p.files, P file := by
  obtain ⟨World, read, records, world, last, done⟩ := loaded
  exact Record.forall_allPackages granted done

theorem Memory.loaded {memory : Memory} {locator : Locator} {packages : List Package}
    (done : Id.run (memory.load locator) = .ok packages) : Packages.Loaded packages := by
  have ran : (memory.load (m := StateM Unit) locator).run () = (.ok packages, ()) := by
    rw [Memory.load_pure, done]
    rfl
  unfold Memory.load at ran
  split at ran
  · exact ⟨Unit, _, _, (), (), ran⟩
  · cases ran
    exact ⟨Unit, fun _ => pure (.ok ""), [], (), (), rfl⟩

theorem Go.Lister.loaded {World : Type} {lister : Lister (StateM World)} {locator : Locator}
    {world last : World} {packages : List Package}
    (done : (lister.load locator).run world = (.ok packages, last)) : Packages.Loaded packages := by
  unfold Lister.load at done
  obtain ⟨listed, _, -, done⟩ := run_bind_eq done
  cases listed with
  | error e => cases done
  | ok records =>
    dsimp only at done
    split at done
    · exact ⟨World, _, _, _, _, done⟩
    · obtain ⟨more, _, -, done⟩ := run_bind_eq done
      cases more with
      | error e => cases done
      | ok more => exact ⟨World, _, _, _, _, done⟩

def Package.Worded (p : Package) : Prop := ∀ d ∈ p.declarations, d.Worded

theorem Packages.Loaded.worded [Source.Parser.Naming] {packages : List Package}
    (loaded : Loaded packages) : ∀ p ∈ packages, p.Worded := by
  intro p member d declared
  obtain ⟨file, listed, there⟩ := List.mem_flatMap.1 declared
  exact loaded.files Source.granted_worded p member file listed d there

end TestReach
