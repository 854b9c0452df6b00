import TestReach.Proofs.Analysis.Stages

/-!
# Effects of a run

A run makes a directory for the profile, runs the tests, has the profile summarized, and removes the
directory. A world with notes tells which of these effects took place, in which order, and what came
of them.
-/

namespace TestReach

open Analysis

/-- What a run does to the world, with what comes of it. -/
inductive Effect
  | made (result : Except FileFault String)
  | tested (invocation : Invocation) (result : Except Failure Unit)
  | summarized (locator : Locator) (profile : String) (result : Except Failure String)
  | removed (directory : String) (result : Except FileFault Unit)

namespace Effect

def profile? : Effect → Option String
  | made _ => none
  | tested invocation _ => some invocation.profile
  | summarized _ profile _ => some profile
  | removed _ _ => none

def isTest : Effect → Bool
  | tested _ _ => true
  | _ => false

def isSummary : Effect → Bool
  | summarized _ _ _ => true
  | _ => false

def Succeeds : Effect → Prop
  | made result => ∃ directory, result = .ok directory
  | tested _ result => result = .ok ()
  | summarized _ _ result => ∃ text, result = .ok text
  | removed _ result => result = .ok ()

def failure? : Effect → Option Failure
  | tested _ (.error e) => some e
  | summarized _ _ (.error e) => some e
  | _ => none

def Standing (directory : String) (effects : List Effect) : Prop :=
  made (.ok directory) ∈ effects ∧ removed directory (.ok ()) ∉ effects

end Effect

namespace Engine

variable {World : Type}

/-! ## Noting -/

def noting (engine : Engine (StateM World)) : Engine (StateM (World × List Effect)) where
  loader := engine.loader.passing
  toolchain :=
    { runTests := fun invocation =>
        TestReach.noting (.tested invocation) (engine.toolchain.runTests invocation)
      summarize := fun locator profile =>
        TestReach.noting (.summarized locator profile)
          (engine.toolchain.summarize locator profile) }
  settings := engine.settings
  directory? := fun path => passing (engine.directory? path)
  cancelled := passing engine.cancelled
  makeProfileDirectory := TestReach.noting .made engine.makeProfileDirectory
  removeProfileDirectory := fun directory =>
    TestReach.noting (.removed directory) (engine.removeProfileDirectory directory)

section

variable (engine : Engine (StateM World))

theorem follows_testAndSummarize (invocation : Invocation) :
    TestReach.Follows (fun _ => True) (engine.noting.testAndSummarize invocation)
      (engine.testAndSummarize invocation) := by
  apply TestReach.Follows.bind (follows_noting (fun _ => trivial) _)
  intro result
  cases result with
  | error e => exact .pure _
  | ok _ => exact follows_noting (fun _ => trivial) _

theorem follows_summary (locator : Locator) (pattern : String) (packages : List String) :
    TestReach.Follows (fun _ => True) (engine.noting.summary locator pattern packages)
      (engine.summary locator pattern packages) := by
  apply TestReach.Follows.bind (follows_noting (fun _ => trivial) _)
  intro directory
  cases directory with
  | error fault => exact .pure _
  | ok directory =>
    apply (engine.follows_testAndSummarize _).bind
    intro result
    apply TestReach.Follows.bind (follows_noting (fun _ => trivial) _)
    intro removed
    cases result with
    | error e => exact .pure _
    | ok summary => cases removed <;> exact .pure _

theorem follows_cover (selection : Selection) (pattern : String) (ds : List Dependency) :
    TestReach.Follows (fun _ => True) (engine.noting.cover selection pattern ds)
      (engine.cover selection pattern ds) := by
  unfold cover
  dsimp only
  split
  · exact .pure _
  · apply (engine.follows_summary _ _ _).bind
    intro result
    cases result <;> exact .pure _

theorem follows_run [Pattern.Compiler] (path pattern : String) :
    Analysis.Follows (fun _ => True) (engine.noting.run path pattern)
      (engine.run path pattern) := by
  apply (follows_select rfl (fun _ => rfl) rfl path pattern).bind
  intro selection
  apply (follows_checkpoint rfl .coverage).bind
  intro _
  apply (Analysis.Follows.call (engine.follows_cover selection pattern _)).bind
  intro rows
  exact .pure _

/-! ## The ways of a run -/

def Selection.dependencies (selection : Selection) : List Dependency :=
  Dependency.collapse (selection.reached.flatMap (·.2))

def Selection.packages (selection : Selection) : List String :=
  Dependency.packages selection.dependencies selection.dataset.files

def invocation (engine : Engine (StateM World)) (selection : Selection)
    (pattern directory : String) : Invocation where
  locator := selection.locator
  tests := pattern
  profile := Text.Path.join directory profileName
  mode := engine.settings.coverMode
  packages := selection.packages
  more := engine.settings.testArguments

inductive Calls (engine : Engine (StateM World)) (invocation : Invocation) (ready : World) :
    Except Failure String → List Effect → World → Prop
  | untested {e : Failure} {last : World}
    (tests : (engine.toolchain.runTests invocation).run ready = (.error e, last)) :
    Calls engine invocation ready (.error e) [.tested invocation (.error e)] last
  | summarized {outcome : Except Failure String} {tested last : World}
    (tests : (engine.toolchain.runTests invocation).run ready = (.ok (), tested))
    (summary : (engine.toolchain.summarize invocation.locator invocation.profile).run tested =
      (outcome, last)) :
    Calls engine invocation ready outcome
      [.tested invocation (.ok ()),
        .summarized invocation.locator invocation.profile outcome] last

def settled : Except Failure String → Except FileFault Unit → Except Failure String
  | .error e, _ => .error e
  | .ok _, .error fault =>
    .error (.file "failed to remove coverage profile directory" fault)
  | .ok text, .ok () => .ok text

/-- How the rows of a selection come about, with all effects that it takes. -/
inductive Covers (engine : Engine (StateM World)) (selection : Selection) (pattern : String)
    (world : World) : Except Failure (List Coverage.Row) → List Effect → Prop
  | idle (none : selection.packages = []) : Covers engine selection pattern world (.ok []) []
  | unmade {fault : FileFault} {last : World} (some : selection.packages ≠ [])
    (make : engine.makeProfileDirectory.run world = (.error fault, last)) :
    Covers engine selection pattern world
      (.error (.file "failed to create coverage profile directory" fault)) [.made (.error fault)]
  | called {directory : String} {ready called last : World} {outcome : Except Failure String}
    {calls : List Effect} {removed : Except FileFault Unit}
    (some : selection.packages ≠ [])
    (make : engine.makeProfileDirectory.run world = (.ok directory, ready))
    (calling : engine.Calls (engine.invocation selection pattern directory) ready outcome calls
      called)
    (remove : (engine.removeProfileDirectory directory).run called = (removed, last)) :
    Covers engine selection pattern world
      ((settled outcome removed).bind fun text =>
        (Coverage.rowsOfSummary text).map fun rows =>
          Coverage.pair selection.dataset.files engine.settings.matchRule selection.dependencies
            rows)
      (.made (.ok directory) :: (calls ++ [.removed directory removed]))

inductive Course [Pattern.Compiler] (engine : Engine (StateM World)) (path pattern : String)
    (cache : ModuleCache) (world : World) : Except Failure Coverage.Report → List Effect → Prop
  | stopped {e : Failure} {after : ModuleCache} {last : World}
    (ends : ((engine.select path pattern).run.run cache).run world = ((.error e, after), last)) :
    Course engine path pattern cache world (.error e) []
  | cancelled {selection : Selection} {after : ModuleCache} {selected last : World}
    (selects : engine.Selects path pattern cache world selection after selected)
    (third : engine.cancelled.run selected = (true, last)) :
    Course engine path pattern cache world (.error (.cancelled .coverage)) []
  | covered {selection : Selection} {after : ModuleCache} {selected calm : World}
    {rows : Except Failure (List Coverage.Row)} {effects : List Effect}
    (selects : engine.Selects path pattern cache world selection after selected)
    (third : engine.cancelled.run selected = (false, calm))
    (covers : engine.Covers selection pattern calm rows effects) :
    Course engine path pattern cache world (rows.map .ofRows) effects

theorem run_calls (invocation : Invocation) (ready : World) (notes : List Effect) :
    ∃ outcome calls last,
      (engine.noting.testAndSummarize invocation).run (ready, notes) =
        (outcome, (last, notes ++ calls)) ∧
      engine.Calls invocation ready outcome calls last := by
  rcases tests : (engine.toolchain.runTests invocation).run ready with ⟨result, tested⟩
  have first := run_noting (.tested invocation) tests notes
  cases result with
  | error e => exact ⟨_, _, _, run_bind_of first, .untested tests⟩
  | ok _ =>
    rcases summary : (engine.toolchain.summarize invocation.locator invocation.profile).run tested
      with ⟨outcome, last⟩
    refine ⟨outcome, _, last, ?_, .summarized tests summary⟩
    have second := run_noting (.summarized invocation.locator invocation.profile) summary
      (notes ++ [.tested invocation (.ok ())])
    rw [List.append_assoc] at second
    exact (run_bind_of first).trans second

theorem run_summary_unmade {world last : World} {fault : FileFault}
    (make : engine.makeProfileDirectory.run world = (.error fault, last)) (locator : Locator)
    (pattern : String) (packages : List String) (notes : List Effect) :
    (engine.noting.summary locator pattern packages).run (world, notes) =
      (.error (.file "failed to create coverage profile directory" fault),
        (last, notes ++ [.made (.error fault)])) :=
  run_bind_of (run_noting .made make notes)

theorem run_summary_made {world ready : World} {directory : String}
    (make : engine.makeProfileDirectory.run world = (.ok directory, ready)) (selection : Selection)
    (pattern : String) (notes : List Effect) :
    ∃ outcome calls called removed last,
      (engine.noting.summary selection.locator pattern selection.packages).run (world, notes) =
        (settled outcome removed,
          (last, notes ++ .made (.ok directory) :: (calls ++ [.removed directory removed]))) ∧
      engine.Calls (engine.invocation selection pattern directory) ready outcome calls called ∧
      (engine.removeProfileDirectory directory).run called = (removed, last) := by
  obtain ⟨outcome, calls, called, ran, calling⟩ :=
    engine.run_calls (engine.invocation selection pattern directory) ready
      (notes ++ [.made (.ok directory)])
  rcases remove : (engine.removeProfileDirectory directory).run called with ⟨removed, last⟩
  refine ⟨outcome, calls, called, removed, last, ?_, calling, remove⟩
  have order : notes ++ [Effect.made (.ok directory)] ++ calls ++ [.removed directory removed] =
      notes ++ .made (.ok directory) :: (calls ++ [.removed directory removed]) := by simp
  rw [← order]
  refine (run_bind_of (run_noting .made make notes)).trans ?_
  refine (run_bind_of ran).trans ?_
  refine (run_bind_of (run_noting (Effect.removed directory) remove _)).trans ?_
  cases outcome with
  | error e => rfl
  | ok text => cases removed <;> rfl

theorem run_cover (selection : Selection) (pattern : String) (world : World)
    (notes : List Effect) :
    ∃ rows effects last,
      (engine.noting.cover selection pattern selection.dependencies).run (world, notes) =
        (rows, (last, notes ++ effects)) ∧
      engine.Covers selection pattern world rows effects := by
  unfold cover
  rw [← Selection.packages]
  by_cases none : selection.packages = []
  · refine ⟨.ok [], [], world, ?_, .idle none⟩
    rw [none, List.append_nil]
    rfl
  · rw [if_neg (mt List.isEmpty_iff.1 none)]
    rcases make : engine.makeProfileDirectory.run world with ⟨result, ready⟩
    cases result with
    | error fault =>
      exact ⟨_, _, ready, run_bind_of (engine.run_summary_unmade make _ _ _ notes),
        .unmade none make⟩
    | ok directory =>
      obtain ⟨outcome, calls, called, removed, last, ran, calling, remove⟩ :=
        engine.run_summary_made make selection pattern notes
      refine ⟨_, _, last, ?_, .called none make calling remove⟩
      refine (run_bind_of ran).trans ?_
      cases settled outcome removed <;> rfl

theorem run_course [Pattern.Compiler] (path pattern : String) (cache : ModuleCache)
    (world : World) :
    ∃ result after last effects,
      ((engine.noting.run path pattern).run.run cache).run (world, []) =
        ((result, after), (last, effects)) ∧
      engine.Course path pattern cache world result effects := by
  -- No effect is noted before the packages to instrument are known.
  have quiet : Analysis.Follows (fun _ => False) (engine.noting.select path pattern)
      (engine.select path pattern) := follows_select rfl (fun _ => rfl) rfl path pattern
  obtain ⟨more, none, selecting⟩ := quiet cache world []
  obtain rfl := List.eq_nil_iff_forall_not_mem.2 none
  rw [run, run_bind, selecting]
  rcases ends : ((engine.select path pattern).run.run cache).run world
    with ⟨⟨outcome, after⟩, selected⟩
  cases outcome with
  | error e => exact ⟨_, after, selected, [], rfl, .stopped ends⟩
  | ok selection =>
    have selects := ends_select_iff.1 ends
    have passed : engine.noting.cancelled.run (selected, []) =
        ((engine.cancelled.run selected).1, ((engine.cancelled.run selected).2, [])) := rfl
    dsimp only
    rw [run_bind, List.append_nil, run_checkpoint, passed]
    rcases third : engine.cancelled.run selected with ⟨cancelled, calm⟩
    cases cancelled with
    | true => exact ⟨_, after, calm, [], rfl, .cancelled selects third⟩
    | false =>
      obtain ⟨rows, effects, last, ran, covers⟩ := engine.run_cover selection pattern calm []
      refine ⟨rows.map .ofRows, after, last, effects, ?_, .covered selects third covers⟩
      rw [Selection.dependencies] at ran
      dsimp only
      rw [run_call, ran]
      cases rows <;> rfl

end

/-! ## Calls of the toolchain -/

section

variable {engine : Engine (StateM World)} {invocation : Invocation} {ready last : World}
  {outcome : Except Failure String} {calls : List Effect} {effect : Effect} {e : Failure}

namespace Calls

theorem filter_isTest (calling : engine.Calls invocation ready outcome calls last) :
    calls.filter Effect.isTest =
      [.tested invocation ((engine.toolchain.runTests invocation).run ready).1] := by
  cases calling with
  | untested tests =>
    rw [tests]
    rfl
  | summarized tests summary =>
    rw [tests]
    rfl

theorem filter_isSummary (calling : engine.Calls invocation ready outcome calls last) :
    calls.filter Effect.isSummary =
      match (engine.toolchain.runTests invocation).run ready with
      | (.error _, _) => []
      | (.ok (), tested) =>
        [.summarized invocation.locator invocation.profile
          ((engine.toolchain.summarize invocation.locator invocation.profile).run tested).1] := by
  cases calling with
  | untested tests =>
    rw [tests]
    rfl
  | summarized tests summary =>
    rw [tests]
    dsimp only
    rw [summary]
    rfl

theorem profile?_eq (calling : engine.Calls invocation ready outcome calls last)
    (member : effect ∈ calls) : effect.profile? = some invocation.profile := by
  cases calling with
  | untested tests =>
    obtain rfl := List.mem_singleton.1 member
    rfl
  | summarized tests summary =>
    rcases List.mem_pair.1 member with rfl | rfl
    · rfl
    · rfl

theorem outcome_of_failure? (calling : engine.Calls invocation ready outcome calls last)
    (member : effect ∈ calls) (failed : effect.failure? = some e) : outcome = .error e := by
  cases calling with
  | untested tests =>
    obtain rfl := List.mem_singleton.1 member
    cases failed
    rfl
  | summarized tests summary =>
    rcases List.mem_pair.1 member with rfl | rfl
    · cases failed
    · cases outcome with
      | error other =>
        cases failed
        rfl
      | ok text => cases failed

theorem succeed {text : String}
    (calling : engine.Calls invocation ready (.ok text) calls last) :
    (∀ effect ∈ calls, effect.Succeeds) ∧
      .summarized invocation.locator invocation.profile (.ok text) ∈ calls := by
  cases calling with
  | summarized tests summary =>
    refine ⟨?_, by simp⟩
    intro effect member
    rcases List.mem_pair.1 member with rfl | rfl
    · rfl
    · exact ⟨text, rfl⟩

end Calls

end

/-! ## Orderly effects -/

/-- A run comes to its tests: it read its pattern, no check stopped it, its packages were loaded,
built and extracted from, some of them are to be instrumented, and it has a directory. -/
inductive Due [Pattern.Compiler] (engine : Engine (StateM World)) (path pattern : String)
    (cache : ModuleCache) (world : World) : Invocation → World → Prop
  | due {selection : Selection} {directory : String} {after : ModuleCache}
    {selected calm ready : World}
    (selects : engine.Selects path pattern cache world selection after selected)
    (third : engine.cancelled.run selected = (false, calm)) (some : selection.packages ≠ [])
    (make : engine.makeProfileDirectory.run calm = (.ok directory, ready)) :
    Due engine path pattern cache world (engine.invocation selection pattern directory) ready

/-- What is true of every run. It calls no toolchain unless it comes to its tests; then it runs them
once, and summarizes their profile once if they went well. The directory of the profile is there
when the toolchain is called, and it is left over only if it cannot be removed. What went wrong with
the toolchain is what went wrong with the run, and a run that ends well did everything well. -/
structure Orderly [Pattern.Compiler] (engine : Engine (StateM World)) (path pattern : String)
    (cache : ModuleCache) (world : World) (result : Except Failure Coverage.Report)
    (effects : List Effect) : Prop where
  silent : (∀ invocation ready, ¬ engine.Due path pattern cache world invocation ready) →
    ∀ effect ∈ effects, effect.profile? = none
  tested : ∀ invocation ready, engine.Due path pattern cache world invocation ready →
    effects.filter Effect.isTest =
      [.tested invocation ((engine.toolchain.runTests invocation).run ready).1]
  summarized : ∀ invocation ready, engine.Due path pattern cache world invocation ready →
    effects.filter Effect.isSummary =
      match (engine.toolchain.runTests invocation).run ready with
      | (.error _, _) => []
      | (.ok (), tested) =>
        [.summarized invocation.locator invocation.profile
          ((engine.toolchain.summarize invocation.locator invocation.profile).run tested).1]
  standing : ∀ before effect behind profile, effects = before ++ effect :: behind →
    effect.profile? = some profile →
      ∃ directory, profile = Text.Path.join directory profileName ∧
        Effect.Standing directory before
  gone : ∀ directory, Effect.Standing directory effects →
    ∃ fault, .removed directory (.error fault) ∈ effects
  failed : ∀ effect ∈ effects, ∀ e, effect.failure? = some e → result = .error e
  done : ∀ report, result = .ok report →
    ∃ selection after selected calm,
      engine.Selects path pattern cache world selection after selected ∧
      engine.cancelled.run selected = (false, calm) ∧
      (∀ effect ∈ effects, effect.Succeeds) ∧
      (selection.packages = [] ∨ ∃ locator profile text rows,
        .summarized locator profile (.ok text) ∈ effects ∧
          Coverage.rowsOfSummary text = .ok rows)

theorem settled_ok {outcome : Except Failure String} {removed : Except FileFault Unit}
    {text : String} (well : settled outcome removed = .ok text) :
    outcome = .ok text ∧ removed = .ok () := by
  cases outcome with
  | error e => cases well
  | ok other =>
    cases removed with
    | error fault => cases well
    | ok _ =>
      cases well
      exact ⟨rfl, rfl⟩

theorem map_bind {α β γ : Type} (result : Except Failure α) (next : α → Except Failure β)
    (f : β → γ) : (result.bind next).map f = result.bind fun a => (next a).map f := by
  cases result <;> rfl

section

variable [Pattern.Compiler] {engine : Engine (StateM World)} {path pattern : String}
  {cache after : ModuleCache} {world selected calm : World} {selection : Selection}

theorem Selects.unique {other : Selection} {left : ModuleCache} {final : World}
    (one : engine.Selects path pattern cache world selection after selected)
    (two : engine.Selects path pattern cache world other left final) :
    selection = other ∧ selected = final := by
  have same := (ends_select_iff.2 one).symm.trans (ends_select_iff.2 two)
  obtain ⟨ended, rfl⟩ := Prod.mk.inj same
  obtain ⟨result, -⟩ := Prod.mk.inj ended
  exact ⟨Except.ok.inj result, rfl⟩

theorem Due.unique {invocation other : Invocation} {ready final : World}
    (one : engine.Due path pattern cache world invocation ready)
    (two : engine.Due path pattern cache world other final) :
    invocation = other ∧ ready = final := by
  obtain ⟨selects, third, -, make⟩ := one
  obtain ⟨again, also, -, makes⟩ := two
  obtain ⟨rfl, rfl⟩ := selects.unique again
  rw [third] at also
  cases also
  rw [make] at makes
  cases makes
  exact ⟨rfl, rfl⟩

theorem not_due_of_cancelled
    (selects : engine.Selects path pattern cache world selection after selected)
    (third : engine.cancelled.run selected = (true, calm)) (invocation : Invocation)
    (ready : World) : ¬ engine.Due path pattern cache world invocation ready := by
  rintro ⟨again, also, -, -⟩
  obtain ⟨rfl, rfl⟩ := selects.unique again
  rw [third] at also
  cases also

theorem orderly_of_undue {result : Except Failure Coverage.Report} {effects : List Effect}
    (undue : ∀ invocation ready, ¬ engine.Due path pattern cache world invocation ready)
    (unmade : ∀ effect ∈ effects, ∃ fault, effect = .made (.error fault))
    (done : ∀ report, result = .ok report → ∃ selection after selected calm,
      engine.Selects path pattern cache world selection after selected ∧
        engine.cancelled.run selected = (false, calm) ∧ effects = [] ∧ selection.packages = []) :
    engine.Orderly path pattern cache world result effects := by
  constructor
  case silent =>
    intro _ effect member
    obtain ⟨fault, rfl⟩ := unmade effect member
    rfl
  case tested =>
    intro invocation ready due
    exact absurd due (undue invocation ready)
  case summarized =>
    intro invocation ready due
    exact absurd due (undue invocation ready)
  case standing =>
    rintro before effect behind profile rfl called
    obtain ⟨fault, rfl⟩ := unmade effect (by simp)
    cases called
  case gone =>
    rintro directory ⟨made, -⟩
    obtain ⟨fault, same⟩ := unmade _ made
    cases same
  case failed =>
    intro effect member e failed
    obtain ⟨fault, rfl⟩ := unmade effect member
    cases failed
  case done =>
    intro report ended
    obtain ⟨selection, after, selected, calm, selects, third, rfl, none⟩ := done report ended
    exact ⟨selection, after, selected, calm, selects, third, by simp, .inl none⟩

theorem orderly_of_made {directory : String} {ready called : World}
    {outcome : Except Failure String} {calls : List Effect} {removed : Except FileFault Unit}
    {read : String → Except Failure Coverage.Report}
    (selects : engine.Selects path pattern cache world selection after selected)
    (third : engine.cancelled.run selected = (false, calm)) (some : selection.packages ≠ [])
    (make : engine.makeProfileDirectory.run calm = (.ok directory, ready))
    (calling : engine.Calls (engine.invocation selection pattern directory) ready outcome calls
      called)
    (reads : ∀ text report, read text = .ok report →
      ∃ rows, Coverage.rowsOfSummary text = .ok rows) :
    engine.Orderly path pattern cache world ((settled outcome removed).bind read)
      (.made (.ok directory) :: (calls ++ [.removed directory removed])) := by
  have due : engine.Due path pattern cache world (engine.invocation selection pattern directory)
      ready := .due selects third some make
  -- Whatever comes between the directory and its removal is a call with its profile.
  have between {effect : Effect} (member : effect ∈ calls) := calling.profile?_eq member
  constructor
  case silent =>
    intro undue
    exact absurd due (undue _ _)
  case tested =>
    intro invocation ready other
    obtain ⟨rfl, rfl⟩ := due.unique other
    rw [List.filter_cons_of_neg (by simp [Effect.isTest]), List.filter_append,
      calling.filter_isTest]
    rfl
  case summarized =>
    intro invocation ready other
    obtain ⟨rfl, rfl⟩ := due.unique other
    rw [List.filter_cons_of_neg (by simp [Effect.isSummary]), List.filter_append,
      ← calling.filter_isSummary]
    exact List.append_nil _
  case standing =>
    intro before effect behind profile split called
    cases before with
    | nil =>
      obtain ⟨rfl, -⟩ := List.cons.inj split
      cases called
    | cons first before =>
      obtain ⟨rfl, behindFirst⟩ := List.cons.inj split
      -- A call is not the removal, so it is cut off before it.
      obtain ⟨member, early⟩ : effect ∈ calls ∧ before ⊆ calls := by
        rcases List.append_eq_append_iff.1 behindFirst with ⟨between, rfl, last⟩ | ⟨rest, rfl, last⟩
        · cases between with
          | nil =>
            obtain ⟨rfl, -⟩ := List.cons.inj last
            cases called
          | cons _ _ => simp at last
        · cases rest with
          | nil =>
            obtain ⟨rfl, -⟩ := List.cons.inj last
            cases called
          | cons _ rest =>
            obtain ⟨rfl, -⟩ := List.cons.inj last
            exact ⟨by simp, List.subset_append_left _ _⟩
      rw [between member, Option.some.injEq] at called
      refine ⟨directory, called.symm, by simp, ?_⟩
      intro gone
      rcases List.mem_cons.1 gone with same | gone
      · cases same
      · cases between (early gone)
  case gone =>
    rintro other ⟨made, kept⟩
    rcases List.mem_cons.1 made with same | made
    · cases same
      cases removed with
      | error fault => exact ⟨fault, by simp⟩
      | ok _ => exact absurd (by simp) kept
    · rcases List.mem_append.1 made with made | made
      · cases between made
      · cases List.mem_singleton.1 made
  case failed =>
    intro effect member e failed
    rcases List.mem_cons.1 member with rfl | member
    · cases failed
    · rcases List.mem_append.1 member with member | member
      · rw [calling.outcome_of_failure? member failed]
        rfl
      · obtain rfl := List.mem_singleton.1 member
        cases failed
  case done =>
    intro report ended
    cases well : settled outcome removed with
    | error e =>
      rw [well] at ended
      cases ended
    | ok text =>
      rw [well] at ended
      obtain ⟨rfl, rfl⟩ := settled_ok well
      obtain ⟨rows, written⟩ := reads text report ended
      obtain ⟨succeed, summarized⟩ := calling.succeed
      refine ⟨selection, after, selected, calm, selects, third, ?_, .inr ⟨_, _, text, rows,
        List.mem_cons_of_mem _ (List.mem_append_left _ summarized), written⟩⟩
      intro effect member
      rcases List.mem_cons.1 member with rfl | member
      · exact ⟨directory, rfl⟩
      · rcases List.mem_append.1 member with member | member
        · exact succeed effect member
        · obtain rfl := List.mem_singleton.1 member
          rfl

theorem Course.orderly {result : Except Failure Coverage.Report} {effects : List Effect}
    (course : engine.Course path pattern cache world result effects) :
    engine.Orderly path pattern cache world result effects := by
  cases course with
  | stopped ends =>
    apply orderly_of_undue
    · rintro _ _ ⟨selects, -, -, -⟩
      have ended := ends_select_iff.2 selects
      rw [Ends, ends] at ended
      cases ended
    · simp
    · intro report ended
      cases ended
  | cancelled selects third =>
    apply orderly_of_undue (not_due_of_cancelled selects third)
    · simp
    · intro report ended
      cases ended
  | covered selects third covers =>
    cases covers with
    | idle none =>
      apply orderly_of_undue
      · rintro _ _ ⟨again, -, some, -⟩
        obtain ⟨rfl, -⟩ := selects.unique again
        exact absurd none some
      · simp
      · intro report ended
        exact ⟨_, _, _, _, selects, third, rfl, none⟩
    | unmade some make =>
      apply orderly_of_undue
      · rintro _ _ ⟨again, also, -, made⟩
        obtain ⟨rfl, rfl⟩ := selects.unique again
        rw [third] at also
        cases also
        rw [make] at made
        cases made
      · simp
      · intro report ended
        cases ended
    | called some make calling remove =>
      rw [map_bind]
      apply orderly_of_made selects third some make calling
      intro text report ended
      cases written : Coverage.rowsOfSummary text with
      | error e =>
        rw [written] at ended
        cases ended
      | ok rows => exact ⟨rows, rfl⟩

end

/-- The effects of every run are orderly, and noting them is no effect itself. -/
theorem run_orderly [Pattern.Compiler] (engine : Engine (StateM World)) (path pattern : String)
    (cache : ModuleCache) (world : World) :
    ∃ result after last effects,
      ((engine.run path pattern).run.run cache).run world = ((result, after), last) ∧
      ((engine.noting.run path pattern).run.run cache).run (world, []) =
        ((result, after), (last, effects)) ∧
      engine.Orderly path pattern cache world result effects := by
  obtain ⟨result, after, last, effects, ran, course⟩ := engine.run_course path pattern cache world
  obtain ⟨more, -, same⟩ := engine.follows_run path pattern cache world []
  rw [ran] at same
  obtain ⟨ended, left⟩ := Prod.mk.inj same
  obtain ⟨final, -⟩ := Prod.mk.inj left
  exact ⟨result, after, last, effects, Prod.ext ended.symm final.symm, ran, course.orderly⟩

end Engine

end TestReach
