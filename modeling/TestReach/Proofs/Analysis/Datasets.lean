import TestReach.Proofs.Analysis.Answers
import TestReach.Proofs.Analysis.Notes
import TestReach.Proofs.Analysis.Steps
import TestReach.Proofs.Graph.Lasting

/-!
# Datasets of any packages

Whatever a loader answers with, each target that is selected has its node in the purged graph. So
packages without diagnostics always make a dataset, and all that can go wrong with it later is that
a module is not told.
-/

namespace TestReach

open Packages

/-- A function without a receiver that a root package declares and that is no hook. -/
def Packages.IsCandidate (packages : List Package) (f : Function) : Prop :=
  ∃ p ∈ packages, p.isRoot = true ∧ ∃ d ∈ p.declarations, d.receiver? = none ∧
    d.function p.importPath = f ∧ f.isBuiltIn = false

theorem Packages.IsCandidate.declared {packages : List Package} {f : Function}
    (candidate : IsCandidate packages f) : f ∈ functions packages := by
  obtain ⟨p, member, -, d, declared, -, same, -⟩ := candidate
  exact mem_functions.2 ⟨p, member, d, declared, same⟩

namespace Dataset

variable {packages : List Package} {isSelected : String → Bool} {f : Function}

theorem mem_selected_iff :
    f ∈ selected packages isSelected ↔ IsCandidate packages f ∧ isSelected f.shortName = true := by
  simp only [selected, IsCandidate, List.mem_flatMap, List.mem_filter, List.mem_map,
    Package.declared, Bool.and_eq_true, Option.isNone_iff_eq_none, Bool.not_eq_true']
  constructor
  · rintro ⟨p, ⟨member, root⟩, _, ⟨⟨d, declared, rfl⟩, ⟨none, own⟩, named⟩, rfl⟩
    exact ⟨⟨p, member, root, d, declared, none, rfl, own⟩, named⟩
  · rintro ⟨⟨p, member, root, d, declared, none, rfl, own⟩, named⟩
    exact ⟨p, ⟨member, root⟩, _, ⟨⟨d, declared, rfl⟩, ⟨none, own⟩, named⟩, rfl⟩

theorem isTarget_iff
    (plain : ∀ p ∈ packages, ∀ d ∈ p.declarations, ')' ∉ d.name.toList) :
    IsTarget packages isSelected f ↔ IsCandidate packages f ∧ isSelected f.shortName = true := by
  have named {p : Package} (member : p ∈ packages) {d : Source.Declaration}
      (declared : d ∈ p.declarations) (none : d.receiver? = none) :
      (d.function p.importPath).shortName = d.name := by
    simp only [Source.Declaration.function, none]
    exact Function.shortName_of_not_mem (plain p member d declared)
  constructor
  · rintro ⟨p, member, root, d, declared, none, rfl, own, selected⟩
    rw [← named member declared none] at selected
    exact ⟨⟨p, member, root, d, declared, none, rfl, own⟩, selected⟩
  · rintro ⟨⟨p, member, root, d, declared, none, rfl, own⟩, selected⟩
    rw [named member declared none] at selected
    exact ⟨p, member, root, d, declared, none, rfl, own, selected⟩

theorem mapM_of_forall {α β : Type} {f : α → Except Failure β} {as : List α}
    (all : ∀ a ∈ as, ∃ b, f a = .ok b) : ∃ bs, as.mapM f = .ok bs := by
  induction as with
  | nil => exact ⟨[], rfl⟩
  | cons a as ih =>
    obtain ⟨b, first⟩ := all a (by simp)
    obtain ⟨bs, rest⟩ := ih fun other member => all other (by simp [member])
    refine ⟨b :: bs, ?_⟩
    rw [List.mapM_cons, first, rest]
    rfl

/-- The targets of a dataset are the candidates with a selected name, in order, each with its real
node in the purged graph. The name is the declared one if no parenthesis is in it. -/
structure HasTargets (dataset : Dataset) (packages : List Package) (isSelected : String → Bool) :
    Prop where
  graph : dataset.graph = (CallGraph.ofPackages packages).purge
  order : (dataset.targets.map Prod.fst).Pairwise fun first second => first.before second = true
  mem_iff : ∀ f, f ∈ dataset.targets.map Prod.fst ↔
    IsCandidate packages f ∧ isSelected f.shortName = true
  named : (∀ p ∈ packages, ∀ d ∈ p.declarations, ')' ∉ d.name.toList) →
    ∀ f, f ∈ dataset.targets.map Prod.fst ↔ IsTarget packages isSelected f
  located : ∀ target ∈ dataset.targets,
    dataset.graph.find? target.1 = some target.2 ∧
      dataset.graph.node? target.2 = some ⟨target.1, false⟩

theorem ofPackages_hasTargets {dataset : Dataset}
    (built : ofPackages packages isSelected = .ok dataset) :
    dataset.HasTargets packages isSelected := by
  obtain ⟨graph, located⟩ := ofPackages_ok built
  obtain ⟨inOrder, nodes⟩ := withNodes_ok located
  have members (f : Function) : f ∈ dataset.targets.map Prod.fst ↔
      IsCandidate packages f ∧ isSelected f.shortName = true := by
    rw [inOrder, Function.mem_sorted, mem_selected_iff]
  constructor
  case graph => exact graph
  case order =>
    rw [inOrder]
    exact Function.pairwise_sorted _
  case mem_iff => exact members
  case named =>
    intro plain f
    rw [members, isTarget_iff plain]
  case located =>
    intro target member
    have found := nodes target member
    have candidate := ((members target.1).1 (List.mem_map_of_mem member)).1
    obtain ⟨i, here, node⟩ := CallGraph.find?_purge_of_declared packages candidate.declared
    rw [graph] at found ⊢
    rw [here, Option.some.injEq] at found
    exact ⟨found ▸ here, found ▸ node⟩

theorem exists_ofPackages (packages : List Package) (isSelected : String → Bool) :
    ∃ dataset, ofPackages packages isSelected = .ok dataset := by
  have all : ∀ f ∈ Function.sorted (selected packages isSelected),
      ∃ target, withNode (CallGraph.ofPackages packages).purge f = .ok target := by
    intro f member
    rw [Function.mem_sorted, mem_selected_iff] at member
    obtain ⟨i, found, -⟩ := CallGraph.find?_purge_of_declared packages member.1.declared
    exact ⟨(f, i), by rw [withNode, found]⟩
  obtain ⟨targets, located⟩ := mapM_of_forall all
  refine ⟨⟨(CallGraph.ofPackages packages).purge, targets, declarationsOf packages,
    .ofPackages packages⟩, ?_⟩
  rw [ofPackages, withNodes, located]
  rfl

end Dataset

namespace Analysis

variable {World α β : Type} {causes : Failure → Prop}

def FailsWith (causes : Failure → Prop) (analysis : Analysis (StateM World) α) : Prop :=
  ∀ cache world e after last,
    (analysis.run.run cache).run world = ((.error e, after), last) → causes e

theorem FailsWith.pure (a : α) : FailsWith causes (pure a : Analysis (StateM World) α) := by
  intro cache world e after last ran
  cases ran

theorem FailsWith.throw {e : Failure} (cause : causes e) :
    FailsWith causes (throw e : Analysis (StateM World) α) := by
  intro cache world other after last ran
  cases ran
  exact cause

theorem FailsWith.bind {analysis : Analysis (StateM World) α} {next : α → Analysis (StateM World) β}
    (first : FailsWith causes analysis) (others : ∀ a, FailsWith causes (next a)) :
    FailsWith causes (analysis >>= next) := by
  intro cache world e after last ran
  rcases ended : (analysis.run.run cache).run world with ⟨⟨result, between⟩, middle⟩
  rw [run_bind, ended] at ran
  cases result with
  | error cause =>
    cases ran
    exact first _ _ _ _ _ ended
  | ok a => exact others a _ _ _ _ _ ran

theorem relates_failsWith :
    Relates fun α (analysis _ : Analysis (StateM World) α) => FailsWith causes analysis where
  pure := .pure
  bind := .bind

def ExtractionFault (e : Failure) : Prop :=
  (∃ package reason, e = .moduleUnresolved package reason) ∨ ∃ root, e = .rootOutsideModule root

theorem failsWith_resolve (loader : Loader (StateM World)) (locator : Locator) (package : String) :
    FailsWith ExtractionFault (resolve loader locator package) := by
  intro cache world e after last ran
  rw [run_resolve] at ran
  split at ran
  · cases ran
  · split at ran
    · cases ran
      exact .inl ⟨package, _, rfl⟩
    · cases ran

end Analysis

namespace Dataset

open Analysis

variable {World : Type} {resolve : String → Analysis (StateM World) (Option String)}
  (resolves : ∀ package, FailsWith ExtractionFault (resolve package)) (dataset : Dataset)

include resolves

theorem failsWith_walk (module : String) (visited queue : List Nat) :
    FailsWith ExtractionFault (dataset.walk resolve module visited queue) :=
  @walk_relates _ _ _ _ _ relates_failsWith dataset dataset resolve resolve resolves rfl rfl module
    visited queue

theorem failsWith_extract {root : Nat} {node : CallGraph.Node}
    (live : dataset.graph.node? root = some node) :
    FailsWith ExtractionFault (dataset.extract resolve (some root)) := by
  simp only [extract, live]
  apply (resolves node.function.package).bind
  intro verdict
  split
  · exact .throw (.inr ⟨node.function, rfl⟩)
  · exact dataset.failsWith_walk resolves _ [] _

theorem failsWith_extractAll
    (live : ∀ target ∈ dataset.targets, ∃ node, dataset.graph.node? target.2 = some node) :
    FailsWith ExtractionFault (dataset.extractAll resolve) := by
  unfold extractAll
  generalize dataset.targets = targets at live
  induction targets with
  | nil => exact .pure []
  | cons target targets ih =>
    rw [List.mapM_cons]
    obtain ⟨node, here⟩ := live target (by simp)
    have first : FailsWith ExtractionFault (dataset.extractTarget resolve target) :=
      (dataset.failsWith_extract resolves here).bind fun ds => .pure (target.1, ds)
    have rest := ih fun other member => live other (by simp [member])
    exact first.bind fun entry => rest.bind fun entries => .pure (entry :: entries)

end Dataset

namespace Dataset

open Analysis

variable {World : Type} {isSelected : String → Bool} {cache : ModuleCache}

theorem diagnostics_eq (packages : List Package) :
    diagnostics packages =
      (packages.filter fun p => p.errors ≠ []).map fun p => ⟨p.importPath, p.errors⟩ := by
  rw [diagnostics]
  congr 1
  apply List.filter_congr
  intro p _
  cases p.errors <;> rfl

theorem diagnostics_eq_nil_iff {packages : List Package} :
    diagnostics packages = [] ↔ ∀ p ∈ packages, p.errors = [] := by
  simp [diagnostics]

/-- How the build of a dataset ends, by what the loader answered. Only a dataset that is made leaves
verdicts in the cache. -/
inductive Built (locator : Locator) (isSelected : String → Bool) (cache : ModuleCache) :
    Except Failure (List Package) → Except Failure Dataset → ModuleCache → Prop
  | unloaded (e : Failure) : Built locator isSelected cache (.error e) (.error e) cache
  | none : Built locator isSelected cache (.ok []) (.error (.noPackages locator.display)) cache
  | faulty {packages : List Package} (some : ∃ p ∈ packages, p.errors ≠ []) :
    Built locator isSelected cache (.ok packages)
      (.error (.packages ((packages.filter fun p => p.errors ≠ []).map fun p =>
        ⟨p.importPath, p.errors⟩))) cache
  | built {packages : List Package} {dataset : Dataset} (some : packages ≠ [])
    (clean : ∀ p ∈ packages, p.errors = []) (targets : dataset.HasTargets packages isSelected) :
    Built locator isSelected cache (.ok packages) (.ok dataset) (seedAll cache packages)

theorem run_build (loader : Loader (StateM World)) (locator : Locator) (isSelected : String → Bool)
    (cache : ModuleCache) (world : World) :
    ((build loader locator isSelected).run.run cache).run world =
      match (loader.load locator).run world with
      | (.error e, last) => ((.error e, cache), last)
      | (.ok packages, last) =>
        if packages = [] then ((.error (.noPackages locator.display), cache), last)
        else if diagnostics packages ≠ [] then
          ((.error (.packages (diagnostics packages)), cache), last)
        else ((ofPackages packages isSelected, seedAll cache packages), last) := by
  rw [build, run_call]
  rcases (loader.load locator).run world with ⟨answer, last⟩
  cases answer with
  | error e => rfl
  | ok packages =>
    dsimp only
    by_cases none : packages = []
    · subst none
      rfl
    · rw [if_neg none, if_neg (mt List.isEmpty_iff.1 none)]
      by_cases clean : diagnostics packages = []
      · rw [if_neg (not_not.2 clean), if_neg (by simpa using clean)]
        rfl
      · rw [if_pos clean, if_pos (by simpa using clean)]
        rfl

theorem exists_built (loader : Loader (StateM World)) (locator : Locator)
    (isSelected : String → Bool) (cache : ModuleCache) (world : World) :
    ∃ result after,
      ((build loader locator isSelected).run.run cache).run world =
        ((result, after), ((loader.load locator).run world).2) ∧
      Built locator isSelected cache ((loader.load locator).run world).1 result after := by
  rw [run_build]
  rcases (loader.load locator).run world with ⟨answer, last⟩
  cases answer with
  | error e => exact ⟨.error e, cache, rfl, .unloaded e⟩
  | ok packages =>
    dsimp only
    by_cases none : packages = []
    · subst none
      exact ⟨_, cache, rfl, .none⟩
    · by_cases clean : diagnostics packages = []
      · obtain ⟨dataset, made⟩ := exists_ofPackages packages isSelected
        rw [if_neg none, if_neg (not_not.2 clean), made]
        exact ⟨.ok dataset, _, rfl,
          .built none (diagnostics_eq_nil_iff.1 clean) (ofPackages_hasTargets made)⟩
      · rw [if_neg none, if_pos clean]
        refine ⟨_, cache, rfl, ?_⟩
        rw [diagnostics_eq_nil_iff] at clean
        rw [diagnostics_eq]
        exact .faulty (by simpa using clean)

theorem Built.error_of_targetNotFound {locator : Locator}
    {loaded : Except Failure (List Package)} {result : Except Failure Dataset}
    {after : ModuleCache} {f : Function}
    (built : Built locator isSelected cache loaded result after)
    (absent : result = .error (.targetNotFound f)) : loaded = .error (.targetNotFound f) := by
  cases built with
  | unloaded e =>
    cases absent
    rfl
  | none => cases absent
  | faulty => cases absent
  | built => cases absent

theorem Built.hasTargets {locator : Locator} {loaded : Except Failure (List Package)}
    {dataset : Dataset} {after : ModuleCache}
    (built : Built locator isSelected cache loaded (.ok dataset) after) :
    ∃ packages, loaded = .ok packages ∧ dataset.HasTargets packages isSelected := by
  cases built with
  | built _ _ targets => exact ⟨_, rfl, targets⟩

theorem HasTargets.extractAll_ne_noRoot {packages : List Package} {dataset : Dataset}
    (targets : dataset.HasTargets packages isSelected) (resolver : Loader (StateM World))
    (place : Locator) (verdicts : ModuleCache) (world : World) :
    (((dataset.extractAll (Analysis.resolve resolver place)).run.run verdicts).run world).1.1 ≠
      .error .noRoot := by
  intro failed
  have live : ∀ target ∈ dataset.targets, ∃ node, dataset.graph.node? target.2 = some node :=
    fun target member => ⟨_, (targets.located target member).2⟩
  obtain ⟨_, _, impossible⟩ | ⟨_, impossible⟩ :=
    dataset.failsWith_extractAll (failsWith_resolve resolver place) live verdicts world .noRoot _ _
      (Prod.ext (Prod.ext failed rfl) rfl)
  · cases impossible
  · cases impossible

/-- A build fails as its load leaves it no choice, and then it leaves the cache alone. The targets
of a dataset are there: no target lacks its node, and no extraction lacks its root, whoever resolves
the packages later. -/
theorem build_targets (loader : Loader (StateM World)) (locator : Locator)
    (isSelected : String → Bool) (cache : ModuleCache) (world : World) :
    ∃ result after,
      ((build loader locator isSelected).run.run cache).run world =
        ((result, after), ((loader.load locator).run world).2) ∧
      Built locator isSelected cache ((loader.load locator).run world).1 result after ∧
      (∀ f, result = .error (.targetNotFound f) →
        ((loader.load locator).run world).1 = .error (.targetNotFound f)) ∧
      ∀ dataset, result = .ok dataset →
        ∀ (Other : Type) (resolver : Loader (StateM Other)) (place : Locator)
          (verdicts : ModuleCache) (elsewhere : Other),
          (((dataset.extractAll (Analysis.resolve resolver place)).run.run verdicts).run
            elsewhere).1.1 ≠ .error .noRoot := by
  obtain ⟨result, after, ran, built⟩ := exists_built loader locator isSelected cache world
  refine ⟨result, after, ran, built, fun f => built.error_of_targetNotFound, ?_⟩
  rintro dataset rfl Other resolver place verdicts elsewhere
  obtain ⟨packages, -, targets⟩ := built.hasTargets
  exact targets.extractAll_ne_noRoot resolver place verdicts elsewhere

end Dataset

end TestReach
