import TestReach.Engine
import TestReach.Proofs.Analysis.Selection
import TestReach.Proofs.Analysis.Walk
import TestReach.Proofs.Graph.Building

/-!
# Answers

What an analysis answers, told from the loaded packages alone: the targets in order, and with each
of them the functions that its calls lead to inside its module.
-/

namespace TestReach

open Packages

/-- The least set of functions with a target that holds, with the caller of a call, whatever the
call leads to, but for hooks and functions of other modules. -/
inductive Packages.Reached (packages : List Package)
    (answers : String → Except Failure (Option String)) (target : Function) : Function → Prop
  | target : Reached packages answers target target
  | call {call : CallGraph.Call} {f : Function}
    (made : call ∈ CallGraph.callsOf (packageNames packages) packages)
    (reached : Reached packages answers target call.caller)
    (leads : f ∈ resolve packages call.package call.scope call.site.callee)
    (own : f.isBuiltIn = false) (inside : answers f.package = answers target.package) :
    Reached packages answers target f

/-- What an answer is: an entry for each target, in order, that lists the functions that the target
reaches, each once and itself first. No synthetic node is among them. -/
structure Answers (packages : List Package) (answers : String → Except Failure (Option String))
    (isSelected : String → Bool) (entries : List TargetListing) : Prop where
  order : entries.Pairwise fun first second => first.target.before second.target = true
  targets : ∀ f, f ∈ entries.map TargetListing.target ↔ IsTarget packages isSelected f
  nodup : ∀ entry ∈ entries, (entry.dependencies.map ListedDependency.function).Nodup
  first : ∀ entry ∈ entries,
    (entry.dependencies.map ListedDependency.function).head? = some entry.target
  reached : ∀ entry ∈ entries, ∀ f, f ∈ entry.dependencies.map ListedDependency.function ↔
    Reached packages answers entry.target f
  real : ∀ entry ∈ entries, ∀ f ∈ entry.dependencies.map ListedDependency.function,
    f ≠ CallGraph.valueStub ∧ ∀ name, f ≠ CallGraph.methodStub name

namespace Dataset

open CallGraph (callsOf)

variable {packages : List Package} {dataset : Dataset}
  {answers : String → Except Failure (Option String)} {module : String} {root : Nat}
  {target f : Function} {ds : List Dependency}

theorem stays_iff {i : Nat} (here : dataset.graph.function? i = some f) :
    dataset.Stays answers module i ↔
      f.isBuiltIn = false ∧ answers f.package = .ok (some module) := by
  obtain ⟨node, found, rfl⟩ := Option.map_eq_some_iff.1 here
  simp [Stays, found]

theorem Stays.function? {i : Nat} (stays : dataset.Stays answers module i) :
    ∃ f, dataset.graph.function? i = some f := by
  obtain ⟨node, found, -⟩ := stays
  exact ⟨node.function, by simp [CallGraph.function?, found]⟩

section

variable (regular : Regular packages)
  (graph : dataset.graph = (CallGraph.ofPackages packages).purge)
  (start : dataset.graph.function? root = some target)
  (inside : answers target.package = .ok (some module))

include regular graph start inside

theorem Path.reached {length i : Nat} (path : dataset.Path answers module root length i) :
    ∀ f, dataset.graph.function? i = some f → Reached packages answers target f := by
  -- Each call on the path is an edge of the purged graph, hence a call of the packages.
  induction path with
  | root =>
    intro f here
    rw [start, Option.some.injEq] at here
    rw [← here]
    exact .target
  | call path called stays ih =>
    intro f there
    obtain ⟨caller, here⟩ := path.stays.function?
    obtain ⟨own, stay⟩ := (stays_iff there).1 stays
    rw [graph] at here there called
    obtain ⟨call, made, rfl, leads⟩ :=
      (CallGraph.callee_purge_iff regular here).1 ⟨_, called, there⟩
    exact .call made (ih _ (graph ▸ here)) leads own (stay.trans inside.symm)

theorem Packages.Reached.path (own : target.isBuiltIn = false)
    (reached : Reached packages answers target f) :
    ∃ length i, dataset.graph.function? i = some f ∧
      dataset.Path answers module root length i := by
  induction reached with
  | target => exact ⟨0, root, start, .root ((stays_iff start).2 ⟨own, inside⟩)⟩
  | call made _ leads real stay ih =>
    obtain ⟨length, i, here, path⟩ := ih
    rw [graph] at here
    obtain ⟨callee, called, there⟩ :=
      (CallGraph.callee_purge_iff regular here).2 ⟨_, made, rfl, leads⟩
    rw [← graph] at called there
    exact ⟨length + 1, callee, there,
      .call path called ((stays_iff there).2 ⟨real, stay.trans inside⟩)⟩

end

theorem Emits.function? (emits : dataset.Emits answers module root ds) {d : Dependency}
    (member : d ∈ ds) : dataset.graph.function? d.node = some d.function := by
  obtain ⟨node, found, same⟩ := emits.content d member
  rw [CallGraph.function?, found, same]
  rfl

theorem Emits.mem_iff_reached (emits : dataset.Emits answers module root ds)
    (regular : Regular packages) (graph : dataset.graph = (CallGraph.ofPackages packages).purge)
    (start : dataset.graph.function? root = some target)
    (inside : answers target.package = .ok (some module)) (own : target.isBuiltIn = false) :
    f ∈ ds.map Dependency.function ↔ Reached packages answers target f := by
  constructor
  · intro member
    obtain ⟨d, listed, rfl⟩ := List.mem_map.1 member
    obtain ⟨length, path⟩ := (emits.mem_iff d.node).1 (List.mem_map_of_mem listed)
    exact path.reached regular graph start inside _ (emits.function? listed)
  · intro reached
    obtain ⟨length, i, here, path⟩ :=
      Packages.Reached.path regular graph start inside own reached
    obtain ⟨d, listed, rfl⟩ := List.mem_map.1 ((emits.mem_iff i).2 ⟨length, path⟩)
    have same := emits.function? listed
    rw [here, Option.some.injEq] at same
    exact List.mem_map.2 ⟨d, listed, same.symm⟩

theorem Emits.nodup_function (emits : dataset.Emits answers module root ds)
    (wf : dataset.graph.WellFormed) : (ds.map Dependency.function).Nodup := by
  have nodes := emits.nodup
  rw [List.Nodup, List.pairwise_map] at nodes ⊢
  refine nodes.imp_of_mem ?_
  intro first second atFirst atSecond distinct same
  apply distinct
  exact wf.function?_inj (emits.function? atFirst) (same ▸ emits.function? atSecond)

theorem Emits.head_function (emits : dataset.Emits answers module root ds)
    (start : dataset.graph.function? root = some target)
    (inside : answers target.package = .ok (some module)) (own : target.isBuiltIn = false) :
    (ds.map Dependency.function).head? = some target := by
  obtain ⟨node, live, rfl⟩ := Option.map_eq_some_iff.1 start
  have first := emits.head_eq live inside own
  cases ds with
  | nil => cases first
  | cons d rest =>
    rw [List.map_cons, List.head?_cons, Option.some.injEq] at first
    have here := emits.function? (d := d) (by simp)
    rw [first, start] at here
    exact here.symm

theorem extractTarget_ok {entry : Function × List Dependency} {chosen : Function × Nat}
    (done : dataset.extractTarget answers chosen = .ok entry) :
    entry.1 = chosen.1 ∧ dataset.extract answers (some chosen.2) = .ok entry.2 := by
  obtain ⟨ds, extracted, same⟩ := bind_ok done
  cases same
  exact ⟨rfl, extracted⟩

theorem ofPackages_ok {isSelected : String → Bool}
    (built : ofPackages packages isSelected = .ok dataset) :
    dataset.graph = (CallGraph.ofPackages packages).purge ∧
      withNodes dataset.graph (selected packages isSelected) = .ok dataset.targets := by
  obtain ⟨targets, located, same⟩ := bind_ok built
  cases same
  exact ⟨rfl, located⟩

theorem ofPackages_tables {isSelected : String → Bool}
    (built : ofPackages packages isSelected = .ok dataset) :
    dataset.declarations = declarationsOf packages ∧ dataset.files = .ofPackages packages := by
  obtain ⟨targets, -, same⟩ := bind_ok built
  cases same
  exact ⟨rfl, rfl⟩

structure Extracted (dataset : Dataset) (answers : String → Except Failure (Option String))
    (entry : Function × List Dependency) (module : String) (root : Nat) : Prop where
  start : dataset.graph.function? root = some entry.1
  inside : answers entry.1.package = .ok (some module)
  own : entry.1.isBuiltIn = false
  emits : dataset.Emits answers module root entry.2

theorem exists_extracted {entry : Function × List Dependency} (wf : dataset.graph.WellFormed)
    {chosen : Function × Nat} (located : dataset.graph.find? chosen.1 = some chosen.2)
    (own : chosen.1.isBuiltIn = false) (done : dataset.extractTarget answers chosen = .ok entry) :
    ∃ module root, dataset.Extracted answers entry module root := by
  obtain ⟨whose, done⟩ := extractTarget_ok done
  obtain ⟨node, live, here⟩ := wf.find?_eq_some_iff.1 located
  obtain ⟨module, inside, emits, -⟩ := extract_ok live done
  rw [here, ← whose] at inside
  rw [← whose] at own here
  refine ⟨module, chosen.2, ?_, inside, own, emits⟩
  rw [CallGraph.function?, live, Option.map_some, here]

theorem ofPackages_answers {isSelected : String → Bool}
    {reached : List (Function × List Dependency)}
    (regular : Regular packages) (worded : ∀ p ∈ packages, p.Worded)
    (built : ofPackages packages isSelected = .ok dataset)
    (done : dataset.extractAll answers = .ok reached) :
    Answers packages answers isSelected (reached.map Engine.listing) := by
  obtain ⟨graph, located⟩ := ofPackages_ok built
  obtain ⟨inOrder, nodes⟩ := withNodes_ok located
  have wf : dataset.graph.WellFormed := graph ▸ CallGraph.wellFormed_purge_ofPackages regular
  have keeps (chosen : Function × Nat) (entry : Function × List Dependency)
      (done : dataset.extractTarget answers chosen = .ok entry) : entry.1 = chosen.1 :=
    (extractTarget_ok done).1
  obtain ⟨same, come⟩ := mapM_ok keeps done
  have names : (reached.map Engine.listing).map TargetListing.target =
      Function.sorted (selected packages isSelected) := by
    rw [← inOrder, ← same, List.map_map]
    rfl
  have targets (f : Function) :
      f ∈ (reached.map Engine.listing).map TargetListing.target ↔
        IsTarget packages isSelected f := by
    rw [names, Function.mem_sorted, mem_selected worded]
  have extracted : ∀ listed ∈ reached.map Engine.listing, ∃ entry module root,
      dataset.Extracted answers entry module root ∧ listed.target = entry.1 ∧
        listed.dependencies.map ListedDependency.function = entry.2.map Dependency.function := by
    intro listed member
    obtain ⟨_, -, -, _, -, -, -, own, -⟩ := (targets listed.target).1 (List.mem_map_of_mem member)
    obtain ⟨entry, there, rfl⟩ := List.mem_map.1 member
    obtain ⟨chosen, among, done⟩ := come entry there
    rw [show (Engine.listing entry).target = chosen.1 from keeps chosen entry done] at own
    obtain ⟨module, root, extracted⟩ := exists_extracted wf (nodes chosen among) own done
    refine ⟨entry, module, root, extracted, rfl, ?_⟩
    rw [Engine.listing, List.map_map]
    rfl
  constructor
  case order =>
    have sorted := Function.pairwise_sorted (selected packages isSelected)
    rw [← names, List.pairwise_map] at sorted
    exact sorted
  case targets => exact targets
  case nodup =>
    intro listed member
    obtain ⟨entry, module, root, extracted, -, functions⟩ := extracted listed member
    rw [functions]
    exact extracted.emits.nodup_function wf
  case first =>
    intro listed member
    obtain ⟨entry, module, root, extracted, target, functions⟩ := extracted listed member
    rw [functions, target]
    exact extracted.emits.head_function extracted.start extracted.inside extracted.own
  case reached =>
    intro listed member f
    obtain ⟨entry, module, root, extracted, target, functions⟩ := extracted listed member
    rw [functions, target]
    exact extracted.emits.mem_iff_reached regular graph extracted.start extracted.inside
      extracted.own
  case real =>
    intro listed member f among
    obtain ⟨entry, module, root, extracted, -, functions⟩ := extracted listed member
    rw [functions] at among
    obtain ⟨d, there, rfl⟩ := List.mem_map.1 among
    exact CallGraph.ne_stub_of_function?_purge regular (graph ▸ extracted.emits.function? there)

end Dataset

end TestReach
