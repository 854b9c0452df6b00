import TestReach.Extraction
import TestReach.Proofs.Analysis.Selection
import TestReach.Proofs.Analysis.Steps
import TestReach.Proofs.Graph.Growth

/-!
# What extractions list

Whatever tells the modules of packages, and in whatever world, an extraction lists functions that
its root reaches, each with what the dataset has for it. Collapsing lists keeps all their functions.
-/

namespace TestReach

open Analysis

variable {World : Type} {cache after : ModuleCache} {world last : World}

theorem CallGraph.calls_of_mem_callees {g : CallGraph} {i j : Nat} (called : j ∈ g.callees i) :
    g.Calls i j := by
  obtain ⟨e, outgoing, rfl⟩ := List.mem_map.1 called
  obtain ⟨edge, rfl⟩ := mem_outgoing.1 outgoing
  exact ⟨e.line, edge⟩

namespace Dataset

variable {dataset : Dataset} {resolve : String → Analysis (StateM World) (Option String)}
  {module : String} {root : Nat} {ds : List Dependency}

structure Lists (dataset : Dataset) (root : Nat) (d : Dependency) : Prop where
  reached : Relation.ReflTransGen dataset.graph.Calls root d.node
  located : dataset.graph.function? d.node = some d.function
  own : d.function.isBuiltIn = false
  content : d = dataset.dependency d.module d.node d.function

theorem walk_lists {visited queue : List Nat}
    (ends : Ends (dataset.walk resolve module visited queue) cache world ds after last)
    (reached : ∀ i ∈ queue, Relation.ReflTransGen dataset.graph.Calls root i) :
    ∀ d ∈ ds, dataset.Lists root d := by
  -- Along the walk: whatever waits to be visited is reached from the root.
  induction visited, queue using walk.induct dataset generalizing ds cache after world last with
  | case1 visited =>
    rw [walk] at ends
    obtain ⟨rfl, -, -⟩ := ends.pure
    simp
  | case2 visited i queue fresh found ih =>
    rw [walk_dead fresh found] at ends
    exact ih ends fun j waiting => reached j (by simp [waiting])
  | case3 visited i queue fresh node found builtIn ih =>
    rw [walk_builtIn fresh found builtIn] at ends
    exact ih ends fun j waiting => reached j (by simp [waiting])
  | case4 visited i queue fresh node found own skipped entered =>
    rw [Bool.not_eq_true] at own
    rw [walk_node fresh found own] at ends
    obtain ⟨verdict, _, _, -, ends⟩ := ends_bind.1 ends
    split at ends
    · exact skipped ends fun j waiting => reached j (by simp [waiting])
    · obtain ⟨rest, _, _, walked, ends⟩ := ends_bind.1 ends
      obtain ⟨rfl, -, -⟩ := ends.pure
      have here := reached i (by simp)
      have onward : ∀ j ∈ queue ++ (dataset.graph.callees i).filter fun callee =>
          !(i :: visited).contains callee,
          Relation.ReflTransGen dataset.graph.Calls root j := by
        intro j waiting
        rcases List.mem_append.1 waiting with waiting | called
        · exact reached j (by simp [waiting])
        · have called := (List.mem_filter.1 called).1
          exact here.tail (CallGraph.calls_of_mem_callees called)
      have located : dataset.graph.function? i = some node.function := by
        rw [CallGraph.function?, found, Option.map_some]
      exact List.forall_mem_cons.2 ⟨⟨here, located, own, rfl⟩, entered walked onward⟩
  | case5 visited i queue visit ih =>
    rw [Bool.not_eq_false] at visit
    rw [walk_visited visit] at ends
    exact ih ends fun j waiting => reached j (by simp [waiting])

theorem extract_lists {root? : Option Nat}
    (ends : Ends (dataset.extract resolve root?) cache world ds after last) :
    ∃ root, root? = some root ∧ ∀ d ∈ ds, dataset.Lists root d := by
  unfold extract at ends
  split at ends
  · exact absurd ends not_ends_throw
  · rename_i root
    refine ⟨root, rfl, ?_⟩
    split at ends
    · exact absurd ends not_ends_throw
    · obtain ⟨verdict, _, _, -, ends⟩ := ends_bind.1 ends
      split at ends
      · exact absurd ends not_ends_throw
      · apply walk_lists ends
        intro i waiting
        rw [List.mem_singleton.1 waiting]

theorem extractAll_ends {reached : List (Function × List Dependency)}
    (ends : Ends (dataset.extractAll resolve) cache world reached after last) :
    ∀ entry ∈ reached, ∃ target ∈ dataset.targets, entry.1 = target.1 ∧
      ∃ cache world after last,
        Ends (dataset.extract resolve (some target.2)) cache world entry.2 after last := by
  unfold extractAll at ends
  generalize dataset.targets = targets at ends ⊢
  induction targets generalizing reached cache world with
  | nil =>
    obtain ⟨rfl, -, -⟩ := ends.pure
    simp
  | cons target targets ih =>
    rw [List.mapM_cons] at ends
    obtain ⟨first, _, _, here, ends⟩ := ends_bind.1 ends
    obtain ⟨rest, _, _, behind, ends⟩ := ends_bind.1 ends
    obtain ⟨rfl, rfl, rfl⟩ := ends.pure
    obtain ⟨listed, _, _, extracted, here⟩ := ends_bind.1 here
    obtain ⟨rfl, -, -⟩ := here.pure
    refine List.forall_mem_cons.2 ⟨⟨target, by simp, rfl, _, _, _, _, extracted⟩, ?_⟩
    intro entry member
    obtain ⟨other, among, rest⟩ := ih behind entry member
    exact ⟨other, List.mem_cons_of_mem _ among, rest⟩

theorem extractAll_lists {reached : List (Function × List Dependency)}
    (ends : Ends (dataset.extractAll resolve) cache world reached after last) :
    ∀ entry ∈ reached, ∃ target ∈ dataset.targets, entry.1 = target.1 ∧
      ∀ d ∈ entry.2, dataset.Lists target.2 d := by
  intro entry member
  obtain ⟨target, among, same, _, _, _, _, extracted⟩ := extractAll_ends ends entry member
  obtain ⟨root, whose, lists⟩ := extract_lists extracted
  obtain rfl := Option.some.inj whose
  exact ⟨target, among, same, lists⟩

def Yields (dataset : Dataset) (d : Dependency) : Prop :=
  ∃ (World : Type) (resolve : String → Analysis (StateM World) (Option String))
    (root? : Option Nat) (cache after : ModuleCache) (world last : World) (ds : List Dependency),
    Ends (dataset.extract resolve root?) cache world ds after last ∧ d ∈ ds

theorem Yields.content {d : Dependency} (yields : dataset.Yields d) :
    d = dataset.dependency d.module d.node d.function := by
  obtain ⟨World, resolve, root?, cache, after, world, last, ds, ends, member⟩ := yields
  obtain ⟨root, -, lists⟩ := extract_lists ends
  exact (lists d member).content

theorem yields_of_extractAll {reached : List (Function × List Dependency)}
    (ends : Ends (dataset.extractAll resolve) cache world reached after last) :
    ∀ d ∈ reached.flatMap Prod.snd, dataset.Yields d := by
  intro d member
  obtain ⟨entry, among, listed⟩ := List.mem_flatMap.1 member
  obtain ⟨_, -, -, _, _, _, _, extracted⟩ := extractAll_ends ends entry among
  exact ⟨World, resolve, _, _, _, _, _, entry.2, extracted, listed⟩

end Dataset

namespace Dependency

variable {seen : List Function} {ds : List Dependency} {d : Dependency}

theorem mem_of_mem_collapseFrom (member : d ∈ collapseFrom seen ds) : d ∈ ds := by
  induction ds generalizing seen with
  | nil => cases member
  | cons first ds ih =>
    rw [collapseFrom] at member
    split at member
    · exact List.mem_cons_of_mem _ (ih member)
    · rcases List.mem_cons.1 member with rfl | member
      · exact List.mem_cons_self
      · exact List.mem_cons_of_mem _ (ih member)

theorem exists_mem_collapseFrom (member : d ∈ ds) (fresh : d.function ∉ seen) :
    ∃ kept ∈ collapseFrom seen ds, kept.function = d.function := by
  induction ds generalizing seen with
  | nil => cases member
  | cons first ds ih =>
    rw [collapseFrom]
    rcases List.mem_cons.1 member with rfl | member
    · rw [if_neg (by simpa using fresh)]
      exact ⟨d, List.mem_cons_self, rfl⟩
    · split
      · exact ih member fresh
      · by_cases same : d.function = first.function
        · exact ⟨first, List.mem_cons_self, same.symm⟩
        · have fresh : d.function ∉ first.function :: seen := by simp [same, fresh]
          obtain ⟨kept, among, whose⟩ := ih member fresh
          exact ⟨kept, List.mem_cons_of_mem _ among, whose⟩

theorem mem_of_mem_collapse (member : d ∈ collapse ds) : d ∈ ds := mem_of_mem_collapseFrom member

theorem exists_mem_collapse (member : d ∈ ds) :
    ∃ kept ∈ collapse ds, kept.function = d.function :=
  exists_mem_collapseFrom member List.not_mem_nil

end Dependency

end TestReach
