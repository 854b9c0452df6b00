import TestReach.Proofs.Graph.Growth

/-!
# Nodes that last

Whatever the packages are, a graph that grows by their calls keeps each node that it has, and the
purge takes out none but synthetic ones. The declared functions have their nodes before the first
call. So each of them is found in the purged graph, even where two packages share a path or a
function is called as a synthetic node is.
-/

namespace TestReach.CallGraph

open Packages

variable {g after : CallGraph}

structure Lasts (g after : CallGraph) : Prop where
  wf : after.WellFormed
  extends_ : g.Extends after

theorem Lasts.trans {last : CallGraph} (first : g.Lasts after) (second : after.Lasts last) :
    g.Lasts last :=
  ⟨second.wf, first.extends_.trans second.extends_⟩

namespace WellFormed

variable (wf : g.WellFormed)

include wf

theorem lasts : g.Lasts g := ⟨wf, fun _ _ found => found⟩

theorem lasts_add (f : Function) (synthetic : Bool) : g.Lasts (g.add f synthetic).1 :=
  ⟨wf.add f synthetic, wf.extends_add f synthetic⟩

theorem lasts_connect (caller callee line : Nat) : g.Lasts (g.connect caller callee line) := by
  refine ⟨wf.connect caller callee line, ?_⟩
  intro i node found
  rw [node?_connect, found]

theorem lasts_addStub (f : Function) (callees : List Nat) : g.Lasts (g.addStub f callees).1 := by
  -- A synthetic node may take the place of a function that is called as it is; either way it takes
  -- no node away.
  refine ⟨?_, wf.extends_addStub f callees⟩
  have kept (stub : Nat) (h : CallGraph) (wf : h.WellFormed) :
      (callees.foldl (fun g callee => g.connect stub callee 0) h).WellFormed := by
    induction callees generalizing h with
    | nil => exact wf
    | cons callee callees ih => exact ih _ (wf.connect stub callee 0)
  exact kept _ _ (wf.add f true)

end WellFormed

namespace Growth

variable {growth : Growth} (wf : growth.graph.WellFormed)

include wf

theorem lasts_addCall (d : Declared) (values : List Nat) (caller line : Nat) (target : Target) :
    growth.graph.Lasts (growth.addCall d values caller line target).graph := by
  cases target with
  | nowhere => exact wf.lasts
  | node callee => exact wf.lasts_connect caller callee line
  | unread f =>
    have added := wf.lasts_add f false
    exact added.trans (added.wf.lasts_connect caller _ line)
  | methods name =>
    simp only [addCall]
    split
    · exact wf.lasts_connect caller _ line
    · have added := wf.lasts_addStub (methodStub name) (d.methodsNamed name)
      exact added.trans (added.wf.lasts_connect caller _ line)
  | values =>
    simp only [addCall]
    split
    · exact wf.lasts
    · split
      · exact wf.lasts_connect caller _ line
      · have added := wf.lasts_addStub valueStub values
        exact added.trans (added.wf.lasts_connect caller _ line)

theorem lasts_step (d : Declared) (values : List Nat) (call : Call) :
    growth.graph.Lasts (growth.step d values call).graph := by
  unfold step
  split
  · exact wf.lasts
  · exact lasts_addCall wf d values _ _ _

theorem lasts_run (d : Declared) (values : List Nat) (calls : List Call) :
    growth.graph.Lasts (calls.foldl (step d values) growth).graph := by
  induction calls generalizing growth with
  | nil => exact wf.lasts
  | cons call calls ih =>
    have first := lasts_step wf d values call
    exact first.trans (ih first.wf)

end Growth

variable (packages : List Package)

theorem lasts_ofPackages : (declareAll packages).1.Lasts (ofPackages packages) := by
  let start : Growth := ⟨(declareAll packages).1, .empty, none⟩
  have wf : start.graph.WellFormed := (declares_declareAll packages).wf
  exact Growth.lasts_run wf _ _ _

theorem find?_purge_of_declared {f : Function} (declared : f ∈ functions packages) :
    ∃ i, (ofPackages packages).purge.find? f = some i ∧
      (ofPackages packages).purge.node? i = some ⟨f, false⟩ := by
  obtain ⟨wf, extends_⟩ := lasts_ofPackages packages
  obtain ⟨i, found⟩ := (declares_declareAll packages).found f declared
  have kept : (ofPackages packages).purge.node? i = some ⟨f, false⟩ := by
    rw [wf.node?_purge, extends_ i _ found]
    rfl
  exact ⟨i, wf.purge.find?_eq_some_iff.2 ⟨_, kept, rfl⟩, kept⟩

end TestReach.CallGraph
