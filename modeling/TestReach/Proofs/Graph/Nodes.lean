import TestReach.Graph.Purge
import Mathlib.Data.List.Nodup

/-!
# Well-formed graphs

What every operation keeps of a graph: a function has at most one node, the numbers to be given
again belong to no node, and an edge connects two nodes. Each operation comes with what it makes of
the nodes and of the edges; nothing else is said of it later.
-/

namespace TestReach.CallGraph

structure WellFormed (g : CallGraph) : Prop where
  distinct : ∀ {i j : Nat} {first second : Node}, g.node? i = some first →
    g.node? j = some second → first.function = second.function → i = j
  freed : ∀ i ∈ g.free, i < g.slots.size ∧ g.node? i = none
  nodup : g.free.Nodup
  linked : ∀ e ∈ g.edges, g.isLive e.caller = true ∧ g.isLive e.callee = true

variable {g : CallGraph}

theorem nodup_numbers (g : CallGraph) : g.numbers.Nodup := List.nodup_range.filter _

theorem mem_syntheticNumbers {i : Nat} : i ∈ g.syntheticNumbers ↔ g.isSynthetic i := by
  rw [syntheticNumbers, List.mem_filter, mem_numbers, isLive, isSynthetic]
  cases g.node? i <;> simp

theorem WellFormed.find?_eq_some_iff (wf : g.WellFormed) {f : Function} {i : Nat} :
    g.find? f = some i ↔ ∃ node, g.node? i = some node ∧ node.function = f := by
  constructor
  · intro found
    have here := List.find?_some found
    simpa using here
  · rintro ⟨node, found, rfl⟩
    cases first : g.find? node.function with
    | none =>
      have none := List.find?_eq_none.1 first i (List.mem_range.2 (lt_size_of_node? found))
      simp [found] at none
    | some j =>
      have here := List.find?_some first
      simp only [beq_iff_eq, Option.map_eq_some_iff] at here
      obtain ⟨other, located, same⟩ := here
      rw [wf.distinct located found same]

theorem WellFormed.find?_eq_none_iff (wf : g.WellFormed) {f : Function} :
    g.find? f = none ↔ ∀ i node, g.node? i = some node → node.function ≠ f := by
  rw [Option.eq_none_iff_forall_ne_some]
  constructor
  · intro absent i node found same
    exact absent i (wf.find?_eq_some_iff.2 ⟨node, found, same⟩)
  · intro absent i found
    obtain ⟨node, located, same⟩ := wf.find?_eq_some_iff.1 found
    exact absent i node located same

theorem WellFormed.node?_push (wf : g.WellFormed) (node : Node) :
    g.node? (g.push node).2 = none ∧
      ∀ j, (g.push node).1.node? j = if j = (g.push node).2 then some node else g.node? j := by
  unfold push
  cases free : g.free with
  | nil =>
    refine ⟨by simp [node?], ?_⟩
    intro j
    by_cases last : j = g.slots.size <;> simp [node?, Array.getElem?_push, last]
  | cons i rest =>
    obtain ⟨bound, dead⟩ := wf.freed i (by simp [free])
    refine ⟨dead, ?_⟩
    intro j
    by_cases same : j = i
    · subst same
      simp [node?, bound]
    · simp [node?, same, Ne.symm same]

@[simp] theorem edges_push (g : CallGraph) (node : Node) : (g.push node).1.edges = g.edges := by
  unfold push
  split <;> rfl

theorem WellFormed.isLive_push (wf : g.WellFormed) (node : Node) {i : Nat}
    (live : g.isLive i = true) : (g.push node).1.isLive i = true := by
  obtain ⟨dead, nodes⟩ := wf.node?_push node
  obtain ⟨other, found⟩ := isLive_iff.1 live
  have different : i ≠ (g.push node).2 := by
    rintro rfl
    simp [found] at dead
  exact isLive_iff.2 ⟨other, by rw [nodes, if_neg different, found]⟩

theorem WellFormed.push (wf : g.WellFormed) {node : Node} (absent : g.find? node.function = none) :
    (g.push node).1.WellFormed := by
  obtain ⟨dead, nodes⟩ := wf.node?_push node
  have other := wf.find?_eq_none_iff.1 absent
  constructor
  case distinct =>
    intro i j first second atFirst atSecond same
    rw [nodes] at atFirst atSecond
    split at atFirst <;> split at atSecond
    · simp_all
    · cases atFirst
      exact absurd same.symm (other j second atSecond)
    · cases atSecond
      exact absurd same (other i first atFirst)
    · exact wf.distinct atFirst atSecond same
  case freed =>
    intro i member
    have unused : i ∈ g.free ∧ i ≠ (g.push node).2 := by
      unfold CallGraph.push at member ⊢
      cases free : g.free with
      | nil => simp [free] at member
      | cons k rest =>
        have fresh := wf.nodup
        simp only [free] at member fresh ⊢
        refine ⟨List.mem_cons_of_mem _ member, ?_⟩
        rintro rfl
        exact (List.nodup_cons.1 fresh).1 member
    obtain ⟨bound, gone⟩ := wf.freed i unused.1
    refine ⟨?_, by rw [nodes, if_neg unused.2, gone]⟩
    unfold CallGraph.push
    split <;> simp <;> omega
  case nodup =>
    have fresh := wf.nodup
    unfold CallGraph.push
    cases free : g.free with
    | nil => simp
    | cons k rest =>
      rw [free] at fresh
      exact (List.nodup_cons.1 fresh).2
  case linked =>
    intro e member
    rw [edges_push] at member
    have ends := wf.linked e member
    exact ⟨wf.isLive_push node ends.1, wf.isLive_push node ends.2⟩

theorem WellFormed.node?_add (wf : g.WellFormed) (f : Function) (synthetic : Bool) :
    (g.find? f = some (g.add f synthetic).2 ∧ (g.add f synthetic).1 = g) ∨
      (g.find? f = none ∧ g.node? (g.add f synthetic).2 = none ∧
        ∀ j, (g.add f synthetic).1.node? j =
          if j = (g.add f synthetic).2 then some ⟨f, synthetic⟩ else g.node? j) := by
  unfold add
  cases found : g.find? f with
  | some i => exact .inl ⟨rfl, rfl⟩
  | none => exact .inr ⟨rfl, wf.node?_push ⟨f, synthetic⟩⟩

@[simp] theorem edges_add (g : CallGraph) (f : Function) (synthetic : Bool) :
    (g.add f synthetic).1.edges = g.edges := by
  unfold add
  split <;> simp

theorem WellFormed.add (wf : g.WellFormed) (f : Function) (synthetic : Bool) :
    (g.add f synthetic).1.WellFormed := by
  unfold CallGraph.add
  cases found : g.find? f with
  | some i => exact wf
  | none => exact wf.push found

theorem WellFormed.node?_add_of_some (wf : g.WellFormed) (f : Function) (synthetic : Bool) {i : Nat}
    {node : Node} (found : g.node? i = some node) :
    (g.add f synthetic).1.node? i = some node := by
  rcases wf.node?_add f synthetic with ⟨-, same⟩ | ⟨-, dead, nodes⟩
  · rw [same, found]
  · rw [nodes, if_neg, found]
    rintro rfl
    simp [found] at dead

@[simp] theorem node?_connect (g : CallGraph) (caller callee line i : Nat) :
    (g.connect caller callee line).node? i = g.node? i := by
  unfold connect
  split <;> rfl

@[simp] theorem isLive_connect (g : CallGraph) (caller callee line i : Nat) :
    (g.connect caller callee line).isLive i = g.isLive i := by
  simp [isLive]

theorem toList_edges_connect {caller callee : Nat} (first : g.isLive caller = true)
    (second : g.isLive callee = true) (line : Nat) :
    (g.connect caller callee line).edges.toList = g.edges.toList ++ [⟨caller, callee, line⟩] := by
  simp [connect, first, second]

theorem WellFormed.connect (wf : g.WellFormed) (caller callee line : Nat) :
    (g.connect caller callee line).WellFormed := by
  constructor
  case distinct =>
    intro i j first second atFirst atSecond same
    rw [node?_connect] at atFirst atSecond
    exact wf.distinct atFirst atSecond same
  case freed =>
    intro i member
    have kept : (g.connect caller callee line).slots = g.slots ∧
        (g.connect caller callee line).free = g.free := by
      unfold CallGraph.connect
      split <;> exact ⟨rfl, rfl⟩
    rw [kept.2] at member
    rw [kept.1, node?_connect]
    exact wf.freed i member
  case nodup =>
    unfold CallGraph.connect
    split <;> exact wf.nodup
  case linked =>
    intro e member
    rw [isLive_connect, isLive_connect]
    unfold CallGraph.connect at member
    split at member
    · rename_i live
      rcases Array.mem_push.1 member with member | rfl
      · exact wf.linked e member
      · exact Bool.and_eq_true_iff.1 live
    · exact wf.linked e member

theorem node?_remove (g : CallGraph) (i j : Nat) :
    (g.remove i).node? j = if j = i then none else g.node? j := by
  unfold remove
  by_cases live : g.isLive i = true
  · obtain ⟨node, found⟩ := isLive_iff.1 live
    by_cases same : j = i
    · subst same
      simp [live, node?, lt_size_of_node? found]
    · simp [live, node?, same, Ne.symm same]
  · by_cases same : j = i
    · subst same
      rw [if_neg live]
      simpa [isLive] using live
    · simp [live, same]

theorem WellFormed.toList_edges_remove (wf : g.WellFormed) (i : Nat) :
    (g.remove i).edges.toList =
      g.edges.toList.filter fun e => e.caller != i && e.callee != i := by
  unfold remove
  by_cases live : g.isLive i = true
  · simp [live]
  · rw [if_neg live, eq_comm, List.filter_eq_self]
    intro e member
    have ends := wf.linked e (by simpa using member)
    rw [Bool.and_eq_true, bne_iff_ne, bne_iff_ne]
    constructor
    · rintro rfl
      exact live ends.1
    · rintro rfl
      exact live ends.2

theorem WellFormed.remove (wf : g.WellFormed) (i : Nat) : (g.remove i).WellFormed := by
  constructor
  case distinct =>
    intro j k first second atFirst atSecond same
    rw [node?_remove] at atFirst atSecond
    split at atFirst
    · cases atFirst
    · split at atSecond
      · cases atSecond
      · exact wf.distinct atFirst atSecond same
  case freed =>
    intro j member
    rw [node?_remove]
    unfold CallGraph.remove at member ⊢
    by_cases live : g.isLive i = true
    · obtain ⟨node, found⟩ := isLive_iff.1 live
      simp only [live, if_true, List.mem_cons] at member ⊢
      rcases member with rfl | member
      · simpa using lt_size_of_node? found
      · have gone := wf.freed j member
        simpa [gone.2] using gone.1
    · simp only [live] at member ⊢
      have gone := wf.freed j member
      simpa [gone.2] using gone.1
  case nodup =>
    unfold CallGraph.remove
    by_cases live : g.isLive i = true
    · rw [if_pos live]
      refine List.nodup_cons.2 ⟨?_, wf.nodup⟩
      intro member
      have gone := (wf.freed i member).2
      simp [isLive, gone] at live
    · rw [if_neg live]
      exact wf.nodup
  case linked =>
    intro e member
    rw [← Array.mem_toList_iff, wf.toList_edges_remove, List.mem_filter] at member
    have ends := wf.linked e (by simpa using member.1)
    simp only [Bool.and_eq_true, bne_iff_ne] at member
    simpa [isLive, node?_remove, member.2.1, member.2.2] using ends

theorem wellFormed_empty : empty.WellFormed := by
  constructor <;> simp [empty, node?]

inductive Edit
  | function (f : Function)
  | synthetic (f : Function)
  | edge (caller callee line : Nat)
  | purge

def Edit.apply (g : CallGraph) : Edit → CallGraph
  | .function f => (g.add f false).1
  | .synthetic f => (g.add f true).1
  | .edge caller callee line => g.connect caller callee line
  | .purge => g.purge

def ofEdits (edits : List Edit) : CallGraph := edits.foldl Edit.apply empty

end TestReach.CallGraph
