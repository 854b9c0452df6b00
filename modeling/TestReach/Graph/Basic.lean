import TestReach.Function

/-!
# Call graphs

A graph has a node for each function and an edge for each call. Nodes are numbered; the number of a
removed node goes to a later one, the last removed first. Some nodes are synthetic: they stand for a
call that can lead to several functions.
-/

namespace TestReach

structure CallGraph.Node where
  function : Function
  synthetic : Bool
deriving DecidableEq, Repr

structure CallGraph.Edge where
  caller : Nat
  callee : Nat
  line : Nat
deriving DecidableEq, Repr

/-- Nodes by their numbers, the numbers to be given again, and the edges in the order in which they
came. -/
structure CallGraph where
  slots : Array (Option CallGraph.Node)
  free : List Nat
  edges : Array CallGraph.Edge
deriving DecidableEq, Repr

namespace CallGraph

def empty : CallGraph := ⟨#[], [], #[]⟩

def node? (g : CallGraph) (i : Nat) : Option Node := g.slots[i]?.join

def isLive (g : CallGraph) (i : Nat) : Bool := (g.node? i).isSome

def numbers (g : CallGraph) : List Nat := (List.range g.slots.size).filter g.isLive

def find? (g : CallGraph) (f : Function) : Option Nat :=
  (List.range g.slots.size).find? fun i => (g.node? i).map Node.function == some f

/-- A graph with a node, which gets the number last given up, or else a new one. -/
def push (g : CallGraph) (node : Node) : CallGraph × Nat :=
  match g.free with
  | i :: free => ({ g with slots := g.slots.setIfInBounds i (some node), free := free }, i)
  | [] => ({ g with slots := g.slots.push (some node) }, g.slots.size)

def add (g : CallGraph) (f : Function) (synthetic : Bool) : CallGraph × Nat :=
  match g.find? f with
  | some i => (g, i)
  | none => g.push ⟨f, synthetic⟩

/-- The graph with one more edge; without one of its nodes there is no edge. -/
def connect (g : CallGraph) (caller callee line : Nat) : CallGraph :=
  if g.isLive caller && g.isLive callee then
    { g with edges := g.edges.push ⟨caller, callee, line⟩ }
  else g

def outgoing (g : CallGraph) (i : Nat) : List Edge := g.edges.toList.filter fun e => e.caller == i

def incoming (g : CallGraph) (i : Nat) : List Edge := g.edges.toList.filter fun e => e.callee == i

def callees (g : CallGraph) (i : Nat) : List Nat := (g.outgoing i).map Edge.callee

def callers (g : CallGraph) (i : Nat) : List Nat := (g.incoming i).map Edge.caller

def syntheticNumbers (g : CallGraph) : List Nat :=
  g.numbers.filter fun i => ((g.node? i).map Node.synthetic).getD false

theorem isLive_iff {g : CallGraph} {i : Nat} :
    g.isLive i = true ↔ ∃ node, g.node? i = some node := by
  rw [isLive, Option.isSome_iff_exists]

theorem lt_size_of_node? {g : CallGraph} {i : Nat} {node : Node} (found : g.node? i = some node) :
    i < g.slots.size := by
  by_cases bound : i < g.slots.size
  · exact bound
  · simp [node?, Array.getElem?_eq_none (Nat.le_of_not_lt bound)] at found

theorem mem_numbers {g : CallGraph} {i : Nat} : i ∈ g.numbers ↔ g.isLive i = true := by
  rw [numbers, List.mem_filter, List.mem_range, and_iff_right_iff_imp]
  intro live
  obtain ⟨node, found⟩ := isLive_iff.1 live
  exact lt_size_of_node? found

theorem count_callees (g : CallGraph) (u v : Nat) :
    (g.callees u).count v = (g.callers v).count u := by
  simp only [callees, callers, outgoing, incoming, List.count_eq_countP, List.countP_map,
    List.countP_filter]
  congr 1
  funext e
  simp [Bool.and_comm]

end CallGraph

end TestReach
