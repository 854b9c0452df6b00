import TestReach.Graph.Purge
import TestReach.Table

/-!
# Stored call graphs

A call graph is stored with an index of its functions and with edges that count the order in which
they came. The store gives its edges back in no order of its own, here the newest first, so the
calls of a node are sorted by that count.
-/

namespace TestReach

structure IndexedGraph.Edge where
  call : CallGraph.Edge
  order : Nat
deriving DecidableEq, Repr

structure IndexedGraph where
  slots : Array (Option CallGraph.Node)
  free : List Nat
  edges : List IndexedGraph.Edge
  index : Table Function Nat
  nextOrder : Nat
deriving Repr

namespace IndexedGraph

def empty : IndexedGraph := ⟨#[], [], [], .empty, 0⟩

def node? (g : IndexedGraph) (i : Nat) : Option CallGraph.Node := g.slots[i]?.join

def isLive (g : IndexedGraph) (i : Nat) : Bool := (g.node? i).isSome

def find? (g : IndexedGraph) (f : Function) : Option Nat := g.index.get? f

def add (g : IndexedGraph) (f : Function) (synthetic : Bool) : IndexedGraph × Nat :=
  match g.index.get? f with
  | some i => (g, i)
  | none =>
    match g.free with
    | i :: free =>
      ({ g with
        slots := g.slots.setIfInBounds i (some ⟨f, synthetic⟩)
        free := free
        index := g.index.put f i }, i)
    | [] =>
      ({ g with
        slots := g.slots.push (some ⟨f, synthetic⟩)
        index := g.index.put f g.slots.size }, g.slots.size)

def connect (g : IndexedGraph) (caller callee line : Nat) : IndexedGraph :=
  if g.isLive caller && g.isLive callee then
    { g with
      edges := ⟨⟨caller, callee, line⟩, g.nextOrder⟩ :: g.edges
      nextOrder := g.nextOrder + 1 }
  else g

def sortedEdges (edges : List Edge) : List CallGraph.Edge :=
  (edges.mergeSort fun e other => e.order ≤ other.order).map Edge.call

def outgoing (g : IndexedGraph) (i : Nat) : List CallGraph.Edge :=
  sortedEdges (g.edges.filter fun e => e.call.caller == i)

def incoming (g : IndexedGraph) (i : Nat) : List CallGraph.Edge :=
  sortedEdges (g.edges.filter fun e => e.call.callee == i)

def callees (g : IndexedGraph) (i : Nat) : List Nat := (g.outgoing i).map CallGraph.Edge.callee

def callers (g : IndexedGraph) (i : Nat) : List Nat := (g.incoming i).map CallGraph.Edge.caller

def remove (g : IndexedGraph) (i : Nat) : IndexedGraph :=
  match g.node? i with
  | some node =>
    { g with
      slots := g.slots.setIfInBounds i none
      free := i :: g.free
      edges := g.edges.filter fun e => e.call.caller != i && e.call.callee != i
      index := g.index.erase node.function }
  | none => g

/-- The graph with a node replaced by edges from each of its callers to each of its callees; those
of the node to itself are passed over. -/
def eliminate (g : IndexedGraph) (i : Nat) : IndexedGraph :=
  let outgoing := g.outgoing i
  ((g.incoming i).foldl (fun g call => outgoing.foldl (fun g e =>
    if call.caller == i || e.callee == i then g else g.connect call.caller e.callee call.line) g)
    g).remove i

def syntheticNumbers (g : IndexedGraph) : List Nat :=
  (List.range g.slots.size).filter fun i =>
    ((g.node? i).map CallGraph.Node.synthetic).getD false

def purge (g : IndexedGraph) : IndexedGraph := g.syntheticNumbers.foldl eliminate g

/-- The graph without its index, its edges in their order. -/
def plain (g : IndexedGraph) : CallGraph :=
  ⟨g.slots, g.free, (g.edges.reverse.map Edge.call).toArray⟩

end IndexedGraph

end TestReach
