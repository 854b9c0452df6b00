import TestReach.Graph.Basic

/-!
# Purging synthetic nodes

A synthetic node is taken out of a graph by leading each call to it on to each of its callees. A
call that leads to a function through synthetic nodes alone is thereby kept as an edge, and so is
its line.
-/

namespace TestReach.CallGraph

def remove (g : CallGraph) (i : Nat) : CallGraph :=
  if g.isLive i then
    { slots := g.slots.setIfInBounds i none
      free := i :: g.free
      edges := g.edges.filter fun e => e.caller != i && e.callee != i }
  else g

/-- The edges that lead around a node: from each of its callers to each of its callees, itself left
out. -/
def detours (g : CallGraph) (i : Nat) : List Edge :=
  (g.incoming i).flatMap fun call =>
    if call.caller == i then []
    else ((g.outgoing i).filter fun e => e.callee != i).map fun e =>
      ⟨call.caller, e.callee, call.line⟩

def eliminate (g : CallGraph) (i : Nat) : CallGraph :=
  ((g.detours i).foldl (fun g e => g.connect e.caller e.callee e.line) g).remove i

def purge (g : CallGraph) : CallGraph := g.syntheticNumbers.foldl eliminate g

def deleteSynthetic (g : CallGraph) : CallGraph × Nat := (g.purge, g.syntheticNumbers.length)

def isSynthetic (g : CallGraph) (i : Nat) : Prop :=
  (g.node? i).map Node.synthetic = some true

/-- A call that leads from one node to another through synthetic nodes alone; `line` is that of the
call itself. -/
inductive LeadsTo (g : CallGraph) : Nat → Nat → Nat → Prop
  | direct {caller callee line : Nat} (edge : ⟨caller, callee, line⟩ ∈ g.edges) :
    LeadsTo g caller callee line
  | through {caller between callee line next : Nat} (edge : ⟨caller, between, line⟩ ∈ g.edges)
    (synthetic : g.isSynthetic between) (rest : LeadsTo g between callee next) :
    LeadsTo g caller callee line

end TestReach.CallGraph
