import TestReach.Proofs.Graph.Elimination

/-!
# The journal of a graph

All that is done to a graph comes down to three changes: a node is added, an edge is added, a node
is removed and takes its edges with it. The journal of a history has these changes in the order in
which they were made. A purge enters for each synthetic node the edges that lead around it, and
then its removal; so what it rewires stands behind every edge that was there before.

The edges of a graph are those of its journal that no later removal takes, in the order of their
entries. The number of a removed node may be given again: an edge to the node that had it before
does not come back.
-/

namespace TestReach.CallGraph

/-- A change in the journal of a graph. -/
inductive Entry
  | node (f : Function) (synthetic : Bool)
  | edge (e : Edge)
  | removal (i : Nat)
deriving DecidableEq, Repr

def Entry.apply (g : CallGraph) : Entry → CallGraph
  | .node f synthetic => (g.add f synthetic).1
  | .edge e => g.connect e.caller e.callee e.line
  | .removal i => g.remove i

def Entry.spares (e : Edge) : Entry → Bool
  | .removal i => e.caller != i && e.callee != i
  | _ => true

def replay (g : CallGraph) (entries : List Entry) : CallGraph := entries.foldl Entry.apply g

theorem replay_append (g : CallGraph) (first second : List Entry) :
    g.replay (first ++ second) = (g.replay first).replay second := List.foldl_append

/-- The edges of a journal that no later entry takes, in the order in which they were added. -/
def standing : List Entry → List Edge
  | [] => []
  | .edge e :: later => if later.all (Entry.spares e) then e :: standing later else standing later
  | _ :: later => standing later

def eliminationEntries (g : CallGraph) (i : Nat) : List Entry :=
  (g.detours i).map Entry.edge ++ [.removal i]

def purgeEntries (g : CallGraph) : List Nat → List Entry
  | [] => []
  | i :: nodes => g.eliminationEntries i ++ (g.eliminate i).purgeEntries nodes

def Edit.entries (g : CallGraph) : Edit → List Entry
  | .function f => [.node f false]
  | .synthetic f => [.node f true]
  | .edge caller callee line =>
    if g.isLive caller && g.isLive callee then [.edge ⟨caller, callee, line⟩] else []
  | .purge => g.purgeEntries g.syntheticNumbers

def journalFrom (g : CallGraph) : List Edit → List Entry
  | [] => []
  | edit :: edits => edit.entries g ++ (edit.apply g).journalFrom edits

def journal (edits : List Edit) : List Entry := empty.journalFrom edits

theorem standing_append (first second : List Entry) :
    standing (first ++ second) =
      ((standing first).filter fun e => second.all (Entry.spares e)) ++ standing second := by
  induction first with
  | nil => rfl
  | cons entry first ih =>
    cases entry with
    | node f synthetic => exact ih
    | removal i => exact ih
    | edge e =>
      simp only [List.cons_append, standing, List.all_append, ih]
      cases first.all (Entry.spares e) <;> cases later : second.all (Entry.spares e) <;>
        simp [later]

theorem spares_edges (e : Edge) (edges : List Edge) :
    (edges.map Entry.edge).all (Entry.spares e) = true := by
  simp [Entry.spares]

theorem standing_edges (edges : List Edge) : standing (edges.map Entry.edge) = edges := by
  induction edges with
  | nil => rfl
  | cons e edges ih => rw [List.map_cons, standing, if_pos (spares_edges e edges), ih]

structure Recorded (g : CallGraph) (entries : List Entry) (after : CallGraph) : Prop where
  replayed : g.replay entries = after
  wellFormed : after.WellFormed
  edges : after.edges.toList =
    (g.edges.toList.filter fun e => entries.all (Entry.spares e)) ++ standing entries

variable {g middle after : CallGraph}

theorem Recorded.append {first second : List Entry} (here : Recorded g first middle)
    (rest : Recorded middle second after) : Recorded g (first ++ second) after := by
  constructor
  case replayed => rw [replay_append, here.replayed, rest.replayed]
  case wellFormed => exact rest.wellFormed
  case edges =>
    rw [rest.edges, here.edges, standing_append, List.filter_append, List.filter_filter,
      List.append_assoc]
    simp only [List.all_append, Bool.and_comm]

theorem WellFormed.recorded_nil (wf : g.WellFormed) : Recorded g [] g :=
  ⟨rfl, wf, by simp [standing]⟩

theorem WellFormed.recorded_node (wf : g.WellFormed) (f : Function) (synthetic : Bool) :
    Recorded g [.node f synthetic] (g.add f synthetic).1 :=
  ⟨rfl, wf.add f synthetic, by simp [standing, Entry.spares]⟩

theorem WellFormed.recorded_edges (wf : g.WellFormed) {edges : List Edge}
    (live : ∀ e ∈ edges, g.isLive e.caller = true ∧ g.isLive e.callee = true) :
    Recorded g (edges.map Entry.edge)
      (edges.foldl (fun g e => g.connect e.caller e.callee e.line) g) := by
  obtain ⟨kept, -, all⟩ := connectAll edges wf live
  refine ⟨?_, kept, ?_⟩
  · rw [replay, List.foldl_map]
    rfl
  · rw [all, standing_edges, List.filter_eq_self.2 fun e _ => spares_edges e edges]

theorem WellFormed.recorded_removal (wf : g.WellFormed) (i : Nat) :
    Recorded g [.removal i] (g.remove i) :=
  ⟨rfl, wf.remove i, by simp [wf.toList_edges_remove, standing, Entry.spares]⟩

theorem WellFormed.recorded_eliminate (wf : g.WellFormed) (i : Nat) :
    Recorded g (g.eliminationEntries i) (g.eliminate i) := by
  have around := wf.recorded_edges fun _ => wf.isLive_of_mem_detours (i := i)
  exact around.append (around.wellFormed.recorded_removal i)

theorem WellFormed.recorded_eliminateAll (wf : g.WellFormed) (nodes : List Nat) :
    Recorded g (g.purgeEntries nodes) (nodes.foldl CallGraph.eliminate g) := by
  induction nodes generalizing g with
  | nil => exact wf.recorded_nil
  | cons i nodes ih => exact (wf.recorded_eliminate i).append (ih (wf.eliminate i))

theorem Edit.recorded (wf : g.WellFormed) (edit : Edit) :
    Recorded g (edit.entries g) (edit.apply g) := by
  cases edit with
  | function f => exact wf.recorded_node f false
  | synthetic f => exact wf.recorded_node f true
  | edge caller callee line =>
    rw [entries, apply]
    split
    · rename_i live
      have ends := Bool.and_eq_true_iff.1 live
      have alone : ∀ e ∈ [Edge.mk caller callee line],
          g.isLive e.caller = true ∧ g.isLive e.callee = true := by simpa using ends
      exact wf.recorded_edges alone
    · rename_i dead
      rw [connect, if_neg dead]
      exact wf.recorded_nil
  | purge => exact wf.recorded_eliminateAll g.syntheticNumbers

theorem recorded_journalFrom (wf : g.WellFormed) (edits : List Edit) :
    Recorded g (g.journalFrom edits) (edits.foldl Edit.apply g) := by
  induction edits generalizing g with
  | nil => exact wf.recorded_nil
  | cons edit edits ih =>
    have here := edit.recorded wf
    exact here.append (ih here.wellFormed)

theorem recorded_journal (edits : List Edit) : Recorded empty (journal edits) (ofEdits edits) :=
  recorded_journalFrom wellFormed_empty edits

theorem toList_edges_ofEdits (edits : List Edit) :
    (ofEdits edits).edges.toList = standing (journal edits) := by
  rw [(recorded_journal edits).edges]
  simp [empty]

theorem spares_purgeEntries (e : Edge) (nodes : List Nat) :
    ((g.purgeEntries nodes).all (Entry.spares e)) = true ↔ e.caller ∉ nodes ∧ e.callee ∉ nodes := by
  induction nodes generalizing g with
  | nil => simp [purgeEntries]
  | cons i nodes ih =>
    rw [purgeEntries, eliminationEntries, List.all_append, List.all_append, spares_edges,
      Bool.and_eq_true, ih]
    simp only [List.all_cons, List.all_nil, Entry.spares, Bool.true_and, Bool.and_true,
      Bool.and_eq_true, bne_iff_ne, List.mem_cons, not_or]
    tauto

/-- A purge keeps the edges between other nodes, each at its place, and appends what it rewires. -/
theorem WellFormed.toList_edges_purge (wf : g.WellFormed) :
    g.purge.edges.toList =
      (g.edges.toList.filter fun e =>
        decide (e.caller ∉ g.syntheticNumbers ∧ e.callee ∉ g.syntheticNumbers)) ++
        standing (Edit.purge.entries g) := by
  refine (Edit.recorded wf .purge).edges.trans ?_
  congr 1
  apply List.filter_congr
  intro e _
  rw [Bool.eq_iff_iff, decide_eq_true_iff]
  exact spares_purgeEntries e g.syntheticNumbers

-- The number of the purged node goes to a later one; the edge that was rewired stands between an
-- older and a newer one.
example :
    let edits : List Edit := [.function ⟨"m", "f"⟩, .synthetic ⟨"m", "g"⟩, .function ⟨"m", "h"⟩,
      .edge 0 1 3, .edge 0 2 4, .edge 1 2 9, .purge, .function ⟨"m", "k"⟩, .edge 0 1 7]
    (ofEdits edits).find? ⟨"m", "k"⟩ = some 1 ∧
      standing (journal edits) = [⟨0, 2, 4⟩, ⟨0, 2, 3⟩, ⟨0, 1, 7⟩] := by decide +kernel

end TestReach.CallGraph
