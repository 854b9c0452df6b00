import TestReach.Graph.Indexed
import TestReach.Proofs.Graph.Journal

/-!
# Indexed graphs

Without its index and its counts a stored graph is a graph as it is built, and every change to the
one is the same change to the other. What the store has besides agrees with that: the index leads to
the nodes, and the counts of the edges rise with the order in which these came.
-/

namespace TestReach.IndexedGraph

open CallGraph (Node Edit standing journal)

variable {g : IndexedGraph} {f : Function}

@[simp] theorem node?_plain (g : IndexedGraph) (i : Nat) : g.plain.node? i = g.node? i := rfl

@[simp] theorem isLive_plain (g : IndexedGraph) (i : Nat) : g.plain.isLive i = g.isLive i := rfl

@[simp] theorem toList_edges_plain (g : IndexedGraph) :
    g.plain.edges.toList = g.edges.reverse.map Edge.call := by simp [plain]

/-- The index leads exactly to the nodes, and of two edges the one that came later counts more. -/
structure Consistent (g : IndexedGraph) : Prop where
  wellFormed : g.plain.WellFormed
  indexed : ∀ f i, g.index.get? f = some i ↔ ∃ node, g.node? i = some node ∧ node.function = f
  ordered : g.edges.Pairwise fun newer older => older.order < newer.order
  counted : ∀ e ∈ g.edges, e.order < g.nextOrder

/-- However the store gives its edges back, sorting puts them in the order in which they came. -/
theorem sortedEdges_of_perm {stored edges : List Edge} (perm : stored.Perm edges)
    (ordered : edges.Pairwise fun newer older => older.order < newer.order) :
    sortedEdges stored = edges.reverse.map Edge.call := by
  let sorted := stored.mergeSort fun e other => e.order ≤ other.order
  have rises : sorted.Pairwise fun e other => e.order ≤ other.order := by
    have known : sorted.Pairwise fun e other => decide (e.order ≤ other.order) :=
      List.pairwise_mergeSort (by simp only [decide_eq_true_eq]; omega)
        (by simp only [Bool.or_eq_true]; grind) stored
    exact known.imp of_decide_eq_true
  have other : edges.reverse.Pairwise fun e other => e.order ≤ other.order :=
    List.pairwise_reverse.2 (ordered.imp fun before => Nat.le_of_lt before)
  have same : sorted.Perm edges.reverse :=
    (List.mergeSort_perm stored _).trans (perm.trans edges.reverse_perm.symm)
  have distinct : (edges.map Edge.order).Nodup :=
    List.pairwise_map.2 (ordered.imp fun before => (Nat.ne_of_lt before).symm)
  have equal : sorted = edges.reverse := by
    refine List.Perm.eq_of_pairwise (fun e other one second le ge => ?_) rises other same
    exact List.inj_on_of_nodup_map distinct (List.mem_reverse.1 (same.mem_iff.1 one))
      (List.mem_reverse.1 second) (Nat.le_antisymm le ge)
  rw [sortedEdges, ← equal]

theorem Consistent.sortedEdges_filter (consistent : g.Consistent) {stored : List Edge}
    (perm : stored.Perm g.edges) (p : CallGraph.Edge → Bool) :
    sortedEdges (stored.filter fun e => p e.call) = g.plain.edges.toList.filter p := by
  rw [sortedEdges_of_perm (perm.filter _) (consistent.ordered.filter _), toList_edges_plain,
    List.filter_map, ← List.filter_reverse]
  rfl

theorem Consistent.outgoing_plain (consistent : g.Consistent) (i : Nat) :
    g.outgoing i = g.plain.outgoing i :=
  consistent.sortedEdges_filter (.refl _) fun e => e.caller == i

theorem Consistent.incoming_plain (consistent : g.Consistent) (i : Nat) :
    g.incoming i = g.plain.incoming i :=
  consistent.sortedEdges_filter (.refl _) fun e => e.callee == i

theorem Consistent.find?_plain (consistent : g.Consistent) (f : Function) :
    g.plain.find? f = g.index.get? f := by
  ext i
  rw [consistent.wellFormed.find?_eq_some_iff, consistent.indexed]
  rfl

theorem Consistent.plain_add (consistent : g.Consistent) (f : Function) (synthetic : Bool) :
    (g.add f synthetic).1.plain = (g.plain.add f synthetic).1 ∧
      (g.add f synthetic).2 = (g.plain.add f synthetic).2 := by
  unfold add CallGraph.add
  rw [consistent.find?_plain]
  cases g.index.get? f with
  | some i => exact ⟨rfl, rfl⟩
  | none =>
    have free : g.plain.free = g.free := rfl
    simp only [CallGraph.push, free]
    cases g.free <;> exact ⟨rfl, rfl⟩

theorem index_add (absent : g.index.get? f = none) (synthetic : Bool) :
    (g.add f synthetic).1.index = g.index.put f (g.add f synthetic).2 := by
  unfold add
  rw [absent]
  cases g.free <;> rfl

@[simp] theorem edges_add (g : IndexedGraph) (f : Function) (synthetic : Bool) :
    (g.add f synthetic).1.edges = g.edges ∧
      (g.add f synthetic).1.nextOrder = g.nextOrder := by
  unfold add
  split
  · exact ⟨rfl, rfl⟩
  · split <;> exact ⟨rfl, rfl⟩

theorem Consistent.add (consistent : g.Consistent) (f : Function) (synthetic : Bool) :
    (g.add f synthetic).1.Consistent := by
  obtain ⟨edges, next⟩ := edges_add g f synthetic
  obtain ⟨graph, number⟩ := consistent.plain_add f synthetic
  constructor
  case wellFormed => exact graph ▸ consistent.wellFormed.add f synthetic
  case indexed =>
    intro other i
    rcases consistent.wellFormed.node?_add f synthetic with ⟨found, -⟩ | ⟨absent, unused, nodes⟩
    · rw [consistent.find?_plain] at found
      have same : (g.add f synthetic).1 = g := by rw [IndexedGraph.add, found]
      rw [same, consistent.indexed]
    · rw [consistent.find?_plain] at absent
      rw [← graph, ← number] at nodes
      rw [← number, node?_plain] at unused
      rw [index_add absent, Table.get?_put, ← node?_plain, nodes, node?_plain]
      by_cases same : other = f <;> by_cases new : i = (g.add f synthetic).2
      · simp [same, new]
      · have elsewhere := mt (consistent.indexed f i).2 (by simp [absent])
        simpa [same, new, Ne.symm new] using elsewhere
      · simp [same, Ne.symm same, new, consistent.indexed, unused]
      · simp [same, new, consistent.indexed]
  case ordered => exact edges ▸ consistent.ordered
  case counted => exact edges ▸ next ▸ consistent.counted

theorem plain_connect (g : IndexedGraph) (caller callee line : Nat) :
    (g.connect caller callee line).plain = g.plain.connect caller callee line := by
  unfold connect CallGraph.connect
  rw [isLive_plain, isLive_plain]
  split
  · simp [plain]
  · rfl

theorem Consistent.connect (consistent : g.Consistent) (caller callee line : Nat) :
    (g.connect caller callee line).Consistent := by
  have wellFormed := consistent.wellFormed.connect caller callee line
  rw [← plain_connect] at wellFormed
  unfold IndexedGraph.connect at wellFormed ⊢
  split at wellFormed
  · rename_i live
    rw [if_pos live]
    refine ⟨wellFormed, consistent.indexed, List.pairwise_cons.2 ⟨consistent.counted,
      consistent.ordered⟩, List.forall_mem_cons.2 ⟨Nat.lt_succ_self _, ?_⟩⟩
    exact fun e member => Nat.lt_succ_of_lt (consistent.counted e member)
  · rename_i dead
    rw [if_neg dead]
    exact consistent

theorem plain_remove (g : IndexedGraph) (i : Nat) : (g.remove i).plain = g.plain.remove i := by
  unfold remove CallGraph.remove
  rw [isLive_plain, isLive]
  cases g.node? i with
  | none => rfl
  | some node => simp [plain, List.filter_map, Function.comp_def]

theorem Consistent.remove (consistent : g.Consistent) (i : Nat) : (g.remove i).Consistent := by
  have wellFormed := consistent.wellFormed.remove i
  have nodes := CallGraph.node?_remove g.plain i
  rw [← plain_remove] at wellFormed nodes
  cases here : g.node? i with
  | none =>
    rw [IndexedGraph.remove, here]
    exact consistent
  | some node =>
    rw [IndexedGraph.remove, here] at wellFormed nodes ⊢
    refine ⟨wellFormed, ?_, consistent.ordered.filter _,
      fun e member => consistent.counted e (List.mem_of_mem_filter member)⟩
    intro f j
    have moved := nodes j
    rw [node?_plain, node?_plain] at moved
    rw [Table.get?_erase, moved]
    have own := (consistent.indexed node.function i).2 ⟨node, here, rfl⟩
    by_cases same : f = node.function <;> by_cases gone : j = i
    · simp [same, gone]
    · have elsewhere := mt (consistent.indexed f j).2 (by simp [same, own, Ne.symm gone])
      simpa [same, gone] using elsewhere
    · have other := mt (consistent.indexed f i).1 (by simp [here, Ne.symm same])
      simpa [same, gone] using other
    · simp [same, gone, consistent.indexed]

theorem Consistent.eliminate_eq (consistent : g.Consistent) (i : Nat) :
    g.eliminate i = ((g.plain.detours i).foldl
      (fun g e => g.connect e.caller e.callee e.line) g).remove i := by
  -- Pairs of calls with the node itself at an end are passed over here, and are no detours there.
  rw [eliminate, CallGraph.detours, consistent.incoming_plain, consistent.outgoing_plain,
    List.foldl_flatMap]
  congr 2
  funext g' call
  by_cases own : call.caller = i
  · have none (edges : List CallGraph.Edge) : edges.foldl (fun g e =>
        if call.caller == i || e.callee == i then g
        else g.connect call.caller e.callee call.line) g' = g' := by
      induction edges with
      | nil => rfl
      | cons e edges ih => simp [own]
    rw [none, if_pos (by simp [own])]
    rfl
  · rw [if_neg (by simp [own]), List.foldl_map, List.foldl_filter]
    congr 1
    funext h e
    by_cases back : e.callee = i <;> simp [own, back]

/-- Steps that stay consistent and are steps of the plain graph, one behind the other. -/
theorem Consistent.foldl {α : Type} {step : IndexedGraph → α → IndexedGraph}
    {plainStep : CallGraph → α → CallGraph}
    (steps : ∀ g : IndexedGraph, g.Consistent → ∀ a,
      (step g a).Consistent ∧ (step g a).plain = plainStep g.plain a)
    (consistent : g.Consistent) (as : List α) :
    (as.foldl step g).Consistent ∧ (as.foldl step g).plain = as.foldl plainStep g.plain := by
  induction as generalizing g with
  | nil => exact ⟨consistent, rfl⟩
  | cons a as ih =>
    obtain ⟨kept, same⟩ := steps g consistent a
    rw [List.foldl_cons, List.foldl_cons, ← same]
    exact ih kept

theorem Consistent.eliminate (consistent : g.Consistent) (i : Nat) :
    (g.eliminate i).Consistent ∧ (g.eliminate i).plain = g.plain.eliminate i := by
  let connect (g : IndexedGraph) (e : CallGraph.Edge) := g.connect e.caller e.callee e.line
  have around : ((g.plain.detours i).foldl connect g).Consistent ∧
      ((g.plain.detours i).foldl connect g).plain =
        (g.plain.detours i).foldl (fun g e => g.connect e.caller e.callee e.line) g.plain :=
    consistent.foldl (fun g consistent e => ⟨consistent.connect e.caller e.callee e.line,
      plain_connect g e.caller e.callee e.line⟩) _
  rw [consistent.eliminate_eq, CallGraph.eliminate, ← around.2, plain_remove]
  exact ⟨around.1.remove i, rfl⟩

theorem syntheticNumbers_plain (g : IndexedGraph) :
    g.plain.syntheticNumbers = g.syntheticNumbers := by
  rw [CallGraph.syntheticNumbers, CallGraph.numbers, List.filter_filter, syntheticNumbers]
  refine List.filter_congr fun i _ => ?_
  rw [isLive_plain, node?_plain, isLive]
  cases g.node? i <;> simp

theorem Consistent.purge (consistent : g.Consistent) :
    g.purge.Consistent ∧ g.purge.plain = g.plain.purge := by
  rw [CallGraph.purge, syntheticNumbers_plain]
  exact consistent.foldl (fun _ consistent i => consistent.eliminate i) g.syntheticNumbers

def apply (g : IndexedGraph) : Edit → IndexedGraph
  | .function f => (g.add f false).1
  | .synthetic f => (g.add f true).1
  | .edge caller callee line => g.connect caller callee line
  | .purge => g.purge

def ofEdits (edits : List Edit) : IndexedGraph := edits.foldl apply empty

theorem consistent_empty : empty.Consistent where
  wellFormed := CallGraph.wellFormed_empty
  indexed := by simp [empty, node?]
  ordered := .nil
  counted := by simp [empty]

theorem Consistent.apply (consistent : g.Consistent) (edit : Edit) :
    (g.apply edit).Consistent ∧ (g.apply edit).plain = edit.apply g.plain := by
  cases edit with
  | function f => exact ⟨consistent.add f false, (consistent.plain_add f false).1⟩
  | synthetic f => exact ⟨consistent.add f true, (consistent.plain_add f true).1⟩
  | edge caller callee line =>
    exact ⟨consistent.connect caller callee line, plain_connect g caller callee line⟩
  | purge => exact consistent.purge

theorem consistent_ofEdits (edits : List Edit) :
    (ofEdits edits).Consistent ∧ (ofEdits edits).plain = CallGraph.ofEdits edits :=
  consistent_empty.foldl (fun _ consistent edit => consistent.apply edit) edits

/-- Whatever was done to a graph, its index leads a function exactly to the one node that carries
it, its edges connect nodes that are there and are counted in the order in which they came, and
without index and counts it is the graph of this history. However the store gives the edges back,
the calls of a node are the edges of the journal that still stand, in the order of their entries and
one for each; a purge keeps them and appends what it rewires. -/
theorem representation_ofEdits (edits : List Edit) :
    let g := ofEdits edits
    let calls := standing (journal edits)
    (∀ f i, g.find? f = some i ↔ ∃ node, g.node? i = some node ∧ node.function = f) ∧
      (∀ i j first second, g.node? i = some first → g.node? j = some second →
        first.function = second.function → i = j) ∧
      (∀ e ∈ g.edges, g.isLive e.call.caller = true ∧ g.isLive e.call.callee = true) ∧
      (g.edges.Pairwise fun newer older => older.order < newer.order) ∧
      (∀ e ∈ g.edges, e.order < g.nextOrder) ∧
      (g.plain = CallGraph.ofEdits edits ∧ CallGraph.empty.replay (journal edits) = g.plain) ∧
      g.edges.reverse.map Edge.call = calls ∧
      (∀ stored, stored.Perm g.edges → ∀ u,
        { g with edges := stored }.callees u =
            (calls.filter fun e => e.caller == u).map CallGraph.Edge.callee ∧
          { g with edges := stored }.callers u =
            (calls.filter fun e => e.callee == u).map CallGraph.Edge.caller) ∧
      g.purge.edges.reverse.map Edge.call =
        (calls.filter fun e =>
          decide (e.caller ∉ g.syntheticNumbers ∧ e.callee ∉ g.syntheticNumbers)) ++
          standing (Edit.purge.entries g.plain) ∧
      ∀ u v, (g.callees u).count v = (g.callers v).count u := by
  obtain ⟨consistent, same⟩ := consistent_ofEdits edits
  have wf := consistent.wellFormed
  have all : (ofEdits edits).plain.edges.toList = standing (journal edits) :=
    same ▸ CallGraph.toList_edges_ofEdits edits
  have stands : (ofEdits edits).edges.reverse.map Edge.call = standing (journal edits) :=
    (toList_edges_plain _).symm.trans all
  refine ⟨consistent.indexed, ?_, ?_, consistent.ordered, consistent.counted,
    ⟨same, (CallGraph.recorded_journal edits).replayed.trans same.symm⟩, stands, ?_, ?_, ?_⟩
  · intro i j first second atFirst atSecond equal
    exact wf.distinct atFirst atSecond equal
  · intro e member
    refine wf.linked e.call (Array.mem_toList_iff.1 ?_)
    rw [toList_edges_plain]
    exact List.mem_map_of_mem (List.mem_reverse.2 member)
  · intro stored perm u
    rw [callees, callers, outgoing, incoming, ← all]
    exact ⟨congrArg _ (consistent.sortedEdges_filter perm fun e => e.caller == u),
      congrArg _ (consistent.sortedEdges_filter perm fun e => e.callee == u)⟩
  · rw [← toList_edges_plain, consistent.purge.2, wf.toList_edges_purge, all,
      syntheticNumbers_plain]
  · intro u v
    rw [callees, callers, consistent.outgoing_plain, consistent.incoming_plain]
    exact CallGraph.count_callees (ofEdits edits).plain u v

end TestReach.IndexedGraph
