import TestReach.Proofs.Graph.Nodes
import Mathlib.Logic.Relation

/-!
# Purging keeps what calls lead to

A node is taken out by leading each call to it on to each of its callees. One such step neither
loses nor invents a path through synthetic nodes between other nodes, nor the line that the path
begins with; so the order of the steps does not matter, and an edge of the purged graph is a path
of the graph before.
-/

namespace TestReach.CallGraph

variable {g : CallGraph}

theorem mem_detours {i : Nat} {e : Edge} :
    e ∈ g.detours i ↔ e.caller ≠ i ∧ e.callee ≠ i ∧ ⟨e.caller, i, e.line⟩ ∈ g.edges ∧
      ∃ line, ⟨i, e.callee, line⟩ ∈ g.edges := by
  obtain ⟨caller, callee, line⟩ := e
  simp only [detours, List.mem_flatMap, CallGraph.incoming, CallGraph.outgoing, List.mem_filter,
    Array.mem_toList_iff, beq_iff_eq]
  constructor
  · rintro ⟨⟨_, _, _⟩, ⟨call, rfl⟩, member⟩
    split at member
    · cases member
    · rename_i other
      simp only [List.mem_map, List.mem_filter, Array.mem_toList_iff, beq_iff_eq, bne_iff_ne,
        Edge.mk.injEq] at member
      obtain ⟨⟨_, _, next⟩, ⟨⟨edge, rfl⟩, away⟩, rfl, rfl, rfl⟩ := member
      exact ⟨other, away, call, next, edge⟩
  · rintro ⟨other, away, call, next, edge⟩
    refine ⟨⟨caller, i, line⟩, ⟨call, rfl⟩, ?_⟩
    rw [if_neg other]
    simp only [List.mem_map, List.mem_filter, Array.mem_toList_iff, beq_iff_eq, bne_iff_ne]
    exact ⟨⟨i, callee, next⟩, ⟨⟨edge, rfl⟩, away⟩, rfl⟩

theorem WellFormed.isLive_of_mem_detours (wf : g.WellFormed) {i : Nat} {e : Edge}
    (member : e ∈ g.detours i) : g.isLive e.caller = true ∧ g.isLive e.callee = true := by
  obtain ⟨-, -, call, _, next⟩ := mem_detours.1 member
  exact ⟨(wf.linked _ call).1, (wf.linked _ next).2⟩

theorem connectAll (edges : List Edge) (wf : g.WellFormed)
    (live : ∀ e ∈ edges, g.isLive e.caller = true ∧ g.isLive e.callee = true) :
    let after := edges.foldl (fun g e => g.connect e.caller e.callee e.line) g
    after.WellFormed ∧ (∀ i, after.node? i = g.node? i) ∧
      after.edges.toList = g.edges.toList ++ edges := by
  induction edges generalizing g with
  | nil => exact ⟨wf, fun _ => rfl, by simp⟩
  | cons e edges ih =>
    have ends := live e (by simp)
    have rest : ∀ other ∈ edges, (g.connect e.caller e.callee e.line).isLive other.caller = true ∧
        (g.connect e.caller e.callee e.line).isLive other.callee = true := by
      intro other member
      simpa using live other (by simp [member])
    obtain ⟨kept, nodes, all⟩ := ih (wf.connect e.caller e.callee e.line) rest
    refine ⟨kept, ?_, ?_⟩
    · intro i
      rw [List.foldl_cons, nodes, node?_connect]
    · rw [List.foldl_cons, all, toList_edges_connect ends.1 ends.2]
      simp

theorem WellFormed.eliminate (wf : g.WellFormed) (i : Nat) : (g.eliminate i).WellFormed :=
  (connectAll (g.detours i) wf fun _ => wf.isLive_of_mem_detours).1.remove i

theorem WellFormed.node?_eliminate (wf : g.WellFormed) (i j : Nat) :
    (g.eliminate i).node? j = if j = i then none else g.node? j := by
  rw [CallGraph.eliminate, node?_remove,
    (connectAll (g.detours i) wf fun _ => wf.isLive_of_mem_detours).2.1]

theorem WellFormed.toList_edges_eliminate (wf : g.WellFormed) (i : Nat) :
    (g.eliminate i).edges.toList =
      (g.edges.toList.filter fun e => e.caller != i && e.callee != i) ++ g.detours i := by
  obtain ⟨kept, -, all⟩ := connectAll (g.detours i) wf fun _ => wf.isLive_of_mem_detours
  rw [CallGraph.eliminate, kept.toList_edges_remove, all, List.filter_append]
  congr 1
  rw [List.filter_eq_self]
  intro e member
  obtain ⟨caller, callee, -, -⟩ := mem_detours.1 member
  simp [caller, callee]

theorem WellFormed.mem_edges_eliminate (wf : g.WellFormed) {i : Nat} {e : Edge} :
    e ∈ (g.eliminate i).edges ↔ e.caller ≠ i ∧ e.callee ≠ i ∧
      (e ∈ g.edges ∨ ⟨e.caller, i, e.line⟩ ∈ g.edges ∧ ∃ line, ⟨i, e.callee, line⟩ ∈ g.edges) := by
  rw [← Array.mem_toList_iff, wf.toList_edges_eliminate, List.mem_append, mem_detours,
    List.mem_filter, Array.mem_toList_iff, Bool.and_eq_true, bne_iff_ne, bne_iff_ne]
  tauto

theorem WellFormed.isSynthetic_eliminate (wf : g.WellFormed) {i j : Nat} :
    (g.eliminate i).isSynthetic j ↔ j ≠ i ∧ g.isSynthetic j := by
  rw [isSynthetic, wf.node?_eliminate]
  by_cases same : j = i <;> simp [isSynthetic, same]

-- A path that comes to the node is left one call earlier and taken up again behind it.
theorem LeadsTo.of_eliminate (wf : g.WellFormed) {i : Nat} (synthetic : g.isSynthetic i)
    {caller callee line : Nat} (path : (g.eliminate i).LeadsTo caller callee line) :
    g.LeadsTo caller callee line := by
  induction path with
  | direct edge =>
    obtain ⟨-, -, edge | ⟨call, _, next⟩⟩ := wf.mem_edges_eliminate.1 edge
    · exact .direct edge
    · exact .through call synthetic (.direct next)
  | through edge between rest ih =>
    have before := (wf.isSynthetic_eliminate.1 between).2
    obtain ⟨-, -, edge | ⟨call, _, next⟩⟩ := wf.mem_edges_eliminate.1 edge
    · exact .through edge before ih
    · exact .through call synthetic (.through next before ih)

theorem LeadsTo.eliminate_aux (wf : g.WellFormed) {i : Nat} {caller callee line : Nat}
    (path : g.LeadsTo caller callee line) (away : callee ≠ i) :
    (caller ≠ i → (g.eliminate i).LeadsTo caller callee line) ∧
      (caller = i → ∀ other first : Nat, other ≠ i → ⟨other, i, first⟩ ∈ g.edges →
        (g.eliminate i).LeadsTo other callee first) := by
  -- Both parts at once: a path that goes on to the node itself needs the second part behind it.
  induction path with
  | direct edge =>
    constructor
    · intro different
      exact .direct (wf.mem_edges_eliminate.2 ⟨different, away, .inl edge⟩)
    · rintro rfl other first different call
      exact .direct (wf.mem_edges_eliminate.2 ⟨different, away, .inr ⟨call, _, edge⟩⟩)
  | @through caller between callee line next edge synthetic rest ih =>
    obtain ⟨around, onward⟩ := ih away
    by_cases here : between = i
    · subst here
      constructor
      · intro different
        exact onward rfl caller line different edge
      · rintro rfl other first different call
        exact onward rfl other first different call
    · have stays := wf.isSynthetic_eliminate.2 ⟨here, synthetic⟩
      constructor
      · intro different
        have kept := wf.mem_edges_eliminate.2 ⟨different, here, .inl edge⟩
        exact .through kept stays (around here)
      · rintro rfl other first different call
        have detour : (⟨other, between, first⟩ : Edge) ∈ (g.eliminate caller).edges :=
          wf.mem_edges_eliminate.2 ⟨different, here, .inr ⟨call, line, edge⟩⟩
        exact .through detour stays (around here)

theorem WellFormed.leadsTo_eliminate_iff (wf : g.WellFormed) {i : Nat}
    (synthetic : g.isSynthetic i) {caller callee line : Nat} (first : caller ≠ i)
    (last : callee ≠ i) :
    (g.eliminate i).LeadsTo caller callee line ↔ g.LeadsTo caller callee line :=
  ⟨fun path => path.of_eliminate wf synthetic, fun path => (path.eliminate_aux wf last).1 first⟩

theorem WellFormed.eliminateAll (wf : g.WellFormed) {nodes : List Nat} (distinct : nodes.Nodup)
    (synthetic : ∀ i ∈ nodes, g.isSynthetic i) :
    let after := nodes.foldl CallGraph.eliminate g
    after.WellFormed ∧ (∀ j, after.node? j = if j ∈ nodes then none else g.node? j) ∧
      ∀ caller callee line, caller ∉ nodes → callee ∉ nodes →
        (after.LeadsTo caller callee line ↔ g.LeadsTo caller callee line) := by
  -- Every node of the list is synthetic, and taken out once.
  induction nodes generalizing g with
  | nil => exact ⟨wf, by simp, fun _ _ _ _ _ => Iff.rfl⟩
  | cons i nodes ih =>
    rw [List.nodup_cons] at distinct
    have rest : ∀ j ∈ nodes, (g.eliminate i).isSynthetic j := by
      intro j member
      have different : j ≠ i := fun same => distinct.1 (same ▸ member)
      exact wf.isSynthetic_eliminate.2 ⟨different, synthetic j (by simp [member])⟩
    obtain ⟨kept, gone, paths⟩ := ih (wf.eliminate i) distinct.2 rest
    refine ⟨kept, ?_, ?_⟩
    · intro j
      rw [List.foldl_cons, gone, wf.node?_eliminate]
      by_cases same : j = i <;> simp [same]
    · intro caller callee line first last
      rw [List.mem_cons, not_or] at first last
      rw [List.foldl_cons, paths caller callee line first.2 last.2,
        wf.leadsTo_eliminate_iff (synthetic i (by simp)) first.1 last.1]

theorem WellFormed.eliminateSynthetic (wf : g.WellFormed) :
    g.purge.WellFormed ∧
      (∀ j, g.purge.node? j = if j ∈ g.syntheticNumbers then none else g.node? j) ∧
      ∀ caller callee line, caller ∉ g.syntheticNumbers → callee ∉ g.syntheticNumbers →
        (g.purge.LeadsTo caller callee line ↔ g.LeadsTo caller callee line) :=
  wf.eliminateAll ((nodup_numbers g).filter _) fun _ => mem_syntheticNumbers.1

theorem WellFormed.purge (wf : g.WellFormed) : g.purge.WellFormed := wf.eliminateSynthetic.1

theorem WellFormed.node?_purge (wf : g.WellFormed) (i : Nat) :
    g.purge.node? i = (g.node? i).filter fun node => !node.synthetic := by
  rw [wf.eliminateSynthetic.2.1]
  cases found : g.node? i with
  | none => simp
  | some node =>
    cases synthetic : node.synthetic <;>
      simp [mem_syntheticNumbers, isSynthetic, found, synthetic, Option.filter]

def isReal (g : CallGraph) (i : Nat) : Prop := (g.node? i).map Node.synthetic = some false

theorem isReal_iff {i : Nat} : g.isReal i ↔ g.isLive i = true ∧ ¬ g.isSynthetic i := by
  rw [isReal, isSynthetic, isLive]
  cases g.node? i <;> simp

theorem WellFormed.isLive_purge (wf : g.WellFormed) {i : Nat} :
    g.purge.isLive i = true ↔ g.isReal i := by
  rw [isLive, wf.node?_purge, isReal]
  cases g.node? i with
  | none => simp
  | some node => cases synthetic : node.synthetic <;> simp [synthetic, Option.filter]

theorem WellFormed.not_isSynthetic_purge (wf : g.WellFormed) (i : Nat) :
    ¬ g.purge.isSynthetic i := by
  rw [isSynthetic, wf.node?_purge]
  cases g.node? i with
  | none => simp
  | some node => cases synthetic : node.synthetic <;> simp [synthetic, Option.filter]

theorem WellFormed.mem_edges_purge (wf : g.WellFormed) {caller callee line : Nat} :
    ⟨caller, callee, line⟩ ∈ g.purge.edges ↔
      g.isReal caller ∧ g.isReal callee ∧ g.LeadsTo caller callee line := by
  have paths (first : g.isReal caller) (last : g.isReal callee) :
      g.purge.LeadsTo caller callee line ↔ g.LeadsTo caller callee line := by
    apply wf.eliminateSynthetic.2.2
    · rw [mem_syntheticNumbers]
      exact (isReal_iff.1 first).2
    · rw [mem_syntheticNumbers]
      exact (isReal_iff.1 last).2
  constructor
  · intro edge
    have ends := wf.purge.linked _ edge
    have first := wf.isLive_purge.1 ends.1
    have last := wf.isLive_purge.1 ends.2
    exact ⟨first, last, (paths first last).1 (.direct edge)⟩
  · rintro ⟨first, last, path⟩
    cases (paths first last).2 path with
    | direct edge => exact edge
    | through edge synthetic rest => exact absurd synthetic (wf.not_isSynthetic_purge _)

theorem WellFormed.length_numbers_purge (wf : g.WellFormed) :
    g.purge.numbers.length + g.syntheticNumbers.length = g.numbers.length := by
  have remaining : g.purge.numbers.Perm (g.numbers.filter fun i =>
      !((g.node? i).map Node.synthetic).getD false) := by
    rw [List.perm_ext_iff_of_nodup (nodup_numbers _) ((nodup_numbers g).filter _)]
    intro i
    rw [mem_numbers, wf.isLive_purge, List.mem_filter, mem_numbers, isReal, isLive]
    cases g.node? i <;> simp
  rw [remaining.length_eq, syntheticNumbers, Nat.add_comm, ← List.length_append]
  exact (List.filter_append_perm _ _).length_eq

def Calls (g : CallGraph) (caller callee : Nat) : Prop :=
  ∃ line, ⟨caller, callee, line⟩ ∈ g.edges

theorem LeadsTo.calls {caller callee line : Nat} (path : g.LeadsTo caller callee line) :
    Relation.TransGen g.Calls caller callee := by
  induction path with
  | direct edge => exact .single ⟨_, edge⟩
  | through edge _ _ ih => exact .head ⟨_, edge⟩ ih

theorem WellFormed.leadsTo_of_calls (wf : g.WellFormed) {caller callee : Nat}
    (path : Relation.TransGen g.Calls caller callee) (last : g.isReal callee) :
    ∃ first line, g.isReal first ∧ g.LeadsTo caller first line ∧
      Relation.ReflTransGen g.purge.Calls first callee := by
  -- The path is cut at its first real node. Calls are added in front, since `LeadsTo` keeps the
  -- line of its first call.
  induction path using Relation.TransGen.head_induction_on with
  | single call =>
    obtain ⟨line, edge⟩ := call
    exact ⟨callee, line, last, .direct edge, .refl⟩
  | @head caller between call _ ih =>
    obtain ⟨line, edge⟩ := call
    obtain ⟨first, next, real, leads, rest⟩ := ih
    by_cases synthetic : g.isSynthetic between
    · exact ⟨first, line, real, .through edge synthetic leads, rest⟩
    · have here : g.isReal between := isReal_iff.2 ⟨(wf.linked _ edge).2, synthetic⟩
      have kept : g.purge.Calls between first := ⟨next, wf.mem_edges_purge.2 ⟨here, real, leads⟩⟩
      exact ⟨between, line, here, .direct edge, .head kept rest⟩

theorem WellFormed.transGen_purge_iff (wf : g.WellFormed) {caller callee : Nat}
    (first : g.isReal caller) (last : g.isReal callee) :
    Relation.TransGen g.purge.Calls caller callee ↔ Relation.TransGen g.Calls caller callee := by
  constructor
  · intro path
    induction path with
    | single call =>
      obtain ⟨line, edge⟩ := call
      exact (wf.mem_edges_purge.1 edge).2.2.calls
    | @tail between callee _ call ih =>
      obtain ⟨line, edge⟩ := call
      obtain ⟨here, -, leads⟩ := wf.mem_edges_purge.1 edge
      exact (ih here).trans leads.calls
  · intro path
    obtain ⟨next, line, real, leads, rest⟩ := wf.leadsTo_of_calls path last
    exact .head' ⟨line, wf.mem_edges_purge.2 ⟨first, real, leads⟩⟩ rest

theorem Edit.wellFormed_apply (wf : g.WellFormed) (edit : Edit) : (edit.apply g).WellFormed := by
  cases edit with
  | function f => exact wf.add f false
  | synthetic f => exact wf.add f true
  | edge caller callee line => exact wf.connect caller callee line
  | purge => exact wf.purge

theorem wellFormed_ofEdits (edits : List Edit) : (ofEdits edits).WellFormed := by
  have kept (g : CallGraph) (wf : g.WellFormed) : (edits.foldl Edit.apply g).WellFormed := by
    induction edits generalizing g with
    | nil => exact wf
    | cons edit edits ih => exact ih _ (edit.wellFormed_apply wf)
  exact kept empty wellFormed_empty

/-- Whatever was done to a graph, purging it leaves the other nodes as they are, counts what it
removes, and has an edge exactly where a path led through synthetic nodes alone. -/
theorem deleteSynthetic_ofEdits (edits : List Edit) :
    let g := ofEdits edits
    let (purged, removed) := g.deleteSynthetic
    (∀ i, purged.node? i = (g.node? i).filter fun node => !node.synthetic) ∧
      purged.numbers.length + removed = g.numbers.length ∧
      (∀ caller callee line, ⟨caller, callee, line⟩ ∈ purged.edges ↔
        g.isReal caller ∧ g.isReal callee ∧ g.LeadsTo caller callee line) ∧
      ∀ caller callee, g.isReal caller → g.isReal callee →
        (Relation.TransGen purged.Calls caller callee ↔
          Relation.TransGen g.Calls caller callee) := by
  have wf : (ofEdits edits).WellFormed := wellFormed_ofEdits edits
  refine ⟨wf.node?_purge, wf.length_numbers_purge, ?_, ?_⟩
  · intro caller callee line
    exact wf.mem_edges_purge
  · intro caller callee first last
    exact wf.transGen_purge_iff first last

end TestReach.CallGraph
