import TestReach.Proofs.Graph.Elimination

/-!
# What a purge makes of each edge

Where synthetic nodes lead to real ones alone, a purge can be told edge by edge: a call to a
synthetic node becomes one call to each of its callees, any other call stays. Unlike the paths of a
purge this counts: two calls that lead to one callee remain two.
-/

namespace TestReach.CallGraph

variable {g : CallGraph}

instance (g : CallGraph) : DecidablePred g.isSynthetic := fun _ =>
  inferInstanceAs (Decidable (_ = _))

/-- Synthetic nodes lead to real ones alone. -/
def Flat (g : CallGraph) : Prop :=
  ∀ e ∈ g.edges, g.isSynthetic e.caller → ¬ g.isSynthetic e.callee

def expand (g : CallGraph) (e : Edge) : List Edge :=
  if g.isSynthetic e.callee then
    (g.outgoing e.callee).map fun next => ⟨e.caller, next.callee, e.line⟩
  else [e]

def expansion (g : CallGraph) : List Edge :=
  (g.edges.toList.filter fun e => !decide (g.isSynthetic e.caller)).flatMap g.expand

theorem mem_outgoing {i : Nat} {e : Edge} : e ∈ g.outgoing i ↔ e ∈ g.edges ∧ e.caller = i := by
  simp [outgoing]

theorem mem_incoming {i : Nat} {e : Edge} : e ∈ g.incoming i ↔ e ∈ g.edges ∧ e.callee = i := by
  simp [incoming]

theorem Flat.real_caller (flat : g.Flat) {i : Nat} (synthetic : g.isSynthetic i) {e : Edge}
    (member : e ∈ g.edges) (call : e.callee = i) : ¬ g.isSynthetic e.caller := by
  intro caller
  exact flat e member caller (call ▸ synthetic)

theorem Flat.detours_eq (flat : g.Flat) {i : Nat} (synthetic : g.isSynthetic i) :
    g.detours i = (g.incoming i).flatMap g.expand := by
  -- No call to a synthetic node comes from one, so all detours are led on.
  apply List.flatMap_congr
  intro call member
  obtain ⟨edge, rfl⟩ := mem_incoming.1 member
  have other : call.caller ≠ call.callee := by
    intro same
    exact flat.real_caller synthetic edge rfl (same ▸ synthetic)
  have away : (g.outgoing call.callee).filter (fun e => e.callee != call.callee) =
      g.outgoing call.callee := by
    rw [List.filter_eq_self]
    intro next onward
    obtain ⟨edge, same⟩ := mem_outgoing.1 onward
    have real := flat next edge (same ▸ synthetic)
    rw [bne_iff_ne]
    intro loop
    exact real (loop ▸ synthetic)
  simp [expand, synthetic, other, away]

theorem Flat.eliminate (flat : g.Flat) (wf : g.WellFormed) {i : Nat}
    (synthetic : g.isSynthetic i) : (g.eliminate i).Flat := by
  intro e member caller callee
  rw [wf.isSynthetic_eliminate] at caller callee
  obtain ⟨-, -, edge | ⟨call, -⟩⟩ := wf.mem_edges_eliminate.1 member
  · exact flat e edge caller.2 callee.2
  · exact flat.real_caller synthetic call rfl caller.2

theorem Flat.outgoing_eliminate (flat : g.Flat) (wf : g.WellFormed) {i s : Nat}
    (synthetic : g.isSynthetic i) (other : g.isSynthetic s) (different : s ≠ i) :
    (g.eliminate i).outgoing s = g.outgoing s := by
  have none_added : (g.detours i).filter (fun e => e.caller == s) = [] := by
    rw [List.filter_eq_nil_iff]
    intro e member same
    obtain ⟨-, -, call, -⟩ := mem_detours.1 member
    exact flat.real_caller synthetic call rfl (beq_iff_eq.1 same ▸ other)
  rw [outgoing, wf.toList_edges_eliminate, List.filter_append, none_added, List.append_nil,
    List.filter_filter, outgoing]
  apply List.filter_congr
  intro e member
  by_cases same : e.caller = s
  · have away : e.callee ≠ i := by
      intro loop
      exact flat.real_caller synthetic (Array.mem_toList_iff.1 member) loop (same ▸ other)
    simp [same, different, away]
  · simp [same]

theorem Flat.expand_eliminate (flat : g.Flat) (wf : g.WellFormed) {i : Nat}
    (synthetic : g.isSynthetic i) {e : Edge} (away : e.callee ≠ i) :
    (g.eliminate i).expand e = g.expand e := by
  unfold expand
  by_cases callee : g.isSynthetic e.callee
  · have stays := wf.isSynthetic_eliminate.2 ⟨away, callee⟩
    rw [if_pos callee, if_pos stays, flat.outgoing_eliminate wf synthetic callee away]
  · have real : ¬ (g.eliminate i).isSynthetic e.callee := fun stays =>
      callee (wf.isSynthetic_eliminate.1 stays).2
    rw [if_neg callee, if_neg real]

theorem Flat.expand_detours (flat : g.Flat) (wf : g.WellFormed) {i : Nat}
    (synthetic : g.isSynthetic i) : (g.detours i).flatMap (g.eliminate i).expand = g.detours i := by
  -- What is left of a call to a synthetic node goes to real nodes, so no later step changes it.
  have single (e : Edge) (member : e ∈ g.detours i) : (g.eliminate i).expand e = [e] := by
    obtain ⟨-, away, -, line, next⟩ := mem_detours.1 member
    have real : ¬ g.isSynthetic e.callee := flat ⟨i, e.callee, line⟩ next synthetic
    rw [flat.expand_eliminate wf synthetic away, expand, if_neg real]
  rw [List.flatMap_congr single, List.flatMap_singleton']

theorem Flat.expansion_eliminate (flat : g.Flat) (wf : g.WellFormed) {i : Nat}
    (synthetic : g.isSynthetic i) : (g.eliminate i).expansion.Perm g.expansion := by
  -- The step takes the calls to its node from among the others and puts what is left of them at the
  -- end.
  let real (e : Edge) : Bool := !decide (g.isSynthetic e.caller)
  let here (e : Edge) : Bool := e.callee == i
  have kept : (g.edges.toList.filter fun e => e.caller != i && e.callee != i).filter
      (fun e => !decide ((g.eliminate i).isSynthetic e.caller)) =
        (g.edges.toList.filter real).filter fun e => !here e := by
    rw [List.filter_filter, List.filter_filter]
    apply List.filter_congr
    intro e _
    simp only [wf.isSynthetic_eliminate, real, here]
    by_cases same : e.caller = i
    · simp [same, synthetic]
    · have different : (e.caller == i) = false := beq_false_of_ne same
      simp [same, different, bne, Bool.and_comm]
  have added : (g.detours i).filter (fun e => !decide ((g.eliminate i).isSynthetic e.caller)) =
      g.detours i := by
    rw [List.filter_eq_self]
    intro e member
    obtain ⟨-, -, call, -⟩ := mem_detours.1 member
    have caller := flat.real_caller synthetic call rfl
    simp [wf.isSynthetic_eliminate, caller]
  have calls : g.incoming i = (g.edges.toList.filter real).filter here := by
    rw [List.filter_filter, incoming]
    apply List.filter_congr
    intro e member
    by_cases same : e.callee = i
    · have caller := flat.real_caller synthetic (Array.mem_toList_iff.1 member) same
      simp [same, here, real, caller]
    · simp [same, here]
  have others : ((g.edges.toList.filter real).filter fun e => !here e).flatMap
      (g.eliminate i).expand =
        ((g.edges.toList.filter real).filter fun e => !here e).flatMap g.expand := by
    apply List.flatMap_congr
    intro e member
    have away := (List.mem_filter.1 member).2
    exact flat.expand_eliminate wf synthetic (by simpa [here] using away)
  rw [expansion, wf.toList_edges_eliminate, List.filter_append, kept, added, List.flatMap_append,
    flat.expand_detours wf synthetic, others, flat.detours_eq synthetic, calls,
    ← List.flatMap_append]
  exact (List.perm_append_comm.trans (List.filter_append_perm here _)).flatMap_right g.expand

theorem Flat.expansion_eliminateAll (flat : g.Flat) (wf : g.WellFormed) {nodes : List Nat}
    (distinct : nodes.Nodup) (synthetic : ∀ i ∈ nodes, g.isSynthetic i) :
    (nodes.foldl CallGraph.eliminate g).expansion.Perm g.expansion := by
  induction nodes generalizing g with
  | nil => exact .refl _
  | cons i nodes ih =>
    rw [List.nodup_cons] at distinct
    -- The nodes still to be taken out stay synthetic, as each of them is another node.
    have first := synthetic i (by simp)
    have rest : ∀ j ∈ nodes, (g.eliminate i).isSynthetic j := by
      intro j member
      have different : j ≠ i := fun same => distinct.1 (same ▸ member)
      exact wf.isSynthetic_eliminate.2 ⟨different, synthetic j (by simp [member])⟩
    have onward := ih (flat.eliminate wf first) (wf.eliminate i) distinct.2 rest
    exact onward.trans (flat.expansion_eliminate wf first)

theorem Flat.toList_edges_purge_perm (flat : g.Flat) (wf : g.WellFormed) :
    g.purge.edges.toList.Perm g.expansion := by
  have whole : g.purge.expansion = g.purge.edges.toList := by
    have single (e : Edge) : g.purge.expand e = [e] := by
      rw [expand, if_neg (wf.not_isSynthetic_purge _)]
    have all : (g.purge.edges.toList.filter fun e => !decide (g.purge.isSynthetic e.caller)) =
        g.purge.edges.toList := by
      rw [List.filter_eq_self]
      intro e _
      simp [wf.not_isSynthetic_purge]
    rw [expansion, all, List.flatMap_congr fun e _ => single e, List.flatMap_singleton']
  rw [← whole]
  exact flat.expansion_eliminateAll wf ((nodup_numbers g).filter _) fun _ => mem_syntheticNumbers.1

theorem expansion_extend {after : CallGraph} {more : List Edge} (wf : g.WellFormed)
    (nodes : ∀ i, g.isLive i = true → after.node? i = g.node? i)
    (edges : after.edges.toList = g.edges.toList ++ more)
    (fresh : ∀ e ∈ more, g.isLive e.caller = false ∧ after.isSynthetic e.caller) :
    after.expansion = g.expansion := by
  have same (i : Nat) (live : g.isLive i = true) : after.isSynthetic i ↔ g.isSynthetic i := by
    rw [isSynthetic, isSynthetic, nodes i live]
  have old (i : Nat) (live : g.isLive i = true) : after.outgoing i = g.outgoing i := by
    have none_added : more.filter (fun e => e.caller == i) = [] := by
      rw [List.filter_eq_nil_iff]
      intro e member here
      have dead := (fresh e member).1
      rw [beq_iff_eq.1 here, live] at dead
      cases dead
    rw [outgoing, edges, List.filter_append, none_added, List.append_nil, outgoing]
  have real : (after.edges.toList.filter fun e => !decide (after.isSynthetic e.caller)) =
      g.edges.toList.filter fun e => !decide (g.isSynthetic e.caller) := by
    have none_added : (more.filter fun e => !decide (after.isSynthetic e.caller)) = [] := by
      rw [List.filter_eq_nil_iff]
      intro e member
      simp [(fresh e member).2]
    rw [edges, List.filter_append, none_added, List.append_nil]
    apply List.filter_congr
    intro e member
    have ends := wf.linked e (Array.mem_toList_iff.1 member)
    simp [same e.caller ends.1]
  rw [expansion, expansion, real]
  apply List.flatMap_congr
  intro e member
  have ends := wf.linked e (Array.mem_toList_iff.1 (List.mem_filter.1 member).1)
  simp only [expand, same e.callee ends.2, old e.callee ends.2]

theorem isSynthetic_connect {caller callee line i : Nat} :
    (g.connect caller callee line).isSynthetic i ↔ g.isSynthetic i := by
  rw [isSynthetic, isSynthetic, node?_connect]

theorem outgoing_connect {caller callee : Nat} (first : g.isLive caller = true)
    (second : g.isLive callee = true) (line i : Nat) :
    (g.connect caller callee line).outgoing i =
      g.outgoing i ++ if caller = i then [⟨caller, callee, line⟩] else [] := by
  rw [outgoing, toList_edges_connect first second, List.filter_append, outgoing]
  by_cases same : caller = i <;> simp [same]

theorem expansion_connect {caller callee : Nat} (first : g.isLive caller = true)
    (second : g.isLive callee = true) (real : ¬ g.isSynthetic caller) (line : Nat) :
    (g.connect caller callee line).expansion =
      g.expansion ++ g.expand ⟨caller, callee, line⟩ := by
  have same (e : Edge) : (g.connect caller callee line).expand e = g.expand e := by
    unfold expand
    by_cases synthetic : g.isSynthetic e.callee
    · have different : caller ≠ e.callee := fun same => real (same ▸ synthetic)
      rw [if_pos synthetic, if_pos (isSynthetic_connect.2 synthetic),
        outgoing_connect first second, if_neg different, List.append_nil]
    · rw [if_neg synthetic, if_neg (mt isSynthetic_connect.1 synthetic)]
  rw [expansion, toList_edges_connect first second, List.flatMap_congr fun e _ => same e,
    List.filter_append, List.flatMap_append, expansion]
  simp [isSynthetic_connect, real]

end TestReach.CallGraph
