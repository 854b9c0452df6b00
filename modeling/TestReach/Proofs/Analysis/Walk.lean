import TestReach.Proofs.Analysis.Verdicts
import Mathlib.Data.List.Nodup
import Mathlib.Order.Lattice.Nat

/-!
# The walk from a root

The walk visits the nodes of a module breadth first. Its queue is read with the lengths of the paths
that put the nodes into it: these never fall along the queue and never differ by more than one, so
the length with which a node is taken out for the first time is its distance from the root.
-/

namespace TestReach.Dataset

variable {dataset : Dataset} {answers : String → Except Failure (Option String)} {module : String}
  {root : Nat}

def Stays (dataset : Dataset) (answers : String → Except Failure (Option String)) (module : String)
    (i : Nat) : Prop :=
  ∃ node, dataset.graph.node? i = some node ∧ node.function.isBuiltIn = false ∧
    answers node.function.package = .ok (some module)

def Unresolved (dataset : Dataset) (answers : String → Except Failure (Option String)) (i : Nat)
    (e : Failure) : Prop :=
  ∃ node, dataset.graph.node? i = some node ∧ node.function.isBuiltIn = false ∧
    answers node.function.package = .error e

inductive Path (dataset : Dataset) (answers : String → Except Failure (Option String))
    (module : String) (root : Nat) : Nat → Nat → Prop
  | root (stays : dataset.Stays answers module root) : Path dataset answers module root 0 root
  | call {length caller callee : Nat} (path : Path dataset answers module root length caller)
    (call : callee ∈ dataset.graph.callees caller) (stays : dataset.Stays answers module callee) :
    Path dataset answers module root (length + 1) callee

noncomputable def distance (dataset : Dataset) (answers : String → Except Failure (Option String))
    (module : String) (root i : Nat) : Nat :=
  sInf {length | dataset.Path answers module root length i}

theorem Path.stays {length i : Nat} (path : dataset.Path answers module root length i) :
    dataset.Stays answers module i := by
  cases path with
  | root stays => exact stays
  | call _ _ stays => exact stays

theorem Path.eq_root {i : Nat} (path : dataset.Path answers module root 0 i) : i = root := by
  cases path with
  | root => rfl

theorem distance_eq {length i : Nat} (path : dataset.Path answers module root length i)
    (least : ∀ other, dataset.Path answers module root other i → length ≤ other) :
    dataset.distance answers module root i = length :=
  le_antisymm (Nat.sInf_le path) (le_csInf ⟨length, path⟩ least)

theorem Path.distance {length i : Nat} (path : dataset.Path answers module root length i) :
    dataset.Path answers module root (dataset.distance answers module root i) i := by
  have nonempty : {length | dataset.Path answers module root length i}.Nonempty := ⟨length, path⟩
  exact Nat.sInf_mem nonempty

structure Frontier (dataset : Dataset) (answers : String → Except Failure (Option String))
    (module : String) (root level : Nat) (visited : List Nat) (queue emitted : List (Nat × Nat)) :
    Prop where
  path : ∀ e ∈ emitted, dataset.Path answers module root e.2 e.1
  least : ∀ e ∈ emitted, ∀ length, dataset.Path answers module root length e.1 → e.2 ≤ length
  order : emitted.Pairwise fun first second => first.2 ≤ second.2
  distinct : (emitted.map Prod.fst).Nodup
  behind : ∀ e ∈ emitted, e.1 ∈ visited ∧ e.2 ≤ level
  known : ∀ i ∈ visited, dataset.Stays answers module i → ∃ length, (i, length) ∈ emitted
  resolved : ∀ i ∈ visited, ∀ e, ¬ dataset.Unresolved answers i e
  waiting : ∀ q ∈ queue, dataset.Stays answers module q.1 →
    dataset.Path answers module root q.2 q.1
  origin : ∀ q ∈ queue, q.1 = root ∨ ∃ length caller,
    dataset.Path answers module root length caller ∧ q.1 ∈ dataset.graph.callees caller
  sorted : queue.Pairwise fun first second => first.2 ≤ second.2
  close : ∀ q ∈ queue, level ≤ q.2 ∧ q.2 ≤ level + 1
  closed : ∀ e ∈ emitted, ∀ callee ∈ dataset.graph.callees e.1,
    callee ∈ visited ∨ (callee, e.2 + 1) ∈ queue
  begun : root ∈ visited ∨ (root, 0) ∈ queue

variable {level length i : Nat} {visited : List Nat} {queue emitted : List (Nat × Nat)}

theorem frontier_start : Frontier dataset answers module root 0 [] [(root, 0)] [] := by
  constructor
  case waiting =>
    intro q member stays
    obtain rfl := List.mem_singleton.1 member
    exact .root stays
  case origin =>
    intro q member
    obtain rfl := List.mem_singleton.1 member
    exact .inl rfl
  all_goals simp

theorem eq_or_waiting {j n : Nat} (wait : (j, n) ∈ (i, length) :: queue) :
    j = i ∨ (j, n) ∈ queue := by
  rcases List.mem_cons.1 wait with same | wait
  · exact .inl (congrArg Prod.fst same)
  · exact .inr wait

namespace Frontier

theorem reaches (f : Frontier dataset answers module root level visited queue emitted)
    (path : dataset.Path answers module root length i) :
    i ∈ visited ∨ ∃ q ∈ queue, q.2 ≤ length := by
  -- Along the path: its last node was taken out, or a node of the path still waits.
  induction path with
  | root =>
    rcases f.begun with visit | wait
    · exact .inl visit
    · exact .inr ⟨_, wait, Nat.le_refl 0⟩
  | @call length caller callee path call _ ih =>
    rcases ih with visit | ⟨q, wait, near⟩
    · obtain ⟨shortest, member⟩ := f.known caller visit path.stays
      have bound := f.least _ member length path
      rcases f.closed _ member callee call with visit | wait
      · exact .inl visit
      · exact .inr ⟨_, wait, Nat.succ_le_succ bound⟩
    · exact .inr ⟨q, wait, Nat.le_succ_of_le near⟩

theorem least_of_head (f : Frontier dataset answers module root level visited
    ((i, length) :: queue) emitted) (fresh : i ∉ visited) (other : Nat)
    (path : dataset.Path answers module root other i) : length ≤ other := by
  rcases f.reaches path with visit | ⟨q, wait, near⟩
  · exact absurd visit fresh
  · rcases List.mem_cons.1 wait with rfl | wait
    · exact near
    · exact Nat.le_trans ((List.pairwise_cons.1 f.sorted).1 q wait) near

theorem pass (f : Frontier dataset answers module root level visited ((i, length) :: queue) emitted)
    (more : List Nat) (grown : ∀ j, j ∈ more ↔ j = i ∨ j ∈ visited)
    (known : dataset.Stays answers module i → i ∈ visited)
    (resolved : ∀ e, ¬ dataset.Unresolved answers i e) :
    Frontier dataset answers module root length more queue emitted := by
  have near := f.close (i, length) (by simp)
  have rest := List.pairwise_cons.1 f.sorted
  constructor
  case path => exact f.path
  case least => exact f.least
  case order => exact f.order
  case distinct => exact f.distinct
  case behind =>
    intro e member
    have before := f.behind e member
    exact ⟨(grown e.1).2 (.inr before.1), Nat.le_trans before.2 near.1⟩
  case known =>
    intro j member stays
    rcases (grown j).1 member with rfl | member
    · exact f.known j (known stays) stays
    · exact f.known j member stays
  case resolved =>
    intro j member
    rcases (grown j).1 member with rfl | member
    · exact resolved
    · exact f.resolved j member
  case waiting => exact fun q member => f.waiting q (by simp [member])
  case origin => exact fun q member => f.origin q (by simp [member])
  case sorted => exact rest.2
  case close =>
    intro q member
    have bound := f.close q (by simp [member])
    exact ⟨rest.1 q member, by omega⟩
  case closed =>
    intro e member callee call
    rcases f.closed e member callee call with visit | wait
    · exact .inl ((grown callee).2 (.inr visit))
    · rcases eq_or_waiting wait with same | wait
      · exact .inl ((grown callee).2 (.inl same))
      · exact .inr wait
  case begun =>
    rcases f.begun with visit | wait
    · exact .inl ((grown root).2 (.inr visit))
    · rcases eq_or_waiting wait with same | wait
      · exact .inl ((grown root).2 (.inl same))
      · exact .inr wait

theorem emit (f : Frontier dataset answers module root level visited ((i, length) :: queue) emitted)
    (fresh : i ∉ visited) (stays : dataset.Stays answers module i) :
    Frontier dataset answers module root length (i :: visited)
      (queue ++ ((dataset.graph.callees i).filter fun callee =>
        !(i :: visited).contains callee).map (·, length + 1))
      (emitted ++ [(i, length)]) := by
  have near := f.close (i, length) (by simp)
  have rest := List.pairwise_cons.1 f.sorted
  have path := f.waiting (i, length) (by simp) stays
  have new {q : Nat × Nat} (member : q ∈ ((dataset.graph.callees i).filter fun callee =>
      !(i :: visited).contains callee).map (·, length + 1)) :
      q.1 ∈ dataset.graph.callees i ∧ q.2 = length + 1 := by
    obtain ⟨callee, call, rfl⟩ := List.mem_map.1 member
    exact ⟨(List.mem_filter.1 call).1, rfl⟩
  constructor
  case path =>
    intro e member
    rcases List.mem_append.1 member with member | member
    · exact f.path e member
    · obtain rfl := List.mem_singleton.1 member
      exact path
  case least =>
    intro e member
    rcases List.mem_append.1 member with member | member
    · exact f.least e member
    · obtain rfl := List.mem_singleton.1 member
      exact f.least_of_head fresh
  case order =>
    refine List.pairwise_append.2 ⟨f.order, List.pairwise_singleton _ _, ?_⟩
    intro e member last same
    obtain rfl := List.mem_singleton.1 same
    exact Nat.le_trans (f.behind e member).2 near.1
  case distinct =>
    rw [List.map_append, List.nodup_append]
    refine ⟨f.distinct, by simp, ?_⟩
    rintro j before _ last rfl
    obtain ⟨e, member, rfl⟩ := List.mem_map.1 before
    have same : e.1 = i := by simpa using last
    exact fresh (same ▸ (f.behind e member).1)
  case behind =>
    intro e member
    rcases List.mem_append.1 member with member | member
    · have before := f.behind e member
      exact ⟨List.mem_cons_of_mem _ before.1, Nat.le_trans before.2 near.1⟩
    · obtain rfl := List.mem_singleton.1 member
      exact ⟨by simp, Nat.le_refl _⟩
  case known =>
    intro j member staying
    rcases List.mem_cons.1 member with rfl | member
    · exact ⟨length, by simp⟩
    · obtain ⟨shortest, found⟩ := f.known j member staying
      exact ⟨shortest, by simp [found]⟩
  case resolved =>
    intro j member e
    rcases List.mem_cons.1 member with rfl | member
    · rintro ⟨node, found, -, failed⟩
      obtain ⟨other, located, -, answered⟩ := stays
      obtain rfl : node = other := by simp_all
      rw [failed] at answered
      cases answered
    · exact f.resolved j member e
  case waiting =>
    intro q member staying
    rcases List.mem_append.1 member with member | member
    · exact f.waiting q (by simp [member]) staying
    · obtain ⟨call, behind⟩ := new member
      rw [behind]
      exact .call path call staying
  case origin =>
    intro q member
    rcases List.mem_append.1 member with member | member
    · exact f.origin q (by simp [member])
    · exact .inr ⟨length, i, path, (new member).1⟩
  case sorted =>
    -- The new callees wait at `length + 1`, and by `close` no waiting node is further away.
    refine List.pairwise_append.2 ⟨rest.2, ?_, ?_⟩
    · rw [List.pairwise_map]
      exact List.pairwise_of_forall fun _ _ => Nat.le_refl _
    · intro q member last wait
      have bound := (f.close q (by simp [member])).2
      rw [(new wait).2]
      omega
  case close =>
    intro q member
    rcases List.mem_append.1 member with member | member
    · have bound := (f.close q (by simp [member])).2
      exact ⟨rest.1 q member, by omega⟩
    · rw [(new member).2]
      omega
  case closed =>
    intro e member callee call
    by_cases visit : callee ∈ i :: visited
    · exact .inl visit
    · right
      rcases List.mem_append.1 member with member | member
      · rcases f.closed e member callee call with visit' | wait
        · exact absurd (List.mem_cons_of_mem _ visit') visit
        · rcases eq_or_waiting wait with same | wait
          · exact absurd (by simp [same]) visit
          · exact List.mem_append_left _ wait
      · obtain rfl := List.mem_singleton.1 member
        apply List.mem_append_right
        exact List.mem_map.2 ⟨callee, List.mem_filter.2 ⟨call, by simpa using visit⟩, rfl⟩
  case begun =>
    rcases f.begun with visit | wait
    · exact .inl (List.mem_cons_of_mem _ visit)
    · rcases eq_or_waiting wait with same | wait
      · exact .inl (by simp [same])
      · exact .inr (List.mem_append_left _ wait)

end Frontier

/-- What a walk comes to after `emitted`: nothing waits any more, or a node that the walk was led to
could not be resolved. -/
def Walked (dataset : Dataset) (answers : String → Except Failure (Option String)) (module : String)
    (root : Nat) (emitted : List (Nat × Nat)) : Except Failure (List Dependency) → Prop
  | .error e => ∃ i, dataset.Unresolved answers i e ∧ (i = root ∨ ∃ length caller,
      dataset.Path answers module root length caller ∧ i ∈ dataset.graph.callees caller)
  | .ok ds => ∃ level visited all, Frontier dataset answers module root level visited [] all ∧
      all.map Prod.fst = emitted.map Prod.fst ++ ds.map Dependency.node ∧
      ∀ d ∈ ds, ∃ node, dataset.graph.node? d.node = some node ∧
        d = dataset.dependency module d.node node.function

theorem walk_frontier (visited waiting : List Nat) :
    ∀ (level : Nat) (queue emitted : List (Nat × Nat)), queue.map Prod.fst = waiting →
      Frontier dataset answers module root level visited queue emitted →
      Walked dataset answers module root emitted (dataset.walk answers module visited waiting) := by
  -- The walk itself keeps no lengths: `queue` is its waiting list with the lengths beside it.
  induction visited, waiting using walk.induct dataset with
  | case1 visited =>
    intro level queue emitted plain f
    obtain rfl := List.map_eq_nil_iff.1 plain
    rw [walk]
    exact ⟨level, visited, emitted, f, by simp, by simp⟩
  | case2 visited i waiting fresh found ih =>
    intro level queue emitted plain f
    obtain ⟨⟨j, length⟩, queue, rfl, rfl, others⟩ := List.map_eq_cons_iff.1 plain
    rw [walk_dead fresh found]
    apply ih length queue emitted others
    apply f.pass _ (fun j => List.mem_cons)
    · rintro ⟨node, located, -⟩
      simp_all
    · rintro e ⟨node, located, -⟩
      simp_all
  | case3 visited i waiting fresh node found builtIn ih =>
    intro level queue emitted plain f
    obtain ⟨⟨j, length⟩, queue, rfl, rfl, others⟩ := List.map_eq_cons_iff.1 plain
    rw [walk_builtIn fresh found builtIn]
    apply ih length queue emitted others
    apply f.pass _ (fun j => List.mem_cons)
    · rintro ⟨other, located, own, -⟩
      simp_all
    · rintro e ⟨other, located, own, -⟩
      simp_all
  | case4 visited i waiting fresh node found own skipped entered =>
    intro level queue emitted plain f
    obtain ⟨⟨j, length⟩, queue, rfl, rfl, others⟩ := List.map_eq_cons_iff.1 plain
    rw [Bool.not_eq_true] at own
    rw [walk_node fresh found own]
    cases verdict : answers node.function.package with
    | error e =>
      exact ⟨j, ⟨node, found, own, verdict⟩, f.origin (j, length) (by simp)⟩
    | ok verdict? =>
      by_cases inside : verdict? = some module
      · have f := f.emit (by simpa using fresh) ⟨node, found, own, by rw [verdict, inside]⟩
        have walked := entered length _ _ (by simp [others, Function.comp_def]) f
        simp only [inside, bind, Except.bind, ne_eq, not_true_eq_false, if_false]
        cases rest : dataset.walk answers module (j :: visited)
            (waiting ++ (dataset.graph.callees j).filter fun callee =>
              !(j :: visited).contains callee) with
        | error e =>
          rw [rest] at walked
          exact walked
        | ok ds =>
          rw [rest] at walked
          obtain ⟨last, all, nodes, f, emits, kept⟩ := walked
          refine ⟨last, all, nodes, f, ?_, ?_⟩
          · rw [emits]
            simp [dependency]
          · intro d member
            rcases List.mem_cons.1 member with rfl | member
            · exact ⟨node, found, rfl⟩
            · exact kept d member
      · simp only [bind, Except.bind, ne_eq, inside, not_false_eq_true, if_true]
        apply skipped length queue emitted others
        apply f.pass _ (fun _ => List.mem_cons)
        · rintro ⟨other, located, -, answered⟩
          simp_all
        · rintro e ⟨other, located, -, failed⟩
          simp_all
  | case5 visited i waiting visit ih =>
    intro level queue emitted plain f
    obtain ⟨⟨j, length⟩, queue, rfl, rfl, others⟩ := List.map_eq_cons_iff.1 plain
    rw [Bool.not_eq_false] at visit
    rw [walk_visited visit]
    rw [List.contains_iff_mem] at visit
    apply ih length queue emitted others
    apply f.pass _ _ (fun _ => visit) (f.resolved j visit)
    intro k
    constructor
    · exact .inr
    · rintro (rfl | member)
      · exact visit
      · exact member

theorem walk_inside {queue : List Nat} {node : CallGraph.Node} {ds : List Dependency}
    (fresh : visited.contains i = false) (found : dataset.graph.node? i = some node)
    (own : node.function.isBuiltIn = false)
    (inside : answers node.function.package = .ok (some module))
    (rest : dataset.walk answers module (i :: visited) (queue ++
      (dataset.graph.callees i).filter fun callee => !(i :: visited).contains callee) = .ok ds) :
    dataset.walk answers module visited (i :: queue) =
      .ok (dataset.dependency module i node.function :: ds) := by
  rw [walk_node fresh found own, inside]
  simp only [bind, Except.bind, ne_eq, not_true_eq_false, if_false, rest]
  rfl

theorem Frontier.mem_emitted_iff {all : List (Nat × Nat)}
    (f : Frontier dataset answers module root level visited [] all) :
    i ∈ all.map Prod.fst ↔ ∃ length, dataset.Path answers module root length i := by
  constructor
  · intro member
    obtain ⟨e, emitted, rfl⟩ := List.mem_map.1 member
    exact ⟨e.2, f.path e emitted⟩
  · rintro ⟨length, path⟩
    rcases f.reaches path with visit | ⟨q, wait, -⟩
    · obtain ⟨shortest, member⟩ := f.known i visit path.stays
      exact List.mem_map.2 ⟨_, member, rfl⟩
    · cases wait

theorem Frontier.pairwise_distance {all : List (Nat × Nat)}
    (f : Frontier dataset answers module root level visited [] all) :
    (all.map Prod.fst).Pairwise fun first second =>
      dataset.distance answers module root first ≤ dataset.distance answers module root second := by
  rw [List.pairwise_map]
  refine f.order.imp_of_mem ?_
  intro first second atFirst atSecond order
  rw [distance_eq (f.path first atFirst) (f.least first atFirst),
    distance_eq (f.path second atSecond) (f.least second atSecond)]
  exact order

structure Emits (dataset : Dataset) (answers : String → Except Failure (Option String))
    (module : String) (root : Nat) (ds : List Dependency) : Prop where
  nodup : (ds.map Dependency.node).Nodup
  mem_iff : ∀ i, i ∈ ds.map Dependency.node ↔
    ∃ length, dataset.Path answers module root length i
  order : (ds.map Dependency.node).Pairwise fun first second =>
    dataset.distance answers module root first ≤ dataset.distance answers module root second
  content : ∀ d ∈ ds, ∃ node, dataset.graph.node? d.node = some node ∧
    d = dataset.dependency module d.node node.function

variable {node : CallGraph.Node} {ds : List Dependency}

theorem extract_live (live : dataset.graph.node? root = some node) :
    dataset.extract answers (some root) =
      match answers node.function.package with
      | .error e => .error e
      | .ok none => .error (.rootOutsideModule node.function)
      | .ok (some module) => dataset.walk answers module [] [root] := by
  rw [extract]
  simp only [live]
  cases answers node.function.package with
  | error e => rfl
  | ok verdict? => cases verdict? <;> rfl

theorem walked_root (dataset : Dataset) (answers : String → Except Failure (Option String))
    (module : String) (root : Nat) :
    Walked dataset answers module root [] (dataset.walk answers module [] [root]) :=
  walk_frontier [] [root] 0 [(root, 0)] [] rfl frontier_start

theorem walk_root_ok (done : dataset.walk answers module [] [root] = .ok ds) :
    dataset.Emits answers module root ds ∧ ∀ length caller,
      dataset.Path answers module root length caller → ∀ callee ∈ dataset.graph.callees caller,
        ∀ e, ¬ dataset.Unresolved answers callee e := by
  have walked := walked_root dataset answers module root
  rw [done] at walked
  obtain ⟨level, visited, all, f, emits, kept⟩ := walked
  simp only [List.map_nil, List.nil_append] at emits
  refine ⟨⟨?_, ?_, ?_, kept⟩, ?_⟩
  · rw [← emits]
    exact f.distinct
  · intro i
    rw [← emits, f.mem_emitted_iff]
  · rw [← emits]
    exact f.pairwise_distance
  · intro length caller path callee call
    obtain ⟨e, emitted, rfl⟩ := List.mem_map.1 (f.mem_emitted_iff.2 ⟨length, path⟩)
    rcases f.closed e emitted callee call with visit | wait
    · exact f.resolved callee visit
    · cases wait

theorem Emits.head_eq (emits : dataset.Emits answers module root ds)
    (live : dataset.graph.node? root = some node)
    (inside : answers node.function.package = .ok (some module))
    (own : node.function.isBuiltIn = false) : (ds.map Dependency.node).head? = some root := by
  have start : dataset.Path answers module root 0 root := .root ⟨node, live, own, inside⟩
  have member := (emits.mem_iff root).2 ⟨0, start⟩
  have order := emits.order
  cases nodes : ds.map Dependency.node with
  | nil => simp [nodes] at member
  | cons first rest =>
    rw [nodes] at member order
    have least : dataset.distance answers module root first = 0 := by
      have zero := distance_eq start fun _ _ => Nat.zero_le _
      rcases List.mem_cons.1 member with rfl | later
      · exact zero
      · have bound := (List.pairwise_cons.1 order).1 root later
        omega
    obtain ⟨length, path⟩ := (emits.mem_iff first).1 (by simp [nodes])
    have shortest := path.distance
    rw [least] at shortest
    simp [shortest.eq_root]

theorem extract_ok (live : dataset.graph.node? root = some node)
    (done : dataset.extract answers (some root) = .ok ds) :
    ∃ module, answers node.function.package = .ok (some module) ∧
      dataset.Emits answers module root ds ∧ ∀ length caller,
        dataset.Path answers module root length caller → ∀ callee ∈ dataset.graph.callees caller,
          ∀ e, ¬ dataset.Unresolved answers callee e := by
  rw [extract_live live] at done
  split at done
  · cases done
  · cases done
  · rename_i module inside
    exact ⟨module, inside, walk_root_ok done⟩

theorem extract_error_iff (live : dataset.graph.node? root = some node) :
    (∃ e, dataset.extract answers (some root) = .error e) ↔
      (∃ e, answers node.function.package = .error e) ∨
        answers node.function.package = .ok none ∨
        ∃ module length caller callee e, answers node.function.package = .ok (some module) ∧
          dataset.Path answers module root length caller ∧
          callee ∈ dataset.graph.callees caller ∧ dataset.Unresolved answers callee e := by
  cases verdict : answers node.function.package with
  | error e => simp [extract_live live, verdict]
  | ok verdict? =>
    cases verdict? with
    | none => simp [extract_live live, verdict]
    | some module =>
      cases done : dataset.extract answers (some root) with
      | ok ds =>
        obtain ⟨other, inside, -, resolved⟩ := extract_ok live done
        rw [verdict, Except.ok.injEq, Option.some.injEq] at inside
        subst inside
        constructor
        · rintro ⟨e, failed⟩
          cases failed
        · rintro (⟨e, failed⟩ | outside |
            ⟨other, length, caller, callee, e, same, path, call, failed⟩)
          · cases failed
          · cases outside
          · cases same
            exact absurd failed (resolved length caller path callee call e)
      | error e =>
        have walked := walked_root dataset answers module root
        rw [extract_live live, verdict] at done
        dsimp only at done
        rw [done] at walked
        obtain ⟨i, failed, rfl | ⟨length, caller, path, call⟩⟩ := walked
        · obtain ⟨other, found, -, unresolved⟩ := failed
          simp_all
        · constructor
          · intro _
            exact .inr (.inr ⟨module, length, caller, i, e, rfl, path, call, failed⟩)
          · intro _
            exact ⟨e, rfl⟩

/-- What an extraction from a live root comes to: it fails exactly where the root has no module or a
node that the walk is led to cannot be resolved, and else lists the nodes that are reached inside
the module, nearest first. -/
structure Extracts (dataset : Dataset) (answers : String → Except Failure (Option String))
    (root : Nat) (node : CallGraph.Node) (result : Except Failure (List Dependency)) : Prop where
  fails_iff : (∃ e, result = .error e) ↔
    (∃ e, answers node.function.package = .error e) ∨
      answers node.function.package = .ok none ∨
      ∃ module length caller callee e, answers node.function.package = .ok (some module) ∧
        dataset.Path answers module root length caller ∧
        callee ∈ dataset.graph.callees caller ∧ dataset.Unresolved answers callee e
  outside : answers node.function.package = .ok none →
    result = .error (.rootOutsideModule node.function)
  emits : ∀ ds, result = .ok ds → ∃ module, answers node.function.package = .ok (some module) ∧
    dataset.Emits answers module root ds ∧
    (node.function.isBuiltIn = false → (ds.map Dependency.node).head? = some root)

/-- Whatever is in the cache, a loader that tells modules without effects leads from a live root to
one result, by the answers in effect. -/
theorem extract_reached {m : Type → Type} [Monad m] [LawfulMonad m] (dataset : Dataset)
    (loader : Loader m) (locator : Locator) (told : String → Except Failure (Option String))
    (asks : ∀ package, loader.moduleOf locator package = pure (told package))
    (cache : ModuleCache) (root : Nat) (node : CallGraph.Node)
    (live : dataset.graph.node? root = some node) :
    ∃ result after, (dataset.extract (Analysis.resolve loader locator) (some root)).run.run cache =
        pure (result, after) ∧
      after.answer told = cache.answer told ∧
      dataset.Extracts (cache.answer told) root node result := by
  have resolves (package : String) : Analysis.Determined told (cache.answer told)
      (Analysis.resolve loader locator package) (cache.answer told package) :=
    Analysis.determined_resolve asks package
  obtain ⟨after, agrees, ran⟩ := determined_extract resolves dataset (some root) cache rfl
  refine ⟨_, after, ran, agrees, extract_error_iff live, ?_, ?_⟩
  · intro outside
    rw [extract_live live, outside]
  · intro ds done
    obtain ⟨module, inside, emits, -⟩ := extract_ok live done
    exact ⟨module, inside, emits, emits.head_eq live inside⟩

def cycle : Dataset where
  graph :=
    { slots := #[some ⟨⟨"m", "A"⟩, false⟩, some ⟨⟨"m", "B"⟩, false⟩, some ⟨⟨"other", "C"⟩, false⟩]
      free := []
      edges := #[⟨0, 1, 3⟩, ⟨0, 1, 4⟩, ⟨1, 0, 7⟩, ⟨1, 1, 8⟩, ⟨1, 2, 9⟩] }
  targets := []
  declarations := .empty
  files := .ofPackages []

def ownModules (package : String) : Except Failure (Option String) := .ok (some package)

def ownModuleLoader : Loader Id where
  name := "own"
  load := fun _ => .ok []
  moduleOf := fun _ package => ownModules package

theorem extract_reached_cycle :
    (∀ package, ownModuleLoader.moduleOf ⟨".", none⟩ package = pure (ownModules package)) ∧
      cycle.graph.node? 0 = some ⟨⟨"m", "A"⟩, false⟩ ∧
      ∃ result after,
        (cycle.extract (Analysis.resolve ownModuleLoader ⟨".", none⟩) (some 0)).run.run .empty =
          pure (result, after) ∧
        after.answer ownModules = ModuleCache.empty.answer ownModules ∧
        cycle.Extracts (ModuleCache.empty.answer ownModules) 0 ⟨⟨"m", "A"⟩, false⟩ result :=
  ⟨fun _ => rfl, rfl, extract_reached cycle ownModuleLoader ⟨".", none⟩ ownModules (fun _ => rfl)
    .empty 0 ⟨⟨"m", "A"⟩, false⟩ rfl⟩

end TestReach.Dataset
