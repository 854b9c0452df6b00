import TestReach.Proofs.Source.Files
import Mathlib.Data.List.Basic

/-!
# Bodies in source order

The nodes of a body wait on a stack, and what is found is put in the order of its places at the end.
Where every node takes up room, keeps within the node above it and lets those beside it be, this is
the order in which the tree is read from left to right, each node before those below it. Many nodes
may begin at one place: an expression, what is called in it, and the operand of that. They all lie
in one another, and of those the outer one leaves the stack first.
-/

namespace TestReach.Source.Tree

theorem visitAll_eq_flatMap (above : Kind) (ts : List Tree) :
    visitAll above ts = ts.reverse.flatMap (visit above) := by
  induction ts with
  | nil => rfl
  | cons t ts ih => simp [visitAll, ih]

def waiting (stack : List (Kind × Tree)) : Nat :=
  (stack.flatMap fun entry => visit entry.1 entry.2).length

theorem waiting_children (kind : Kind) (children : List Tree) :
    waiting (children.map (kind, ·)).reverse = (visitAll kind children).length := by
  rw [visitAll_eq_flatMap, waiting, ← List.map_reverse, List.flatMap_map]

/-- The nodes that leave a stack, its top first, where the nodes below each are put on the stack in
its place, the last of them on top. -/
def drain : List (Kind × Tree) → List (Kind × Tree)
  | [] => []
  | (above, t) :: stack =>
    (above, t) :: drain ((t.children.map (t.kind, ·)).reverse ++ stack)
termination_by stack => waiting stack
decreasing_by
  have below := waiting_children t.kind t.children
  cases t with
  | node role kind span children =>
  simp only [waiting, Tree.kind, Tree.children, List.flatMap_append, List.flatMap_cons,
    List.length_append, visit, List.length_cons] at below ⊢
  omega

theorem drain_eq (stack : List (Kind × Tree)) :
    drain stack = stack.flatMap fun entry => visit entry.1 entry.2 := by
  fun_induction drain stack with
  | case1 => rfl
  | case2 above t stack ih =>
    cases t with
    | node role kind span children =>
    rw [ih, List.flatMap_append, List.flatMap_cons, visit, visitAll_eq_flatMap,
      ← List.map_reverse, List.flatMap_map]
    rfl

mutual

def preorder (above : Kind) : Tree → List (Kind × Tree)
  | node role kind span children =>
    (above, node role kind span children) :: preorderAll kind children

def preorderAll (above : Kind) : List Tree → List (Kind × Tree)
  | [] => []
  | t :: ts => preorder above t ++ preorderAll above ts

end

def begin (t : Tree) : Nat := t.span.start.offset

def finish (t : Tree) : Nat := t.span.stop.offset

/-- Every node takes up room, within the node above it and behind those before it. -/
inductive Placed : Tree → Prop
  | intro {role : Role} {kind : Kind} {span : Span} {children : List Tree}
    (room : span.start.offset < span.stop.offset)
    (within : ∀ t ∈ children, span.start.offset ≤ t.begin ∧ t.finish ≤ span.stop.offset)
    (apart : children.Pairwise fun before behind => before.finish ≤ behind.begin)
    (below : ∀ t ∈ children, Placed t) : Placed (node role kind span children)

theorem placed_node {role : Role} {kind : Kind} {span : Span} {children : List Tree} :
    (node role kind span children).Placed ↔ span.start.offset < span.stop.offset ∧
      (∀ t ∈ children, span.start.offset ≤ t.begin ∧ t.finish ≤ span.stop.offset) ∧
      (children.Pairwise fun before behind => before.finish ≤ behind.begin) ∧
      ∀ t ∈ children, t.Placed :=
  ⟨fun | .intro room within apart below => ⟨room, within, apart, below⟩,
    fun ⟨room, within, apart, below⟩ => .intro room within apart below⟩

mutual

def decidePlaced : (t : Tree) → Decidable t.Placed
  | node _ _ _ children =>
    have := decideAllPlaced children
    decidable_of_iff _ placed_node.symm

def decideAllPlaced : (ts : List Tree) → Decidable (∀ t ∈ ts, t.Placed)
  | [] => .isTrue fun _ member => nomatch member
  | t :: ts =>
    have := decidePlaced t
    have := decideAllPlaced ts
    decidable_of_iff _ List.forall_mem_cons.symm

end

instance : DecidablePred Placed := decidePlaced

section Order

variable {α : Type}

def placeAll (sorted entries : List (Nat × α)) : List (Nat × α) :=
  entries.foldl (fun sorted entry => insertByPlace entry sorted) sorted

theorem insertByPlace_append_right {entry : Nat × α} {before : List (Nat × α)}
    (behind : ∀ other ∈ before, other.1 ≤ entry.1) (rest : List (Nat × α)) :
    insertByPlace entry (before ++ rest) = before ++ insertByPlace entry rest := by
  induction before with
  | nil => rfl
  | cons other before ih =>
    obtain ⟨here, others⟩ := List.forall_mem_cons.1 behind
    rw [List.cons_append, insertByPlace, if_neg (Nat.not_lt.2 here), ih others, List.cons_append]

theorem insertByPlace_append_left {entry : Nat × α} {rest : List (Nat × α)}
    (ahead : ∀ other ∈ rest, entry.1 < other.1) (before : List (Nat × α)) :
    insertByPlace entry (before ++ rest) = insertByPlace entry before ++ rest := by
  induction before with
  | nil =>
    cases rest with
    | nil => rfl
    | cons other rest =>
      have here : entry.1 < other.1 := ahead other (by simp)
      exact if_pos here
  | cons other before ih =>
    rw [List.cons_append, insertByPlace, insertByPlace]
    split
    · rfl
    · rw [ih, List.cons_append]

theorem placeAll_append_right {before entries : List (Nat × α)}
    (behind : ∀ entry ∈ entries, ∀ other ∈ before, other.1 ≤ entry.1) (rest : List (Nat × α)) :
    placeAll (before ++ rest) entries = before ++ placeAll rest entries := by
  induction entries generalizing rest with
  | nil => rfl
  | cons entry entries ih =>
    obtain ⟨here, others⟩ := List.forall_mem_cons.1 behind
    rw [placeAll, List.foldl_cons, insertByPlace_append_right here]
    exact ih others _

theorem placeAll_append_left {rest entries : List (Nat × α)}
    (ahead : ∀ entry ∈ entries, ∀ other ∈ rest, entry.1 < other.1) (before : List (Nat × α)) :
    placeAll (before ++ rest) entries = placeAll before entries ++ rest := by
  induction entries generalizing before with
  | nil => rfl
  | cons entry entries ih =>
    obtain ⟨here, others⟩ := List.forall_mem_cons.1 ahead
    rw [placeAll, List.foldl_cons, insertByPlace_append_left here]
    exact ih others _

theorem placeAll_cons {entry : Nat × α} {entries : List (Nat × α)}
    (behind : ∀ other ∈ entries, entry.1 ≤ other.1) :
    placeAll [] (entry :: entries) = entry :: placeAll [] entries := by
  have first : ∀ other ∈ entries, ∀ before ∈ [entry], before.1 ≤ other.1 := by
    simpa using behind
  exact placeAll_append_right first []

theorem perm_insertByPlace (entry : Nat × α) (sorted : List (Nat × α)) :
    (insertByPlace entry sorted).Perm (entry :: sorted) := by
  induction sorted with
  | nil => exact .refl _
  | cons other rest ih =>
    rw [insertByPlace]
    split
    · exact .refl _
    · exact (ih.cons other).trans (.swap entry other rest)

theorem perm_placeAll (sorted entries : List (Nat × α)) :
    (placeAll sorted entries).Perm (entries ++ sorted) := by
  induction entries generalizing sorted with
  | nil => exact .refl _
  | cons entry entries ih =>
    rw [placeAll, List.foldl_cons, ← placeAll]
    exact (ih _).trans (((perm_insertByPlace entry sorted).append_left entries).trans
      List.perm_middle)

theorem mem_placeAll {other : Nat × α} {entries : List (Nat × α)} :
    other ∈ placeAll [] entries ↔ other ∈ entries := by
  rw [(perm_placeAll [] entries).mem_iff, List.append_nil]

theorem placeAll_append {early late : List (Nat × α)}
    (ahead : ∀ entry ∈ late, ∀ other ∈ early, entry.1 < other.1) :
    placeAll [] (early ++ late) = placeAll [] late ++ placeAll [] early := by
  rw [placeAll, List.foldl_append, ← placeAll, ← placeAll]
  refine placeAll_append_left (fun entry member other placed => ?_) []
  exact ahead entry member other (mem_placeAll.1 placed)

end Order

def found {α : Type} (find : Kind × Tree → Option α) (nodes : List (Kind × Tree)) :
    List (Nat × α) :=
  nodes.filterMap fun visited => (find visited).map (visited.2.begin, ·)

variable {α : Type} {find : Kind × Tree → Option α}

theorem found_append (first second : List (Kind × Tree)) :
    found find (first ++ second) = found find first ++ found find second := List.filterMap_append

theorem found_cons_some {visited : Kind × Tree} {a : α} (hit : find visited = some a)
    (nodes : List (Kind × Tree)) :
    found find (visited :: nodes) = (visited.2.begin, a) :: found find nodes := by
  simp [found, hit]

theorem found_cons_none {visited : Kind × Tree} (miss : find visited = none)
    (nodes : List (Kind × Tree)) : found find (visited :: nodes) = found find nodes := by
  simp [found, miss]

theorem place_of_mem_found {entry : Nat × α} {nodes : List (Kind × Tree)}
    (member : entry ∈ found find nodes) : ∃ visited ∈ nodes, visited.2.begin = entry.1 := by
  obtain ⟨visited, listed, hit⟩ := List.mem_filterMap.1 member
  obtain ⟨a, -, rfl⟩ := Option.map_eq_some_iff.1 hit
  exact ⟨visited, listed, rfl⟩

theorem map_snd_found (nodes : List (Kind × Tree)) :
    (found find nodes).map Prod.snd = nodes.filterMap find := by
  rw [found, List.map_filterMap]
  refine List.filterMap_congr fun visited _ => ?_
  cases find visited <;> rfl

theorem mem_visitAll {above : Kind} {ts : List Tree} {visited : Kind × Tree} :
    visited ∈ visitAll above ts ↔ ∃ t ∈ ts, visited ∈ visit above t := by
  simp [visitAll_eq_flatMap]

theorem mem_visit_below {above : Kind} {t child : Tree} {visited : Kind × Tree}
    (member : child ∈ t.children) (inside : visited ∈ visit t.kind child) :
    visited ∈ visit above t := by
  cases t with
  | node role kind span children =>
  rw [visit]
  exact List.mem_cons_of_mem _ (mem_visitAll.2 ⟨child, member, inside⟩)

theorem mem_visit_self (above : Kind) (t : Tree) : (above, t) ∈ visit above t := by
  cases t
  simp [visit]

theorem mem_visit_trans (t : Tree) : ∀ above, ∀ visited ∈ visit above t,
    ∀ other ∈ visit visited.1 visited.2, other ∈ visit above t := by
  induction t using Tree.induction with
  | step role kind span children ih =>
  intro above visited member other inside
  rw [visit, List.mem_cons] at member
  rcases member with rfl | below
  · exact inside
  · obtain ⟨child, listed, found⟩ := mem_visitAll.1 below
    exact mem_visit_below listed (ih child listed kind visited found other inside)

theorem mem_nodes_of_visit {t : Tree} {above : Kind} {visited : Kind × Tree}
    (member : visited ∈ visit above t) : visited.2 ∈ t.nodes := by
  induction t using Tree.induction generalizing above with
  | step role kind span children ih =>
  rw [visit, List.mem_cons] at member
  rcases member with rfl | member
  · exact mem_nodes_self _
  · obtain ⟨child, listed, inside⟩ := mem_visitAll.1 member
    exact mem_nodes_of_child listed (ih child listed inside)

theorem Placed.begin_visit {t : Tree} (placed : t.Placed) (above : Kind) :
    ∀ visited ∈ visit above t, t.begin ≤ visited.2.begin ∧ visited.2.begin < t.finish := by
  induction placed generalizing above with
  | @intro role kind span children room within apart below ih =>
    intro visited member
    rw [visit, List.mem_cons] at member
    rcases member with rfl | member
    · exact ⟨Nat.le_refl _, room⟩
    · obtain ⟨t, child, inside⟩ := mem_visitAll.1 member
      have bounds := ih t child kind visited inside
      have parts := within t child
      exact ⟨Nat.le_trans parts.1 bounds.1, Nat.lt_of_lt_of_le bounds.2 parts.2⟩

/-- In the order of their places, the finds in a tree are those of its reading from left to right:
a node was visited before those below it and does not begin behind them, and of two nodes side by
side the second was visited first but begins where the first has ended. -/
theorem Placed.ordered_visit {t : Tree} (placed : t.Placed) (above : Kind) :
    placeAll [] (found find (visit above t)) = found find (preorder above t) := by
  induction placed generalizing above with
  | @intro role kind span children room within apart below ih =>
    have inside : placeAll [] (found find (visitAll kind children)) =
        found find (preorderAll kind children) := by
      clear within room
      induction children with
      | nil => rfl
      | cons t ts rest =>
        obtain ⟨behind, others⟩ := List.pairwise_cons.1 apart
        have first := below t (by simp)
        rw [visitAll, preorderAll, found_append, found_append, placeAll_append, ih t (by simp) kind,
          rest others (fun t member => below t (by simp [member]))
            (fun t member => ih t (by simp [member]))]
        intro entry here other there
        obtain ⟨visited, inFirst, place⟩ := place_of_mem_found here
        obtain ⟨later, inRest, place'⟩ := place_of_mem_found there
        obtain ⟨next, listed, inNext⟩ := mem_visitAll.1 inRest
        have ends := (first.begin_visit kind visited inFirst).2
        have begins := ((below next (by simp [listed])).begin_visit kind later inNext).1
        rw [← place, ← place']
        exact Nat.lt_of_lt_of_le ends (Nat.le_trans (behind next listed) begins)
    have order : ∀ entry ∈ found find (visitAll kind children), span.start.offset ≤ entry.1 := by
      intro entry member
      obtain ⟨visited, listed, place⟩ := place_of_mem_found member
      have whole := @Placed.intro role kind span children room within apart below
      exact place ▸ (whole.begin_visit above visited (by simp [visit, listed])).1
    rw [visit, preorder]
    cases hit : find (above, node role kind span children) with
    | none => rw [found_cons_none hit, found_cons_none hit, inside]
    | some a => rw [found_cons_some hit, found_cons_some hit, placeAll_cons order, inside]

theorem inOrderOfPlace_found (entries : List (Nat × α)) :
    inOrderOfPlace entries = (placeAll [] entries).map Prod.snd := rfl

theorem perm_inOrderOfPlace (nodes : List (Kind × Tree)) :
    (inOrderOfPlace (found find nodes)).Perm (nodes.filterMap find) := by
  rw [inOrderOfPlace_found, ← map_snd_found]
  simpa using (perm_placeAll [] (found find nodes)).map Prod.snd

theorem Placed.inOrderOfPlace_visit {t : Tree} (placed : t.Placed) (above : Kind) :
    inOrderOfPlace (found find (visit above t)) = (preorder above t).filterMap find := by
  rw [inOrderOfPlace_found, placed.ordered_visit above, map_snd_found]

/-- The nodes of a body come from a stack, and what is found in them is put in the order of its
places. If the nodes are where nodes are in a text, this lists the calls that name something, and
the identifiers and selectors that are values, as the body is read from left to right, each node
before those below it. -/
theorem callSites_references_of_placed (source : List Char) {body : Tree} (placed : body.Placed) :
    callSites source body =
        inOrderOfPlace (found (fun visited => callSite? source visited.2)
          (drain [(.functionDeclaration, body)])) ∧
      callSites source body =
        (preorder .functionDeclaration body).filterMap (fun visited =>
          callSite? source visited.2) ∧
      references source body =
        inOrderOfPlace (found (fun visited => reference? source visited.1 visited.2)
          (drain [(.functionDeclaration, body)])) ∧
      references source body =
        (preorder .functionDeclaration body).filterMap fun visited =>
          reference? source visited.1 visited.2 := by
  have stack : drain [(.functionDeclaration, body)] = visit .functionDeclaration body := by
    simp [drain_eq]
  rw [stack]
  exact ⟨rfl, placed.inOrderOfPlace_visit _, rfl, placed.inOrderOfPlace_visit _⟩

def chainedSource : List Char := "package m\nfunc F() \x7b a.b(f)()(g.h(x), y) \x7d\n".toList

def chainedBody : Tree :=
  .on 1 19 42 .body .block [
    .on 1 21 40 .plain .expressionStatement [
      .on 1 21 40 .plain .callExpression [
        .on 1 21 29 .function .callExpression [
          .on 1 21 27 .function .callExpression [
            .on 1 21 24 .function .selectorExpression [
              .on 1 21 22 .operand .identifier [], .on 1 23 24 .field .fieldIdentifier []],
            .on 1 24 27 .plain .argumentList [.on 1 25 26 .plain .identifier []]],
          .on 1 27 29 .plain .argumentList []],
        .on 1 29 40 .plain .argumentList [
          .on 1 30 36 .plain .callExpression [
            .on 1 30 33 .function .selectorExpression [
              .on 1 30 31 .operand .identifier [], .on 1 32 33 .field .fieldIdentifier []],
            .on 1 33 36 .plain .argumentList [.on 1 34 35 .plain .identifier []]],
          .on 1 38 39 .plain .identifier []]]]]

theorem callSites_references_of_placed_chained :
    chainedBody.Placed ∧
      callSites chainedSource chainedBody =
        [⟨2, .computed⟩, ⟨2, .computed⟩, ⟨2, .qualified "a" "b"⟩, ⟨2, .qualified "g" "h"⟩] ∧
      references chainedSource chainedBody = [.bare "f", .bare "x", .bare "y"] := by
  have placed : chainedBody.Placed := by decide +kernel
  obtain ⟨-, calls, -, values⟩ := callSites_references_of_placed chainedSource placed
  refine ⟨placed, ?_, ?_⟩
  · rw [calls]
    decide +kernel
  · rw [values]
    decide +kernel

end TestReach.Source.Tree
