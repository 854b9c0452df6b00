import TestReach.Proofs.Source.Files
import Mathlib.Tactic.MkIffOfInductiveProp

/-!
# Gaps

A comment that is left out of a source leaves a gap. What stands in front of the gap keeps its
place, and what stands behind it moves up; of the tree the comment is missed. A grammar takes a
comment for an extra, so a source with one between two of its tokens has the same tree around it.
-/

namespace TestReach.Source

structure Gap where
  start : Nat
  length : Nat

namespace Gap

variable (g : Gap)

def close (p : Position) : Position :=
  if p.offset ≤ g.start then p else ⟨p.offset - g.length, p.row⟩

def closeSpan (span : Span) : Span := ⟨g.close span.start, g.close span.stop⟩

def isAt (span : Span) : Bool :=
  span.start.offset == g.start && span.stop.offset == g.start + g.length && g.length != 0

def Clear (p : Position) : Prop := p.offset < g.start ∨ g.start + g.length ≤ p.offset

def Outside (span : Span) : Prop :=
  span.start.offset ≤ g.start ∧ span.stop.offset ≤ g.start ∨
    g.start + g.length ≤ span.start.offset ∧ g.start + g.length ≤ span.stop.offset

instance : DecidablePred g.Clear := fun _ => inferInstanceAs (Decidable (_ ∨ _))

instance : DecidablePred g.Outside := fun _ => inferInstanceAs (Decidable (_ ∧ _ ∨ _ ∧ _))

variable {g}

theorem not_isAt_of_outside {span : Span} (outside : g.Outside span) : g.isAt span = false := by
  simp only [isAt, Bool.and_eq_false_iff, beq_eq_false_iff_ne, bne_eq_false_iff_eq]
  unfold Outside at outside
  omega

theorem offset_close (p : Position) : (g.close p).offset =
    if p.offset ≤ g.start then p.offset else p.offset - g.length := by
  unfold close
  split <;> rfl

theorem close_lt_iff {p q : Position} (one : g.Clear p) (other : g.Clear q) :
    (g.close p).offset < (g.close q).offset ↔ p.offset < q.offset := by
  unfold Clear at one other
  rw [offset_close, offset_close]
  split <;> split <;> omega

@[simp] theorem row_close (p : Position) : (g.close p).row = p.row := by
  unfold close
  split <;> rfl

variable (g)

def leaveOut (source : List Char) : List Char :=
  source.take g.start ++ source.drop (g.start + g.length)

variable {g}

theorem getElem?_leaveOut (source : List Char) (i : Nat) :
    (g.leaveOut source)[i]? = if i < g.start then source[i]? else source[i + g.length]? := by
  rw [leaveOut, List.getElem?_append, List.length_take, List.getElem?_take, List.getElem?_drop]
  by_cases short : source.length ≤ g.start
  · -- Nothing stands behind the gap, so what is asked for there is not found in either source.
    rw [Nat.min_eq_right short]
    split
    · rename_i inside
      rw [if_pos (Nat.lt_of_lt_of_le inside short), if_pos (Nat.lt_of_lt_of_le inside short)]
    · rw [List.getElem?_eq_none (by omega), List.getElem?_eq_none (by omega),
        List.getElem?_eq_none (by omega), ite_self]
  · rw [Nat.min_eq_left (by omega)]
    split
    · rfl
    · rw [show g.start + g.length + (i - g.start) = i + g.length by omega]

theorem offset_close_of_behind {p : Position} (behind : g.start + g.length ≤ p.offset) :
    (g.close p).offset = p.offset - g.length := by
  rw [offset_close]
  split <;> omega

variable (g)

def omitsTree (t : Tree) : Bool := t.kind == .comment && g.isAt t.span

mutual

def tree : Tree → Tree
  | .node role kind span children => .node role kind (g.closeSpan span) (trees children)

def trees : List Tree → List Tree
  | [] => []
  | t :: ts => if g.omitsTree t then trees ts else tree t :: trees ts

end

variable {g}

theorem trees_eq (ts : List Tree) :
    g.trees ts = (ts.filter fun t => !g.omitsTree t).map g.tree := by
  induction ts with
  | nil => rw [trees]; rfl
  | cons t ts ih =>
    rw [trees, List.filter_cons, ih]
    cases g.omitsTree t <;> rfl

@[simp] theorem trees_nil : g.trees [] = [] := trees_eq []

theorem omitsTree_of_ne {t : Tree} (other : t.kind ≠ .comment) : g.omitsTree t = false := by
  simp [omitsTree, other]

theorem trees_cons (t : Tree) (ts : List Tree) :
    g.trees (t :: ts) = if g.omitsTree t then g.trees ts else g.tree t :: g.trees ts := by
  rw [trees]

theorem tree_node (role : Role) (kind : Kind) (span : Span) (children : List Tree) :
    g.tree (.node role kind span children) =
      .node role kind (g.closeSpan span) (g.trees children) := by
  rw [tree]

@[simp] theorem role_tree (t : Tree) : (g.tree t).role = t.role := by
  cases t
  rw [tree_node]
  rfl

@[simp] theorem kind_tree (t : Tree) : (g.tree t).kind = t.kind := by
  cases t
  rw [tree_node]
  rfl

@[simp] theorem span_tree (t : Tree) : (g.tree t).span = g.closeSpan t.span := by
  cases t
  rw [tree_node]
  rfl

@[simp] theorem children_tree (t : Tree) : (g.tree t).children = g.trees t.children := by
  cases t
  rw [tree_node]
  rfl

theorem kind_of_omitsTree {t : Tree} (omitted : g.omitsTree t = true) : t.kind = .comment := by
  simp only [omitsTree, Bool.and_eq_true, beq_iff_eq] at omitted
  exact omitted.1

theorem find?_trees {p : Tree → Bool} {ts : List Tree}
    (same : ∀ t ∈ ts, p (g.tree t) = p t)
    (plain : ∀ t ∈ ts, t.kind = .comment → p t = false) :
    (g.trees ts).find? p = (ts.find? p).map g.tree := by
  induction ts with
  | nil => simp
  | cons t ts ih =>
    obtain ⟨here, others⟩ := List.forall_mem_cons.1 same
    obtain ⟨first, rest⟩ := List.forall_mem_cons.1 plain
    rw [trees_cons]
    cases omitted : g.omitsTree t with
    | true =>
      rw [if_pos rfl, ih others rest, List.find?_cons, first (kind_of_omitsTree omitted)]
    | false =>
      rw [if_neg (by decide), List.find?_cons, List.find?_cons, here, ih others rest]
      cases p t <;> rfl

end Gap

def Role.isNaming : Role → Bool
  | .name | .field | .path => true
  | _ => false

namespace Tree

variable {g : Gap} {source edited : List Char} {t : Tree}

/-- What a grammar grants of a node around a gap: comments play no part and hold nothing, nothing
else begins in the gap, and names are not cut by it. -/
@[mk_iff]
structure Spaced (g : Gap) (t : Tree) : Prop where
  note : t.kind = .comment → t.role = .plain ∧ t.children = []
  clear : t.kind ≠ .comment → g.Clear t.span.start
  name : t.kind = .identifier ∨ t.role.isNaming = true → g.Outside t.span

instance : DecidablePred (Spaced g) := fun t => decidable_of_iff' _ (spaced_iff g t)

def Around (g : Gap) : Tree → Prop := Every (Spaced g)

instance : DecidablePred (Around g) := inferInstanceAs (DecidablePred (Every _))

theorem Around.below {child : Tree} (around : t.Around g) (member : child ∈ t.children) :
    child.Around g := Every.below around member

theorem Around.child?_tree (around : t.Around g) (role : Role) (other : role ≠ .plain) :
    (g.tree t).child? role = (t.child? role).map g.tree := by
  rw [child?, Gap.children_tree]
  refine Gap.find?_trees (fun child _ => by rw [Gap.role_tree]) fun child member comment => ?_
  have plain := ((around.below member).here.note comment).1
  simp [plain, other.symm]

theorem text_tree (without : source = g.leaveOut edited) (outside : g.Outside t.span) :
    text source (g.tree t) = text edited t := by
  refine congrArg String.ofList (List.ext_getElem? fun i => ?_)
  simp only [Gap.span_tree, Gap.closeSpan, without, List.getElem?_take, List.getElem?_drop,
    Gap.getElem?_leaveOut]
  rcases outside with ⟨start, stop⟩ | ⟨start, stop⟩
  · rw [Gap.offset_close, Gap.offset_close, if_pos start, if_pos stop]
    split
    · rw [if_pos (by omega)]
    · rfl
  · rw [Gap.offset_close_of_behind start, Gap.offset_close_of_behind stop,
      show t.span.stop.offset - g.length - (t.span.start.offset - g.length) =
        t.span.stop.offset - t.span.start.offset by omega,
      if_neg (c := t.span.start.offset - g.length + i < g.start) (by omega),
      show t.span.start.offset - g.length + i + g.length = t.span.start.offset + i by omega]

theorem Around.fault?_eq_none (around : t.Around g) (sound : (g.tree t).fault? = none) :
    t.fault? = none := by
  rw [fault?, List.find?_eq_none] at sound ⊢
  induction t using Tree.induction with
  | step role kind span children ih =>
  intro node member
  rw [nodes_eq, List.mem_cons, List.mem_flatMap] at member
  rcases member with rfl | ⟨child, listed, inside⟩
  · simpa [isFault] using sound _ (mem_nodes_self _)
  · cases omitted : g.omitsTree child with
    | true =>
      have comment := Gap.kind_of_omitsTree omitted
      rw [nodes_eq, ((around.below listed).here.note comment).2] at inside
      obtain rfl : node = child := by simpa using inside
      simp [isFault, comment]
    | false =>
      have kept : g.tree child ∈ (g.tree (Tree.node role kind span children)).children := by
        rw [Gap.children_tree, Gap.trees_eq]
        exact List.mem_map_of_mem (List.mem_filter.2 ⟨listed, by simp [omitted]⟩)
      exact ih child listed (around.below listed)
        (fun other there => sound other (mem_nodes_of_child kept there)) node inside

end Tree

/-- The second source is the first one with a comment on one line between two of its tokens: the
grammar reads what it reads of the first source, around the comment. -/
structure Inserted [Parser] (source edited : List Char) (g : Gap) : Prop where
  without : source = g.leaveOut edited
  comment : ∃ text, (edited.drop g.start).take g.length = "/*".toList ++ text ++ "*/".toList ∧
    '\n' ∉ text
  reads : ∀ tree, Parser.tree? source = some tree → tree.fault? = none →
    ∃ root, Parser.tree? edited = some root ∧ root.Around g ∧ g.tree root = tree

end TestReach.Source
