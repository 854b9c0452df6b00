import TestReach.Proofs.Source.Naming
import TestReach.Proofs.Source.Traversal
import Mathlib.Tactic.MkIffOfInductiveProp

/-!
# Places in their source

A place of a source counts the characters and the newlines that stand before it there, so of two
places the one with the greater offset is on no earlier line. The nodes of a tree begin and end at
such places, lie in one another, and follow one another where they stand side by side.
-/

namespace TestReach.Source

variable {source : List Char}

namespace Position

def In (source : List Char) (p : Position) : Prop :=
  p.row = (source.take p.offset).count '\n'

instance : DecidablePred (In source) := fun _ => inferInstanceAs (Decidable (_ = _))

theorem In.row_le {p q : Position} (first : p.In source) (second : q.In source)
    (before : p.offset ≤ q.offset) : p.row ≤ q.row := by
  rw [first, second]
  exact (List.take_prefix_take_left before).sublist.count_le '\n'

theorem In.row_le_count {p : Position} (there : p.In source) : p.row ≤ source.count '\n' := by
  rw [there]
  exact (List.take_sublist p.offset source).count_le '\n'

end Position

namespace Tree

variable {t : Tree}

/-- A node between two places of its source, within which those below it follow one another. -/
@[mk_iff]
structure Stands (source : List Char) (t : Tree) : Prop where
  start : t.span.start.In source
  stop : t.span.stop.In source
  room : t.begin ≤ t.finish
  within : ∀ child ∈ t.children, t.begin ≤ child.begin ∧ child.finish ≤ t.finish
  apart : t.children.Pairwise fun before behind => before.finish ≤ behind.begin

instance : DecidablePred (Stands source) := fun t => decidable_of_iff' _ (stands_iff source t)

def Laid (source : List Char) : Tree → Prop := Every (Stands source)

instance : DecidablePred (Laid source) := inferInstanceAs (DecidablePred (Every _))

theorem Laid.bounds (laid : t.Laid source) :
    ∀ node ∈ t.nodes, t.begin ≤ node.begin ∧ node.finish ≤ t.finish := by
  induction t using Tree.induction with
  | step role kind span children ih =>
  intro node member
  rw [nodes_eq, List.mem_cons, List.mem_flatMap] at member
  rcases member with rfl | ⟨child, listed, inside⟩
  · exact ⟨Nat.le_refl _, Nat.le_refl _⟩
  · obtain ⟨begins, ends⟩ := laid.here.within child listed
    obtain ⟨above, below⟩ := ih child listed (laid.below listed) node inside
    exact ⟨Nat.le_trans begins above, Nat.le_trans below ends⟩

end Tree

/-- A grammar whose nodes stand where they stand in the source. -/
abbrev Parser.Laying [Parser] : Prop := Parser.Promises Tree.Laid

end TestReach.Source
