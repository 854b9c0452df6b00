import TestReach.Source.Parsed
import TestReach.Proofs.Source.Traversal
import Mathlib.Algebra.GroupWithZero.Nat

/-!
# Sizes as sums

The size of a body is one more than what its nodes add, each by itself, where the nodes in function
literals are left out. So it does not matter in which order the nodes are met, statements one behind
the other add up, and what stands in a literal is of no account.
-/

namespace TestReach.Source.Tree

def isCase (t : Tree) : Bool :=
  t.kind == .expressionCase || t.kind == .typeCase || t.kind == .communicationCase

def isDefault (t : Tree) : Bool := t.kind == .defaultCase

def hasElse (t : Tree) : Bool := t.children.any fun child => child.role == .alternative

def hasPost (t : Tree) : Bool :=
  (t.children.find? fun child => child.kind == .forClause).any fun clause =>
    clause.children.any fun child => child.role == .update

def contribution (t : Tree) : Nat :=
  match t.kind with
  | .ifStatement => if t.hasElse then 3 else 2
  | .forStatement => if t.hasPost then 4 else 3
  | .switchStatement | .selectStatement =>
    1 + 2 * t.children.countP isCase + t.children.countP isDefault
  | .binaryExpression operator => if operator = "&&" ∨ operator = "||" then 2 else 0
  | _ => 0

theorem isSome_child? (t : Tree) (role : Role) :
    (t.child? role).isSome = t.children.any fun child => child.role == role := by
  rw [child?, Bool.eq_iff_iff, List.find?_isSome, List.any_eq_true]

theorem caseBlocks_eq (t : Tree) :
    caseBlocks t = 2 * (if t.isCase then 1 else 0) + if t.isDefault then 1 else 0 := by
  cases t with
  | node role kind span children => cases kind <;> rfl

theorem foldl_caseBlocks (count : Nat) (ts : List Tree) :
    ts.foldl (fun count child => count + caseBlocks child) count =
      count + 2 * ts.countP isCase + ts.countP isDefault := by
  induction ts generalizing count with
  | nil => rfl
  | cons t ts ih =>
    rw [List.foldl_cons, ih, List.countP_cons, List.countP_cons, caseBlocks_eq]
    omega

theorem ownBlocks_eq (t : Tree) : ownBlocks t = contribution t := by
  unfold ownBlocks contribution
  split
  case h_1 kind =>
    simp only [kind, isSome_child?, hasElse]
    rfl
  case h_2 kind =>
    simp only [kind, isSome_child?, hasPost]
    split <;> rename_i found <;> simp [found]
  case h_3 kind | h_4 kind => simp only [kind, foldl_caseBlocks]
  case h_5 kind | h_6 kind => simp [kind]
  case h_7 =>
    split
    all_goals simp_all

mutual

def nodesBelow (above : List Kind) : Tree → List (List Kind × Tree)
  | node role kind span children =>
    (above, node role kind span children) :: nodesBelowAll (kind :: above) children

def nodesBelowAll (above : List Kind) : List Tree → List (List Kind × Tree)
  | [] => []
  | t :: ts => nodesBelow above t ++ nodesBelowAll above ts

end

def nodesOf (body : Tree) : List (List Kind × Tree) :=
  ([], body) :: nodesBelowAll [] body.children

def outsideLiterals (nodes : List (List Kind × Tree)) : List Tree :=
  (nodes.filter fun entry => !entry.1.contains .funcLiteral).map Prod.snd

/-- The nodes of a body that stand in none of its function literals. -/
def outer (body : Tree) : List Tree := outsideLiterals (nodesOf body)

theorem outsideLiterals_append (first second : List (List Kind × Tree)) :
    outsideLiterals (first ++ second) = outsideLiterals first ++ outsideLiterals second := by
  simp [outsideLiterals]

theorem outsideLiterals_cons {above : List Kind} (free : .funcLiteral ∉ above) (t : Tree)
    (nodes : List (List Kind × Tree)) :
    outsideLiterals ((above, t) :: nodes) = t :: outsideLiterals nodes := by
  simp [outsideLiterals, free]

theorem outsideLiterals_nodesBelowAll {above : List Kind} {ts : List Tree}
    (shown : ∀ t ∈ ts, outsideLiterals (nodesBelow above t) = []) :
    outsideLiterals (nodesBelowAll above ts) = [] := by
  induction ts with
  | nil => rfl
  | cons t ts ih =>
    rw [nodesBelowAll, outsideLiterals_append, shown t (by simp),
      ih fun other member => shown other (by simp [member])]
    rfl

theorem outsideLiterals_nodesBelow {above : List Kind} (inside : .funcLiteral ∈ above) (t : Tree) :
    outsideLiterals (nodesBelow above t) = [] := by
  induction t using Tree.induction generalizing above with
  | step role kind span children shown =>
  have below : outsideLiterals (nodesBelowAll (kind :: above) children) = [] :=
    outsideLiterals_nodesBelowAll fun t member =>
      shown t member (List.mem_cons_of_mem kind inside)
  rw [nodesBelow, ← List.singleton_append, outsideLiterals_append, below]
  simp [outsideLiterals, inside]

def added (nodes : List (List Kind × Tree)) : Nat :=
  ((outsideLiterals nodes).map contribution).sum

theorem added_append (first second : List (List Kind × Tree)) :
    added (first ++ second) = added first + added second := by
  simp [added, outsideLiterals_append]

theorem added_cons {above : List Kind} (free : .funcLiteral ∉ above) (t : Tree)
    (nodes : List (List Kind × Tree)) :
    added ((above, t) :: nodes) = contribution t + added nodes := by
  simp [added, outsideLiterals_cons free]

theorem added_literal {above : List Kind} (free : .funcLiteral ∉ above) {t : Tree}
    (literal : t.kind = .funcLiteral) : added (nodesBelow above t) = 0 := by
  cases t with
  | node role kind span children =>
  obtain rfl : kind = .funcLiteral := literal
  rw [nodesBelow, added_cons free, added,
    outsideLiterals_nodesBelowAll fun t _ => outsideLiterals_nodesBelow List.mem_cons_self t]
  rfl

theorem innerBlocksOfAll_eq_sum {above : List Kind} (free : .funcLiteral ∉ above) {ts : List Tree}
    (shown : ∀ t ∈ ts, t.kind ≠ .funcLiteral → innerBlocks t = added (nodesBelow above t)) :
    innerBlocksOfAll ts = added (nodesBelowAll above ts) := by
  induction ts with
  | nil => rfl
  | cons t ts ih =>
    rw [innerBlocksOfAll, nodesBelowAll, added_append,
      ih fun other member => shown other (by simp [member])]
    congr 1
    split
    · exact (added_literal free ‹_›).symm
    · exact shown t (by simp) ‹_›

theorem innerBlocks_eq_sum {t : Tree} (other : t.kind ≠ .funcLiteral) {above : List Kind}
    (free : .funcLiteral ∉ above) : innerBlocks t = added (nodesBelow above t) := by
  induction t using Tree.induction generalizing above with
  | step role kind span children shown =>
  have plain : kind ≠ .funcLiteral := other
  have behind : Kind.funcLiteral ∉ kind :: above := by
    simp [plain.symm, free]
  have below : innerBlocksOfAll children = added (nodesBelowAll (kind :: above) children) :=
    innerBlocksOfAll_eq_sum behind fun t member other => shown t member other behind
  rw [innerBlocks, nodesBelow, added_cons free, ownBlocks_eq, below]

/-- The nodes are counted as they leave a stack, its top first; those below each that are no
literals are put on the stack in its place, the last of them on top. -/
def tally (count : Nat) : List Tree → Nat
  | [] => count
  | t :: stack =>
    tally (count + ownBlocks t)
      ((t.children.filter fun child => child.kind != .funcLiteral).reverse ++ stack)
termination_by stack => (stack.map sizeOf).sum
decreasing_by
  have smaller : ((t.children.filter fun child => child.kind != .funcLiteral).map sizeOf).sum <
      sizeOf t := by
    cases t with
    | node role kind span children =>
    have kept : ((children.filter fun child => child.kind != .funcLiteral).map sizeOf).sum ≤
        sizeOf children := by
      induction children with
      | nil => exact Nat.zero_le _
      | cons t ts ih =>
        rw [List.filter_cons]
        split <;> simp only [List.map_cons, List.sum_cons, List.cons.sizeOf_spec] <;> omega
    simp only [Tree.children, node.sizeOf_spec]
    omega
  simp only [List.map_append, List.map_reverse, List.sum_append, List.sum_reverse, List.map_cons,
    List.sum_cons]
  omega

theorem sum_filter_innerBlocks (ts : List Tree) :
    ((ts.filter fun child => child.kind != .funcLiteral).map innerBlocks).sum =
      innerBlocksOfAll ts := by
  induction ts with
  | nil => rfl
  | cons t ts ih =>
    rw [innerBlocksOfAll, ← ih]
    by_cases literal : t.kind = .funcLiteral <;> simp [literal]

theorem innerBlocks_eq (t : Tree) : innerBlocks t = ownBlocks t + innerBlocksOfAll t.children := by
  cases t with
  | node role kind span children => rw [innerBlocks, Tree.children]

theorem tally_eq (count : Nat) (stack : List Tree) :
    tally count stack = count + (stack.map innerBlocks).sum := by
  fun_induction tally count stack with
  | case1 count => rfl
  | case2 count t stack ih =>
    rw [ih, List.map_append, List.map_reverse, List.sum_append, List.sum_reverse,
      sum_filter_innerBlocks, List.map_cons, List.sum_cons, innerBlocks_eq]
    omega

mutual

def hollow : Tree → Tree
  | node role kind _ children =>
    node role kind default (if kind = .funcLiteral then [] else hollowAll children)

def hollowAll : List Tree → List Tree
  | [] => []
  | t :: ts => hollow t :: hollowAll ts

end

def outline (body : Tree) : Tree := node body.role body.kind default (hollowAll body.children)

theorem hollowAll_eq (ts : List Tree) : hollowAll ts = ts.map hollow := by
  induction ts with
  | nil => rfl
  | cons t ts ih => rw [hollowAll, ih, List.map_cons]

@[simp] theorem role_hollow (t : Tree) : t.hollow.role = t.role := by
  cases t
  rw [hollow]
  rfl

@[simp] theorem kind_hollow (t : Tree) : t.hollow.kind = t.kind := by
  cases t
  rw [hollow]
  rfl

theorem children_hollow {t : Tree} (other : t.kind ≠ .funcLiteral) :
    t.hollow.children = t.children.map hollow := by
  cases t with
  | node role kind span children =>
  rw [hollow, if_neg (show kind ≠ .funcLiteral from other), hollowAll_eq]
  rfl

@[simp] theorem isCase_hollow (t : Tree) : t.hollow.isCase = t.isCase := by
  simp only [isCase, kind_hollow]

@[simp] theorem isDefault_hollow (t : Tree) : t.hollow.isDefault = t.isDefault := by
  simp only [isDefault, kind_hollow]

theorem contribution_hollow (role : Role) (kind : Kind) (span other : Span) (ts : List Tree) :
    contribution (node role kind other (ts.map hollow)) =
      contribution (node role kind span ts) := by
  have alternative : hasElse (node role kind other (ts.map hollow)) =
      hasElse (node role kind span ts) := by
    simp [hasElse, Tree.children, List.any_map, Function.comp_def]
  have cases : (ts.map hollow).countP isCase = ts.countP isCase ∧
      (ts.map hollow).countP isDefault = ts.countP isDefault := by
    simp [List.countP_map, Function.comp_def]
  have post : hasPost (node role kind other (ts.map hollow)) =
      hasPost (node role kind span ts) := by
    simp only [hasPost, Tree.children, List.find?_map, Function.comp_def, kind_hollow]
    cases found : ts.find? fun child => child.kind == .forClause with
    | none => rfl
    | some clause =>
      have plain : clause.kind = .forClause := by simpa using List.find?_some found
      have below := children_hollow (t := clause) (by simp [plain])
      change (clause.hollow.children.any _) = clause.children.any _
      simp [below, List.any_map, Function.comp_def]
  simp only [contribution, Tree.kind, Tree.children, alternative, cases, post]

theorem innerBlocksOfAll_hollow {ts : List Tree}
    (shown : ∀ t ∈ ts, t.kind ≠ .funcLiteral → innerBlocks t.hollow = innerBlocks t) :
    innerBlocksOfAll (ts.map hollow) = innerBlocksOfAll ts := by
  induction ts with
  | nil => rfl
  | cons t ts ih =>
    rw [List.map_cons, innerBlocksOfAll, innerBlocksOfAll, kind_hollow,
      ih fun other member => shown other (by simp [member])]
    congr 1
    split
    · rfl
    · exact shown t (by simp) ‹_›

theorem innerBlocks_hollow {t : Tree} (other : t.kind ≠ .funcLiteral) :
    innerBlocks t.hollow = innerBlocks t := by
  induction t using Tree.induction with
  | step role kind span children shown =>
  rw [hollow, if_neg (show kind ≠ .funcLiteral from other), hollowAll_eq, innerBlocks, innerBlocks,
    ownBlocks_eq, ownBlocks_eq, contribution_hollow role kind span, innerBlocksOfAll_hollow shown]

theorem blocks_outline (body : Tree) : blocks body.outline = blocks body := by
  cases body with
  | node role kind span children =>
  rw [outline, blocks, blocks, Tree.role, Tree.kind, Tree.children, hollowAll_eq, innerBlocks,
    innerBlocks, ownBlocks_eq, ownBlocks_eq, contribution_hollow role kind span,
    innerBlocksOfAll_hollow fun t _ => innerBlocks_hollow]

theorem innerBlocksOfAll_append (first second : List Tree) :
    innerBlocksOfAll (first ++ second) = innerBlocksOfAll first + innerBlocksOfAll second := by
  induction first with
  | nil => rw [List.nil_append, innerBlocksOfAll, Nat.zero_add]
  | cons t ts ih => rw [List.cons_append, innerBlocksOfAll, innerBlocksOfAll, ih, Nat.add_assoc]

theorem blocks_block (role : Role) (span : Span) (statements : List Tree) :
    blocks (node role .block span statements) = 1 + innerBlocksOfAll statements := by
  rw [blocks, innerBlocks, ownBlocks]
  simp [Tree.kind]

/-- The size of a body is one and what each node of it outside of function literals adds; a stack
of nodes gives the same. It is one at least, the statements of a block add up, and bodies that
differ in their literals alone are of one size. -/
theorem blocks_eq_sum_outer (body : Tree) :
    blocks body = 1 + ((outer body).map contribution).sum ∧
      blocks body = tally 1 [body] ∧
      1 ≤ blocks body ∧
      (∀ role span before behind first second,
        blocks (node role .block span (first ++ second)) + 1 =
          blocks (node role .block before first) + blocks (node role .block behind second)) ∧
      ∀ other, outline body = outline other → blocks body = blocks other := by
  refine ⟨?_, ?_, Nat.le_add_right 1 _, ?_, ?_⟩
  · have nodes : ((outer body).map contribution).sum =
        contribution body + added (nodesBelowAll [] body.children) :=
      added_cons List.not_mem_nil body _
    rw [blocks, innerBlocks_eq, ownBlocks_eq, nodes,
      innerBlocksOfAll_eq_sum List.not_mem_nil fun t _ other =>
        innerBlocks_eq_sum other List.not_mem_nil]
  · simp [tally_eq, blocks]
  · intro role span before behind first second
    rw [blocks_block, blocks_block, blocks_block, innerBlocksOfAll_append]
    omega
  · intro other same
    rw [← blocks_outline body, same, blocks_outline]

def literalBody (contents : List Tree) : Tree :=
  let literal := node .plain .funcLiteral default contents
  let condition := node .plain (.binaryExpression "&&") default
    [node .plain .identifier default [], node .plain .callExpression default [literal]]
  node .body .block default
    [node .plain .ifStatement default [condition, node .alternative .block default []],
      node .plain .forStatement default [node .plain .block default []]]

theorem blocks_eq_sum_outer_literal :
    outline (literalBody []) = outline (literalBody [literalBody []]) ∧
      blocks (literalBody []) = blocks (literalBody [literalBody []]) ∧
      blocks (literalBody [literalBody []]) = 9 := by
  have same : outline (literalBody []) = outline (literalBody [literalBody []]) := rfl
  exact ⟨same, (blocks_eq_sum_outer (literalBody [])).2.2.2.2 _ same, rfl⟩

end TestReach.Source.Tree
