import TestReach.Proofs.Source.Gaps
import TestReach.Proofs.Source.Traversal

/-!
# Searches across gaps

A body is searched for calls, for references and for branches, and the comment that was put into it
is no hit. All others keep what they say and their order, unless the comment stands first in the
parentheses around what is called.
-/

namespace TestReach.Source

namespace Tree

open Gap

variable {g : Gap} {source edited : List Char} {t : Tree}

theorem Around.children_of_omitsTree {t : Tree} (around : t.Around g)
    (omitted : g.omitsTree t = true) : t.children = [] :=
  (around.here.note (kind_of_omitsTree omitted)).2

theorem visit_tree (t : Tree) : ∀ above, t.Around g → g.omitsTree t = false →
    visit above (g.tree t) =
      ((visit above t).filter fun visited => !g.omitsTree visited.2).map
        fun visited => (visited.1, g.tree visited.2) := by
  induction t using Tree.induction with
  | step role kind span children shown =>
  intro above around kept
  have below : ∀ t ∈ children, t.Around g := fun t member => around.below member
  have all : visitAll kind (g.trees children) =
      ((visitAll kind children).filter fun visited => !g.omitsTree visited.2).map
        fun visited => (visited.1, g.tree visited.2) := by
    clear around kept
    induction children with
    | nil => simp [visitAll]
    | cons t ts ih =>
      obtain ⟨before, behind⟩ := List.forall_mem_cons.1 below
      have others := ih (fun other later => shown other (by simp [later])) behind
      rw [trees_cons, visitAll, List.filter_append, List.map_append, ← others]
      cases omitted : g.omitsTree t with
      | true =>
        -- Nothing stands below the comment, so nothing else is missed.
        have none := before.children_of_omitsTree omitted
        cases t with
        | node role kind span children =>
        obtain rfl : children = [] := none
        simp [visit, visitAll, omitted]
      | false =>
        rw [if_neg (by decide), visitAll, shown t (by simp) kind before omitted]
  rw [tree_node, visit, visit, List.filter_cons, if_pos (by simp [kept]), List.map_cons, tree_node,
    all]

theorem insertByPlace_map {α : Type} {f : Nat → Nat} {entry : Nat × α} {sorted : List (Nat × α)}
    (order : ∀ other ∈ sorted, f entry.1 < f other.1 ↔ entry.1 < other.1) :
    insertByPlace (f entry.1, entry.2) (sorted.map fun other => (f other.1, other.2)) =
      (insertByPlace entry sorted).map fun other => (f other.1, other.2) := by
  induction sorted with
  | nil => rfl
  | cons other rest ih =>
    obtain ⟨here, behind⟩ := List.forall_mem_cons.1 order
    rw [List.map_cons, insertByPlace, insertByPlace]
    by_cases before : entry.1 < other.1
    · rw [if_pos before, if_pos (here.2 before)]
      rfl
    · rw [if_neg before, if_neg (mt here.1 before), ih behind]
      rfl

theorem inOrderOfPlace_map {α : Type} {f : Nat → Nat} {entries : List (Nat × α)}
    (order : ∀ one ∈ entries, ∀ other ∈ entries, f one.1 < f other.1 ↔ one.1 < other.1) :
    inOrderOfPlace (entries.map fun entry => (f entry.1, entry.2)) = inOrderOfPlace entries := by
  have all (rest sorted : List (Nat × α)) (known : ∀ entry ∈ rest, entry ∈ entries)
      (there : ∀ entry ∈ sorted, entry ∈ entries) :
      (rest.map fun entry => (f entry.1, entry.2)).foldl
        (fun sorted entry => insertByPlace entry sorted)
        (sorted.map fun entry => (f entry.1, entry.2)) =
      (rest.foldl (fun sorted entry => insertByPlace entry sorted) sorted).map
        fun entry => (f entry.1, entry.2) := by
    induction rest generalizing sorted with
    | nil => rfl
    | cons entry rest ih =>
      obtain ⟨here, behind⟩ := List.forall_mem_cons.1 known
      rw [List.map_cons, List.foldl_cons, List.foldl_cons,
        insertByPlace_map fun other member => order entry here other (there other member)]
      refine ih _ behind fun other member => ?_
      rcases mem_insertByPlace.1 member with rfl | member
      · exact here
      · exact there other member
  rw [inOrderOfPlace, inOrderOfPlace]
  have whole := all entries [] (fun _ member => member) (by simp)
  rw [List.map_nil] at whole
  rw [whole, List.map_map]
  rfl

theorem found_tree {α : Type} {t : Tree} {above : Kind} (find find' : Kind × Tree → Option α)
    (around : t.Around g) (kept : g.omitsTree t = false)
    (none : ∀ visited ∈ visit above t, visited.2.kind = .comment → find visited = none)
    (same : ∀ visited ∈ visit above t, visited.2.Around g →
      find' (visited.1, g.tree visited.2) = find visited) :
    inOrderOfPlace ((visit above (g.tree t)).filterMap fun visited =>
        (find' visited).map (visited.2.span.start.offset, ·)) =
      inOrderOfPlace ((visit above t).filterMap fun visited =>
        (find visited).map (visited.2.span.start.offset, ·)) := by
  have below : ∀ visited ∈ visit above t, visited.2.Around g :=
    forall_visit (fun _ around _ => around.below) t above around
  let moved (place : Nat) : Nat := (g.close ⟨place, 0⟩).offset
  have moves (p : Position) : (g.close p).offset = moved p.offset := by
    simp only [moved, offset_close]
  have entries : (visit above (g.tree t)).filterMap (fun visited =>
        (find' visited).map (visited.2.span.start.offset, ·)) =
      ((visit above t).filterMap fun visited =>
        (find visited).map (visited.2.span.start.offset, ·)).map
          fun entry => (moved entry.1, entry.2) := by
    rw [visit_tree t above around kept, List.filterMap_map, List.filterMap_filter,
      List.map_filterMap]
    refine List.filterMap_congr fun visited member => ?_
    cases omitted : g.omitsTree visited.2 with
    | true =>
      rw [none visited member (kind_of_omitsTree omitted)]
      rfl
    | false =>
      have here := same visited member (below visited member)
      simp only [Bool.not_false, if_true, Function.comp_apply, here, span_tree, closeSpan, moves,
        Option.map_map]
      rfl
  rw [entries]
  refine inOrderOfPlace_map fun one first other second => ?_
  -- Whatever was found begins with something else than the comment.
  have clear {entry : Nat × α} (member : entry ∈ (visit above t).filterMap fun visited =>
      (find visited).map (visited.2.span.start.offset, ·)) : g.Clear ⟨entry.1, 0⟩ := by
    obtain ⟨visited, there, found⟩ := List.mem_filterMap.1 member
    obtain ⟨a, result, rfl⟩ := Option.map_eq_some_iff.1 found
    refine (below visited there).here.clear fun comment => ?_
    rw [none visited there comment] at result
    cases result
  exact close_lt_iff (clear first) (clear second)

theorem Around.text_child (around : t.Around g) (without : source = g.leaveOut edited)
    {child : Tree} {role : Role} (naming : role.isNaming = true)
    (found : t.child? role = some child) : text source (g.tree child) = text edited child := by
  obtain ⟨member, played⟩ := mem_of_child? found
  exact text_tree without ((around.below member).here.name (.inr (played ▸ naming)))

@[simp] theorem isIdentifier_tree (t : Tree) : (g.tree t).isIdentifier = t.isIdentifier := by
  rw [isIdentifier, isIdentifier, kind_tree]

theorem Around.text_identifier (around : t.Around g) (without : source = g.leaveOut edited)
    (name : t.isIdentifier = true) : text source (g.tree t) = text edited t :=
  text_tree without (around.here.name (.inl (by simpa [isIdentifier] using name)))

mutual

/-- Whether the comment stands where what is called is looked for: first in parentheses, which may
be indexed or in parentheses again. -/
def hides (g : Gap) : Tree → Bool
  | node _ kind _ children =>
    match kind with
    | .parenthesizedExpression => hidesFirst g children
    | .indexExpression => hidesOperand g children
    | _ => false

def hidesFirst (g : Gap) : List Tree → Bool
  | [] => false
  | first :: _ => g.omitsTree first || hides g first

def hidesOperand (g : Gap) : List Tree → Bool
  | [] => false
  | t :: ts => if t.role = .operand then hides g t else hidesOperand g ts

end

theorem hidesOperand_eq (ts : List Tree) : hidesOperand g ts =
    ((ts.find? fun child => child.role == .operand).map (hides g)).getD false := by
  induction ts with
  | nil => rfl
  | cons t ts ih =>
    rw [hidesOperand, ih]
    by_cases operand : t.role = .operand
    · simp [operand]
    · rw [if_neg operand, List.find?_cons_of_neg (by simpa using operand)]

theorem Around.callee?_tree (without : source = g.leaveOut edited) (t : Tree) :
    t.Around g → hides g t = false → callee? source (g.tree t) = callee? edited t := by
  induction t using Tree.induction with
  | step role kind span children shown =>
  intro around shows
  cases kind
  case parenthesizedExpression =>
    cases children with
    | nil => rfl
    | cons first rest =>
      rw [hides, hidesFirst, Bool.or_eq_false_iff] at shows
      rw [tree_node, trees_cons, if_neg (by simp [shows.1]), callee?, callee?, calleeOfFirst?,
        calleeOfFirst?]
      exact shown first (by simp) (around.below List.mem_cons_self) shows.2
  case indexExpression =>
    have operand := around.child?_tree .operand (by decide)
    rw [hides, hidesOperand_eq] at shows
    rw [tree_node] at operand ⊢
    rw [callee?, callee?, calleeOfOperand?_eq, calleeOfOperand?_eq]
    rw [child?, child?] at operand
    change (g.trees children).find? _ = _ at operand
    rw [operand]
    change Option.bind (Option.map g.tree (children.find? _)) _ = _
    cases found : children.find? fun child => child.role == .operand with
    | none => rfl
    | some operand =>
      rw [found] at shows
      have member := List.mem_of_find?_eq_some found
      exact shown operand member (around.below member) shows
  case identifier =>
    have same := around.text_identifier without rfl
    rw [tree_node] at same ⊢
    rw [callee?, callee?, same]
  case selectorExpression =>
    have field := around.child?_tree .field (by decide)
    have operand := around.child?_tree .operand (by decide)
    rw [tree_node] at field operand ⊢
    rw [callee?, callee?, field, operand]
    cases behind : child? .field (node role .selectorExpression span children) with
    | none => rfl
    | some field =>
      cases front : child? .operand (node role .selectorExpression span children) with
      | none => rfl
      | some operand =>
        simp only [Option.map_some, isIdentifier_tree, around.text_child without rfl behind]
        split
        · rename_i name
          have inside := around.below (mem_of_child? front).1
          rw [inside.text_identifier without name]
        · rfl
  all_goals rfl

@[simp] theorem line_tree (t : Tree) : (g.tree t).line = t.line := by
  simp [line, closeSpan, Position.line]

@[simp] theorem endLine_tree (t : Tree) : (g.tree t).endLine = t.endLine := by
  simp [endLine, closeSpan, Position.line]

def HidesCall (g : Gap) (t : Tree) : Prop :=
  t.kind = .callExpression ∧
    ∃ function, t.child? .function = some function ∧ hides g function = true

theorem Around.callSite?_tree (around : t.Around g) (without : source = g.leaveOut edited)
    (shows : ¬ HidesCall g t) : callSite? source (g.tree t) = callSite? edited t := by
  unfold callSite?
  rw [kind_tree]
  split
  · rename_i call
    rw [around.child?_tree .function (by decide)]
    cases found : t.child? .function with
    | none => rfl
    | some function =>
      have inside := around.below (mem_of_child? found).1
      have shown : hides g function = false :=
        Bool.eq_false_iff.2 fun hidden => shows ⟨call, function, found, hidden⟩
      simp only [Option.map_some, callee?_tree without function inside shown, line_tree]
  · rfl

theorem Around.callSites_tree {body : Tree} (around : body.Around g)
    (without : source = g.leaveOut edited) (kept : g.omitsTree body = false)
    (shows : ∀ visited ∈ visit .functionDeclaration body, ¬ HidesCall g visited.2) :
    callSites source (g.tree body) = callSites edited body := by
  refine found_tree (fun visited => callSite? edited visited.2)
    (fun visited => callSite? source visited.2) around kept ?_ ?_
  · intro visited _ comment
    simp [callSite?, comment]
  · intro visited member inside
    exact inside.callSite?_tree without (shows visited member)

theorem Around.reference?_tree (around : t.Around g) (without : source = g.leaveOut edited)
    (above : Kind) : reference? source above (g.tree t) = reference? edited above t := by
  by_cases name : t.isIdentifier = true
  · simp [reference?, isCalled, name, around.text_identifier without name]
  by_cases selector : t.kind = .selectorExpression
  · have shows : hides g t = false := by
      cases t with
      | node role kind span children =>
      obtain rfl : kind = .selectorExpression := selector
      rfl
    simp [reference?, isCalled, name, selector, callee?_tree without t around shows]
  · simp [reference?, isCalled, name, selector]

theorem Around.references_tree {root : Tree} (around : root.Around g)
    (without : source = g.leaveOut edited) (kept : g.omitsTree root = false) :
    references source (g.tree root) = references edited root := by
  refine found_tree (fun visited => reference? edited visited.1 visited.2)
    (fun visited => reference? source visited.1 visited.2) around kept ?_ ?_
  · intro visited _ comment
    simp [reference?, isIdentifier, comment]
  · intro visited _ inside
    exact inside.reference?_tree without visited.1

@[simp] theorem caseBlocks_tree (t : Tree) : caseBlocks (g.tree t) = caseBlocks t := by
  rw [caseBlocks, caseBlocks, kind_tree]

theorem foldl_caseBlocks_trees (ts : List Tree) (count : Nat) :
    (g.trees ts).foldl (fun count child => count + caseBlocks child) count =
      ts.foldl (fun count child => count + caseBlocks child) count := by
  induction ts generalizing count with
  | nil => simp
  | cons t ts ih =>
    rw [trees_cons, List.foldl_cons]
    cases omitted : g.omitsTree t with
    | true =>
      have none : caseBlocks t = 0 := by rw [caseBlocks, kind_of_omitsTree omitted]
      rw [if_pos rfl, ih, none, Nat.add_zero]
    | false => rw [if_neg (by decide), List.foldl_cons, ih, caseBlocks_tree]

theorem Around.ownBlocks_tree (around : t.Around g) :
    ownBlocks (g.tree t) = ownBlocks t := by
  unfold ownBlocks
  rw [kind_tree]
  split
  · rw [around.child?_tree .alternative (by decide), Option.isSome_map]
  · have clause : (g.trees t.children).find? (fun child => child.kind == .forClause) =
        (t.children.find? fun child => child.kind == .forClause).map g.tree :=
      find?_trees (fun child _ => by rw [kind_tree]) (fun child _ comment => by simp [comment])
    rw [children_tree, clause]
    cases found : t.children.find? fun child => child.kind == .forClause with
    | none => rfl
    | some clause =>
      have inside := around.below (List.mem_of_find?_eq_some found)
      simp only [Option.map_some, inside.child?_tree .update (by decide), Option.isSome_map]
  · rw [children_tree, foldl_caseBlocks_trees]
  · rw [children_tree, foldl_caseBlocks_trees]
  · rfl
  · rfl
  · rfl

theorem Around.innerBlocks_tree (t : Tree) : t.Around g →
    innerBlocks (g.tree t) = innerBlocks t := by
  induction t using Tree.induction with
  | step role kind span children shown =>
  intro around
  have below : ∀ t ∈ children, t.Around g := fun t member => around.below member
  have all : innerBlocksOfAll (g.trees children) = innerBlocksOfAll children := by
    clear around
    induction children with
    | nil => simp
    | cons t ts ih =>
      obtain ⟨before, behind⟩ := List.forall_mem_cons.1 below
      have others := ih (fun other later => shown other (by simp [later])) behind
      rw [trees_cons, innerBlocksOfAll]
      cases omitted : g.omitsTree t with
      | true =>
        have none := before.children_of_omitsTree omitted
        have comment := kind_of_omitsTree omitted
        cases t with
        | node role kind span children =>
        obtain rfl : children = [] := none
        obtain rfl : kind = .comment := comment
        simp [others, innerBlocks, innerBlocksOfAll, ownBlocks, Tree.kind]
      | false =>
        rw [if_neg (by decide), innerBlocksOfAll, kind_tree, others, shown t (by simp) before]
  have own := around.ownBlocks_tree
  rw [tree_node] at own ⊢
  rw [innerBlocks, innerBlocks, own, all]

theorem Around.blocks_tree {body : Tree} (around : body.Around g) :
    blocks (g.tree body) = blocks body := by
  rw [blocks, blocks, innerBlocks_tree body around]

end Tree

end TestReach.Source
