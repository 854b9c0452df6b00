import TestReach.Proofs.Source.Instantiated
import TestReach.Proofs.Source.Traversal
import Mathlib.Data.List.Perm.Subperm
import Mathlib.Tactic.MkIffOfInductiveProp

/-!
# Names in bodies

A body is searched twice, for calls and for references, and each search leaves out what the other
one finds. Between them no name is lost: every identifier but those of parameters is the name that a
call or a reference has in front, its own one. An identifier that is called, or that stands in a
selector, is left to the node above it, and a selector that is called to the call.
-/

namespace TestReach.Source

def Callee.front? : Callee → Option String
  | .bare name => some name
  | .qualified qualifier _ => some qualifier
  | .method _ => none
  | .computed => none

namespace Tree

variable {source : List Char}

def used? (source : List Char) (visited : Kind × Tree) : Option String :=
  if visited.2.isIdentifier && !isParameter visited.1 then some (text source visited.2) else none

def calledName? (source : List Char) (visited : Kind × Tree) : Option String :=
  (callSite? source visited.2).bind fun site => site.callee.front?

def referredName? (source : List Char) (visited : Kind × Tree) : Option String :=
  (reference? source visited.1 visited.2).bind Callee.front?

/-- The names that a body uses, one for each identifier that is not that of a parameter. -/
def names (source : List Char) (body : Tree) : List String :=
  (visit .functionDeclaration body).filterMap (used? source)

def recordedNames (source : List Char) (body : Tree) : List String :=
  (((callSites source body).map CallSite.callee) ++ references source body).filterMap
    Callee.front?

/-- The name that a node leaves to the node above it: what is called to the call, and what stands in
front of a point to the selector. -/
def owed? (source : List Char) (visited : Kind × Tree) : Option String :=
  if isCalled visited.1 visited.2 then
    if visited.2.isIdentifier || visited.2.kind == .selectorExpression then
      (callee? source visited.2).bind Callee.front?
    else none
  else if visited.1 == .selectorExpression && visited.2.isIdentifier then
    some (text source visited.2)
  else none

/-- What a grammar grants of a node: a call calls one thing, and a selector has an operand and then
the name of a field, with nothing but comments between them. -/
@[mk_iff]
structure Shaped (t : Tree) : Prop where
  note : t.kind = .comment → t.role = .plain
  called : t.kind = .callExpression →
    t.children.countP (fun child => child.role == .function) = 1
  selected : t.kind = .selectorExpression →
    (t.children.filter fun child => child.kind != .comment).map role = [.operand, .field]
  field : t.role = .field → t.kind = .fieldIdentifier

instance : DecidablePred Shaped := fun t => decidable_of_iff' _ (shaped_iff t)

def AllShaped : Tree → Prop := Every Shaped

instance : DecidablePred AllShaped := inferInstanceAs (DecidablePred (Every _))

/-! ## One node -/

theorem callee?_of_isIdentifier {t : Tree} (name : t.isIdentifier = true) :
    callee? source t = some (.bare (text source t)) := by
  cases t with
  | node role kind span children =>
  obtain rfl : kind = .identifier := by simpa [isIdentifier, Tree.kind] using name
  rfl

theorem owed?_eq_none {above : Kind} (call : above ≠ .callExpression)
    (selector : above ≠ .selectorExpression) (t : Tree) : owed? source (above, t) = none := by
  simp [owed?, isCalled, call, selector]

theorem used_cases {above : Kind} {t : Tree} {name : String}
    (used : used? source (above, t) = some name) :
    referredName? source (above, t) = some name ∨ owed? source (above, t) = some name := by
  unfold used? at used
  split at used
  · rename_i known
    obtain rfl := Option.some.inj used
    obtain ⟨identifier, own⟩ := Bool.and_eq_true_iff.1 known
    rw [Bool.not_eq_true'] at own
    change t.isIdentifier = true at identifier
    cases called : isCalled above t with
    | true => simp [owed?, called, identifier, callee?_of_isIdentifier identifier, Callee.front?]
    | false =>
      by_cases selector : above = .selectorExpression
      · subst selector
        simp [owed?, called, identifier]
      · refine .inl ?_
        simp [referredName?, reference?, called, identifier, selector, own, Callee.front?]
  · cases used

theorem AllShaped.exists_operand {t : Tree} (shaped : t.AllShaped)
    (selector : t.kind = .selectorExpression) :
    ∃ operand field, t.child? .operand = some operand ∧ t.child? .field = some field ∧
      t.children.filter isIdentifier = [operand].filter isIdentifier := by
  have parts := shaped.here.selected selector
  have plain : ∀ child ∈ t.children, child.kind = .comment → child.role = .plain :=
    fun child member => (shaped.below member).here.note
  have named : ∀ child ∈ t.children, child.role = .field → child.kind = .fieldIdentifier :=
    fun child member => (shaped.below member).here.field
  generalize solid : t.children.filter (fun child => child.kind != .comment) = parts' at parts
  obtain ⟨operand, field, rfl, front, behind⟩ :
      ∃ operand field, parts' = [operand, field] ∧ operand.role = .operand ∧
        field.role = .field := by
    simpa [List.map_eq_cons_iff] using parts
  have found (role : Role) (other : role ≠ .plain) :
      t.child? role = [operand, field].find? fun child => child.role == role := by
    rw [child?, ← List.head?_filter, ← List.head?_filter, ← solid, List.filter_filter]
    refine congrArg List.head? (List.filter_congr fun child member => ?_)
    by_cases comment : child.kind = .comment
    · simp [comment, plain child member comment, other.symm]
    · simp [comment]
  refine ⟨operand, field, ?_, ?_, ?_⟩
  · rw [found .operand (by decide)]
    simp [front]
  · rw [found .field (by decide)]
    simp [front, behind]
  · have last : field.isIdentifier = false := by
      have inside : field ∈ t.children.filter fun child => child.kind != .comment := by
        rw [solid]
        simp
      rw [isIdentifier, named field (List.mem_of_mem_filter inside) behind]
      rfl
    have solids : t.children.filter isIdentifier = [operand, field].filter isIdentifier := by
      rw [← solid, List.filter_filter]
      refine List.filter_congr fun child _ => ?_
      by_cases comment : child.kind = .comment <;> simp [isIdentifier, comment]
    rw [solids, List.filter_cons, List.filter_cons, List.filter_cons, last]
    simp

theorem selector_cases {above : Kind} {t operand field : Tree} {name : String}
    (selector : t.kind = .selectorExpression) (front : t.child? .operand = some operand)
    (behind : t.child? .field = some field)
    (known : operand.isIdentifier = true ∧ text source operand = name) :
    referredName? source (above, t) = some name ∨ owed? source (above, t) = some name := by
  have called : (callee? source t).bind Callee.front? = some name := by
    cases t with
    | node role kind span below =>
    obtain rfl : kind = .selectorExpression := selector
    rw [callee?, behind, front]
    simp [known, Callee.front?]
  have other : t.isIdentifier = false := by simp [isIdentifier, selector]
  cases called' : isCalled above t with
  | true => simp [owed?, called', selector, called]
  | false => simp [referredName?, reference?, called', other, selector, called]

theorem call_cases {above : Kind} {t function : Tree} {name : String}
    (call : t.kind = .callExpression) (found : t.child? .function = some function)
    (owes : owed? source (t.kind, function) = some name) :
    calledName? source (above, t) = some name := by
  have called : (callee? source function).bind Callee.front? = some name := by
    simp only [owed?, isCalled, call, (mem_of_child? found).2] at owes
    split at owes
    · split at owes
      · exact owes
      · cases owes
    · simp at owes
  rw [calledName?, callSite?, if_pos call, found]
  obtain ⟨callee, known, front⟩ := Option.bind_eq_some_iff.1 called
  simp [known, front]

/-! ## Counts -/

def hits (name : String) (found? : Option String) : Nat := if found? = some name then 1 else 0

variable {name : String}

theorem hits_le {one other : Option String} (same : one = some name → other = some name) :
    hits name one ≤ hits name other := by
  by_cases found : one = some name
  · simp [hits, found, same found]
  · simp [hits, found]

theorem hits_le_add {one first second : Option String}
    (same : one = some name → first = some name ∨ second = some name) :
    hits name one ≤ hits name first + hits name second := by
  by_cases found : one = some name
  · rcases same found with recorded | recorded <;> simp [hits, found, recorded]
  · simp [hits, found]

theorem count_filterMap_cons {α : Type} (find : α → Option String) (a : α) (rest : List α) :
    ((a :: rest).filterMap find).count name =
      hits name (find a) + (rest.filterMap find).count name := by
  cases found : find a with
  | none => simp [hits, found]
  | some other =>
    rw [List.filterMap_cons_some found, List.count_cons, Nat.add_comm, hits]
    simp

def owedTo (source : List Char) (t : Tree) : List String :=
  t.children.filterMap fun child => owed? source (t.kind, child)

theorem owedTo_filter {t : Tree} {p : Tree → Bool}
    (none : ∀ child ∈ t.children, p child = false → owed? source (t.kind, child) = none) :
    owedTo source t =
      (t.children.filter p).filterMap fun child => owed? source (t.kind, child) := by
  rw [owedTo, List.filterMap_filter]
  refine List.filterMap_congr fun child member => ?_
  cases leaves : p child with
  | true => rfl
  | false => exact none child member leaves

theorem AllShaped.count_owedTo_call {t : Tree} (shaped : t.AllShaped)
    (call : t.kind = .callExpression) (above : Kind) :
    (owedTo source t).count name ≤ hits name (calledName? source (above, t)) := by
  have once := shaped.here.called call
  rw [List.countP_eq_length_filter, List.length_eq_one_iff] at once
  obtain ⟨function, alone⟩ := once
  have found : t.child? .function = some function := by
    rw [child?, ← List.head?_filter, alone]
    rfl
  have left : owedTo source t =
      (t.children.filter fun child => child.role == .function).filterMap
        fun child => owed? source (t.kind, child) := by
    refine owedTo_filter fun child _ other => ?_
    simp [owed?, isCalled, call, other]
  rw [left, alone, count_filterMap_cons, List.filterMap_nil, List.count_nil]
  exact hits_le (call_cases call found)

theorem AllShaped.count_owedTo_selector {t : Tree} (shaped : t.AllShaped)
    (selector : t.kind = .selectorExpression) (above : Kind) :
    (owedTo source t).count name ≤
      hits name (referredName? source (above, t)) + hits name (owed? source (above, t)) := by
  obtain ⟨operand, field, front, behind, alone⟩ := shaped.exists_operand selector
  have left : owedTo source t =
      (t.children.filter isIdentifier).filterMap fun child => owed? source (t.kind, child) := by
    refine owedTo_filter fun child _ other => ?_
    simp [owed?, isCalled, selector, other]
  rw [left, alone]
  cases identifier : operand.isIdentifier with
  | false => simp [identifier]
  | true =>
    rw [List.filter_cons, if_pos identifier, List.filter_nil, count_filterMap_cons,
      List.filterMap_nil, List.count_nil]
    refine hits_le_add fun owes => selector_cases selector front behind ⟨identifier, ?_⟩
    simpa [owed?, isCalled, selector, identifier] using owes

theorem AllShaped.accounted {t : Tree} (shaped : t.AllShaped) (above : Kind) :
    hits name (used? source (above, t)) + (owedTo source t).count name ≤
      hits name (calledName? source (above, t)) + hits name (referredName? source (above, t)) +
        hits name (owed? source (above, t)) := by
  have unused (other : t.isIdentifier = false) : hits name (used? source (above, t)) = 0 := by
    simp [used?, other, hits]
  by_cases call : t.kind = .callExpression
  · have recorded : (owedTo source t).count name ≤ _ := shaped.count_owedTo_call call above
    have none := unused (by simp [isIdentifier, call])
    omega
  by_cases selector : t.kind = .selectorExpression
  · have recorded : (owedTo source t).count name ≤ _ :=
      shaped.count_owedTo_selector selector above
    have none := unused (by simp [isIdentifier, selector])
    omega
  · have below : owedTo source t = [] :=
      List.filterMap_eq_nil_iff.2 fun child _ => owed?_eq_none call selector child
    have recorded : hits name (used? source (above, t)) ≤
        hits name (referredName? source (above, t)) + hits name (owed? source (above, t)) :=
      hits_le_add used_cases
    rw [below, List.count_nil]
    omega

/-! ## Whole bodies -/

theorem count_visitAll {find : Kind × Tree → Option String} (above : Kind) (t : Tree)
    (ts : List Tree) : ((visitAll above (t :: ts)).filterMap find).count name =
      ((visit above t).filterMap find).count name +
        ((visitAll above ts).filterMap find).count name := by
  rw [visitAll, List.filterMap_append, List.count_append, Nat.add_comm]

theorem count_used_le (t : Tree) : ∀ above, t.AllShaped →
    ((visit above t).filterMap (used? source)).count name ≤
      ((visit above t).filterMap (calledName? source)).count name +
        ((visit above t).filterMap (referredName? source)).count name +
        hits name (owed? source (above, t)) := by
  induction t using Tree.induction with
  | step role kind span children shown =>
  intro above shaped
  -- What the children leave is due at their parent, so it is carried along the list.
  have all : ((visitAll kind children).filterMap (used? source)).count name ≤
      ((visitAll kind children).filterMap (calledName? source)).count name +
        ((visitAll kind children).filterMap (referredName? source)).count name +
        (children.filterMap fun child => owed? source (kind, child)).count name := by
    have below : ∀ t ∈ children, t.AllShaped := fun t member => shaped.below member
    clear shaped
    induction children with
    | nil => simp [visitAll]
    | cons t ts ih =>
      obtain ⟨here, behind⟩ := List.forall_mem_cons.1 below
      have first := shown t (by simp) kind here
      have rest := ih (fun other member => shown other (by simp [member])) behind
      rw [count_visitAll, count_visitAll, count_visitAll, count_filterMap_cons]
      omega
  have here : hits name (used? source (above, node role kind span children)) +
      (children.filterMap fun child => owed? source (kind, child)).count name ≤ _ :=
    shaped.accounted above
  rw [visit, count_filterMap_cons, count_filterMap_cons, count_filterMap_cons]
  omega

theorem perm_callSites (body : Tree) : (callSites source body).Perm
    ((visit .functionDeclaration body).filterMap fun visited => callSite? source visited.2) :=
  perm_inOrderOfPlace _

theorem perm_references (body : Tree) : (references source body).Perm
    ((visit .functionDeclaration body).filterMap fun visited =>
      reference? source visited.1 visited.2) :=
  perm_inOrderOfPlace _

theorem perm_recordedNames (body : Tree) : (recordedNames source body).Perm
    ((visit .functionDeclaration body).filterMap (calledName? source) ++
      (visit .functionDeclaration body).filterMap (referredName? source)) := by
  refine ((((perm_callSites body).map _).append (perm_references body)).filterMap _).trans ?_
  rw [List.filterMap_append, List.filterMap_map, List.filterMap_filterMap, List.filterMap_filterMap]
  exact .refl _

theorem AllShaped.names_subperm {body : Tree} (shaped : body.AllShaped) :
    (names source body).Subperm (recordedNames source body) := by
  refine List.subperm_ext_iff.2 fun name _ => ?_
  have recorded : (names source body).count name ≤ _ :=
    count_used_le body .functionDeclaration shaped
  rw [owed?_eq_none (by decide) (by decide)] at recorded
  rw [(perm_recordedNames body).count_eq, List.count_append]
  exact recorded

/-! ## Where the names in front come from -/

theorem used_of_callee? (t : Tree) : ∀ above callee name, callee? source t = some callee →
    callee.front? = some name → (isParameter above = true → t.isIdentifier = false) →
      ∃ other ∈ visit above t, used? source other = some name := by
  induction t using Tree.induction with
  | step role kind span children ih =>
  intro above callee name found front own
  have here (identifier : (node role kind span children).isIdentifier = true)
      (same : callee = .bare (text source (node role kind span children))) :
      ∃ other ∈ visit above (node role kind span children), used? source other = some name := by
    refine ⟨_, mem_visit_self above _, ?_⟩
    have outside : isParameter above = false := by
      cases parameter : isParameter above with
      | false => rfl
      | true => simp [own parameter] at identifier
    subst same
    obtain rfl := Option.some.inj front
    simp [used?, identifier, outside]
  unfold callee? at found
  split at found
  -- What is called through parentheses or brackets is one of the nodes in them.
  case h_1 =>
    rw [calleeOfFirst?_eq, Option.bind_eq_some_iff] at found
    obtain ⟨first, listed, found⟩ := found
    obtain ⟨other, inside, used⟩ := ih first (List.mem_of_head? listed) .parenthesizedExpression
      callee name found front (by simp [isParameter])
    exact ⟨other, mem_visit_below (List.mem_of_head? listed) inside, used⟩
  case h_2 =>
    rw [calleeOfOperand?_eq, Option.bind_eq_some_iff] at found
    obtain ⟨operand, listed, found⟩ := found
    have member := List.mem_of_find?_eq_some listed
    obtain ⟨other, inside, used⟩ := ih operand member .indexExpression callee name found front
      (by simp [isParameter])
    exact ⟨other, mem_visit_below member inside, used⟩
  case h_3 =>
    cases found
    cases front
  case h_4 => exact here rfl (Option.some.inj found).symm
  case h_5 =>
    split at found
    · rename_i field operand _ behind
      split at found
      · rename_i identifier
        cases found
        obtain rfl := Option.some.inj front
        refine ⟨(.selectorExpression, operand), ?_, by simp [used?, identifier, isParameter]⟩
        exact mem_visit_below (mem_of_child? behind).1 (mem_visit_self _ _)
      · cases found
        cases front
    · cases found
  case h_6 => cases found

theorem used_of_callSite? {above : Kind} {t : Tree} {site : CallSite} {name : String}
    (found : callSite? source t = some site) (front : site.callee.front? = some name) :
    ∃ other ∈ visit above t, used? source other = some name := by
  unfold callSite? at found
  split at found
  · rename_i call
    split at found
    · rename_i function played
      obtain ⟨callee, called, rfl⟩ := Option.map_eq_some_iff.1 found
      obtain ⟨other, inside, used⟩ := used_of_callee? function .callExpression callee name called
        front (by simp [isParameter])
      exact ⟨other, mem_visit_below (mem_of_child? played).1 (call ▸ inside), used⟩
    · cases found
  · cases found

theorem used_of_reference? {above : Kind} {t : Tree} {callee : Callee} {name : String}
    (found : reference? source above t = some callee) (front : callee.front? = some name) :
    ∃ other ∈ visit above t, used? source other = some name := by
  unfold reference? at found
  split at found
  · cases found
  split at found
  · rename_i identifier
    split at found
    · cases found
    · rename_i own
      have bare : callee? source t = some callee := (callee?_of_isIdentifier identifier).trans found
      exact used_of_callee? t above callee name bare front
        fun parameter => absurd (by simp [parameter]) own
  split at found
  · rename_i other _
    exact used_of_callee? t above callee name found front fun _ => Bool.eq_false_iff.2 other
  · cases found

def UsedWithin (source : List Char) (body : Tree) (visited : Kind × Tree) (name : String) : Prop :=
  visited ∈ visit .functionDeclaration body ∧
    ∃ other ∈ visit visited.1 visited.2,
      other ∈ visit .functionDeclaration body ∧ used? source other = some name

theorem usedWithin_of_used {body : Tree} {visited : Kind × Tree} {name : String}
    (member : visited ∈ visit .functionDeclaration body)
    (uses : ∃ other ∈ visit visited.1 visited.2, used? source other = some name) :
    UsedWithin source body visited name := by
  obtain ⟨other, inside, used⟩ := uses
  exact ⟨member, other, inside, mem_visit_trans body _ visited member other inside, used⟩

/-- The calls and the references in a body hold the names that it uses, and no others. -/
structure NamesRecorded (source : List Char) (body : Tree) : Prop where
  each : (names source body).Subperm (recordedNames source body)
  calls : ∀ site ∈ callSites source body, ∀ name, site.callee.front? = some name →
    ∃ visited, callSite? source visited.2 = some site ∧ UsedWithin source body visited name
  references : ∀ callee ∈ references source body, ∀ name, callee.front? = some name →
    ∃ visited, reference? source visited.1 visited.2 = some callee ∧
      UsedWithin source body visited name

theorem AllShaped.namesRecorded {body : Tree} (shaped : body.AllShaped) :
    NamesRecorded source body := by
  constructor
  case each => exact shaped.names_subperm
  case calls =>
    intro site listed name front
    obtain ⟨visited, member, found⟩ :=
      List.mem_filterMap.1 ((perm_callSites body).mem_iff.1 listed)
    exact ⟨visited, found, usedWithin_of_used member (used_of_callSite? found front)⟩
  case references =>
    intro callee listed name front
    obtain ⟨visited, member, found⟩ :=
      List.mem_filterMap.1 ((perm_references body).mem_iff.1 listed)
    exact ⟨visited, found, usedWithin_of_used member (used_of_reference? found front)⟩

/-! ## Items of a file -/

theorem references_addItem (file : File) (item : Tree) :
    file.references <+: (addItem source file item).references := by
  unfold addItem
  split
  case h_1 => split <;> exact List.prefix_rfl
  case h_2 | h_3 | h_7 => exact List.prefix_rfl
  all_goals exact List.prefix_append _ _

theorem references_body_addItem (file : File) {item body : Tree}
    (function : item.kind = .functionDeclaration ∨ item.kind = .methodDeclaration)
    (holds : item.child? .body = some body) :
    references source body <:+: (addItem source file item).references := by
  have added : (addItem source file item).references =
      file.references ++ references source body := by
    rcases function with kind | kind <;> simp [addItem, kind, holds]
  rw [added]
  exact (List.suffix_append _ _).isInfix

theorem references_foldl (items : List Tree) (file : File) :
    file.references <+: (items.foldl (addItem source) file).references := by
  induction items generalizing file with
  | nil => exact List.prefix_rfl
  | cons item items ih => exact (references_addItem file item).trans (ih _)

theorem references_declared {path : String} {root item body : Tree} (member : item ∈ root.children)
    (function : item.kind = .functionDeclaration ∨ item.kind = .methodDeclaration)
    (holds : item.child? .body = some body) :
    references source body <:+: (declared source path root).references := by
  obtain ⟨before, behind, same⟩ := List.append_of_mem member
  rw [declared, same, List.foldl_append, List.foldl_cons]
  exact (references_body_addItem _ function holds).trans (references_foldl behind _).isInfix

theorem declaration?_eq_none {path : String} {item : Tree}
    (named : ∃ name ∈ item.children, name.role = .name)
    (none : declaration? source path item = none) :
    item.kind = .methodDeclaration ∧ (item.child? .receiver).bind (receiver? source) = .none := by
  obtain ⟨first, member, played⟩ := named
  obtain ⟨name, called⟩ : ∃ name, item.child? .name = some name := exists_child? member played
  unfold declaration? at none
  rw [called] at none
  by_cases method : item.kind = .methodDeclaration
  · refine ⟨method, ?_⟩
    cases known : item.child? .receiver with
    | none => rfl
    | some parameters =>
      cases told : receiver? source parameters with
      | none => simp [told]
      | some receiver => simp [method, known, told] at none
  · simp [method] at none

end Tree

/-! ## Files -/

/-- In the body of every function and every method, each use of a name is the name in front of a
call or a reference of its own, and all names in front of calls and references are used there. A
file has the references, and the calls unless they are those of a method whose receiver cannot be
told. -/
theorem File.names_recorded [Parser] {path source : String} {file : File}
    (read : File.parse path source = .ok file) {root item body : Tree}
    (found : Parser.tree? source.toList = some root) (listed : item ∈ root.children)
    (function : item.kind = .functionDeclaration ∨ item.kind = .methodDeclaration)
    (named : ∃ name ∈ item.children, name.role = .name)
    (holds : item.child? .body = some body) (shaped : body.AllShaped) :
    Tree.NamesRecorded source.toList body ∧
      Tree.references source.toList body <:+: file.references ∧
      ((∃ d ∈ file.declarations, Tree.declaration? source.toList path item = some d ∧
          d.calls = Tree.callSites source.toList body) ∨
        item.kind = .methodDeclaration ∧
          (item.child? .receiver).bind (Tree.receiver? source.toList) = none) := by
  obtain ⟨other, same, -, rfl⟩ := exists_tree_of_parse read
  obtain rfl : root = other := Option.some.inj (found.symm.trans same)
  refine ⟨shaped.namesRecorded, Tree.references_declared listed function holds, ?_⟩
  cases declares : Tree.declaration? source.toList path item with
  | none => exact .inr (Tree.declaration?_eq_none named declares)
  | some d =>
    refine .inl ⟨d, ?_, rfl, ?_⟩
    · exact Tree.mem_declarations_of_defines ⟨item, listed, function, declares, holds⟩
    · rw [(Tree.declaration?_some declares).2.2, holds]
      rfl

def usingSource : String :=
  "package m\nfunc A(a int) \x7b f(x); p.q(y, func(z int) \x7b z \x7d); (g)(); r.s.t = u[i] \x7d\n"

def usingBody : Tree :=
  .on 1 24 80 .body .block [
    .on 1 26 30 .plain .expressionStatement [
      .on 1 26 30 .plain .callExpression [
        .on 1 26 27 .function .identifier [],
        .on 1 27 30 .plain .argumentList [.on 1 28 29 .plain .identifier []]]],
    .on 1 32 57 .plain .expressionStatement [
      .on 1 32 57 .plain .callExpression [
        .on 1 32 35 .function .selectorExpression [
          .on 1 32 33 .operand .identifier [], .on 1 34 35 .field .fieldIdentifier []],
        .on 1 35 57 .plain .argumentList [
          .on 1 36 37 .plain .identifier [],
          .on 1 39 56 .plain .funcLiteral [
            .on 1 43 50 .plain .parameterList [
              .on 1 44 49 .plain .parameterDeclaration [
                .on 1 44 45 .name .identifier [], .on 1 46 49 .type .typeIdentifier []]],
            .on 1 51 56 .body .block [
              .on 1 53 54 .plain .expressionStatement [.on 1 53 54 .plain .identifier []]]]]]],
    .on 1 59 64 .plain .expressionStatement [
      .on 1 59 64 .plain .callExpression [
        .on 1 59 62 .function .parenthesizedExpression [.on 1 60 61 .plain .identifier []],
        .on 1 62 64 .plain .argumentList []]],
    .on 1 66 78 .plain .assignment [
      .on 1 66 71 .plain .expressionList [
        .on 1 66 71 .plain .selectorExpression [
          .on 1 66 69 .operand .selectorExpression [
            .on 1 66 67 .operand .identifier [], .on 1 68 69 .field .fieldIdentifier []],
          .on 1 70 71 .field .fieldIdentifier []]],
      .on 1 74 78 .plain .indexExpression [
        .on 1 74 75 .operand .identifier [], .on 1 76 77 .plain .identifier []]]]

def usingTree : Tree :=
  .node .plain .sourceFile ⟨⟨0, 0⟩, ⟨81, 2⟩⟩ [
    .on 0 0 9 .plain .packageClause [.on 0 8 9 .plain .packageIdentifier []],
    .on 1 10 80 .plain .functionDeclaration [
      .on 1 15 16 .name .identifier [],
      .on 1 16 23 .plain .parameterList [
        .on 1 17 22 .plain .parameterDeclaration [
          .on 1 17 18 .name .identifier [], .on 1 19 22 .type .typeIdentifier []]],
      usingBody]]

local instance usingParser : Parser := .ofList [(usingSource, usingTree)]

def usingFile : File :=
  ⟨"m.go", "m", [],
    [⟨"A", none, "m.go", 2, 2, true, 1, [⟨2, .bare "f"⟩, ⟨2, .qualified "p" "q"⟩, ⟨2, .bare "g"⟩]⟩],
    [], [.bare "x", .bare "y", .bare "z", .bare "g", .method "t", .qualified "r" "s", .bare "u",
      .bare "i"]⟩

theorem File.names_recorded_using :
    (File.parse "m.go" usingSource = .ok usingFile ∧ usingBody.AllShaped) ∧
      Tree.names usingSource.toList usingBody = ["i", "u", "r", "g", "z", "y", "p", "x", "f"] ∧
      Tree.NamesRecorded usingSource.toList usingBody ∧
      Tree.references usingSource.toList usingBody <:+: usingFile.references := by
  have read : File.parse "m.go" usingSource = .ok usingFile := by decide +kernel
  have found : Parser.tree? usingSource.toList = some usingTree := by rfl
  have shaped : usingBody.AllShaped := by decide +kernel
  obtain ⟨recorded, references, -⟩ := names_recorded read found
    (List.mem_cons_of_mem _ List.mem_cons_self) (.inl rfl) ⟨_, List.mem_cons_self, rfl⟩ rfl shaped
  exact ⟨⟨read, shaped⟩, by decide +kernel, recorded, references⟩

def describingSource : String :=
  "package m\nfunc F() \x7b var v interface \x7b M(x int) \x7d \x7d\n"

def describingBody : Tree :=
  .on 1 19 51 .body .block [
    .on 1 21 49 .plain .varDeclaration [
      .on 1 25 49 .plain .varSpec [
        .on 1 25 26 .name .identifier [],
        .on 1 27 49 .plain .interfaceType [
          .on 1 39 47 .plain .methodElement [
            .on 1 39 40 .plain .fieldIdentifier [],
            .on 1 40 47 .plain .parameterList [
              .on 1 41 46 .plain .parameterDeclaration [
                .on 1 41 42 .name .identifier [], .on 1 43 46 .type .typeIdentifier []]]]]]]]

def describingTree : Tree :=
  .node .plain .sourceFile ⟨⟨0, 0⟩, ⟨52, 2⟩⟩ [
    .on 0 0 9 .plain .packageClause [.on 0 8 9 .plain .packageIdentifier []],
    .on 1 10 51 .plain .functionDeclaration [
      .on 1 15 16 .name .identifier [], .on 1 16 18 .plain .parameterList [],
      describingBody]]

def unreceivedSource : String := "package m\nfunc () M() \x7b f() \x7d\n"

def unreceivedBody : Tree :=
  .on 1 22 29 .body .block [
    .on 1 24 27 .plain .expressionStatement [
      .on 1 24 27 .plain .callExpression [
        .on 1 24 25 .function .identifier [], .on 1 25 27 .plain .argumentList []]]]

def unreceivedTree : Tree :=
  .node .plain .sourceFile ⟨⟨0, 0⟩, ⟨30, 2⟩⟩ [
    .on 0 0 9 .plain .packageClause [.on 0 8 9 .plain .packageIdentifier []],
    .on 1 10 29 .plain .methodDeclaration [
      .on 1 15 17 .receiver .parameterList [], .on 1 18 19 .name .fieldIdentifier [],
      .on 1 19 21 .plain .parameterList [],
      unreceivedBody]]

local instance unreceivedParser : Parser :=
  .ofList [(describingSource, describingTree), (unreceivedSource, unreceivedTree)]

/-- Names that are lost: that of a parameter of a method of an interface, which is neither one of a
function literal nor one of a function type, and those that a method calls which has no receiver. -/
theorem File.names_unrecorded :
    ((∀ visited ∈ Tree.visit .functionDeclaration describingBody,
        visited.2.kind ≠ .funcLiteral ∧ visited.2.kind ≠ .functionType) ∧
      (∃ visited ∈ Tree.visit .functionDeclaration describingBody,
        visited.2.isIdentifier = true ∧ Tree.text describingSource.toList visited.2 = "x") ∧
      ∃ file, File.parse "m.go" describingSource = .ok file ∧
        file.declarations.map Declaration.calls = [[]] ∧ file.references = [.bare "v"]) ∧
    (∃ visited ∈ Tree.visit .functionDeclaration unreceivedBody,
      Tree.used? unreceivedSource.toList visited = some "f") ∧
      File.parse "m.go" unreceivedSource = .ok ⟨"m.go", "m", [], [], [], []⟩ := by
  have described : File.parse "m.go" describingSource =
      .ok ⟨"m.go", "m", [], [⟨"F", none, "m.go", 2, 2, true, 1, []⟩], [], [.bare "v"]⟩ := by
    decide +kernel
  exact ⟨⟨by decide +kernel, by decide +kernel, _, described, rfl, rfl⟩, by decide +kernel,
    by decide +kernel⟩

end TestReach.Source
