import TestReach.Proofs.Source.Searching

/-!
# Comments in files

A comment between two tokens of a source file says nothing of what the file declares: the file is
read whether or not the comment is there, and declares the same. Three places are the exception,
where a node is taken by its place and the comment may be it: the name of a package, what is called
in parentheses, and the type of a receiver, which is also taken with the comments that stand in it.
-/

namespace TestReach.Source

namespace Tree

open Gap

variable {g : Gap} {source edited : List Char} {t : Tree}

def pointed? (type : Tree) : Option Tree :=
  if type.kind == .pointerType then type.children.head? else some type

def base? (type : Tree) : Option Tree :=
  if type.kind == .genericType then type.child? .type else some type

def receiverType? (parameters : Tree) : Option (Tree × Bool) := do
  let parameter ← parameters.children.find? fun child => child.kind == .parameterDeclaration
  let type ← parameter.child? .type
  let pointed ← type.pointed?
  let base ← pointed.base?
  return (base, type.kind == .pointerType)

theorem receiver?_eq (source : List Char) (parameters : Tree) :
    receiver? source parameters =
      (receiverType? parameters).map fun named => ⟨text source named.1, named.2⟩ := by
  unfold receiver? receiverType?
  cases parameters.children.find? fun child => child.kind == .parameterDeclaration with
  | none => rfl
  | some parameter =>
  simp only [Option.bind_eq_bind, Option.bind_some]
  cases parameter.child? .type with
  | none => rfl
  | some type =>
  simp only [Option.bind_some, Option.pure_def, pointed?]
  generalize (type.kind == .pointerType) = pointer
  have named (type : Tree) : (if (type.kind == .genericType) = true then
        (type.child? .type).bind fun type => some (⟨text source type, pointer⟩ : Receiver)
      else some ⟨text source type, pointer⟩) =
      ((base? type).bind fun base => some (base, pointer)).map
        fun named => ⟨text source named.1, named.2⟩ := by
    rw [base?]
    split
    · cases type.child? .type <;> rfl
    · rfl
  split
  · cases type.children.head? with
    | none => rfl
    | some first => exact named first
  · exact named type

theorem Around.base?_tree {type : Tree} (around : type.Around g) :
    base? (g.tree type) = (base? type).map g.tree := by
  rw [base?, base?, kind_tree]
  split
  · exact around.child?_tree .type (by decide)
  · rfl

theorem pointed?_tree {type : Tree}
    (kept : ∀ first ∈ type.pointed?, g.omitsTree first = false) :
    pointed? (g.tree type) = (pointed? type).map g.tree := by
  rw [pointed?, pointed?, kind_tree]
  split
  · rename_i pointer
    rw [children_tree]
    cases children : type.children with
    | nil => simp
    | cons first rest =>
      rw [trees_cons, kept first (by rw [pointed?, if_pos pointer, children]; rfl)]
      rfl
  · rfl

theorem Around.receiverType?_tree {parameters : Tree} (around : parameters.Around g)
    (shown : ∀ named ∈ receiverType? parameters, g.Outside named.1.span) :
    receiverType? (g.tree parameters) =
      (receiverType? parameters).map fun named => (g.tree named.1, named.2) := by
  have parameter : (g.trees parameters.children).find? (fun child =>
        child.kind == .parameterDeclaration) =
      (parameters.children.find? fun child => child.kind == .parameterDeclaration).map g.tree :=
    find?_trees (fun child _ => by rw [kind_tree]) (fun child _ comment => by simp [comment])
  unfold receiverType? at shown ⊢
  rw [children_tree, parameter]
  cases found : parameters.children.find? fun child => child.kind == .parameterDeclaration with
  | none => rfl
  | some parameter =>
  have declared := around.below (List.mem_of_find?_eq_some found)
  simp only [Option.map_some, Option.bind_eq_bind, Option.bind_some,
    declared.child?_tree .type (by decide)]
  cases typed : parameter.child? .type with
  | none => rfl
  | some type =>
  have inside := declared.below (mem_of_child? typed).1
  rw [found, Option.bind_eq_bind, Option.bind_some, typed] at shown
  simp only [Option.map_some, Option.bind_some, Option.pure_def, kind_tree] at shown ⊢
  have kept : ∀ first ∈ type.pointed?, g.omitsTree first = false := by
    intro first front
    cases omitted : g.omitsTree first with
    | false => rfl
    | true =>
      -- The comment would be taken for the type, and it does not stand outside of the gap.
      have comment := kind_of_omitsTree omitted
      have taken : base? first = some first := if_neg (by simp [comment])
      rw [Option.mem_def.1 front, Option.bind_some, taken, Option.bind_some] at shown
      have outside := shown _ rfl
      simp [omitsTree, not_isAt_of_outside outside] at omitted
  rw [pointed?_tree kept]
  cases front : type.pointed? with
  | none => rfl
  | some first =>
  have element : first.Around g := by
    rw [pointed?] at front
    split at front
    · exact inside.below (List.mem_of_head? front)
    · cases front
      exact inside
  rw [Option.map_some, Option.bind_some, Option.bind_some, element.base?_tree]
  cases base? first <;> rfl

theorem Around.receiver?_tree {parameters : Tree} (around : parameters.Around g)
    (without : source = g.leaveOut edited)
    (shown : ∀ named ∈ receiverType? parameters, g.Outside named.1.span) :
    receiver? source (g.tree parameters) = receiver? edited parameters := by
  rw [receiver?_eq, receiver?_eq, around.receiverType?_tree shown, Option.map_map]
  cases found : receiverType? parameters with
  | none => rfl
  | some named => simp [text_tree without (shown named found)]

theorem filterMap_trees {α : Type} {find find' : Tree → Option α} {ts : List Tree}
    (same : ∀ t ∈ ts, find' (g.tree t) = find t)
    (none : ∀ t ∈ ts, t.kind = .comment → find t = none) :
    (g.trees ts).filterMap find' = ts.filterMap find := by
  induction ts with
  | nil => simp
  | cons t ts ih =>
    obtain ⟨here, others⟩ := List.forall_mem_cons.1 same
    obtain ⟨first, rest⟩ := List.forall_mem_cons.1 none
    rw [trees_cons, List.filterMap_cons]
    cases omitted : g.omitsTree t with
    | true => rw [if_pos rfl, ih others rest, first (kind_of_omitsTree omitted)]
    | false => rw [if_neg (by decide), List.filterMap_cons, here, ih others rest]

theorem Around.importOf?_tree (around : t.Around g) (without : source = g.leaveOut edited) :
    importOf? source (g.tree t) = importOf? edited t := by
  unfold importOf?
  rw [kind_tree, around.child?_tree .path (by decide), around.child?_tree .name (by decide)]
  split
  · cases path : t.child? .path with
    | none => rfl
    | some path' =>
      simp only [Option.map_some, around.text_child without rfl path]
      cases name : t.child? .name with
      | none => rfl
      | some name' => simp only [Option.map_some, around.text_child without rfl name]
  · rfl

theorem Around.importsOf_tree (without : source = g.leaveOut edited) (t : Tree) :
    t.Around g → importsOf source (g.tree t) = importsOf edited t := by
  induction t using Tree.induction with
  | step role kind span children shown =>
  intro around
  have below : ∀ t ∈ children, t.Around g := fun t member => around.below member
  rw [tree_node, importsOf, importsOf]
  clear around
  induction children with
  | nil => rw [trees_nil]; rfl
  | cons t ts ih =>
    obtain ⟨before, behind⟩ := List.forall_mem_cons.1 below
    have others := ih (fun other later => shown other (List.mem_cons_of_mem t later)) behind
    rw [trees_cons, importsOfAll]
    cases omitted : g.omitsTree t with
    | true =>
      have comment := kind_of_omitsTree omitted
      simp [others, comment, importOf?]
    | false =>
      rw [if_neg (by decide), importsOfAll, kind_tree, others, before.importOf?_tree without,
        shown t List.mem_cons_self before]

theorem Around.typeOf?_tree (around : t.Around g) (without : source = g.leaveOut edited) :
    typeOf? source (g.tree t) = typeOf? edited t := by
  unfold typeOf?
  rw [kind_tree, around.child?_tree .name (by decide)]
  split
  · cases name : t.child? .name with
    | none => rfl
    | some name' => simp only [Option.map_some, around.text_child without rfl name]
  · rfl

/-- Whether the comment leaves an item as it is: it is not taken for the name of the package, it
does not stand in the type of a receiver, and it hides no call. -/
structure Shows (g : Gap) (item : Tree) : Prop where
  package : item.kind = .packageClause → ∀ name ∈ item.children.head?, g.Outside name.span
  receiver : item.kind = .methodDeclaration → ∀ parameters ∈ item.child? .receiver,
    ∀ named ∈ receiverType? parameters, g.Outside named.1.span
  calls : ∀ body ∈ item.child? .body, ∀ visited ∈ visit .functionDeclaration body,
    ¬ HidesCall g visited.2

theorem Around.omitsTree_of_child? {child : Tree} {role : Role} (around : t.Around g)
    (played : role ≠ .plain) (found : t.child? role = some child) : g.omitsTree child = false := by
  obtain ⟨member, same⟩ := mem_of_child? found
  refine omitsTree_of_ne fun comment => played ?_
  rw [← same]
  exact ((around.below member).here.note comment).1

theorem Around.declaration?_tree {path : String} {item : Tree} (around : item.Around g)
    (without : source = g.leaveOut edited) (shows : Shows g item) :
    declaration? source path (g.tree item) = declaration? edited path item := by
  have body : ((g.tree item).child? .body).isSome = (item.child? .body).isSome ∧
      ((g.tree item).child? .body).map blocks = (item.child? .body).map blocks ∧
      ((g.tree item).child? .body).map (callSites source) =
        (item.child? .body).map (callSites edited) := by
    rw [around.child?_tree .body (by decide)]
    cases found : item.child? .body with
    | none => simp
    | some body =>
      have inside := around.below (mem_of_child? found).1
      have kept := around.omitsTree_of_child? (by decide) found
      simp [inside.blocks_tree, inside.callSites_tree without kept (shows.calls body found)]
  obtain ⟨hasBody, blocks, calls⟩ := body
  unfold declaration?
  simp only [kind_tree, line_tree, endLine_tree, hasBody, blocks, calls,
    around.child?_tree .name (by decide), around.child?_tree .receiver (by decide)]
  cases name : item.child? .name with
  | none => rfl
  | some name' =>
  simp only [Option.map_some, Option.bind_eq_bind, Option.bind_some,
    around.text_child without rfl name]
  split
  · rename_i method
    cases found : item.child? .receiver with
    | none => rfl
    | some parameters =>
      have inside := around.below (mem_of_child? found).1
      have same := inside.receiver?_tree without (shows.receiver method parameters found)
      simp only [Option.map_some, Option.bind_some, same]
  · rfl

structure Agree (file other : File) : Prop where
  imports : file.imports = other.imports
  types : file.types = other.types
  references : file.references = other.references

theorem Around.filterMap_typeOf? {item : Tree} (around : item.Around g)
    (without : source = g.leaveOut edited) : (g.tree item).children.filterMap (typeOf? source) =
      item.children.filterMap (typeOf? edited) := by
  rw [children_tree]
  refine filterMap_trees (fun t member => (around.below member).typeOf?_tree without) ?_
  exact fun t _ comment => by simp [typeOf?, comment]

theorem Around.map_references {item : Tree} (around : item.Around g)
    (without : source = g.leaveOut edited) :
    ((g.tree item).child? .body).map (references source) =
      (item.child? .body).map (references edited) := by
  rw [around.child?_tree .body (by decide)]
  cases found : item.child? .body with
  | none => rfl
  | some body =>
    have inside := around.below (mem_of_child? found).1
    have kept := around.omitsTree_of_child? (by decide) found
    simp only [Option.map_some, inside.references_tree without kept]

theorem Around.addItem_agree {file other : File} {item : Tree} (around : item.Around g)
    (without : source = g.leaveOut edited) (agree : Agree file other) :
    Agree (addItem source file (g.tree item)) (addItem edited other item) := by
  obtain ⟨imports, types, named⟩ := agree
  unfold addItem
  rw [kind_tree]
  split
  case h_1 => split <;> split <;> exact ⟨imports, types, named⟩
  case h_2 => exact ⟨by simp only [imports, importsOf_tree without item around], types, named⟩
  case h_3 => exact ⟨imports, by simp only [types, around.filterMap_typeOf? without], named⟩
  case h_4 kind =>
    have kept : g.omitsTree item = false := omitsTree_of_ne (by simp [kind])
    exact ⟨imports, types, by simp only [named, around.references_tree without kept]⟩
  case h_5 | h_6 => exact ⟨imports, types, by simp only [named, around.map_references without]⟩
  case h_7 => exact ⟨imports, types, named⟩

theorem Around.addItem_tree (file : File) {item : Tree} (around : item.Around g)
    (without : source = g.leaveOut edited) (shows : Shows g item) :
    addItem source file (g.tree item) = addItem edited file item := by
  unfold addItem
  rw [kind_tree]
  split
  case h_1 clause =>
    have package := shows.package clause
    rw [children_tree]
    cases children : item.children with
    | nil => simp
    | cons name rest =>
      have outside := package name (by rw [children]; rfl)
      have kept : g.omitsTree name = false := by
        simp [omitsTree, not_isAt_of_outside outside]
      rw [trees_cons, if_neg (by simp [kept])]
      simp only [List.head?_cons, text_tree without outside]
  case h_2 => rw [importsOf_tree without item around]
  case h_3 => rw [around.filterMap_typeOf? without]
  case h_4 kind => rw [around.references_tree without (omitsTree_of_ne (by simp [kind]))]
  case h_5 | h_6 =>
    rw [around.declaration?_tree without shows, around.map_references without]
  case h_7 => rfl

theorem declared_tree {R : File → File → Prop} (path : String) {root : Tree}
    (start : R ⟨path, "", [], [], [], []⟩ ⟨path, "", [], [], [], []⟩)
    (step : ∀ item ∈ root.children, ∀ file other, R file other →
      R (addItem source file (g.tree item)) (addItem edited other item)) :
    R (declared source path (g.tree root)) (declared edited path root) := by
  rw [declared, declared, children_tree]
  revert start
  generalize (⟨path, "", [], [], [], []⟩ : File) = file
  suffices all : ∀ file other, R file other →
      R ((g.trees root.children).foldl (addItem source) file)
        (root.children.foldl (addItem edited) other) from all file file
  generalize root.children = items at step ⊢
  induction items with
  | nil => simp
  | cons item items ih =>
    obtain ⟨first, rest⟩ := List.forall_mem_cons.1 step
    intro file other related
    rw [trees_cons, List.foldl_cons]
    cases omitted : g.omitsTree item with
    | true =>
      have same : addItem edited other item = other := by
        rw [addItem, kind_of_omitsTree omitted]
      rw [if_pos rfl, same]
      exact ih rest file other related
    | false =>
      rw [if_neg (by decide), List.foldl_cons]
      exact ih rest _ _ (first file other related)

end Tree

/-- A file with a comment put between two of its tokens is read, and has the imports, the types and
the references that it had; it declares all that it did if the comment shows its items. -/
theorem File.parse_inserted [Parser] {path source edited : String} {g : Gap} {file : File}
    (inserted : Inserted source.toList edited.toList g)
    (read : File.parse path source = .ok file) :
    ∃ tree other, Parser.tree? edited.toList = some tree ∧ File.parse path edited = .ok other ∧
      other.imports = file.imports ∧ other.types = file.types ∧
      other.references = file.references ∧
      ((∀ item ∈ tree.children, Tree.Shows g item) → other = file) := by
  obtain ⟨usable, tree, found, sound, rfl⟩ := parse_eq_ok_iff.1 read
  obtain ⟨root, edits, around, rfl⟩ := inserted.reads tree found sound
  have agree : Tree.Agree ((g.tree root).declared source.toList path)
      (root.declared edited.toList path) :=
    Tree.declared_tree path ⟨rfl, rfl, rfl⟩ fun item member _ _ =>
      (around.below member).addItem_agree inserted.without
  refine ⟨root, _, edits, parse_eq_ok_iff.2 ⟨usable, root, edits, around.fault?_eq_none sound, rfl⟩,
    agree.imports.symm, agree.types.symm, agree.references.symm, ?_⟩
  intro shows
  refine (Tree.declared_tree (R := Eq) path rfl ?_).symm
  rintro item member file _ rfl
  exact (around.below member).addItem_tree file inserted.without (shows item member)

-- A comment among the arguments of a call.
def callingSource : String := "package m\nfunc f() \x7b\x7d\nfunc A() \x7b f() \x7d\n"

def callingEdited : String := "package m\nfunc f() \x7b\x7d\nfunc A() \x7b f(/*c*/) \x7d\n"

def callingTree : Tree :=
  .node .plain .sourceFile ⟨⟨0, 0⟩, ⟨39, 3⟩⟩ [
    .on 0 0 9 .plain .packageClause [.on 0 8 9 .plain .packageIdentifier []],
    .on 1 10 21 .plain .functionDeclaration [
      .on 1 15 16 .name .identifier [], .on 1 16 18 .plain .parameterList [],
      .on 1 19 21 .body .block []],
    .on 2 22 38 .plain .functionDeclaration [
      .on 2 27 28 .name .identifier [], .on 2 28 30 .plain .parameterList [],
      .on 2 31 38 .body .block [
        .on 2 33 36 .plain .expressionStatement [
          .on 2 33 36 .plain .callExpression [
            .on 2 33 34 .function .identifier [], .on 2 34 36 .plain .argumentList []]]]]]

def callingEditedTree : Tree :=
  .node .plain .sourceFile ⟨⟨0, 0⟩, ⟨44, 3⟩⟩ [
    .on 0 0 9 .plain .packageClause [.on 0 8 9 .plain .packageIdentifier []],
    .on 1 10 21 .plain .functionDeclaration [
      .on 1 15 16 .name .identifier [], .on 1 16 18 .plain .parameterList [],
      .on 1 19 21 .body .block []],
    .on 2 22 43 .plain .functionDeclaration [
      .on 2 27 28 .name .identifier [], .on 2 28 30 .plain .parameterList [],
      .on 2 31 43 .body .block [
        .on 2 33 41 .plain .expressionStatement [
          .on 2 33 41 .plain .callExpression [
            .on 2 33 34 .function .identifier [],
            .on 2 34 41 .plain .argumentList [.on 2 35 40 .plain .comment []]]]]]]

local instance callingParser : Parser :=
  .ofList [(callingSource, callingTree), (callingEdited, callingEditedTree)]

theorem inserted_calling : Inserted callingSource.toList callingEdited.toList ⟨35, 5⟩ where
  without := by decide +kernel
  comment := ⟨['c'], by decide +kernel, by decide⟩
  reads tree read _ := by
    obtain rfl : callingTree = tree := Option.some.inj read
    exact ⟨callingEditedTree, rfl, by decide +kernel, rfl⟩

def callingFile (references : List Callee) (calls : List CallSite) : File :=
  ⟨"m.go", "m", [], [⟨"f", none, "m.go", 2, 2, true, 1, []⟩,
    ⟨"A", none, "m.go", 3, 3, true, 1, calls⟩], [], references⟩

theorem File.parse_inserted_arguments :
    File.parse "m.go" callingSource = .ok (callingFile [] [⟨3, .bare "f"⟩]) ∧
    Inserted callingSource.toList callingEdited.toList ⟨35, 5⟩ ∧
    File.parse "m.go" callingEdited = .ok (callingFile [] [⟨3, .bare "f"⟩]) ∧
    ∃ tree other, Parser.tree? callingEdited.toList = some tree ∧
      File.parse "m.go" callingEdited = .ok other ∧ other.imports = [] ∧ other.types = [] ∧
      other.references = [] ∧
      ((∀ item ∈ tree.children, Tree.Shows ⟨35, 5⟩ item) →
        other = callingFile [] [⟨3, .bare "f"⟩]) := by
  have read : File.parse "m.go" callingSource = .ok (callingFile [] [⟨3, .bare "f"⟩]) := by
    decide +kernel
  exact ⟨read, inserted_calling, by decide +kernel, File.parse_inserted inserted_calling read⟩

def hidingSource : String := "package m\nfunc f() \x7b\x7d\nfunc A() \x7b (f)() \x7d\n"

def hidingEdited : String := "package m\nfunc f() \x7b\x7d\nfunc A() \x7b (/*c*/f)() \x7d\n"

def hidingTree : Tree :=
  .node .plain .sourceFile ⟨⟨0, 0⟩, ⟨41, 3⟩⟩ [
    .on 0 0 9 .plain .packageClause [.on 0 8 9 .plain .packageIdentifier []],
    .on 1 10 21 .plain .functionDeclaration [
      .on 1 15 16 .name .identifier [], .on 1 16 18 .plain .parameterList [],
      .on 1 19 21 .body .block []],
    .on 2 22 40 .plain .functionDeclaration [
      .on 2 27 28 .name .identifier [], .on 2 28 30 .plain .parameterList [],
      .on 2 31 40 .body .block [
        .on 2 33 38 .plain .expressionStatement [
          .on 2 33 38 .plain .callExpression [
            .on 2 33 36 .function .parenthesizedExpression [.on 2 34 35 .plain .identifier []],
            .on 2 36 38 .plain .argumentList []]]]]]

def hidingEditedTree : Tree :=
  .node .plain .sourceFile ⟨⟨0, 0⟩, ⟨46, 3⟩⟩ [
    .on 0 0 9 .plain .packageClause [.on 0 8 9 .plain .packageIdentifier []],
    .on 1 10 21 .plain .functionDeclaration [
      .on 1 15 16 .name .identifier [], .on 1 16 18 .plain .parameterList [],
      .on 1 19 21 .body .block []],
    .on 2 22 45 .plain .functionDeclaration [
      .on 2 27 28 .name .identifier [], .on 2 28 30 .plain .parameterList [],
      .on 2 31 45 .body .block [
        .on 2 33 43 .plain .expressionStatement [
          .on 2 33 43 .plain .callExpression [
            .on 2 33 41 .function .parenthesizedExpression [
              .on 2 34 39 .plain .comment [], .on 2 39 40 .plain .identifier []],
            .on 2 41 43 .plain .argumentList []]]]]]

local instance hidingParser : Parser :=
  .ofList [(hidingSource, hidingTree), (hidingEdited, hidingEditedTree)]

theorem inserted_hiding : Inserted hidingSource.toList hidingEdited.toList ⟨34, 5⟩ where
  without := by decide +kernel
  comment := ⟨['c'], by decide +kernel, by decide⟩
  reads tree read _ := by
    obtain rfl : hidingTree = tree := Option.some.inj read
    exact ⟨hidingEditedTree, rfl, by decide +kernel, rfl⟩

/-- A comment that stands first in parentheses hides what is called. -/
theorem File.parse_inserted_lost :
    ∃ file other, Inserted hidingSource.toList hidingEdited.toList ⟨34, 5⟩ ∧
      File.parse "m.go" hidingSource = .ok file ∧ File.parse "m.go" hidingEdited = .ok other ∧
      other ≠ file := by
  refine ⟨callingFile [.bare "f"] [⟨3, .bare "f"⟩], callingFile [.bare "f"] [], inserted_hiding,
    ?_, ?_, ?_⟩
  all_goals decide +kernel

end TestReach.Source
