import TestReach.Proofs.Source.Traversal
import Mathlib.Control.Monad.Basic

/-!
# Instantiated calls

A function with type arguments behind its name is called by that name where a grammar reads a call:
of the name, or of what stands in front of brackets. Where it reads a type, because a conversion to
an instance of a generic type looks the same, nothing is called.
-/

namespace TestReach.Source

namespace Tree

variable {source : List Char} {t : Tree} {callee : Callee}

inductive Names (source : List Char) (t : Tree) : Callee → Prop
  | bare (kind : t.kind = .identifier) : Names source t (.bare (text source t))
  | selected {operand field : Tree} (kind : t.kind = .selectorExpression)
    (front : t.child? .operand = some operand) (identifier : operand.kind = .identifier)
    (behind : t.child? .field = some field) :
    Names source t (.qualified (text source operand) (text source field))

/-- A call of a name: with type arguments among its children or without, or of an index of it. -/
inductive CallsName (source : List Char) (t : Tree) (callee : Callee) : Prop
  | call {function : Tree} (kind : t.kind = .callExpression)
    (called : t.child? .function = some function) (names : Names source function callee)
  | index {function operand : Tree} (kind : t.kind = .callExpression)
    (called : t.child? .function = some function) (brackets : function.kind = .indexExpression)
    (opened : function.child? .operand = some operand) (names : Names source operand callee)

/-- An instance that is read as a type: in a conversion, or where a call has its function. -/
inductive ReadAsType (t : Tree) : Prop
  | conversion (kind : t.kind = .conversion)
  | instantiation {function : Tree} (kind : t.kind = .callExpression)
    (called : t.child? .function = some function) (type : function.kind = .typeInstantiation)

theorem Names.callee? (names : Names source t callee) : callee? source t = some callee := by
  cases t with
  | node role kind span children =>
  cases names with
  | bare named =>
    obtain rfl : kind = .identifier := named
    rfl
  | selected selector front identifier behind =>
    obtain rfl : kind = .selectorExpression := selector
    simp [Tree.callee?, behind, front, isIdentifier, identifier]

theorem callee?_of_index {operand : Tree} (brackets : t.kind = .indexExpression)
    (opened : t.child? .operand = some operand) : callee? source t = callee? source operand := by
  cases t with
  | node role kind span children =>
  obtain rfl : kind = .indexExpression := brackets
  rw [Tree.callee?, calleeOfOperand?_eq]
  exact congrArg (Option.bind · (Tree.callee? source)) opened

theorem callSite?_of_callsName (calls : CallsName source t callee) :
    callSite? source t = some ⟨t.line, callee⟩ := by
  cases calls with
  | call kind called names => simp only [callSite?, if_pos kind, called, names.callee?, Option.map]
  | index kind called brackets opened names =>
    simp only [callSite?, if_pos kind, called, callee?_of_index brackets opened, names.callee?,
      Option.map]

theorem callSite?_of_readAsType (type : ReadAsType t) : callSite? source t = none := by
  cases type with
  | conversion kind => simp [callSite?, kind]
  | @instantiation function kind called type =>
    have none : callee? source function = none := by
      cases function with
      | node role own span children =>
      obtain rfl : own = .typeInstantiation := type
      rfl
    simp only [callSite?, if_pos kind, called, none, Option.map]

theorem mem_callSites {body : Tree} {visited : Kind × Tree} {site : CallSite}
    (member : visited ∈ visit .functionDeclaration body)
    (found : callSite? source visited.2 = some site) : site ∈ callSites source body := by
  refine mem_inOrderOfPlace.2 ⟨visited.2.span.start.offset, ?_⟩
  refine List.mem_filterMap.2 ⟨visited, member, ?_⟩
  rw [found]
  rfl

def Defines (source : List Char) (path : String) (root : Tree) (d : Declaration) (body : Tree) :
    Prop :=
  ∃ item ∈ root.children,
    (item.kind = .functionDeclaration ∨ item.kind = .methodDeclaration) ∧
      declaration? source path item = some d ∧ item.child? .body = some body

theorem mem_declarations_of_defines {path : String} {root body : Tree} {d : Declaration}
    (defines : Defines source path root d body) :
    d ∈ (declared source path root).declarations := by
  obtain ⟨item, member, function, read, -⟩ := defines
  rw [(declarations_declared source path root).2, List.mem_filterMap]
  exact ⟨item, member, by rw [declares?, if_pos function, read]⟩

end Tree

/-- Whatever the grammar makes of a call of a named function: it is a call site of the declaration
that it stands in, on its line, if it is read as a call of the name or of an index of it. If the
instance is read as a type, there is no call site. -/
theorem File.instantiated_calls_listed [Parser] {path source : String} {file : File}
    (read : File.parse path source = .ok file) {tree : Tree}
    (found : Parser.tree? source.toList = some tree) {d : Declaration} {body : Tree}
    (defines : tree.Defines source.toList path d body) :
    d ∈ file.declarations ∧ ∀ visited ∈ Tree.visit .functionDeclaration body,
      (∀ callee, Tree.CallsName source.toList visited.2 callee →
        ⟨visited.2.line, callee⟩ ∈ d.calls) ∧
      (Tree.ReadAsType visited.2 → Tree.callSite? source.toList visited.2 = none) := by
  obtain ⟨other, same, -, rfl⟩ := exists_tree_of_parse read
  obtain rfl : tree = other := Option.some.inj (found.symm.trans same)
  refine ⟨Tree.mem_declarations_of_defines defines, fun visited member => ⟨?_, ?_⟩⟩
  · intro callee calls
    obtain ⟨item, -, -, declares, holds⟩ := defines
    have sites : d.calls = Tree.callSites source.toList body := by
      rw [(Tree.declaration?_some declares).2.2, holds]
      rfl
    rw [sites]
    exact Tree.mem_callSites member (Tree.callSite?_of_callsName calls)
  · exact Tree.callSite?_of_readAsType

-- Two calls of instances, one of them behind the name of a package.
def instantiatingSource : String :=
  "package m\nfunc A() \x7b F[int, T](1, 2); p.G[int]() \x7d\n"

def instantiatingCall : Tree :=
  .on 1 38 48 .plain .callExpression [
    .on 1 38 41 .function .selectorExpression [
      .on 1 38 39 .operand .identifier [], .on 1 40 41 .field .fieldIdentifier []],
    .on 1 41 46 .plain .typeArguments [.on 1 42 45 .plain .typeIdentifier []],
    .on 1 46 48 .plain .argumentList []]

def instantiatingBody : Tree :=
  .on 1 19 50 .body .block [
    .on 1 21 36 .plain .expressionStatement [
      .on 1 21 36 .plain .callExpression [
        .on 1 21 22 .function .identifier [],
        .on 1 22 30 .plain .typeArguments [
          .on 1 23 26 .plain .typeIdentifier [], .on 1 28 29 .plain .typeIdentifier []],
        .on 1 30 36 .plain .argumentList [
          .on 1 31 32 .plain .literal [], .on 1 34 35 .plain .literal []]]],
    .on 1 38 48 .plain .expressionStatement [instantiatingCall]]

def instantiatingTree : Tree :=
  .node .plain .sourceFile ⟨⟨0, 0⟩, ⟨51, 2⟩⟩ [
    .on 0 0 9 .plain .packageClause [.on 0 8 9 .plain .packageIdentifier []],
    .on 1 10 50 .plain .functionDeclaration [
      .on 1 15 16 .name .identifier [], .on 1 16 18 .plain .parameterList [],
      instantiatingBody]]

local instance instantiatingParser : Parser := .ofList [(instantiatingSource, instantiatingTree)]

def instantiatingDeclaration : Declaration :=
  ⟨"A", none, "m.go", 2, 2, true, 1, [⟨2, .bare "F"⟩, ⟨2, .qualified "p" "G"⟩]⟩

theorem File.instantiated_calls_listed_pair :
    let visited := (Kind.expressionStatement, instantiatingCall)
    (File.parse "m.go" instantiatingSource =
        .ok ⟨"m.go", "m", [], [instantiatingDeclaration], [], []⟩ ∧
      instantiatingTree.Defines instantiatingSource.toList "m.go" instantiatingDeclaration
        instantiatingBody ∧
      visited ∈ Tree.visit .functionDeclaration instantiatingBody ∧
      Tree.CallsName instantiatingSource.toList visited.2 (.qualified "p" "G")) ∧
      ⟨2, .qualified "p" "G"⟩ ∈ instantiatingDeclaration.calls := by
  intro visited
  have read : File.parse "m.go" instantiatingSource =
      .ok ⟨"m.go", "m", [], [instantiatingDeclaration], [], []⟩ := by decide +kernel
  have defines : instantiatingTree.Defines instantiatingSource.toList "m.go"
      instantiatingDeclaration instantiatingBody :=
    ⟨_, List.mem_cons_of_mem _ List.mem_cons_self, .inl rfl, by decide +kernel, rfl⟩
  have member : visited ∈ Tree.visit .functionDeclaration instantiatingBody := by
    have shown := Tree.mem_visit_self .expressionStatement instantiatingCall
    simp [visited, instantiatingBody, Tree.on, Tree.visit, Tree.visitAll, shown]
  have names : Tree.CallsName instantiatingSource.toList visited.2 (.qualified
      (Tree.text instantiatingSource.toList (.on 1 38 39 .operand .identifier []))
      (Tree.text instantiatingSource.toList (.on 1 40 41 .field .fieldIdentifier []))) :=
    .call rfl rfl (.selected rfl rfl rfl rfl)
  have calls : Tree.CallsName instantiatingSource.toList visited.2 (.qualified "p" "G") := by
    convert names using 2 <;> decide +kernel
  have found : Parser.tree? instantiatingSource.toList = some instantiatingTree := by rfl
  obtain ⟨-, all⟩ := instantiated_calls_listed read found defines
  exact ⟨⟨read, defines, member, calls⟩, (all visited member).1 _ calls⟩

def instantiatedSource : String :=
  "package m\nfunc F[T any](x T) \x7b\x7d\nfunc A() \x7b F[int](1) \x7d\n"

def instantiatedTree : Tree :=
  .node .plain .sourceFile ⟨⟨0, 0⟩, ⟨55, 3⟩⟩ [
    .on 0 0 9 .plain .packageClause [.on 0 8 9 .plain .packageIdentifier []],
    .on 1 10 31 .plain .functionDeclaration [
      .on 1 15 16 .name .identifier [],
      .on 1 16 23 .plain .typeParameterList [
        .on 1 17 22 .plain .typeParameterDeclaration [
          .on 1 17 18 .name .identifier [], .on 1 19 22 .plain .typeIdentifier []]],
      .on 1 23 28 .plain .parameterList [
        .on 1 24 27 .plain .parameterDeclaration [
          .on 1 24 25 .name .identifier [], .on 1 26 27 .type .typeIdentifier []]],
      .on 1 29 31 .body .block []],
    .on 2 32 54 .plain .functionDeclaration [
      .on 2 37 38 .name .identifier [], .on 2 38 40 .plain .parameterList [],
      .on 2 41 54 .body .block [
        .on 2 43 52 .plain .expressionStatement [
          .on 2 43 52 .plain .conversion [
            .on 2 43 49 .type .genericType [
              .on 2 43 44 .type .typeIdentifier [], .on 2 45 48 .plain .typeIdentifier []],
            .on 2 49 52 .plain .argumentList [.on 2 50 51 .plain .literal []]]]]]]

/-- A call of an instance with a single argument is read as a conversion. -/
theorem File.instantiated_call_lost :
    ∃ file, @File.parse (.ofList [(instantiatedSource, instantiatedTree)]) "m.go"
        instantiatedSource = .ok file ∧
      file.declarations.map Declaration.name = ["F", "A"] ∧
      ∀ d ∈ file.declarations, d.calls = [] := by
  refine ⟨⟨"m.go", "m", [], [⟨"F", none, "m.go", 2, 2, true, 1, []⟩,
    ⟨"A", none, "m.go", 3, 3, true, 1, []⟩], [], []⟩, ?_, rfl, ?_⟩
  · decide +kernel
  · decide

end TestReach.Source
