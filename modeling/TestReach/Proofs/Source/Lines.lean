import TestReach.Proofs.Source.Positions

/-!
# Lines of declarations

A declaration has the lines of its node, and a call site that of the call. The calls lie within the
declaration and come in the order of their places, and the declarations follow one another as their
nodes do. So two declarations have at most one line in common, the last one of the first.
-/

namespace TestReach.Source

/-- The lines of a declaration and of its calls, in a source. -/
structure Declaration.Lined (source : List Char) (d : Declaration) : Prop where
  first : 1 ≤ d.line
  room : d.line ≤ d.endLine
  last : d.endLine ≤ 1 + source.count '\n'
  calls : ∀ site ∈ d.calls, d.line ≤ site.line ∧ site.line ≤ d.endLine
  order : d.calls.Pairwise fun before behind => before.line ≤ behind.line

namespace Tree

variable {source : List Char} {t : Tree}

section Order

variable {α : Type}

theorem ordered_insertByPlace {entry : Nat × α} {sorted : List (Nat × α)}
    (order : sorted.Pairwise fun before behind => before.1 ≤ behind.1) :
    (insertByPlace entry sorted).Pairwise fun before behind => before.1 ≤ behind.1 := by
  induction sorted with
  | nil => simp [insertByPlace]
  | cons other rest ih =>
    obtain ⟨here, others⟩ := List.pairwise_cons.1 order
    rw [insertByPlace]
    split
    · rename_i before
      refine List.pairwise_cons.2 ⟨?_, order⟩
      rintro behind (_ | ⟨_, member⟩)
      · exact Nat.le_of_lt before
      · exact Nat.le_trans (Nat.le_of_lt before) (here behind member)
    · rename_i behind
      refine List.pairwise_cons.2 ⟨?_, ih others⟩
      intro next member
      rcases mem_insertByPlace.1 member with rfl | member
      · exact Nat.le_of_not_lt behind
      · exact here next member

theorem ordered_placeAll {sorted : List (Nat × α)} (entries : List (Nat × α))
    (order : sorted.Pairwise fun before behind => before.1 ≤ behind.1) :
    (placeAll sorted entries).Pairwise fun before behind => before.1 ≤ behind.1 := by
  induction entries generalizing sorted with
  | nil => exact order
  | cons entry entries ih => exact ih (ordered_insertByPlace order)

end Order

theorem line_callSite? {site : CallSite} (read : callSite? source t = some site) :
    site.line = t.line := by
  unfold callSite? at read
  split at read
  · split at read
    · obtain ⟨callee, -, rfl⟩ := Option.map_eq_some_iff.1 read
      rfl
    · cases read
  · cases read

theorem Laid.lines_callSites {body : Tree} (laid : t.Laid source) (below : body ∈ t.children) :
    (∀ site ∈ callSites source body, t.line ≤ site.line ∧ site.line ≤ t.endLine) ∧
      (callSites source body).Pairwise fun before behind => before.line ≤ behind.line := by
  let sites := found (fun visited => callSite? source visited.2) (visit .functionDeclaration body)
  have listed : callSites source body = (placeAll [] sites).map Prod.snd := rfl
  have placed (entry : Nat × CallSite) (member : entry ∈ placeAll [] sites) :
      ∃ call ∈ t.nodes, call.begin = entry.1 ∧ entry.2.line = call.line := by
    obtain ⟨visited, there, hit⟩ := List.mem_filterMap.1 (mem_placeAll.1 member)
    obtain ⟨site, read, rfl⟩ := Option.map_eq_some_iff.1 hit
    exact ⟨visited.2, mem_nodes_of_child below (mem_nodes_of_visit there), rfl, line_callSite? read⟩
  rw [listed]
  constructor
  · intro site member
    obtain ⟨entry, found, rfl⟩ := List.mem_map.1 member
    obtain ⟨call, inside, -, line⟩ := placed entry found
    obtain ⟨begins, ends⟩ := laid.bounds call inside
    have stands := laid call inside
    rw [line]
    exact ⟨Nat.succ_le_succ (laid.here.start.row_le stands.start begins),
      Nat.succ_le_succ (stands.start.row_le laid.here.stop (Nat.le_trans stands.room ends))⟩
  · rw [List.pairwise_map]
    refine (ordered_placeAll sites .nil).imp_of_mem ?_
    intro before behind one other order
    obtain ⟨call, inside, place, line⟩ := placed before one
    obtain ⟨call', inside', place', line'⟩ := placed behind other
    rw [← place, ← place'] at order
    rw [line, line']
    exact Nat.succ_le_succ ((laid call inside).start.row_le (laid call' inside').start order)

theorem Laid.lined_declaration? {path : String} {d : Declaration} (laid : t.Laid source)
    (read : declaration? source path t = some d) : d.Lined source := by
  obtain ⟨-, ⟨-, line, endLine⟩, calls⟩ := declaration?_some read
  have sites : (∀ site ∈ d.calls, d.line ≤ site.line ∧ site.line ≤ d.endLine) ∧
      d.calls.Pairwise fun before behind => before.line ≤ behind.line := by
    rw [calls, line, endLine]
    cases holds : t.child? .body with
    | none => simp
    | some body => exact laid.lines_callSites (mem_of_child? holds).1
  obtain ⟨start, stop, room, -⟩ := laid.here
  constructor
  case first => exact line ▸ Nat.succ_le_succ (Nat.zero_le _)
  case room =>
    rw [line, endLine]
    exact Nat.succ_le_succ (start.row_le stop room)
  case last =>
    rw [endLine, Nat.add_comm]
    exact Nat.succ_le_succ stop.row_le_count
  case calls => exact sites.1
  case order => exact sites.2

end Tree

/-- The declarations of a file are those of its items, in source order. Each has lines of the source
with its calls on them, in order, and the next one begins no earlier than on its last line. -/
theorem File.lines_of_parse [Parser] [Parser.Laying] {path source : String} {file : File}
    (read : File.parse path source = .ok file) :
    (∀ d ∈ file.declarations, d.Lined source.toList) ∧
      (file.declarations.Pairwise fun before behind => before.endLine ≤ behind.line) ∧
      ∃ tree, Parser.tree? source.toList = some tree ∧
        file.declarations = tree.children.filterMap (Tree.declares? source.toList path) ∧
        tree.children.Pairwise fun before behind => before.finish ≤ behind.begin := by
  obtain ⟨tree, found, sound, rfl⟩ := exists_tree_of_parse read
  have laid : tree.Laid source.toList := Parser.Promises.kept found sound
  have items (item : Tree) (member : item ∈ tree.children) : item.Laid source.toList :=
    laid.below member
  have apart := laid.here.apart
  have declares := (Tree.declarations_declared source.toList path tree).2
  refine ⟨?_, ?_, tree, found, declares, apart⟩
  · rw [declares]
    intro d member
    obtain ⟨item, listed, declared⟩ := List.mem_filterMap.1 member
    exact (items item listed).lined_declaration? (Tree.declaration?_of_declares? declared)
  · rw [declares, List.pairwise_filterMap]
    refine apart.imp_of_mem ?_
    intro before behind one other order d declared d' declared'
    obtain ⟨-, ⟨-, -, ends⟩, -⟩ :=
      Tree.declaration?_some (Tree.declaration?_of_declares? declared)
    obtain ⟨-, ⟨-, begins, -⟩, -⟩ :=
      Tree.declaration?_some (Tree.declaration?_of_declares? declared')
    rw [ends, begins]
    exact Nat.succ_le_succ
      ((items before one).here.stop.row_le (items behind other).here.start order)

def touchingSource : String :=
  "package m\nfunc F() \x7b\n\tg(func() \x7b h() \x7d)\n\x7d; func G()\n"

def touchingTree : Tree :=
  .node .plain .sourceFile ⟨⟨0, 0⟩, ⟨52, 4⟩⟩ [
    .on 0 0 9 .plain .packageClause [.on 0 8 9 .plain .packageIdentifier []],
    .node .plain .functionDeclaration ⟨⟨10, 1⟩, ⟨41, 3⟩⟩ [
      .on 1 15 16 .name .identifier [], .on 1 16 18 .plain .parameterList [],
      .node .body .block ⟨⟨19, 1⟩, ⟨41, 3⟩⟩ [
        .on 2 22 39 .plain .expressionStatement [
          .on 2 22 39 .plain .callExpression [
            .on 2 22 23 .function .identifier [],
            .on 2 23 39 .plain .argumentList [
              .on 2 24 38 .plain .funcLiteral [
                .on 2 28 30 .plain .parameterList [],
                .on 2 31 38 .body .block [
                  .on 2 33 36 .plain .expressionStatement [
                    .on 2 33 36 .plain .callExpression [
                      .on 2 33 34 .function .identifier [],
                      .on 2 34 36 .plain .argumentList []]]]]]]]]],
    .on 3 43 51 .plain .functionDeclaration [
      .on 3 48 49 .name .identifier [], .on 3 49 51 .plain .parameterList []]]

local instance touchingParser : Parser := .ofList [(touchingSource, touchingTree)]

local instance touchingLaying : Parser.Laying := Parser.promises_ofList (by decide +kernel)

def touchingFile : File :=
  ⟨"m.go", "m", [], [⟨"F", none, "m.go", 2, 4, true, 1, [⟨3, .bare "g"⟩, ⟨3, .bare "h"⟩]⟩,
    ⟨"G", none, "m.go", 4, 4, false, 0, []⟩], [], []⟩

theorem File.lines_of_parse_touching :
    File.parse "m.go" touchingSource = .ok touchingFile ∧
      touchingFile.declarations.map (fun d => (d.line, d.endLine, d.calls.map CallSite.line)) =
        [(2, 4, [3, 3]), (4, 4, [])] ∧
      (∀ d ∈ touchingFile.declarations, d.Lined touchingSource.toList) ∧
      touchingFile.declarations.Pairwise fun before behind => before.endLine ≤ behind.line := by
  have read : File.parse "m.go" touchingSource = .ok touchingFile := by decide +kernel
  obtain ⟨lined, order, -⟩ := lines_of_parse read
  exact ⟨read, rfl, lined, order⟩

end TestReach.Source
