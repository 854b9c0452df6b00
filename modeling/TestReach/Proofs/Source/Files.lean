import TestReach.Proofs.Source.Naming
import TestReach.Text.Cut

/-!
# Names in files

What a file declares, and what its declarations call behind a point, has the name of a node of its
tree. Numbering changes the names of initialisation functions alone.
-/

namespace TestReach.Source

structure Declaration.Worded (d : Declaration) : Prop where
  name : ')' ∉ d.name.toList ∨ ∀ path, Function.isBuiltIn ⟨path, d.name⟩ = true
  calls : ∀ site ∈ d.calls, ∀ name ∈ site.callee.selected?, isWord name = true

def Declaration.Undotted (d : Declaration) : Prop := '.' ∉ d.name.toList ∨ d.name = "."

namespace Tree

variable {source : List Char} {t : Tree}

theorem mem_of_child? {role : Role} {child : Tree} (found : t.child? role = some child) :
    child ∈ t.children ∧ child.role = role := by
  have same := List.find?_some found
  exact ⟨List.mem_of_find?_eq_some found, by simpa using same⟩

theorem exists_child? {role : Role} {child : Tree} (member : child ∈ t.children)
    (played : child.role = role) : ∃ first, t.child? role = some first := by
  rw [← Option.isSome_iff_exists, child?, List.find?_isSome]
  exact ⟨child, member, beq_iff_eq.2 played⟩

theorem Named.child? {role : Role} {child : Tree} (named : t.Named source)
    (found : t.child? role = some child) :
    child.Named source ∧ role.Accepts (text source child) := by
  obtain ⟨member, rfl⟩ := mem_of_child? found
  exact ⟨named.below member, (named.below member).here⟩

theorem calleeOfOperand?_eq (ts : List Tree) : calleeOfOperand? source ts =
    (ts.find? fun child => child.role == .operand).bind (callee? source) := by
  induction ts with
  | nil => rfl
  | cons t ts ih =>
    rw [calleeOfOperand?, ih]
    by_cases operand : t.role = .operand
    · simp [operand]
    · rw [if_neg operand, List.find?_cons_of_neg (by simpa using operand)]

theorem calleeOfFirst?_eq (ts : List Tree) :
    calleeOfFirst? source ts = ts.head?.bind (callee? source) := by
  cases ts <;> rfl

theorem worded_callee? (t : Tree) : ∀ callee, t.Named source → callee? source t = some callee →
    ∀ name ∈ callee.selected?, isWord name = true := by
  induction t using Tree.induction with
  | step role kind span children shown =>
  intro callee named read name called
  unfold callee? at read
  split at read
  case h_1 =>
    rw [calleeOfFirst?_eq, Option.bind_eq_some_iff] at read
    obtain ⟨first, listed, read⟩ := read
    have member := List.mem_of_head? listed
    exact shown first member callee (named.below member) read name called
  case h_2 =>
    rw [calleeOfOperand?_eq, Option.bind_eq_some_iff] at read
    obtain ⟨operand, found, read⟩ := read
    have member := List.mem_of_find?_eq_some found
    exact shown operand member callee (named.below member) read name called
  case h_3 | h_4 =>
    cases read
    cases called
  case h_5 =>
    split at read
    · rename_i field operand found _
      split at read
      all_goals
        cases read
        rw [Option.mem_def, Source.Callee.selected?, Option.some.injEq] at called
        exact called ▸ (named.child? found).2
    · cases read
  case h_6 => cases read

theorem mem_insertByPlace {α : Type} {entry other : Nat × α} {sorted : List (Nat × α)} :
    other ∈ insertByPlace entry sorted ↔ other = entry ∨ other ∈ sorted := by
  induction sorted with
  | nil => simp [insertByPlace]
  | cons first rest ih =>
    rw [insertByPlace]
    split
    · simp
    · rw [List.mem_cons, ih, List.mem_cons, or_left_comm]

theorem mem_inOrderOfPlace {α : Type} {entries : List (Nat × α)} {a : α} :
    a ∈ inOrderOfPlace entries ↔ ∃ place, (place, a) ∈ entries := by
  have all (sorted : List (Nat × α)) (entry : Nat × α) :
      entry ∈ entries.foldl (fun sorted entry => insertByPlace entry sorted) sorted ↔
        entry ∈ entries ∨ entry ∈ sorted := by
    induction entries generalizing sorted with
    | nil => simp
    | cons first rest ih =>
      rw [List.foldl_cons, ih, mem_insertByPlace, List.mem_cons, or_left_comm, ← or_assoc]
  simp [inOrderOfPlace, all]

theorem forall_visit {P : Tree → Prop} (below : ∀ t, P t → ∀ child ∈ t.children, P child)
    (t : Tree) : ∀ above, P t → ∀ visited ∈ visit above t, P visited.2 := by
  induction t using Tree.induction with
  | step role kind span children shown =>
  intro above here visited member
  rw [visit, List.mem_cons] at member
  rcases member with rfl | member
  · exact here
  · have inside : ∀ t ∈ children, P t := below _ here
    clear here
    induction children with
    | nil => simp [visitAll] at member
    | cons t ts ih =>
      obtain ⟨first, rest⟩ := List.forall_mem_cons.1 inside
      rw [visitAll, List.mem_append] at member
      rcases member with member | member
      · exact ih (fun other later => shown other (by simp [later])) member rest
      · exact shown t (by simp) kind first visited member

theorem named_visit (t : Tree) (above : Kind) (named : t.Named source) :
    ∀ visited ∈ visit above t, visited.2.Named source :=
  forall_visit (fun _ named _ => named.below) t above named

theorem worded_callSites {body : Tree} (named : body.Named source) :
    ∀ site ∈ callSites source body, ∀ name ∈ site.callee.selected?, isWord name = true := by
  intro site member name called
  obtain ⟨place, listed⟩ := mem_inOrderOfPlace.1 member
  obtain ⟨visited, there, found⟩ := List.mem_filterMap.1 listed
  obtain ⟨other, read, same⟩ := Option.map_eq_some_iff.1 found
  obtain rfl : other = site := congrArg Prod.snd same
  unfold callSite? at read
  split at read
  · split at read
    · rename_i function calls
      obtain ⟨callee, callable, rfl⟩ := Option.map_eq_some_iff.1 read
      have kept := ((named_visit body _ named visited there).child? calls).1
      exact worded_callee? function callee kept callable name called
    · cases read
  · cases read

theorem declaration?_some {path : String} {d : Declaration}
    (read : declaration? source path t = some d) :
    (∃ name, t.child? .name = some name ∧ d.name = text source name) ∧
      (d.file = path ∧ d.line = t.line ∧ d.endLine = t.endLine) ∧
      d.calls = ((t.child? .body).map (callSites source)).getD [] := by
  unfold declaration? at read
  simp only [Option.bind_eq_bind, Option.bind_eq_some_iff] at read
  obtain ⟨name, found, read⟩ := read
  split at read
  · simp only [Option.bind_eq_some_iff, Option.pure_def, Option.some.injEq] at read
    obtain ⟨parameters, -, receiver, -, rest⟩ := read
    obtain ⟨_, -, rfl⟩ := rest
    exact ⟨⟨name, found, rfl⟩, ⟨rfl, rfl, rfl⟩, rfl⟩
  · simp only [Option.bind_eq_some_iff, Option.pure_def, Option.some.injEq] at read
    obtain ⟨_, -, rfl⟩ := read
    exact ⟨⟨name, found, rfl⟩, ⟨rfl, rfl, rfl⟩, rfl⟩

theorem worded_declaration? {path : String} {d : Declaration} (named : t.Named source)
    (read : declaration? source path t = some d) : d.Worded := by
  obtain ⟨⟨name, found, here⟩, -, calls⟩ := declaration?_some read
  constructor
  case name =>
    rw [here]
    rcases (named.child? found).2 with word | point
    · exact .inl (not_mem_of_isWord word (by decide))
    · exact .inl (by simp [point])
  case calls =>
    rw [calls]
    cases found : t.child? .body with
    | none => simp
    | some body => exact worded_callSites (named.child? found).1

theorem undotted_declaration? {path : String} {d : Declaration} (named : t.Named source)
    (read : declaration? source path t = some d) : d.Undotted := by
  obtain ⟨⟨name, found, here⟩, -⟩ := declaration?_some read
  rw [Declaration.Undotted, here]
  exact (named.child? found).2.imp_left (not_mem_of_isWord · (by decide))

def declares? (source : List Char) (path : String) (item : Tree) : Option Declaration :=
  if item.kind = .functionDeclaration ∨ item.kind = .methodDeclaration then
    declaration? source path item
  else none

theorem declaration?_of_declares? {path : String} {d : Declaration}
    (declares : declares? source path t = some d) : declaration? source path t = some d := by
  unfold declares? at declares
  split at declares
  · exact declares
  · cases declares

theorem declarations_addItem (file : File) : (addItem source file t).declarations =
    file.declarations ++ (declares? source file.path t).toList := by
  unfold addItem declares?
  split
  case h_1 kind =>
    split <;> simp [kind]
  all_goals simp_all

theorem path_addItem (file : File) : (addItem source file t).path = file.path := by
  unfold addItem
  repeat' split
  all_goals rfl

theorem declarations_declared (source : List Char) (path : String) (root : Tree) :
    (declared source path root).path = path ∧
      (declared source path root).declarations =
        root.children.filterMap (declares? source path) := by
  have all (items : List Tree) (file : File) (there : file.path = path) :
      (items.foldl (addItem source) file).path = path ∧
        (items.foldl (addItem source) file).declarations =
          file.declarations ++ items.filterMap (declares? source path) := by
    induction items generalizing file with
    | nil => exact ⟨there, by simp⟩
    | cons item items ih =>
      obtain ⟨same, behind⟩ := ih (addItem source file item) ((path_addItem file).trans there)
      refine ⟨same, ?_⟩
      rw [List.foldl_cons, behind, declarations_addItem, there, List.append_assoc,
        List.filterMap_cons]
      cases declares? source path item <;> rfl
  exact all root.children _ rfl

theorem forall_declared {Q : Declaration → Prop} {path : String} {root : Tree}
    (each : ∀ item ∈ root.children, ∀ d, declaration? source path item = some d → Q d) :
    (declared source path root).path = path ∧
      ∀ d ∈ (declared source path root).declarations, Q d := by
  obtain ⟨there, declarations⟩ := declarations_declared source path root
  refine ⟨there, ?_⟩
  intro d member
  rw [declarations, List.mem_filterMap] at member
  obtain ⟨item, listed, declares⟩ := member
  exact each item listed d (declaration?_of_declares? declares)

end Tree

theorem forall_numberInits {Q : Declaration → Prop} {ds : List Declaration}
    (renamed : ∀ d n, Q d → Q { d with name := "init#" ++ toString (n : Nat) })
    (known : ∀ d ∈ ds, Q d) (count : Nat) : ∀ d ∈ (numberInits count ds).1, Q d := by
  induction ds generalizing count with
  | nil => simp [numberInits]
  | cons first ds ih =>
    obtain ⟨here, behind⟩ := List.forall_mem_cons.1 known
    rw [numberInits]
    split
    · exact List.forall_mem_cons.2 ⟨renamed first _ here, ih behind (count + 1)⟩
    · exact List.forall_mem_cons.2 ⟨here, ih behind count⟩

theorem isBuiltIn_numbered (path rest : String) :
    Function.isBuiltIn ⟨path, "init#" ++ rest⟩ = true := by
  have spelled : ("init#" ++ rest).toList = "init".toList ++ '#' :: rest.toList := by simp
  simp [Function.isBuiltIn, Function.isMethod, Function.isBuiltInName, spelled, Text.behind?]

theorem not_mem_numbered {c : Char} (other : c ∉ "init#".toList) (mark : c.isDigit = false)
    (n : Nat) : c ∉ ("init#" ++ toString n).toList := by
  rw [String.toList_append, List.mem_append, Nat.toString_eq_repr, Nat.toList_repr]
  rintro (member | member)
  · exact other member
  · have digit := Nat.isDigit_of_mem_toDigits (by decide) (by decide) member
    rw [mark] at digit
    cases digit

variable [Parser]

/-- What is true of every file that was read, and stays true when its declarations are numbered. -/
structure Granted (P : File → Prop) : Prop where
  parsed {path source : String} {file : File} (read : File.parse path source = .ok file) : P file
  renamed {file : File} (known : P file) (count : Nat) :
    P { file with declarations := (numberInits count file.declarations).1 }

theorem Granted.numbered {P : File → Prop} (granted : Granted P) {files : List File}
    (known : ∀ file ∈ files, P file) : ∀ file ∈ numbered files, P file := by
  have all (count : Nat) : ∀ file ∈ numberFileInits count files, P file := by
    induction files generalizing count with
    | nil => simp [numberFileInits]
    | cons first files ih =>
      obtain ⟨here, behind⟩ := List.forall_mem_cons.1 known
      exact List.forall_mem_cons.2 ⟨granted.renamed here count, ih behind _⟩
  exact all 0

theorem File.parse_eq_ok_iff {path source : String} {file : File} :
    File.parse path source = .ok file ↔ Parser.unusable? = none ∧
      ∃ tree, Parser.tree? source.toList = some tree ∧ tree.fault? = none ∧
        tree.declared source.toList path = file := by
  unfold File.parse
  cases usable : Parser.unusable? with
  | some reason => simp
  | none =>
    cases read : Parser.tree? source.toList with
    | none => simp
    | some tree =>
      cases sound : tree.fault? with
      | some fault => simp [sound]
      | none => simp [sound]

theorem File.exists_tree_of_parse {path source : String} {file : File}
    (read : File.parse path source = .ok file) :
    ∃ tree, Parser.tree? source.toList = some tree ∧ tree.fault? = none ∧
      tree.declared source.toList path = file :=
  (File.parse_eq_ok_iff.1 read).2

theorem granted_file : Granted fun file => ∀ d ∈ file.declarations, d.file = file.path where
  parsed {path source file} read := by
    obtain ⟨tree, -, -, rfl⟩ := File.exists_tree_of_parse read
    obtain ⟨there, placed⟩ := Tree.forall_declared (Q := fun d => d.file = path)
      fun item _ d read => (Tree.declaration?_some read).2.1.1
    rw [there]
    exact placed
  renamed known count := forall_numberInits (fun _ _ placed => placed) known count

variable [Parser.Naming]

theorem File.exists_named_of_parse {path source : String} {file : File}
    (read : File.parse path source = .ok file) :
    ∃ tree : Tree, tree.Named source.toList ∧ tree.declared source.toList path = file := by
  obtain ⟨tree, found, sound, declared⟩ := exists_tree_of_parse read
  exact ⟨tree, Parser.Promises.kept found sound, declared⟩

theorem granted_worded : Granted fun file => ∀ d ∈ file.declarations, d.Worded where
  parsed {path source file} read := by
    obtain ⟨tree, named, rfl⟩ := File.exists_named_of_parse read
    exact (Tree.forall_declared fun item member d read =>
      Tree.worded_declaration? (named.below member) read).2
  renamed known count :=
    forall_numberInits (fun d n worded =>
      ⟨.inr fun path => isBuiltIn_numbered path _, worded.calls⟩) known count

theorem granted_undotted : Granted fun file => ∀ d ∈ file.declarations, d.Undotted where
  parsed {path source file} read := by
    obtain ⟨tree, named, rfl⟩ := File.exists_named_of_parse read
    exact (Tree.forall_declared fun item member d read =>
      Tree.undotted_declaration? (named.below member) read).2
  renamed known count := forall_numberInits (fun d n _ =>
    .inl (not_mem_numbered (by decide) (by decide) n)) known count

end TestReach.Source
