import TestReach.Proofs.Source.Files

/-!
# Receivers

A grammar tells pointers by their star, so the type of a receiver begins with a star only if it is
a pointer. Type arguments and the star itself are not part of the name of a receiver's type.
-/

namespace TestReach.Source

variable {source : List Char} {t : Tree}

namespace Tree

def Unstarred (source : List Char) (t : Tree) : Prop :=
  (text source t).toList.head? ≠ some '*'

instance : DecidablePred (Unstarred source) := fun _ => inferInstanceAs (Decidable (_ ≠ _))

def Typing (source : List Char) (t : Tree) : Prop :=
  t.kind = .pointerType ∨ t.Unstarred source ∧
    (t.kind = .genericType → ∀ base ∈ t.child? .type, base.Unstarred source)

instance : DecidablePred (Typing source) := fun _ =>
  inferInstanceAs (Decidable (_ ∨ _ ∧ (_ → _)))

def Typed (source : List Char) : Tree → Prop :=
  Every fun parameter => parameter.kind = .parameterDeclaration →
    ∀ type ∈ parameter.child? .type, type.Typing source

instance : DecidablePred (Typed source) := inferInstanceAs (DecidablePred (Every _))

theorem Typed.below {child : Tree} (typed : t.Typed source) (member : child ∈ t.children) :
    child.Typed source := Every.below typed member

theorem Typed.receiver? {parameters : Tree} (typed : parameters.Typed source) {receiver : Receiver}
    (read : Tree.receiver? source parameters = some receiver) (plain : receiver.pointer = false) :
    receiver.typeName.toList.head? ≠ some '*' := by
  unfold Tree.receiver? at read
  simp only [Option.bind_eq_bind, Option.bind_eq_some_iff, Option.pure_def] at read
  obtain ⟨parameter, found, type, known, read⟩ := read
  have inside := mem_nodes_of_child (List.mem_of_find?_eq_some found) (mem_nodes_self parameter)
  have typing := typed parameter inside (by simpa using List.find?_some found) type known
  by_cases pointed : type.kind = .pointerType
  · simp only [pointed, beq_self_eq_true, if_true, Option.bind_eq_some_iff] at read
    obtain ⟨named, -, read⟩ := read
    split at read
    all_goals
      simp only [Option.bind_eq_some_iff] at read
      obtain ⟨base, -, named⟩ := read
      cases named
      cases plain
  · obtain ⟨unstarred, behind⟩ := typing.resolve_left pointed
    have other : (type.kind == .pointerType) = false := beq_eq_false_iff_ne.2 pointed
    simp only [other, Bool.false_eq_true, if_false, Option.bind_some] at read
    split at read
    · rename_i generic
      obtain ⟨base, found, named⟩ := Option.bind_eq_some_iff.1 read
      cases named
      exact behind (beq_iff_eq.1 generic) base found
    · cases read
      exact unstarred

theorem declaration?_receiver {path : String} {d : Declaration} {receiver : Receiver}
    (read : declaration? source path t = some d) (received : d.receiver? = some receiver) :
    ∃ parameters ∈ t.children, Tree.receiver? source parameters = some receiver := by
  unfold declaration? at read
  simp only [Option.bind_eq_bind, Option.bind_eq_some_iff] at read
  obtain ⟨name, -, read⟩ := read
  split at read
  · simp only [Option.bind_eq_some_iff, Option.pure_def, Option.some.injEq] at read
    obtain ⟨parameters, found, known, told, other, same, rfl⟩ := read
    subst same
    cases received
    exact ⟨parameters, (mem_of_child? found).1, told⟩
  · simp only [Option.bind_eq_some_iff, Option.pure_def, Option.some.injEq] at read
    obtain ⟨other, same, rfl⟩ := read
    subst same
    cases received

end Tree

/-- A grammar by which only a pointer begins with a star. -/
abbrev Parser.Typing [Parser] : Prop := Parser.Promises Tree.Typed

/-- A declaration whose receiver does not look like a pointer unless it is one. -/
def Declaration.Unstarred (d : Declaration) : Prop :=
  ∀ receiver ∈ d.receiver?, receiver.pointer = false → receiver.typeName.toList.head? ≠ some '*'

theorem granted_unstarred [Parser] [Parser.Typing] :
    Granted fun file => ∀ d ∈ file.declarations, d.Unstarred where
  parsed {path source file} read := by
    obtain ⟨tree, found, sound, rfl⟩ := File.exists_tree_of_parse read
    have typed : tree.Typed source.toList := Parser.Promises.kept found sound
    refine (Tree.forall_declared fun item member d read => ?_).2
    intro receiver received
    obtain ⟨parameters, listed, told⟩ := Tree.declaration?_receiver read received
    exact ((typed.below member).below listed).receiver? told
  renamed known count := forall_numberInits (fun d n unstarred => unstarred) known count

end TestReach.Source
