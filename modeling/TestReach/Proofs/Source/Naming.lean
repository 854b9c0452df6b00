import TestReach.Source.Parsed

/-!
# Names in trees

A grammar puts words where something is named. Which words there are is left to it: of ASCII
characters they hold letters, digits and underscores alone.
-/

namespace TestReach.Source

def isWordPart (c : Char) : Bool := c.isAlphanum || c == '_' || 128 ≤ c.toNat

def isWord (text : String) : Bool := text.toList.all isWordPart

theorem not_mem_of_isWord {text : String} (word : isWord text = true) {c : Char}
    (other : isWordPart c = false) : c ∉ text.toList := by
  intro member
  rw [List.all_eq_true.1 word c member] at other
  cases other

/-- What a text has to be where a node plays a role. The name of an import may be a point. -/
def Role.Accepts (role : Role) (text : String) : Prop :=
  match role with
  | .field => isWord text = true
  | .name => isWord text = true ∨ text = "."
  | _ => True

instance : (role : Role) → (text : String) → Decidable (role.Accepts text)
  | .field, _ => inferInstanceAs (Decidable (_ = true))
  | .name, _ => inferInstanceAs (Decidable (_ ∨ _))
  | .plain, _ | .function, _ | .operand, _ | .type, _ | .body, _ | .receiver, _
  | .alternative, _ | .update, _ | .path, _ => .isTrue trivial

namespace Tree

variable {source : List Char} {t child : Tree}

/-- What is true of a node and of all nodes below it. -/
def Every (P : Tree → Prop) (t : Tree) : Prop := ∀ node ∈ t.nodes, P node

instance {P : Tree → Prop} [DecidablePred P] : DecidablePred (Every P) :=
  fun _ => List.decidableBAll ..

theorem Every.here {P : Tree → Prop} (every : t.Every P) : P t := every t (mem_nodes_self t)

theorem Every.below {P : Tree → Prop} (every : t.Every P) (member : child ∈ t.children) :
    child.Every P :=
  fun node inside => every node (mem_nodes_of_child member inside)

def Named (source : List Char) : Tree → Prop :=
  Every fun node => node.role.Accepts (text source node)

instance : DecidablePred (Named source) := inferInstanceAs (DecidablePred (Every _))

theorem Named.below (named : t.Named source) (member : child ∈ t.children) :
    child.Named source := Every.below named member

end Tree

/-- What a grammar grants of every tree in which nothing is at fault. -/
class Parser.Promises [Parser] (P : List Char → Tree → Prop) : Prop where
  kept {source : List Char} {tree : Tree} (read : Parser.tree? source = some tree)
    (sound : tree.fault? = none) : P source tree

/-- A grammar that puts words where something is named. -/
abbrev Parser.Naming [Parser] : Prop := Parser.Promises Tree.Named

def Tree.on (row start stop : Nat) (role : Role) (kind : Kind) (children : List Tree) : Tree :=
  node role kind ⟨⟨start, row⟩, ⟨stop, row⟩⟩ children

abbrev Parser.ofList (trees : List (String × Tree)) : Parser where
  unusable? := none
  tree? source := (trees.find? fun entry => entry.1.toList = source).map Prod.snd

theorem Parser.promises_ofList {P : List Char → Tree → Prop} {trees : List (String × Tree)}
    (all : ∀ entry ∈ trees, P entry.1.toList entry.2) : @Parser.Promises (.ofList trees) P := by
  refine @Parser.Promises.mk (.ofList trees) P fun read _ => ?_
  obtain ⟨entry, found, rfl⟩ := Option.map_eq_some_iff.1 read
  have same := List.find?_some found
  rw [decide_eq_true_eq] at same
  exact same ▸ all entry (List.mem_of_find?_eq_some found)

end TestReach.Source
