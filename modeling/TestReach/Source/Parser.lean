import TestReach.Source.Tree

/-!
# Parsers

The grammar of sources is not part of the program. It is asked for a tree, and what is wrong with a
source stands in the tree.
-/

namespace TestReach.Source

class Parser where
  /-- Why the grammar cannot be used at all, if it cannot. -/
  unusable? : Option String
  tree? (source : List Char) : Option Tree

namespace Tree

def isFault (t : Tree) : Bool := t.kind == .error || t.kind == .missing

def fault? (t : Tree) : Option Tree := t.nodes.find? isFault

end Tree

end TestReach.Source
