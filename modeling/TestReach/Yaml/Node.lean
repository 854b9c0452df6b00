/-!
# YAML nodes

A scalar is held with its text and whether it was written plain, since only a plain one can stand
for nothing.
-/

namespace TestReach.Yaml

inductive Node
  | scalar (plain : Bool) (text : String)
  | sequence (items : List Node)
  | mapping (entries : List (Node × Node))

namespace Node

def empty : Node := .scalar true ""

def isEmpty : Node → Bool
  | scalar true text => text == ""
  | _ => false

def isNull : Node → Bool
  | scalar true text => ["", "~", "null", "Null", "NULL"].contains text
  | _ => false

def asText? : Node → Option String
  | scalar _ text => some text
  | _ => none

def asTexts? : Node → Option (List String)
  | sequence items => items.mapM asText?
  | node => if node.isEmpty then some [] else none

def asEntries? : Node → Option (List (String × Node))
  | mapping entries => entries.mapM fun (key, value) => key.asText?.map fun name => (name, value)
  | node => if node.isEmpty then some [] else none

end Node

end TestReach.Yaml
