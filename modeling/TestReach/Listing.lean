import TestReach.Coverage.Table
import TestReach.Function

namespace TestReach

structure ListedDependency where
  function : Function
  module : String
  weight : Nat
  place? : Option String
deriving DecidableEq, Repr

structure TargetListing where
  target : Function
  dependencies : List ListedDependency
deriving DecidableEq, Repr

namespace ListedDependency

def line (d : ListedDependency) : String :=
  "  - " ++ d.function.display ++ " [" ++ d.place?.getD "-" ++ "] weight=" ++
    toString d.weight ++ "\n"

end ListedDependency

def TargetListing.block (t : TargetListing) : String :=
  t.target.display ++ " (" ++ toString t.dependencies.length ++ " dependencies)\n" ++
    String.join (t.dependencies.map ListedDependency.line)

def listingText (targets : List TargetListing) : String :=
  if targets.isEmpty then "Targets: (none)\n" else String.join (targets.map TargetListing.block)

def Function.toJson (f : Function) : Json :=
  .ofMembers [("package", .text f.package), ("name", .text f.name)]

def ListedDependency.toJson (d : ListedDependency) : Json :=
  .ofMembers ([("function", d.function.toJson), ("module", .text d.module),
      ("weight", .number (.natural d.weight))] ++
    Json.member? "location" (d.place?.map Json.text))

def TargetListing.toJson (t : TargetListing) : Json :=
  .ofMembers [("target", t.target.toJson),
    ("dependencies", .array (t.dependencies.map ListedDependency.toJson))]

def listingJson (targets : List TargetListing) : Json := .array (targets.map TargetListing.toJson)

def Function.ofJson? (j : Json) : Option Function :=
  match j.fields? ["package", "name"] with
  | some [package, name] => do
    return ⟨← Json.required? Json.asText? package, ← Json.required? Json.asText? name⟩
  | _ => none

def ListedDependency.ofJson? (j : Json) : Option ListedDependency :=
  match j.fields? ["function", "module", "weight", "location"] with
  | some [function, module, weight, place] => do
    return {
      function := ← Json.required? Function.ofJson? function
      module := ← Json.required? Json.asText? module
      weight := ← Json.required? Coverage.weight? weight
      place? := ← Json.optional? none (Json.asNullable? Json.asText?) place }
  | _ => none

def TargetListing.ofJson? (j : Json) : Option TargetListing :=
  match j.fields? ["target", "dependencies"] with
  | some [target, dependencies] => do
    return {
      target := ← Json.required? Function.ofJson? target
      dependencies := ← Json.required? (Json.asListOf? ListedDependency.ofJson?) dependencies }
  | _ => none

def listingOfJson? (j : Json) : Option (List TargetListing) := j.asListOf? TargetListing.ofJson?

end TestReach
