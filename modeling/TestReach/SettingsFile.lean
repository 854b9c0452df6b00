import TestReach.Json.Printing
import TestReach.Json.Reading
import TestReach.Settings
import TestReach.Text.Path
import TestReach.Yaml.Reading

/-!
# Settings files

Settings as JSON or YAML. Fields may be missing and then have their standard values; unknown ones
are passed over.
-/

namespace TestReach.Settings

def fieldNames : List String := ["go_binary", "cover_mode", "match_rule", "test_args"]

def toJson (settings : Settings) : Json :=
  .ofMembers (Json.member? "go_binary" (settings.goBinary?.map Json.text) ++
    [("cover_mode", .text settings.coverMode.name),
      ("match_rule", .text settings.matchRule.name)] ++
    Json.member? "test_args"
      (if settings.testArguments.isEmpty then none else some (.texts settings.testArguments)))

def ofFields? (fields : List (Option Json)) : Option Settings :=
  match fields with
  | [goBinary, coverMode, matchRule, testArguments] => do
    let mode (j : Json) : Option CoverMode := j.asName?.bind CoverMode.ofName?
    let rule (j : Json) : Option MatchRule := j.asName?.bind MatchRule.ofName?
    return {
      goBinary? := ← Json.optional? none (Json.asNullable? Json.asText?) goBinary
      coverMode := ← Json.optional? standard.coverMode mode coverMode
      matchRule := ← Json.optional? standard.matchRule rule matchRule
      testArguments := ← Json.optional? [] (Json.asListOf? Json.asText?) testArguments }
  | _ => none

def ofJson? (j : Json) : Option Settings := (j.fields? fieldNames).bind ofFields?

def entryOf? (entries : List (String × Yaml.Node)) (name : String) :
    Option (Option Yaml.Node) :=
  match entries.filter fun (key, _) => key == name with
  | [] => some none
  | [(_, node)] => some (some node)
  | _ => none

def entryValue? {α : Type} (entries : List (String × Yaml.Node)) (name : String) (default : α)
    (read? : Yaml.Node → Option α) : Option α :=
  (entryOf? entries name).bind fun
    | some node => read? node
    | none => some default

def ofNode? (node : Yaml.Node) : Option Settings := do
  let entries ← node.asEntries?
  let binary (node : Yaml.Node) : Option (Option String) :=
    if node.isNull then some none else node.asText?.map some
  let mode (node : Yaml.Node) : Option CoverMode := node.asText?.bind CoverMode.ofName?
  let rule (node : Yaml.Node) : Option MatchRule := node.asText?.bind MatchRule.ofName?
  return {
    goBinary? := ← entryValue? entries "go_binary" none binary
    coverMode := ← entryValue? entries "cover_mode" standard.coverMode mode
    matchRule := ← entryValue? entries "match_rule" standard.matchRule rule
    testArguments := ← entryValue? entries "test_args" [] Yaml.Node.asTexts? }

def isYamlPath (path : String) : Bool :=
  match Text.Path.extension? path with
  | some extension => extension == "yaml" || extension == "yml"
  | none => false

def ofText? (path text : String) : Option Settings :=
  if isYamlPath path then (Yaml.read? text).bind ofNode? else (Json.read? text).bind ofJson?

theorem mapM_asText?_texts (ss : List String) : (ss.map Json.text).mapM Json.asText? = some ss := by
  induction ss with
  | nil => rfl
  | cons s ss ih => simp [Json.text, Json.asText?, ih]

theorem ofJson?_toJson (settings : Settings) : ofJson? settings.toJson = some settings := by
  obtain ⟨binary?, mode, rule, arguments⟩ := settings
  have texts := mapM_asText?_texts arguments
  cases binary? <;> cases arguments <;> cases mode <;> cases rule <;>
    simp_all [ofJson?, toJson, Json.fields?, Json.fieldOf?, Json.ofMembers, Json.member?,
      fieldNames, ofFields?, Json.optional?, Json.asNullable?, Json.text, Json.asText?,
      Json.asListOf?, Json.texts, Json.asArray?, Json.asName?]

end TestReach.Settings
