import TestReach.Proofs.Json.Values
import TestReach.SettingsFile

/-!
# Settings as text

Settings are printed without the fields that have nothing in them, and what is printed is read back.
A field is found by its name, so neither the order of an object's members nor a member of another
name changes what is read.
-/

namespace TestReach.Settings

open Json

theorem plain_texts (ss : List String) : (texts ss).Plain := by
  refine .array fun item member => ?_
  obtain ⟨s, -, rfl⟩ := List.mem_map.1 member
  exact .string s

theorem plain_ofMembers {members : List (String × Json)}
    (below : ∀ member ∈ members, member.2.Plain) : (ofMembers members).Plain := by
  refine .object ?_ ?_
  all_goals
    intro member listed
    obtain ⟨source, here, rfl⟩ := List.mem_map.1 listed
  · rfl
  · exact below source here

theorem plain_of_mem_member? {name : String} {value? : Option Json}
    (plain : ∀ value ∈ value?, value.Plain) {member : String × Json}
    (listed : member ∈ member? name value?) : member.2.Plain := by
  cases value? with
  | none => exact absurd listed List.not_mem_nil
  | some value => exact List.mem_singleton.1 listed ▸ plain value rfl

theorem plain_toJson (settings : Settings) : settings.toJson.Plain := by
  refine plain_ofMembers fun member listed => ?_
  simp only [List.mem_append, List.mem_cons, List.not_mem_nil, or_false] at listed
  rcases listed with (binary | rfl | rfl) | arguments
  · refine plain_of_mem_member? (fun value set => ?_) binary
    obtain ⟨binary, -, rfl⟩ := Option.map_eq_some_iff.1 set
    exact .string binary
  · exact .string _
  · exact .string _
  · refine plain_of_mem_member? (fun value set => ?_) arguments
    split at set
    · cases set
    · cases set
      exact plain_texts _

theorem fields?_toJson (settings : Settings) : settings.toJson.fields? fieldNames = some
    [settings.goBinary?.map text, some (text settings.coverMode.name),
      some (text settings.matchRule.name),
      if settings.testArguments.isEmpty then none else some (texts settings.testArguments)] := by
  obtain ⟨binary?, mode, rule, arguments⟩ := settings
  cases binary? <;> cases arguments <;>
    simp [toJson, fields?, fieldOf?, ofMembers, member?, fieldNames]

/-- The members of an object in any order, with others among them that are no fields. -/
def Extended (members others : List (Option String × Json)) : Prop :=
  ∃ unknown, others.Perm (members ++ unknown) ∧
    ∀ member ∈ unknown, ∃ name, member.1 = some name ∧ name ∉ fieldNames

variable {members others : List (Option String × Json)}

theorem fieldOf?_eq_of_perm {name : String} (same :
    (others.filter fun (key, _) => key == some name).Perm
      (members.filter fun (key, _) => key == some name)) :
    fieldOf? others name = fieldOf? members name := by
  unfold fieldOf?
  generalize others.filter _ = found, members.filter _ = sought at same
  match sought with
  | [] => rw [same.eq_nil]
  | [member] => rw [List.perm_singleton.1 same]
  | first :: second :: more =>
    match found, same.length_eq with
    | _ :: _ :: _, _ => rfl

theorem Extended.fieldOf?_eq (extended : Extended members others) {name : String}
    (known : name ∈ fieldNames) : fieldOf? others name = fieldOf? members name := by
  obtain ⟨unknown, same, names⟩ := extended
  have passed : (unknown.filter fun (key, _) => key == some name) = [] := by
    refine List.filter_eq_nil_iff.2 fun member listed here => ?_
    obtain ⟨other, named, strange⟩ := names member listed
    have key : other = name := by simpa [named] using here
    exact strange (key ▸ known)
  refine fieldOf?_eq_of_perm ?_
  have filtered := same.filter fun (key, _) => key == some name
  rwa [List.filter_append, passed, List.append_nil] at filtered

theorem Extended.named (extended : Extended members others) :
    (others.all fun (key, _) => key.isSome) = members.all fun (key, _) => key.isSome := by
  obtain ⟨unknown, same, names⟩ := extended
  have texts : (unknown.all fun (key, _) => key.isSome) = true := by
    refine List.all_eq_true.2 fun member listed => ?_
    obtain ⟨name, named, -⟩ := names member listed
    simp [named]
  rw [same.all_eq, List.all_append, texts, Bool.and_true]

theorem mapM_fieldOf? {names : List String}
    (same : ∀ name ∈ names, fieldOf? others name = fieldOf? members name) :
    names.mapM (fieldOf? others) = names.mapM (fieldOf? members) := by
  induction names with
  | nil => rfl
  | cons name names ih =>
    obtain ⟨here, behind⟩ := List.forall_mem_cons.1 same
    rw [List.mapM_cons, List.mapM_cons, here, ih behind]

theorem Extended.ofJson?_eq (extended : Extended members others) :
    ofJson? (.object others) = ofJson? (.object members) := by
  rw [ofJson?, ofJson?, Json.fields?, Json.fields?, extended.named,
    mapM_fieldOf? fun _ => extended.fieldOf?_eq]

/-- Settings are read back from their text, and with them the command that runs the tests, though
fields with nothing in them are left out. What is read from an object's text is read from every text
of an object that has the same fields, in any order and with other members among them. -/
theorem printed_read (codec : Codec) (settings : Settings) (environment? : Option String) :
    (codec.read? (codec.print settings.toJson)).bind ofJson? = some settings ∧
      ((codec.read? (codec.print settings.toJson)).bind ofJson?).map (·.command environment?) =
        some (settings.command environment?) ∧
      settings.toJson.fields? fieldNames = some
        [settings.goBinary?.map text, some (text settings.coverMode.name),
          some (text settings.matchRule.name),
          if settings.testArguments.isEmpty then none else some (texts settings.testArguments)] ∧
      ∀ printed other : String, ∀ members others : List (Option String × Json),
        codec.read? printed = some (.object members) →
        codec.read? other = some (.object others) → Extended members others →
        (codec.read? other).bind ofJson? = (codec.read? printed).bind ofJson? := by
  have back : (codec.read? (codec.print settings.toJson)).bind ofJson? = some settings := by
    rw [codec.read?_print settings.plain_toJson]
    exact ofJson?_toJson settings
  refine ⟨back, by rw [back, Option.map_some], fields?_toJson settings, ?_⟩
  intro printed other members others readPrinted readOther extended
  rw [readPrinted, readOther]
  exact extended.ofJson?_eq

def marked : Settings :=
  ⟨some "/opt/\"go\"\\bin\té", .count, .substring, ["-run=\x01 b", "", "\x7f\n∞"]⟩

def markedMembers : List (Option String × Json) :=
  [(some "go_binary", text "/opt/\"go\"\\bin\té"), (some "cover_mode", text "count"),
    (some "match_rule", text "substring"), (some "test_args", texts ["-run=\x01 b", "", "\x7f\n∞"])]

def turnedMembers : List (Option String × Json) :=
  (some "Cover_mode", texts ["set"]) :: markedMembers.reverse

theorem printed_read_turned :
    read? marked.toJson.print = some (.object markedMembers) ∧
      read? (Json.object turnedMembers).print = some (.object turnedMembers) ∧
      Extended markedMembers turnedMembers ∧
      (read? (Json.object turnedMembers).print).bind ofJson? = some marked := by
  have printed : read? marked.toJson.print = some (.object markedMembers) :=
    read?_print marked.plain_toJson
  have plain : (Json.object turnedMembers).Plain := by
    refine .object (by decide) fun member listed => ?_
    simp only [turnedMembers, markedMembers, List.reverse_cons, List.reverse_nil, List.nil_append,
      List.cons_append, List.mem_cons, List.not_mem_nil, or_false] at listed
    rcases listed with rfl | rfl | rfl | rfl | rfl
    · exact plain_texts _
    · exact plain_texts _
    all_goals exact .string _
  have other := read?_print plain
  have extended : Extended markedMembers turnedMembers :=
    ⟨[(some "Cover_mode", texts ["set"])],
      ((List.reverse_perm markedMembers).cons _).trans (List.perm_append_singleton _ _).symm,
      fun member listed => ⟨_, congrArg Prod.fst (List.mem_singleton.1 listed), by decide⟩⟩
  obtain ⟨back, -, -, same⟩ := printed_read .standard marked none
  exact ⟨printed, other, extended, (same _ _ _ _ printed other extended).trans back⟩

end TestReach.Settings
