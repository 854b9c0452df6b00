import TestReach.Proofs.Analysis.Selection
import TestReach.Proofs.Source.Receivers

/-!
# Functions and their declarations

A function is known by a single text, in which the receiver, its star and the name stand one behind
the other. No name holds a parenthesis and only a pointer has a star, so each of them is read back
from the text, although the receiver's type may hold any of the marks itself.
-/

namespace TestReach

theorem Text.cutLast?_mark_append {first : Char} {mark behind : List Char}
    (absent : first ∉ mark ++ behind) (before : List Char) :
    cutLast? (first :: mark) (before ++ first :: (mark ++ behind)) = some (before, behind) := by
  induction before with
  | nil =>
    rw [List.nil_append, cutLast?, Function.cutLast?_of_not_mem absent]
    simp [List.isPrefixOf_iff_prefix]
  | cons c before ih => rw [List.cons_append, cutLast?, ih]

namespace Function

def receiverText (receiver : String) (pointer : Bool) : List Char :=
  (if pointer then ['*'] else []) ++ receiver.toList

theorem toList_methodName (receiver : String) (pointer : Bool) (name : String) :
    (methodName receiver pointer name).toList =
      '(' :: receiverText receiver pointer ++ ')' :: (['.'] ++ name.toList) := by
  cases pointer <;> simp [methodName, receiverText]

theorem cutLast?_methodName (receiver : String) (pointer : Bool) {name : String}
    (plain : ')' ∉ name.toList) :
    Text.cutLast? [')', '.'] (methodName receiver pointer name).toList =
      some ('(' :: receiverText receiver pointer, name.toList) := by
  rw [toList_methodName]
  exact Text.cutLast?_mark_append (by simpa using plain) _

theorem shortName_method (package receiver : String) (pointer : Bool) {name : String}
    (plain : ')' ∉ name.toList) : (method package receiver pointer name).shortName = name := by
  have cut := cutLast?_methodName receiver pointer plain
  rw [shortName, method]
  simp only [cut]
  exact String.ofList_toList

theorem isMethod_method (package receiver : String) (pointer : Bool) (name : String) :
    (method package receiver pointer name).isMethod = true := by
  rw [isMethod, method, toList_methodName]
  rfl

theorem receiverText_inj {receiver other : String} {pointer otherPointer : Bool}
    (one : pointer = false → receiver.toList.head? ≠ some '*')
    (two : otherPointer = false → other.toList.head? ≠ some '*')
    (same : receiverText receiver pointer = receiverText other otherPointer) :
    receiver = other ∧ pointer = otherPointer := by
  cases pointer <;> cases otherPointer
  · exact ⟨String.toList_inj.1 same, rfl⟩
  · have starred : receiver.toList = '*' :: other.toList := same
    exact absurd (by rw [starred]; rfl) (one rfl)
  · have starred : '*' :: receiver.toList = other.toList := same
    exact absurd (by rw [← starred]; rfl) (two rfl)
  · exact ⟨String.toList_inj.1 (List.cons.inj same).2, rfl⟩

theorem methodName_inj {receiver other name otherName : String} {pointer otherPointer : Bool}
    (plain : ')' ∉ name.toList) (otherPlain : ')' ∉ otherName.toList)
    (one : pointer = false → receiver.toList.head? ≠ some '*')
    (two : otherPointer = false → other.toList.head? ≠ some '*')
    (same : methodName receiver pointer name = methodName other otherPointer otherName) :
    receiver = other ∧ pointer = otherPointer ∧ name = otherName := by
  have cut := cutLast?_methodName receiver pointer plain
  rw [same, cutLast?_methodName other otherPointer otherPlain, Option.some.injEq,
    Prod.mk.injEq] at cut
  obtain ⟨texts, names⟩ := cut
  obtain ⟨type, star⟩ := receiverText_inj one two (List.cons.inj texts).2.symm
  exact ⟨type, star, String.toList_inj.1 names.symm⟩

theorem isBuiltInName_iff {name : String} : isBuiltInName name = true ↔
    name = "init" ∨ (∃ rest, name = "init#" ++ rest) ∨ name = "main" := by
  constructor
  · intro hook
    rw [isBuiltInName] at hook
    split at hook
    · rename_i rest found
      have whole := Text.behind?_eq_some.1 found
      rw [Bool.or_eq_true, List.isEmpty_iff, beq_iff_eq] at hook
      rcases hook with rfl | mark
      · exact .inl (String.toList_inj.1 (by simpa using whole))
      · obtain ⟨digits, rfl⟩ := List.head?_eq_some_iff.1 mark
        refine .inr (.inl ⟨String.ofList digits, String.toList_inj.1 ?_⟩)
        simpa using whole
    · exact .inr (.inr (beq_iff_eq.1 hook))
  · rintro (rfl | ⟨rest, rfl⟩ | rfl)
    · decide
    · have spelled : ("init#" ++ rest).toList = "init".toList ++ '#' :: rest.toList := by simp
      simp [isBuiltInName, spelled, Text.behind?]
    · decide

end Function

namespace Source

/-- What a grammar grants of a declaration: its name holds no parenthesis, and a receiver that is no
pointer does not look like one. -/
structure Declaration.Unmarked (d : Declaration) : Prop where
  opening : '(' ∉ d.name.toList
  closing : ')' ∉ d.name.toList
  unstarred : d.Unstarred

def Declaration.Numbered (d : Declaration) : Prop :=
  '#' ∈ d.name.toList → ∃ n : Nat, d.name = "init#" ++ toString n

section

variable [Parser]

/-- A declaration of a file that was read, before its initialisation functions are numbered or
after. -/
def Declaration.Produced (d : Declaration) : Prop :=
  ∃ path source file, File.parse path source = .ok file ∧
    (d ∈ file.declarations ∨ ∃ count, d ∈ (numberInits count file.declarations).1)

theorem Declaration.Produced.of_granted {d : Declaration} {P : Declaration → Prop}
    (produced : d.Produced) (granted : Granted fun file => ∀ d ∈ file.declarations, P d) :
    P d := by
  obtain ⟨path, source, file, read, given | ⟨count, numbered⟩⟩ := produced
  · exact granted.parsed read d given
  · exact granted.renamed (granted.parsed read) count d numbered

variable [Parser.Naming]

theorem not_mem_name_of_parse {path source : String} {file : File} {c : Char}
    (read : File.parse path source = .ok file) (other : isWordPart c = false) (point : c ≠ '.') :
    ∀ d ∈ file.declarations, c ∉ d.name.toList := by
  obtain ⟨tree, named, rfl⟩ := File.exists_named_of_parse read
  refine (Tree.forall_declared fun item member d read => ?_).2
  obtain ⟨⟨name, found, here⟩, -⟩ := Tree.declaration?_some read
  rw [here]
  rcases ((named.below member).child? found).2 with word | dot
  · exact not_mem_of_isWord word other
  · simpa [dot] using point

theorem granted_not_mem {c : Char} (other : isWordPart c = false) (point : c ≠ '.')
    (ordinal : c ∉ "init#".toList) (digit : c.isDigit = false) :
    Granted fun file => ∀ d ∈ file.declarations, c ∉ d.name.toList where
  parsed read := not_mem_name_of_parse read other point
  renamed known count := forall_numberInits (fun _ n _ => not_mem_numbered ordinal digit n) known
    count

theorem granted_numbered : Granted fun file => ∀ d ∈ file.declarations, d.Numbered where
  parsed read := fun d member mark =>
    absurd mark (not_mem_name_of_parse read (by decide) (by decide) d member)
  renamed known count := forall_numberInits (fun _ n _ _ => ⟨n, rfl⟩) known count

theorem Declaration.Produced.unmarked [Parser.Typing] {d : Declaration} (produced : d.Produced) :
    d.Unmarked where
  opening := produced.of_granted (granted_not_mem (by decide) (by decide) (by decide) (by decide))
  closing := produced.of_granted (granted_not_mem (by decide) (by decide) (by decide) (by decide))
  unstarred := produced.of_granted granted_unstarred

end

section

variable {d e : Declaration}

theorem Declaration.shortName_function (unmarked : d.Unmarked) (package : String) :
    (d.function package).shortName = d.name := by
  unfold function
  split
  · exact Function.shortName_method _ _ _ unmarked.closing
  · exact Function.shortName_of_not_mem unmarked.closing

theorem Declaration.isMethod_function (unmarked : d.Unmarked) (package : String) :
    (d.function package).isMethod = d.receiver?.isSome := by
  unfold function
  split
  · rename_i receiver known
    rw [Function.isMethod_method, known]
    rfl
  · rename_i none
    rw [none, Function.isMethod, Option.isSome_none, beq_eq_false_iff_ne]
    exact fun first => unmarked.opening (List.mem_of_head? first)

theorem Declaration.isBuiltIn_function (unmarked : d.Unmarked) (package : String) :
    (d.function package).isBuiltIn = true ↔ d.receiver? = none ∧
      (d.name = "init" ∨ (∃ rest, d.name = "init#" ++ rest) ∨ d.name = "main") := by
  rw [Function.isBuiltIn, isMethod_function unmarked, Bool.and_eq_true, Bool.not_eq_true',
    Option.isSome_eq_false_iff, Option.isNone_iff_eq_none]
  refine and_congr_right fun plain => ?_
  have name : (d.function package).name = d.name := by rw [function, plain]
  rw [name, Function.isBuiltInName_iff]

theorem Declaration.Numbered.exists_iff (numbered : d.Numbered) :
    (∃ rest, d.name = "init#" ++ rest) ↔ ∃ n : Nat, d.name = "init#" ++ toString n := by
  constructor
  · rintro ⟨rest, same⟩
    exact numbered (by simp [same])
  · rintro ⟨n, same⟩
    exact ⟨toString n, same⟩

theorem Declaration.function_inj (one : d.Unmarked) (other : e.Unmarked) {package : String}
    (same : d.function package = e.function package) :
    d.name = e.name ∧ d.receiver? = e.receiver? := by
  have names : d.name = e.name := by
    rw [← shortName_function one package, same, shortName_function other]
  refine ⟨names, ?_⟩
  have methods : d.receiver?.isSome = e.receiver?.isSome := by
    rw [← isMethod_function one package, same, isMethod_function other]
  cases received : d.receiver? with
  | none =>
    rw [received, Option.isSome_none] at methods
    exact (Option.isNone_iff_eq_none.1 (by simpa using methods.symm)).symm
  | some receiver =>
    rw [received, Option.isSome_some] at methods
    obtain ⟨receiver', received'⟩ := Option.isSome_iff_exists.1 methods.symm
    simp only [function, received, received', Function.method, Function.mk.injEq, true_and] at same
    obtain ⟨type, star, -⟩ := Function.methodName_inj one.closing other.closing
      (one.unstarred receiver received) (other.unstarred receiver' received') same
    cases receiver
    cases receiver'
    simp_all

/-- Of one package two declarations are the same function exactly if they have one name and one
receiver, a pointer or not. The function has the name that was declared, is a method exactly if
there is a receiver, and built in exactly if there is none and its name is that of a hook. -/
theorem Declaration.function_faithful (one : d.Unmarked) (other : e.Unmarked) (package : String) :
    (d.function package = e.function package ↔ d.name = e.name ∧ d.receiver? = e.receiver?) ∧
      (d.function package).shortName = d.name ∧
      ((d.function package).isMethod = true ↔ d.receiver?.isSome = true) ∧
      ((d.function package).isBuiltIn = true ↔ d.receiver? = none ∧
        (d.name = "init" ∨ (∃ rest, d.name = "init#" ++ rest) ∨ d.name = "main")) ∧
      (d.Numbered → ((d.function package).isBuiltIn = true ↔ d.receiver? = none ∧
        (d.name = "init" ∨ (∃ n : Nat, d.name = "init#" ++ toString n) ∨ d.name = "main"))) := by
  refine ⟨⟨function_inj one other, ?_⟩, shortName_function one package, ?_,
    isBuiltIn_function one package, ?_⟩
  · rintro ⟨name, receiver⟩
    rw [function, function, name, receiver]
  · rw [isMethod_function one]
  · intro numbered
    rw [isBuiltIn_function one, numbered.exists_iff]

end

-- A pointer, a pointer in parentheses, and a hook beside a method of its name.
def starredSource : String :=
  "package m\ntype T[A any] int\nfunc (t *T[A]) M() \x7b\x7d\nfunc (t (*T[A])) M() \x7b\x7d\n" ++
    "func (*T[A]) init() \x7b\x7d\nfunc init() \x7b\x7d\n"

def starredTree : Tree :=
  .node .plain .sourceFile ⟨⟨0, 0⟩, ⟨112, 6⟩⟩ [
    .on 0 0 9 .plain .packageClause [.on 0 8 9 .plain .packageIdentifier []],
    .on 1 10 27 .plain .typeDeclaration [
      .on 1 15 27 .plain .typeSpec [
        .on 1 15 16 .name .typeIdentifier [],
        .on 1 16 23 .plain .typeParameterList [
          .on 1 17 22 .plain .typeParameterDeclaration [
            .on 1 17 18 .name .identifier [], .on 1 19 22 .plain .typeIdentifier []]],
        .on 1 24 27 .plain .typeIdentifier []]],
    .on 2 28 49 .plain .methodDeclaration [
      .on 2 33 42 .receiver .parameterList [
        .on 2 34 41 .plain .parameterDeclaration [
          .on 2 34 35 .name .identifier [],
          .on 2 36 41 .type .pointerType [
            .on 2 37 41 .plain .genericType [
              .on 2 37 38 .type .typeIdentifier [], .on 2 39 40 .plain .typeIdentifier []]]]],
      .on 2 43 44 .name .fieldIdentifier [], .on 2 44 46 .plain .parameterList [],
      .on 2 47 49 .body .block []],
    .on 3 50 73 .plain .methodDeclaration [
      .on 3 55 66 .receiver .parameterList [
        .on 3 56 65 .plain .parameterDeclaration [
          .on 3 56 57 .name .identifier [],
          .on 3 58 65 .type .parenthesizedType [
            .on 3 59 64 .plain .pointerType [
              .on 3 60 64 .plain .genericType [
                .on 3 60 61 .type .typeIdentifier [], .on 3 62 63 .plain .typeIdentifier []]]]]],
      .on 3 67 68 .name .fieldIdentifier [], .on 3 68 70 .plain .parameterList [],
      .on 3 71 73 .body .block []],
    .on 4 74 96 .plain .methodDeclaration [
      .on 4 79 86 .receiver .parameterList [
        .on 4 80 85 .plain .parameterDeclaration [
          .on 4 80 85 .type .pointerType [
            .on 4 81 85 .plain .genericType [
              .on 4 81 82 .type .typeIdentifier [], .on 4 83 84 .plain .typeIdentifier []]]]],
      .on 4 87 91 .name .fieldIdentifier [], .on 4 91 93 .plain .parameterList [],
      .on 4 94 96 .body .block []],
    .on 5 97 111 .plain .functionDeclaration [
      .on 5 102 106 .name .identifier [], .on 5 106 108 .plain .parameterList [],
      .on 5 109 111 .body .block []]]

local instance starredParser : Parser := .ofList [(starredSource, starredTree)]

def starredMethod (name type : String) (pointer : Bool) (line : Nat) : Declaration :=
  ⟨name, some ⟨type, pointer⟩, "m.go", line, line, true, 1, []⟩

def starredHook (name : String) : Declaration := ⟨name, none, "m.go", 6, 6, true, 1, []⟩

def starredFile : File :=
  ⟨"m.go", "m", [],
    [starredMethod "M" "T" true 3, starredMethod "M" "(*T[A])" false 4,
      starredMethod "init" "T" true 5, starredHook "init"], ["T"], []⟩

theorem parse_starred : File.parse "m.go" starredSource = .ok starredFile := by decide +kernel

theorem produced_starred :
    (∀ d ∈ starredFile.declarations, d.Produced) ∧ (starredHook "init#1").Produced :=
  ⟨fun d member => ⟨_, _, _, parse_starred, .inl member⟩, _, _, _, parse_starred,
    .inr ⟨0, by decide⟩⟩

local instance starredNaming : Parser.Naming := Parser.promises_ofList (by decide +kernel)

local instance starredTyping : Parser.Typing := Parser.promises_ofList (by decide +kernel)

theorem Declaration.function_faithful_starred :
    let hook := starredHook "init#1"
    let method := starredMethod "init" "T" true 5
    (hook.Unmarked ∧ method.Unmarked ∧ hook.Numbered) ∧
      hook.function "a/m" = ⟨"a/m", "init#1"⟩ ∧ method.function "a/m" = ⟨"a/m", "(*T).init"⟩ ∧
      (hook.function "a/m" = method.function "a/m" ↔
        hook.name = method.name ∧ hook.receiver? = method.receiver?) ∧
      (hook.function "a/m").shortName = hook.name ∧
      ((hook.function "a/m").isMethod = true ↔ hook.receiver?.isSome = true) ∧
      ((hook.function "a/m").isBuiltIn = true ↔ hook.receiver? = none ∧
        (hook.name = "init" ∨ (∃ n : Nat, hook.name = "init#" ++ toString n) ∨
          hook.name = "main")) := by
  obtain ⟨given, hook⟩ := produced_starred
  have method := given (starredMethod "init" "T" true 5) (by simp [starredFile])
  have numbered := hook.of_granted granted_numbered
  obtain ⟨same, short, isMethod, -, builtIn⟩ :=
    Declaration.function_faithful hook.unmarked method.unmarked "a/m"
  exact ⟨⟨hook.unmarked, method.unmarked, numbered⟩, by decide, by decide, same, short, isMethod,
    builtIn numbered⟩

end Source

end TestReach
