import TestReach.Proofs.Graph.Building
import TestReach.Proofs.Loader.Names

/-!
# Dispatched calls

A name that a file binds hides a value of the same name, so a call behind it is not dispatched. Any
other call on a value leads to all that the packages have for it, whatever is known of their paths:
what a bare name stands for can depend on the calls before it, but the methods of a name and the
functions used as values are those of the declarations.
-/

namespace TestReach.CallGraph

open Packages

variable {packages : List Package} {g : CallGraph} {d : Declared} {values : List Nat}
  {unread : List Function} {calls : List (Function × Function × Nat)} {growth : Growth}

def HasCall (g : CallGraph) (caller callee : Function) : Prop :=
  ∃ i, g.function? i = some caller ∧ ∃ j ∈ g.callees i, g.function? j = some callee

theorem hasCall_iff {caller callee : Function} :
    g.HasCall caller callee ↔
      ∃ e ∈ g.edges.toList,
        g.function? e.caller = some caller ∧ g.function? e.callee = some callee := by
  constructor
  · rintro ⟨i, here, j, called, there⟩
    obtain ⟨e, outgoing, rfl⟩ := List.mem_map.1 called
    obtain ⟨edge, rfl⟩ := mem_outgoing.1 outgoing
    exact ⟨e, Array.mem_toList_iff.2 edge, here, there⟩
  · rintro ⟨e, edge, here, there⟩
    have outgoing := mem_outgoing.2 ⟨Array.mem_toList_iff.1 edge, rfl⟩
    exact ⟨e.caller, here, e.callee, List.mem_map_of_mem outgoing, there⟩

def dispatched (packages : List Package) : Target → List Function
  | .methods name => methodsNamed packages name
  | .values => used packages
  | _ => []

/-- What is known of a target, whatever the packages are. -/
inductive Told (packages : List Package) (g : CallGraph) (scope : Scope) (callee : Source.Callee) :
    Target → Prop
  | node {i : Nat} {f : Function} (found : g.find? f = some i) :
    Told packages g scope callee (.node i)
  | unread {f : Function} (absent : g.find? f = none)
    (outside : f ∈ unreadOf packages scope callee) : Told packages g scope callee (.unread f)
  | methods {name : String} (selected : name ∈ callee.selected?) :
    Told packages g scope callee (.methods name)
  | values : Told packages g scope callee .values
  | nowhere : Told packages g scope callee .nowhere

theorem told_target (parsed : d.parsed = parsedPackages packages) (package : Package)
    (scope : Scope) (callee : Source.Callee) :
    Told packages g scope callee (d.target g package scope callee) := by
  have onValue (name : String) (selected : name ∈ callee.selected?) :
      Told packages g scope callee (d.onValue name) := by
    unfold Declared.onValue
    split
    · exact .methods selected
    · exact .values
  cases callee with
  | bare name =>
    rw [Declared.target]
    cases found : scope.bare? g package.importPath name with
    | some i =>
      rcases Option.or_eq_some_iff.1 found with own | ⟨-, imported⟩
      · exact .node own
      · obtain ⟨path, -, there⟩ := List.exists_of_findSome?_eq_some imported
        exact .node there
    | none =>
      dsimp only
      split
      · exact .nowhere
      · exact .values
  | qualified qualifier name =>
    rw [Declared.target]
    cases bound : scope.paths.get? qualifier with
    | none => exact onValue name rfl
    | some path =>
      dsimp only
      cases found : g.find? ⟨path, name⟩ with
      | some i => exact .node found
      | none =>
        cases owned : d.parsed.get? path with
        | none =>
          have outside := parsedPackages_eq_none_iff.1 (parsed ▸ owned)
          exact .unread found (by simp [unreadOf, bound, outside])
        | some owner =>
          dsimp only
          split
          · exact .nowhere
          · exact .values
  | method name => exact onValue name rfl
  | computed => exact .values

section

variable [Source.Parser] [Source.Parser.Naming]

theorem Grown.dispatch (grown : Grown packages d values unread calls growth)
    (loaded : Loaded packages) (parsed : d.parsed = parsedPackages packages) {call : Call}
    (member : call ∈ callsOf (packageNames packages) packages) :
    ∃ others more,
      Grown packages d values (unread ++ others) (calls ++ more) (growth.step d values call) ∧
        (∀ f ∈ others, f ∈ unreadOf packages call.scope call.site.callee) ∧
        ∀ f ∈ dispatched packages
            (d.target growth.graph call.package call.scope call.site.callee),
          (call.caller, f, call.site.line) ∈ more := by
  have plain := loaded.plain member
  have unstubbed := loaded.unstubbed
  obtain ⟨caller, first⟩ := grown.declared call.caller (caller_mem_functions member)
  have found : growth.graph.find? call.caller = some caller :=
    grown.wf.find?_eq_some_iff.2 ⟨_, first, rfl⟩
  have listed (fs : List Function) : ∀ f ∈ fs,
      (call.caller, f, call.site.line) ∈ fs.map fun f => (call.caller, f, call.site.line) :=
    fun f member => List.mem_map_of_mem member
  rw [Growth.step, found]
  have told := told_target (g := growth.graph) parsed call.package call.scope call.site.callee
  generalize d.target growth.graph call.package call.scope call.site.callee = target at told ⊢
  cases told with
  | @node i _ known =>
    -- Nothing is said of bare names, so the node may even be synthetic.
    obtain ⟨⟨f, synthetic⟩, located, rfl⟩ := grown.wf.find?_eq_some_iff.1 known
    rcases grown.nodes i _ located with ⟨rfl, -⟩ | ⟨rfl, callees, stub⟩
    · have next : Grown packages d values (unread ++ [])
          (calls ++ [(call.caller, f, call.site.line)])
          (growth.connect caller i call.site.line) := by
        rw [List.append_nil]
        exact grown.connect_node first located
      exact ⟨[], _, next, by simp, by simp [dispatched]⟩
    · obtain ⟨fs, named⟩ := grown.exists_named stub
      have next : Grown packages d values (unread ++ [])
          (calls ++ fs.map fun h => (call.caller, h, call.site.line))
          (growth.connect caller i call.site.line) := by
        rw [List.append_nil]
        exact grown.connect_stub first stub named (.refl _)
      exact ⟨[], _, next, by simp, by simp [dispatched]⟩
  | @unread f absent outside =>
    have other : ∀ h ∈ [f], h ∈ unreadOf packages call.scope call.site.callee := by
      simpa using outside
    refine ⟨[f], _, grown.addCall unstubbed (.unread absent) ?_ first _, other, ?_⟩
    · intro h member
      obtain ⟨unlisted, selected⟩ := mem_unreadOf (other h member)
      exact ⟨unlisted, plain h.name selected⟩
    · simp [dispatched]
  | @methods name selected =>
    have word := plain name selected
    exact ⟨[], _, grown.addCall unstubbed (.methods word) (by simp) first _, by simp, listed _⟩
  | values => exact ⟨[], _, grown.addCall unstubbed .values (by simp) first _, by simp, listed _⟩
  | nowhere =>
    exact ⟨[], _, grown.addCall unstubbed .nowhere (by simp) first _, by simp,
      by simp [dispatched]⟩

def Midway (packages : List Package) (d : Declared) (growth : Growth) : Prop :=
  ∃ values unread calls, Grown packages d values unread calls growth ∧
    ∀ f ∈ unread, f ∈ Packages.unread packages

theorem Grown.dispatchAll (grown : Grown packages d values unread calls growth)
    (loaded : Loaded packages) (parsed : d.parsed = parsedPackages packages)
    (counted : ∀ f ∈ unread, f ∈ Packages.unread packages) {more : List Call}
    (members : ∀ call ∈ more, call ∈ callsOf (packageNames packages) packages) :
    ∃ last led, Grown packages d values last (calls ++ led)
        (more.foldl (Growth.step d values) growth) ∧
      ∀ call ∈ more, ∃ before, Midway packages d before ∧
        ∀ f ∈ dispatched packages
            (d.target before.graph call.package call.scope call.site.callee),
          (call.caller, f, call.site.line) ∈ led := by
  -- Over the calls; each is dispatched from the graph that those before it left.
  induction more generalizing unread calls growth with
  | nil => exact ⟨unread, [], by simpa using grown, by simp⟩
  | cons call more ih =>
    have here : call ∈ callsOf (packageNames packages) packages := members call (by simp)
    obtain ⟨others, first, next, outside, leads⟩ := grown.dispatch loaded parsed here
    have still : ∀ f ∈ unread ++ others, f ∈ Packages.unread packages := by
      intro f member
      rcases List.mem_append.1 member with member | member
      · exact counted f member
      · exact List.mem_flatMap.2 ⟨call, here, outside f member⟩
    obtain ⟨last, led, rest, behind⟩ :=
      ih next still fun other member => members other (by simp [member])
    refine ⟨last, first ++ led, by simpa [List.append_assoc] using rest, ?_⟩
    intro other member
    rcases List.mem_cons.1 member with rfl | member
    · have midway : Midway packages d growth := ⟨values, unread, calls, grown, counted⟩
      exact ⟨growth, midway, fun f among => List.mem_append_left _ (leads f among)⟩
    · obtain ⟨before, midway, leads⟩ := behind other member
      exact ⟨before, midway, fun f among => List.mem_append_right _ (leads f among)⟩

theorem hasCall_of_dispatched (loaded : Loaded packages) {call : Call}
    (member : call ∈ callsOf (packageNames packages) packages) {f : Function}
    (always : ∀ d growth, Midway packages d growth →
      f ∈ dispatched packages (d.target growth.graph call.package call.scope call.site.callee)) :
    (ofPackages packages).purge.HasCall call.caller f := by
  have start := grown_declared packages
  obtain ⟨last, led, grown, leads⟩ := start.dispatchAll loaded rfl (by simp) fun _ member => member
  obtain ⟨before, midway, leads⟩ := leads call member
  have listed := leads f (always _ before midway)
  rw [List.nil_append] at grown
  obtain ⟨e, edge, same⟩ :=
    List.mem_map.1 (grown.edges_purge.mem_iff.2 (List.mem_map_of_mem listed))
  simp only [known, called, Prod.mk.injEq] at same
  exact hasCall_iff.2 ⟨e, edge, same.1, same.2.1⟩

end

def parameterNames (source : List Char) (t : Source.Tree) : List String :=
  let lists := t.children.filter fun list => list.kind == .parameterList
  let bound := lists.take (if t.kind == .methodDeclaration then 2 else 1)
  bound.flatMap fun list => list.children.flatMap fun parameter =>
    (parameter.children.filter fun child => child.role == .name).map
      (Source.Tree.text source)

def parametersOf (source : List Char) (root : Source.Tree) (name : String) : List String :=
  let named := root.children.filter fun item =>
    (item.child? .name).map (Source.Tree.text source) == some name
  named.flatMap (parameterNames source)

def shadowingSource : String :=
  "package m\nimport \"strings\"\ntype T int\nfunc (t T) Get() \x7b strings.ToUpper(\"\") \x7d\n" ++
  "func Top() \x7b\x7d\nvar top = Top\n" ++
  "func A(strings T, close func()) \x7b strings.Get(); close() \x7d\n" ++
  "func B(t T, run func()) \x7b t.Get(); run() \x7d\n"

def shadowingTree : Source.Tree :=
  .node .plain .sourceFile ⟨⟨0, 0⟩, ⟨209, 8⟩⟩ [
    .on 0 0 9 .plain .packageClause [.on 0 8 9 .plain .packageIdentifier []],
    .on 1 10 26 .plain .importDeclaration [
      .on 1 17 26 .plain .importSpec [.on 1 17 26 .path .literal []]],
    .on 2 27 37 .plain .typeDeclaration [
      .on 2 32 37 .plain .typeSpec [
        .on 2 32 33 .name .typeIdentifier [], .on 2 34 37 .plain .typeIdentifier []]],
    .on 3 38 78 .plain .methodDeclaration [
      .on 3 43 48 .receiver .parameterList [
        .on 3 44 47 .plain .parameterDeclaration [
          .on 3 44 45 .name .identifier [], .on 3 46 47 .type .typeIdentifier []]],
      .on 3 49 52 .name .fieldIdentifier [], .on 3 52 54 .plain .parameterList [],
      .on 3 55 78 .body .block [
        .on 3 57 76 .plain .expressionStatement [
          .on 3 57 76 .plain .callExpression [
            .on 3 57 72 .function .selectorExpression [
              .on 3 57 64 .operand .identifier [], .on 3 65 72 .field .fieldIdentifier []],
            .on 3 72 76 .plain .argumentList [.on 3 73 75 .plain .literal []]]]]],
    .on 4 79 92 .plain .functionDeclaration [
      .on 4 84 87 .name .identifier [], .on 4 87 89 .plain .parameterList [],
      .on 4 90 92 .body .block []],
    .on 5 93 106 .plain .varDeclaration [
      .on 5 97 106 .plain .varSpec [
        .on 5 97 100 .name .identifier [],
        .on 5 103 106 .plain .expressionList [.on 5 103 106 .plain .identifier []]]],
    .on 6 107 165 .plain .functionDeclaration [
      .on 6 112 113 .name .identifier [],
      .on 6 113 138 .plain .parameterList [
        .on 6 114 123 .plain .parameterDeclaration [
          .on 6 114 121 .name .identifier [], .on 6 122 123 .type .typeIdentifier []],
        .on 6 125 137 .plain .parameterDeclaration [
          .on 6 125 130 .name .identifier [],
          .on 6 131 137 .type .functionType [.on 6 135 137 .plain .parameterList []]]],
      .on 6 139 165 .body .block [
        .on 6 141 154 .plain .expressionStatement [
          .on 6 141 154 .plain .callExpression [
            .on 6 141 152 .function .selectorExpression [
              .on 6 141 148 .operand .identifier [], .on 6 149 152 .field .fieldIdentifier []],
            .on 6 152 154 .plain .argumentList []]],
        .on 6 156 163 .plain .expressionStatement [
          .on 6 156 163 .plain .callExpression [
            .on 6 156 161 .function .identifier [], .on 6 161 163 .plain .argumentList []]]]],
    .on 7 166 208 .plain .functionDeclaration [
      .on 7 171 172 .name .identifier [],
      .on 7 172 189 .plain .parameterList [
        .on 7 173 176 .plain .parameterDeclaration [
          .on 7 173 174 .name .identifier [], .on 7 175 176 .type .typeIdentifier []],
        .on 7 178 188 .plain .parameterDeclaration [
          .on 7 178 181 .name .identifier [],
          .on 7 182 188 .type .functionType [.on 7 186 188 .plain .parameterList []]]],
      .on 7 190 208 .body .block [
        .on 7 192 199 .plain .expressionStatement [
          .on 7 192 199 .plain .callExpression [
            .on 7 192 197 .function .selectorExpression [
              .on 7 192 193 .operand .identifier [], .on 7 194 197 .field .fieldIdentifier []],
            .on 7 197 199 .plain .argumentList []]],
        .on 7 201 206 .plain .expressionStatement [
          .on 7 201 206 .plain .callExpression [
            .on 7 201 204 .function .identifier [], .on 7 204 206 .plain .argumentList []]]]]]

local instance shadowingParser : Source.Parser := .ofList [(shadowingSource, shadowingTree)]

local instance shadowingNaming : Source.Parser.Naming :=
  Source.Parser.promises_ofList (by decide +kernel)

def shadowing : Memory := Memory.empty.addPackage (some "a") "a/m" [("m.go", shadowingSource)]

def shadowingHidden : Source.Declaration :=
  ⟨"A", none, "/memory/a/m/m.go", 7, 7, true, 1,
    [⟨7, .qualified "strings" "Get"⟩, ⟨7, .bare "close"⟩]⟩

def shadowingPlain : Source.Declaration :=
  ⟨"B", none, "/memory/a/m/m.go", 8, 8, true, 1, [⟨8, .qualified "t" "Get"⟩, ⟨8, .bare "run"⟩]⟩

def shadowingFile : Source.File :=
  ⟨"/memory/a/m/m.go", "m", [⟨none, "strings"⟩],
    [⟨"Get", some ⟨"T", false⟩, "/memory/a/m/m.go", 4, 4, true, 1,
        [⟨4, .qualified "strings" "ToUpper"⟩]⟩,
      ⟨"Top", none, "/memory/a/m/m.go", 5, 5, true, 1, []⟩, shadowingHidden, shadowingPlain],
    ["T"], [.bare "top", .bare "Top"]⟩

def shadowingPackage : Package :=
  ⟨"a/m", "m", "/memory/a/m", some "a", false, false, false, [shadowingFile], []⟩

def shadowingPackages : List Package := [shadowingPackage]

theorem load_shadowing : Id.run (shadowing.load ⟨"a/m", none⟩) = .ok shadowingPackages := by
  decide +kernel

def shadowingParameters (name : String) : List String :=
  parametersOf shadowingSource.toList shadowingTree name

theorem shadowingParameters_eq : shadowingParameters "A" = ["strings", "close"] ∧
    shadowingParameters "B" = ["t", "run"] := by
  decide +kernel

theorem purge_shadowing : (ofPackages shadowingPackages).purge =
    ⟨#[some ⟨⟨"a/m", "(T).Get"⟩, false⟩, some ⟨⟨"a/m", "Top"⟩, false⟩,
        some ⟨⟨"a/m", "A"⟩, false⟩, some ⟨⟨"a/m", "B"⟩, false⟩,
        some ⟨⟨"strings", "ToUpper"⟩, false⟩, some ⟨⟨"strings", "Get"⟩, false⟩, none, none],
      [7, 6], #[⟨0, 4, 4⟩, ⟨2, 5, 7⟩, ⟨3, 0, 8⟩, ⟨3, 1, 8⟩]⟩ := by
  decide +kernel

theorem Grown.onValue_eq (grown : Grown packages d values unread calls growth) {name : String}
    {f : Function} (method : f ∈ methodsNamed packages name) : d.onValue name = .methods name := by
  obtain ⟨i, listed, -⟩ := (grown.methods name).exists_node method
  have kept : (d.methods.get? name).isSome = true := by
    cases found : d.methods.get? name with
    | none => simp [Declared.methodsNamed, found] at listed
    | some _ => rfl
  rw [Declared.onValue, if_pos kept]

variable {p : Package} {file : Source.File} {declaration : Source.Declaration}
  {site : Source.CallSite} {name : String} {f : Function}

theorem call_mem (listed : p ∈ packages) (there : file ∈ p.files)
    (declared : declaration ∈ file.declarations) (called : site ∈ declaration.calls) :
    ⟨p, .of (packageNames packages) file.imports, declaration.function p.importPath, site⟩ ∈
      callsOf (packageNames packages) packages :=
  mem_callsOf.2 ⟨p, listed, file, there, declaration, declared, site, called, rfl⟩

/-- A call behind a name that no import of the file binds, such as that of a parameter, leads to
every method of its name. -/
theorem method_call_reaches [Source.Parser] [Source.Parser.Naming] (loaded : Loaded packages)
    (listed : p ∈ packages) (there : file ∈ p.files) (declared : declaration ∈ file.declarations)
    (called : site ∈ declaration.calls) {qualifier : String}
    (shape : site.callee = .qualified qualifier name)
    (unbound : ∀ i ∈ file.imports, i.isBlank = false → i.isDot = false →
      boundName (packageNames packages) i ≠ qualifier)
    (method : f ∈ methodsNamed packages name) :
    (ofPackages packages).purge.HasCall (declaration.function p.importPath) f := by
  have made := call_mem listed there declared called
  have free : (Scope.of (packageNames packages) file.imports).paths.get? qualifier = none := by
    rw [Scope.of, Table.get?_ofList_eq_none_iff]
    intro pair member
    obtain ⟨i, kept, rfl⟩ := List.mem_map.1 member
    obtain ⟨imported, plain⟩ := List.mem_filter.1 kept
    rw [Bool.and_eq_true, Bool.not_eq_true', Bool.not_eq_true'] at plain
    exact unbound i imported plain.1 plain.2
  apply hasCall_of_dispatched loaded made
  rintro d growth ⟨values, unread, calls, grown, -⟩
  have target : d.target growth.graph p (Scope.of (packageNames packages) file.imports)
      (.qualified qualifier name) = .methods name := by
    rw [Declared.target, free]
    exact grown.onValue_eq method
  rw [shape, target]
  exact method

theorem method_call_reaches_method :
    "t" ∈ shadowingParameters "B" ∧
      (ofPackages shadowingPackages).purge.HasCall ⟨"a/m", "B"⟩ ⟨"a/m", "(T).Get"⟩ := by
  refine ⟨by simp [shadowingParameters_eq], ?_⟩
  have member : shadowingFile ∈ shadowingPackage.files := List.mem_singleton.2 rfl
  have declared : shadowingPlain ∈ shadowingFile.declarations := by decide
  have called : ⟨8, .qualified "t" "Get"⟩ ∈ shadowingPlain.calls := by decide
  exact method_call_reaches (Memory.loaded load_shadowing) (List.mem_singleton.2 rfl) member
    declared called rfl (by decide) (by decide)

/-- The first parameter of `A` has the name of an import, and the call behind it is taken for one of
that package. -/
theorem method_call_lost :
    Id.run (shadowing.load ⟨"a/m", none⟩) = .ok shadowingPackages ∧
      "strings" ∈ shadowingParameters "A" ∧
      shadowingHidden ∈ shadowingFile.declarations ∧
      ⟨7, .qualified "strings" "Get"⟩ ∈ shadowingHidden.calls ∧
      ⟨"a/m", "(T).Get"⟩ ∈ methodsNamed shadowingPackages "Get" ∧
      ¬ (ofPackages shadowingPackages).purge.HasCall (shadowingHidden.function "a/m")
        ⟨"a/m", "(T).Get"⟩ := by
  refine ⟨load_shadowing, by simp [shadowingParameters_eq], by decide, by decide, by decide, ?_⟩
  rw [purge_shadowing, hasCall_iff]
  decide

/-- A call of a name that stands for no function, predeclared name or type, such as that of a
parameter, leads to every function that is used as a value. -/
theorem value_call_reaches [Source.Parser] [Source.Parser.Naming] (loaded : Loaded packages)
    (listed : p ∈ packages) (there : file ∈ p.files) (declared : declaration ∈ file.declarations)
    (called : site ∈ declaration.calls) (shape : site.callee = .bare name)
    (identifier : isPlain name = true)
    (free : ∀ path ∈ p.importPath :: (Scope.of (packageNames packages) file.imports).dotImports,
      ⟨path, name⟩ ∉ functions packages ∧ ⟨path, name⟩ ∉ Packages.unread packages)
    (own : predeclared.contains name = false) (untyped : p.declaresType name = false)
    (value : f ∈ used packages) :
    (ofPackages packages).purge.HasCall (declaration.function p.importPath) f := by
  have made := call_mem listed there declared called
  apply hasCall_of_dispatched loaded made
  rintro d growth ⟨values, unread, calls, grown, counted⟩
  have absent : ∀ path ∈ p.importPath ::
      (Scope.of (packageNames packages) file.imports).dotImports,
      growth.graph.find? ⟨path, name⟩ = none := by
    intro path member
    obtain ⟨undeclared, uncalled⟩ := free path member
    rw [grown.wf.find?_eq_none_iff]
    intro i node found same
    obtain ⟨-, declared | unread⟩ := grown.real found (.inr (same ▸ identifier))
    · exact undeclared (same ▸ declared)
    · exact uncalled (same ▸ counted _ unread)
  have unnamed : (Scope.of (packageNames packages) file.imports).bare? growth.graph p.importPath
      name = none := by
    rw [Scope.bare?, absent p.importPath (by simp), Option.none_or, List.findSome?_eq_none_iff]
    exact fun path member => absent path (by simp [member])
  have target : d.target growth.graph p (Scope.of (packageNames packages) file.imports)
      (.bare name) = .values := by
    simp only [Declared.target, unnamed, own, untyped, Bool.or_self, Bool.false_eq_true, if_false]
  rw [shape, target]
  exact value

theorem value_call_reaches_value :
    "run" ∈ shadowingParameters "B" ∧
      (ofPackages shadowingPackages).purge.HasCall ⟨"a/m", "B"⟩ ⟨"a/m", "Top"⟩ := by
  refine ⟨by simp [shadowingParameters_eq], ?_⟩
  have member : shadowingFile ∈ shadowingPackage.files := List.mem_singleton.2 rfl
  have declared : shadowingPlain ∈ shadowingFile.declarations := by decide
  have called : ⟨8, .bare "run"⟩ ∈ shadowingPlain.calls := by decide
  exact value_call_reaches (Memory.loaded load_shadowing) (List.mem_singleton.2 rfl) member
    declared called rfl (by decide) (by decide) (by decide) (by decide) (by decide)

/-- The second parameter of `A` has a predeclared name, and its call is taken for one that leads to
no declared function. -/
theorem value_call_lost :
    Id.run (shadowing.load ⟨"a/m", none⟩) = .ok shadowingPackages ∧
      "close" ∈ shadowingParameters "A" ∧
      shadowingHidden ∈ shadowingFile.declarations ∧
      ⟨7, .bare "close"⟩ ∈ shadowingHidden.calls ∧
      ⟨"a/m", "Top"⟩ ∈ used shadowingPackages ∧
      ¬ (ofPackages shadowingPackages).purge.HasCall (shadowingHidden.function "a/m")
        ⟨"a/m", "Top"⟩ := by
  refine ⟨load_shadowing, by simp [shadowingParameters_eq], by decide, by decide, by decide, ?_⟩
  rw [purge_shadowing, hasCall_iff]
  decide

end TestReach.CallGraph
