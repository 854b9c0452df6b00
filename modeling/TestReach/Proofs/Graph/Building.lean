import TestReach.Proofs.Graph.Growth

/-!
# The graph of packages

Every call is resolved against the growing graph as the packages resolve it, whenever it comes and
whether its synthetic node is there or not. So the graph of all packages stands for all calls, and
without its synthetic nodes it shows them.
-/

namespace TestReach.CallGraph

open Packages

variable {packages : List Package} {g : CallGraph} {d : Declared} {values : List Nat}
  {unread : List Function} {calls : List (Function × Function × Nat)} {growth : Growth}

/-- Where a call leads: a target of the growing graph, the functions that this means, and those of
them that have no files. -/
inductive Leads (packages : List Package) (g : CallGraph) :
    Target → List Function → List Function → Prop
  | node {i : Nat} {f : Function} {unread : List Function} (found : g.node? i = some ⟨f, false⟩)
    (only : ∀ h ∈ unread, h = f) : Leads packages g (.node i) [f] unread
  | unread {f : Function} (absent : g.find? f = none) : Leads packages g (.unread f) [f] [f]
  | methods {name : String} (plain : isPlain name = true) :
    Leads packages g (.methods name) (methodsNamed packages name) []
  | values : Leads packages g .values (used packages) []
  | nowhere : Leads packages g .nowhere [] []

theorem parsedPackages_eq_none_iff {path : String} :
    (parsedPackages packages).get? path = none ↔ isRead packages path = false := by
  rw [parsedPackages, Table.get?_ofList_eq_none_iff, ← Bool.not_eq_true, isRead_iff]
  simp only [List.mem_map, List.mem_filter]
  constructor
  · rintro absent ⟨p, member, same, parsed⟩
    exact absent _ ⟨p, ⟨member, parsed⟩, rfl⟩ same
  · rintro absent _ ⟨p, ⟨member, parsed⟩, rfl⟩ same
    exact absent ⟨p, member, same, parsed⟩

theorem hasType_eq (distinct : (packages.map Package.importPath).Nodup) {path : String}
    {owner : Package} (found : (parsedPackages packages).get? path = some owner) (name : String) :
    hasType packages path name = owner.declaresType name := by
  -- No two packages have one path, so the package of a path is the one whose types count.
  have listed := Table.mem_of_get?_ofList found
  simp only [List.mem_map, List.mem_filter, Prod.mk.injEq] at listed
  obtain ⟨p, ⟨member, -⟩, rfl, rfl⟩ := listed
  rw [Bool.eq_iff_iff, hasType, List.any_eq_true]
  constructor
  · rintro ⟨other, listed, both⟩
    rw [Bool.and_eq_true, beq_iff_eq] at both
    rw [← List.inj_on_of_nodup_map distinct listed member both.1]
    exact both.2
  · intro declares
    exact ⟨p, member, by simp [declares]⟩

theorem Grown.onValue (grown : Grown packages d values unread calls growth)
    (inhabited : ∀ name, d.methods.get? name ≠ some []) {name : String}
    (plain : isPlain name = true) :
    Leads packages growth.graph (d.onValue name) (Packages.onValue packages name) [] := by
  have named := grown.methods name
  have full := inhabited name
  unfold Declared.onValue Packages.onValue
  unfold Named Declared.methodsNamed at named
  cases found : d.methods.get? name with
  | none =>
    rw [found, Option.getD_none, List.map_nil] at named
    have none : methodsNamed packages name = [] := List.map_eq_nil_iff.1 named.symm
    rw [if_pos none]
    exact .values
  | some nodes =>
    have some : methodsNamed packages name ≠ [] := by
      intro none
      simp [found, none] at named
      exact full (by rw [found, named])
    rw [if_neg some]
    exact .methods plain

theorem Sees.node {f : Function} (sees : g.Sees packages f) {i : Nat}
    (found : g.find? f = some i) :
    f ∈ functions packages ∧ g.node? i = some ⟨f, false⟩ := by
  unfold Sees declared? at sees
  by_cases listed : f ∈ functions packages
  · simpa [found, listed] using sees
  · simp [found, listed] at sees

theorem Sees.none {f : Function} (sees : g.Sees packages f) (absent : g.find? f = none) :
    f ∉ functions packages := by
  unfold Sees declared? at sees
  intro listed
  simp [absent, listed] at sees

theorem Grown.target (grown : Grown packages d values unread calls growth)
    (settled : Settled packages) (counted : ∀ f ∈ unread, f ∈ Packages.unread packages)
    (parsed : d.parsed = parsedPackages packages)
    (inhabited : ∀ name, d.methods.get? name ≠ some []) {call : Call}
    (member : call ∈ callsOf (packageNames packages) packages) :
    Leads packages growth.graph (d.target growth.graph call.package call.scope call.site.callee)
      (resolve packages call.package call.scope call.site.callee)
      (unreadOf packages call.scope call.site.callee) := by
  have own := isRead_of_mem_callsOf member
  have named := settled.bare call member
  have uncalled := settled.uncalled call member
  have plain := settled.selected call member
  obtain ⟨package, scope, caller, line, callee⟩ := call
  dsimp only at own named uncalled plain ⊢
  cases callee with
  | bare name =>
    have sees : ∀ path ∈ package.importPath :: scope.dotImports,
        growth.graph.Sees packages ⟨path, name⟩ := by
      intro path member
      apply grown.sees (named name rfl path member)
      intro unread
      rcases List.mem_cons.1 member with rfl | dotted
      · rw [not_isRead_of_mem_unread (counted _ unread)] at own
        cases own
      · exact uncalled name rfl path dotted (counted _ unread)
    have same : (scope.bare? growth.graph package.importPath name).map growth.graph.node? =
        (Packages.bare? packages package.importPath scope name).map fun f => some ⟨f, false⟩ :=
      bare?_sees sees
    simp only [Declared.target, resolve, unreadOf]
    cases found : scope.bare? growth.graph package.importPath name with
    | none =>
      rw [found, Option.map_none, eq_comm, Option.map_eq_none_iff] at same
      rw [same]
      simp only
      split
      · exact .nowhere
      · exact .values
    | some i =>
      rw [found, Option.map_some, eq_comm, Option.map_eq_some_iff] at same
      obtain ⟨f, known, located⟩ := same
      rw [known]
      exact .node located.symm (by simp)
  | qualified qualifier name =>
    have selected := plain name rfl
    have sees (path : String) (known : isRead packages path = true) :
        growth.graph.Sees packages ⟨path, name⟩ := by
      apply grown.sees (.inr selected)
      intro unread
      rw [(grown.outside _ unread).1] at known
      cases known
    simp only [Declared.target, resolve, unreadOf]
    cases scope.paths.get? qualifier with
    | none => exact grown.onValue inhabited selected
    | some path =>
      simp only [parsed]
      cases found : growth.graph.find? ⟨path, name⟩ with
      | some i =>
        by_cases known : isRead packages path = true
        · obtain ⟨listed, located⟩ := (sees path known).node found
          rw [if_pos (.inl listed), if_pos known]
          exact .node located (by simp)
        · obtain ⟨⟨_, _⟩, located, rfl⟩ := grown.wf.find?_eq_some_iff.1 found
          obtain ⟨rfl, -⟩ := grown.real located (.inr selected)
          rw [if_pos (.inr (by simp [known])), if_neg known]
          exact .node located (by simp)
      | none =>
        cases owned : (parsedPackages packages).get? path with
        | none =>
          have outside := parsedPackages_eq_none_iff.1 owned
          simp only [outside, Bool.not_false, or_true, if_true, Bool.false_eq_true, if_false]
          exact .unread found
        | some owner =>
          have known : isRead packages path = true := by
            by_contra outside
            rw [Bool.not_eq_true] at outside
            rw [parsedPackages_eq_none_iff.2 outside] at owned
            cases owned
          have absent := (sees path known).none found
          simp only [absent, known, Bool.not_true, Bool.false_eq_true, or_self, if_false, if_true,
            hasType_eq settled.distinct owned]
          split
          · exact .nowhere
          · exact .values
  | method name => exact grown.onValue inhabited (plain name rfl)
  | computed => exact .values

theorem Grown.addCall (grown : Grown packages d values unread calls growth)
    (unstubbed : Unstubbed packages) {target : Target} {fs others : List Function}
    (leads : Leads packages growth.graph target fs others)
    (outside : ∀ f ∈ others, isRead packages f.package = false ∧ isPlain f.name = true)
    {caller : Nat} {f : Function} (first : growth.graph.node? caller = some ⟨f, false⟩)
    (line : Nat) :
    Grown packages d values (unread ++ others) (calls ++ fs.map fun h => (f, h, line))
      (growth.addCall d values caller line target) := by
  cases leads with
  | @node i h _ found only =>
    have present : ∀ other ∈ others, ∃ i, growth.graph.node? i = some ⟨other, false⟩ := by
      intro other member
      exact ⟨i, by rw [only other member, found]⟩
    exact (grown.count present outside).connect_node first found
  | @unread h absent =>
    obtain ⟨added, here⟩ := grown.add absent (outside h (by simp)).1 (outside h (by simp)).2
    exact added.connect_node (grown.wf.extends_add h false caller _ first) here
  | @methods name plain =>
    rw [List.append_nil]
    cases kept : growth.methodStubs.get? name with
    | some stub =>
      simp only [Growth.addCall, kept]
      exact grown.connect_stub first (.method kept) (grown.methods name) (.refl _)
    | none =>
      have added := grown.addMethodStub unstubbed kept plain
      have still := grown.wf.extends_addStub (methodStub name) (d.methodsNamed name)
      simp only [Growth.addCall, kept]
      refine added.connect_stub (still caller _ first) (.method ?_) (added.methods name) (.refl _)
      rw [Table.get?_put, if_pos rfl]
  | values =>
    rw [List.append_nil]
    simp only [Growth.addCall]
    obtain ⟨fs, named, perm⟩ := grown.valued
    split
    · rename_i none
      rw [List.isEmpty_iff] at none
      subst none
      have unused : fs = [] := by simpa [Named] using named.symm
      rw [unused, List.nil_perm] at perm
      rw [perm, List.map_nil, List.append_nil]
      exact grown
    · cases kept : growth.valueStub? with
      | some stub => exact grown.connect_stub first (.value kept) named perm
      | none =>
        have added := grown.addValueStub unstubbed kept
        have still := grown.wf.extends_addStub valueStub values
        exact added.connect_stub (still caller _ first) (.value rfl) (named.of_extends still) perm
  | nowhere =>
    rw [List.append_nil, List.map_nil, List.append_nil]
    exact grown

theorem Grown.step (grown : Grown packages d values unread calls growth)
    (settled : Settled packages) (counted : ∀ f ∈ unread, f ∈ Packages.unread packages)
    (parsed : d.parsed = parsedPackages packages)
    (inhabited : ∀ name, d.methods.get? name ≠ some []) {call : Call}
    (member : call ∈ callsOf (packageNames packages) packages) :
    Grown packages d values (unread ++ unreadOf packages call.scope call.site.callee)
      (calls ++ led packages call) (growth.step d values call) := by
  obtain ⟨i, first⟩ := grown.declared call.caller (caller_mem_functions member)
  have found : growth.graph.find? call.caller = some i :=
    grown.wf.find?_eq_some_iff.2 ⟨_, first, rfl⟩
  have leads := grown.target settled counted parsed inhabited member
  rw [Growth.step, found]
  apply grown.addCall settled.unstubbed leads _ first
  intro f listed
  obtain ⟨outside, selected⟩ := mem_unreadOf listed
  exact ⟨outside, settled.selected call member f.name selected⟩

theorem Grown.run (grown : Grown packages d values unread calls growth)
    (settled : Settled packages) (counted : ∀ f ∈ unread, f ∈ Packages.unread packages)
    (parsed : d.parsed = parsedPackages packages)
    (inhabited : ∀ name, d.methods.get? name ≠ some []) {more : List Call}
    (members : ∀ call ∈ more, call ∈ callsOf (packageNames packages) packages) :
    Grown packages d values
      (unread ++ more.flatMap fun call => unreadOf packages call.scope call.site.callee)
      (calls ++ more.flatMap (led packages)) (more.foldl (Growth.step d values) growth) := by
  -- Over the calls, each of which is a step from whatever graph those before it left.
  induction more generalizing unread calls growth with
  | nil => simpa using grown
  | cons call more ih =>
    have here := members call (by simp)
    have next := grown.step settled counted parsed inhabited here
    have still : ∀ f ∈ unread ++ unreadOf packages call.scope call.site.callee,
        f ∈ Packages.unread packages := by
      intro f member
      rcases List.mem_append.1 member with member | member
      · exact counted f member
      · exact List.mem_flatMap.2 ⟨call, here, member⟩
    have rest := ih next still fun other member => members other (by simp [member])
    simpa [List.append_assoc] using rest

theorem grown_declared (packages : List Package) :
    let declared := (declareAll packages).1
    let d : Declared := ⟨(declareAll packages).2, packageNames packages, parsedPackages packages⟩
    Grown packages d (usedAsValues packages declared d) [] [] ⟨declared, .empty, none⟩ := by
  intro declared d
  have declares : Declares (packages.flatMap Package.declared) declared d.methods :=
    declares_declareAll packages
  constructor
  case wf => exact declares.wf
  case declared => exact declares.found
  case added => simp
  case outside => simp
  case methods => exact declares.named
  case valued => exact declares.named_usedAsValues rfl
  case nodes =>
    intro i node found
    obtain ⟨real, listed⟩ := declares.real i node found
    exact .inl ⟨real, .inl listed⟩
  case stubs =>
    intro i f callees stub
    cases stub with
    | method kept => cases kept
    | value kept => cases kept
  case plain =>
    intro name i kept
    cases kept
  case edges =>
    have none : declared.expansion = [] := by simp [expansion, declares.uncalled]
    simp [none]

theorem Settled.grown (settled : Settled packages) : ∃ d values growth,
    Grown packages d values (Packages.unread packages) (Packages.calls packages) growth ∧
      growth.graph = ofPackages packages := by
  have start := grown_declared packages
  have full := (declares_declareAll packages).inhabited
  have last := start.run settled (by simp) rfl full fun _ member => member
  exact ⟨_, _, _, last, rfl⟩

theorem grown_ofPackages (regular : Regular packages) : ∃ d values growth,
    Grown packages d values (Packages.unread packages) (Packages.calls packages) growth ∧
      growth.graph = ofPackages packages :=
  (settled_of_regular regular).grown

theorem WellFormed.function?_inj (wf : g.WellFormed) {i j : Nat} {f : Function}
    (first : g.function? i = some f) (second : g.function? j = some f) : i = j := by
  obtain ⟨one, here, rfl⟩ := Option.map_eq_some_iff.1 first
  obtain ⟨other, there, same⟩ := Option.map_eq_some_iff.1 second
  exact wf.distinct here there same.symm

theorem Grown.function?_purge_iff (grown : Grown packages d values unread calls growth)
    {f : Function} :
    (∃ i, growth.graph.purge.function? i = some f) ↔ f ∈ functions packages ∨ f ∈ unread := by
  have wf := grown.wf
  constructor
  · rintro ⟨i, found⟩
    rw [function?, wf.node?_purge, Option.map_eq_some_iff] at found
    obtain ⟨node, kept, rfl⟩ := found
    obtain ⟨located, real⟩ := Option.filter_eq_some_iff.1 kept
    rcases grown.nodes i node located with ⟨-, listed⟩ | ⟨synthetic, -⟩
    · exact listed
    · simp [synthetic] at real
  · intro listed
    have present : ∃ i, growth.graph.node? i = some ⟨f, false⟩ := by
      rcases listed with listed | listed
      · exact grown.declared f listed
      · exact grown.added f listed
    obtain ⟨i, found⟩ := present
    exact ⟨i, by simp [function?, wf.node?_purge, found, Option.filter]⟩

theorem Grown.edges_purge (grown : Grown packages d values unread calls growth) :
    (growth.graph.purge.edges.toList.map growth.graph.purge.called).Perm (calls.map known) := by
  have wf := grown.wf
  have perm := grown.flat.toList_edges_purge_perm wf
  have same : growth.graph.expansion.map growth.graph.purge.called =
      growth.graph.expansion.map growth.graph.called := by
    apply List.map_congr_left
    intro e member
    have ends := wf.purge.linked e (Array.mem_toList_iff.1 (perm.mem_iff.2 member))
    have still (i : Nat) (live : growth.graph.purge.isLive i = true) :
        growth.graph.purge.node? i = growth.graph.node? i := by
      obtain ⟨node, found⟩ := isLive_iff.1 live
      have before := found
      rw [wf.node?_purge] at before
      rw [found, (Option.filter_eq_some_iff.1 before).1]
    exact called_congr (still _ ends.1) (still _ ends.2)
  have purged := perm.map growth.graph.purge.called
  rw [same] at purged
  exact purged.trans grown.edges

theorem mem_calls_iff {caller f : Function} {line : Nat} :
    (caller, f, line) ∈ Packages.calls packages ↔
      ∃ call ∈ callsOf (packageNames packages) packages, call.caller = caller ∧
        call.site.line = line ∧ f ∈ resolve packages call.package call.scope call.site.callee := by
  simp only [Packages.calls, led, List.mem_flatMap, List.mem_map, Prod.mk.injEq]
  constructor
  · rintro ⟨call, made, callee, leads, rfl, rfl, rfl⟩
    exact ⟨call, made, rfl, rfl, leads⟩
  · rintro ⟨call, made, rfl, rfl, leads⟩
    exact ⟨call, made, f, leads, rfl, rfl, rfl⟩

theorem wellFormed_purge_ofPackages (regular : Regular packages) :
    (ofPackages packages).purge.WellFormed := by
  obtain ⟨d, values, growth, grown, graph⟩ := grown_ofPackages regular
  rw [← graph]
  exact grown.wf.purge

theorem callee_purge_iff (regular : Regular packages) {i : Nat} {caller f : Function}
    (here : (ofPackages packages).purge.function? i = some caller) :
    (∃ callee ∈ (ofPackages packages).purge.callees i,
        (ofPackages packages).purge.function? callee = some f) ↔
      ∃ call ∈ callsOf (packageNames packages) packages, call.caller = caller ∧
        f ∈ resolve packages call.package call.scope call.site.callee := by
  obtain ⟨d, values, growth, grown, graph⟩ := grown_ofPackages regular
  rw [← graph] at here ⊢
  have edges := grown.edges_purge
  constructor
  · rintro ⟨callee, called, there⟩
    obtain ⟨e, outgoing, rfl⟩ := List.mem_map.1 called
    obtain ⟨edge, rfl⟩ := mem_outgoing.1 outgoing
    have shown := edges.mem_iff.1 (List.mem_map_of_mem (Array.mem_toList_iff.2 edge))
    obtain ⟨⟨first, second, line⟩, listed, same⟩ := List.mem_map.1 shown
    simp only [known, CallGraph.called, here, there, Prod.mk.injEq, Option.some.injEq] at same
    obtain ⟨rfl, rfl, -⟩ := same
    obtain ⟨call, made, whose, -, leads⟩ := mem_calls_iff.1 listed
    exact ⟨call, made, whose, leads⟩
  · rintro ⟨call, made, whose, leads⟩
    have listed := mem_calls_iff.2 ⟨call, made, whose, rfl, leads⟩
    obtain ⟨e, edge, same⟩ := List.mem_map.1 (edges.mem_iff.2 (List.mem_map_of_mem listed))
    simp only [known, CallGraph.called, Prod.mk.injEq] at same
    obtain ⟨first, second, -⟩ := same
    have whose : e.caller = i := grown.wf.purge.function?_inj first here
    have outgoing := mem_outgoing.2 ⟨Array.mem_toList_iff.1 edge, whose⟩
    exact ⟨e.callee, List.mem_map_of_mem outgoing, second⟩

theorem ne_stub_of_function?_purge (regular : Regular packages) {i : Nat} {f : Function}
    (found : (ofPackages packages).purge.function? i = some f) :
    f ≠ valueStub ∧ ∀ name, f ≠ methodStub name := by
  obtain ⟨d, values, growth, grown, graph⟩ := grown_ofPackages regular
  rw [← graph] at found
  rcases grown.function?_purge_iff.1 ⟨i, found⟩ with declared | unread
  · have unstubbed := unstubbed_of_regular regular
    constructor
    · rintro rfl
      exact unstubbed.value declared
    · rintro name rfl
      exact unstubbed.method name declared
  · have plain := (grown.outside f unread).2
    constructor
    · rintro rfl
      rw [isPlain_valueStub] at plain
      cases plain
    · rintro name rfl
      rw [isPlain_methodStub] at plain
      cases plain

/-- The purged graph has one node for each function that is declared, or called in a package
without files, and one edge for each function that each call leads to. -/
theorem purge_ofPackages (regular : Regular packages) :
    let g := (ofPackages packages).purge
    (∀ i node, g.node? i = some node → node.synthetic = false) ∧
      (∀ i j f, g.function? i = some f → g.function? j = some f → i = j) ∧
      (∀ f, (∃ i, g.function? i = some f) ↔ f ∈ functions packages ∨ f ∈ Packages.unread packages) ∧
      (g.edges.toList.map g.called).Perm ((Packages.calls packages).map known) := by
  obtain ⟨d, values, growth, grown, graph⟩ := grown_ofPackages regular
  rw [← graph]
  have wf := grown.wf
  refine ⟨?_, fun i j f => wf.purge.function?_inj, fun f => grown.function?_purge_iff,
    grown.edges_purge⟩
  intro i node found
  have real := wf.not_isSynthetic_purge i
  simpa [isSynthetic, found] using real

def dispatching : List Package :=
  let calls : List Source.CallSite :=
    [⟨6, .qualified "x" "Get"⟩, ⟨7, .bare "hook"⟩, ⟨8, .qualified "strconv" "Itoa"⟩]
  let declarations : List Source.Declaration :=
    [⟨"Run", none, "m.go", 5, 9, true, 1, calls⟩,
      ⟨"Get", some ⟨"T", true⟩, "m.go", 10, 10, true, 1, []⟩,
      ⟨"Get", some ⟨"U", false⟩, "m.go", 11, 11, true, 1, []⟩]
  [⟨"a/m", "m", "/a/m", some "a", false, false, false,
      [⟨"m.go", "m", [⟨none, "strconv"⟩], declarations, ["T", "U"], [.bare "Run"]⟩], []⟩,
    ⟨"strconv", "strconv", "", none, true, true, false, [], []⟩]

theorem purge_ofPackages_dispatching :
    let g := (ofPackages dispatching).purge
    let run : Function := ⟨"a/m", "Run"⟩
    Regular dispatching ∧
      (g.edges.toList.map g.called).Perm
        [(some run, some ⟨"a/m", "(*T).Get"⟩, 6), (some run, some ⟨"a/m", "(U).Get"⟩, 6),
          (some run, some run, 7), (some run, some ⟨"strconv", "Itoa"⟩, 8)] := by
  intro g run
  have regular : Regular dispatching := ⟨⟨by decide, by decide, by decide⟩, by decide⟩
  have leads : Packages.calls dispatching =
      [(run, ⟨"a/m", "(*T).Get"⟩, 6), (run, ⟨"a/m", "(U).Get"⟩, 6), (run, run, 7),
        (run, ⟨"strconv", "Itoa"⟩, 8)] := by decide
  have edges := (purge_ofPackages regular).2.2.2
  rw [leads] at edges
  exact ⟨regular, edges⟩

end TestReach.CallGraph
