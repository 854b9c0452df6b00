import TestReach.Proofs.Graph.Declaring
import TestReach.Proofs.Graph.Expansion

/-!
# Growing graphs

While the graph of packages grows, its synthetic nodes are those that the growth keeps, each with
the callees of its kind; what its edges stand for is what the calls so far lead to.
-/

namespace TestReach.CallGraph

open Packages

variable {packages : List Package} {g : CallGraph}

theorem WellFormed.addStub (wf : g.WellFormed) {f : Function} (absent : g.find? f = none)
    {callees : List Nat} (live : ∀ i ∈ callees, g.isLive i = true) :
    (g.addStub f callees).1.WellFormed ∧ g.isLive (g.addStub f callees).2 = false ∧
      (∀ i, (g.addStub f callees).1.node? i =
        if i = (g.addStub f callees).2 then some ⟨f, true⟩ else g.node? i) ∧
      (g.addStub f callees).1.edges.toList =
        g.edges.toList ++ callees.map fun callee => ⟨(g.addStub f callees).2, callee, 0⟩ := by
  let stub := (g.add f true).2
  let edges : List Edge := callees.map fun callee => ⟨stub, callee, 0⟩
  have unfolded : g.addStub f callees =
      (edges.foldl (fun g e => g.connect e.caller e.callee e.line) (g.add f true).1, stub) := by
    simp only [CallGraph.addStub, edges, List.foldl_map, stub]
  rcases wf.node?_add f true with ⟨found, -⟩ | ⟨-, dead, nodes⟩
  · rw [absent] at found
    cases found
  · have ends : ∀ e ∈ edges, (g.add f true).1.isLive e.caller = true ∧
        (g.add f true).1.isLive e.callee = true := by
      intro e member
      obtain ⟨callee, listed, rfl⟩ := List.mem_map.1 member
      have here : (g.add f true).1.node? stub = some ⟨f, true⟩ := by rw [nodes, if_pos rfl]
      exact ⟨isLive_iff.2 ⟨_, here⟩, (wf.extends_add f true).isLive (live callee listed)⟩
    obtain ⟨kept, same, all⟩ := connectAll edges (wf.add f true) ends
    rw [unfolded]
    refine ⟨kept, by simp [isLive, stub, dead], ?_, ?_⟩
    · intro i
      rw [same, nodes]
    · rw [all, edges_add]

theorem WellFormed.extends_addStub (wf : g.WellFormed) (f : Function) (callees : List Nat) :
    g.Extends (g.addStub f callees).1 := by
  have kept (stub : Nat) (h : CallGraph) (i : Nat) :
      (callees.foldl (fun g callee => g.connect stub callee 0) h).node? i = h.node? i := by
    induction callees generalizing h with
    | nil => rfl
    | cons callee callees ih => rw [List.foldl_cons, ih, node?_connect]
  intro i node found
  rw [CallGraph.addStub, kept]
  exact wf.extends_add f true i node found

def function? (g : CallGraph) (i : Nat) : Option Function := (g.node? i).map Node.function

def called (g : CallGraph) (e : Edge) : Option Function × Option Function × Nat :=
  (g.function? e.caller, g.function? e.callee, e.line)

def known : Function × Function × Nat → Option Function × Option Function × Nat :=
  fun (caller, callee, line) => (some caller, some callee, line)

inductive Stub (stubs : Table String Nat) (valueStub? : Option Nat) (d : Declared)
    (values : List Nat) : Nat → Function → List Nat → Prop
  | method {name : String} {i : Nat} (kept : stubs.get? name = some i) :
    Stub stubs valueStub? d values i (methodStub name) (d.methodsNamed name)
  | value {i : Nat} (kept : valueStub? = some i) :
    Stub stubs valueStub? d values i valueStub values

/-- What is true of a growing graph whose calls so far lead to `calls`, with the functions of
packages without files among their callees. -/
structure Grown (packages : List Package) (d : Declared) (values : List Nat)
    (unread : List Function) (calls : List (Function × Function × Nat)) (growth : Growth) :
    Prop where
  wf : growth.graph.WellFormed
  declared : ∀ f ∈ functions packages, ∃ i, growth.graph.node? i = some ⟨f, false⟩
  added : ∀ f ∈ unread, ∃ i, growth.graph.node? i = some ⟨f, false⟩
  outside : ∀ f ∈ unread, isRead packages f.package = false ∧ isPlain f.name = true
  methods : ∀ name, growth.graph.Named (d.methodsNamed name) (methodsNamed packages name)
  valued : ∃ fs, growth.graph.Named values fs ∧ fs.Perm (used packages)
  nodes : ∀ i node, growth.graph.node? i = some node →
    (node.synthetic = false ∧ (node.function ∈ functions packages ∨ node.function ∈ unread)) ∨
      (node.synthetic = true ∧
        ∃ callees, Stub growth.methodStubs growth.valueStub? d values i node.function callees)
  stubs : ∀ i f callees, Stub growth.methodStubs growth.valueStub? d values i f callees →
    growth.graph.node? i = some ⟨f, true⟩ ∧ growth.graph.callees i = callees
  plain : ∀ name i, growth.methodStubs.get? name = some i → isPlain name = true
  edges : (growth.graph.expansion.map growth.graph.called).Perm (calls.map known)

variable {d : Declared} {values : List Nat} {unread : List Function}
  {calls : List (Function × Function × Nat)} {growth : Growth}

theorem isPlain_methodStub (name : String) : isPlain (methodStub name).name = false := by
  simp [isPlain, methodStub]

theorem isPlain_valueStub : isPlain valueStub.name = false := by decide

theorem Stub.function {stubs : Table String Nat} {valueStub? : Option Nat} {i : Nat} {f : Function}
    {callees : List Nat} (stub : Stub stubs valueStub? d values i f callees) :
    f.package = "" ∧ isPlain f.name = false := by
  cases stub with
  | method => exact ⟨rfl, isPlain_methodStub _⟩
  | value => exact ⟨rfl, isPlain_valueStub⟩

theorem Grown.real (grown : Grown packages d values unread calls growth) {i : Nat} {node : Node}
    (found : growth.graph.node? i = some node)
    (named : node.function.package ≠ "" ∨ isPlain node.function.name = true) :
    node.synthetic = false ∧ (node.function ∈ functions packages ∨ node.function ∈ unread) := by
  rcases grown.nodes i node found with real | ⟨-, callees, stub⟩
  · exact real
  · obtain ⟨noPackage, notPlain⟩ := stub.function
    rcases named with package | plain
    · exact absurd noPackage package
    · rw [notPlain] at plain
      cases plain

theorem Grown.sees (grown : Grown packages d values unread calls growth) {f : Function}
    (named : f.package ≠ "" ∨ isPlain f.name = true) (uncalled : f ∉ unread) :
    growth.graph.Sees packages f := by
  apply grown.wf.sees
  · exact grown.declared f
  · rintro i node found rfl
    obtain ⟨real, listed | listed⟩ := grown.real found named
    · exact ⟨real, listed⟩
    · exact absurd listed uncalled

theorem Grown.exists_named (grown : Grown packages d values unread calls growth) {i : Nat}
    {f : Function} {callees : List Nat}
    (stub : Stub growth.methodStubs growth.valueStub? d values i f callees) :
    ∃ fs, growth.graph.Named callees fs := by
  cases stub with
  | @method name _ kept => exact ⟨_, grown.methods name⟩
  | value kept =>
    obtain ⟨fs, named, -⟩ := grown.valued
    exact ⟨fs, named⟩

theorem Grown.callee (grown : Grown packages d values unread calls growth) {i j : Nat}
    {f : Function} {callees : List Nat}
    (stub : Stub growth.methodStubs growth.valueStub? d values i f callees) (member : j ∈ callees) :
    ∃ f, growth.graph.node? j = some ⟨f, false⟩ := by
  obtain ⟨fs, named⟩ := grown.exists_named stub
  obtain ⟨f, -, found⟩ := named.node? member
  exact ⟨f, found⟩

theorem Grown.flat (grown : Grown packages d values unread calls growth) :
    growth.graph.Flat := by
  intro e member synthetic callee
  rw [isSynthetic, Option.map_eq_some_iff] at synthetic
  obtain ⟨node, found, synthetic⟩ := synthetic
  rcases grown.nodes _ node found with ⟨real, -⟩ | ⟨-, callees, stub⟩
  · rw [real] at synthetic
    cases synthetic
  · have outgoing : e.callee ∈ growth.graph.callees e.caller :=
      List.mem_map_of_mem (mem_outgoing.2 ⟨member, rfl⟩)
    rw [(grown.stubs _ _ _ stub).2] at outgoing
    obtain ⟨f, real⟩ := grown.callee stub outgoing
    simp [isSynthetic, real] at callee

theorem called_congr {after : CallGraph} {e : Edge}
    (caller : after.node? e.caller = g.node? e.caller)
    (callee : after.node? e.callee = g.node? e.callee) : after.called e = g.called e := by
  rw [called, called, function?, function?, function?, function?, caller, callee]

theorem WellFormed.isLive_of_mem_expansion (wf : g.WellFormed) {e : Edge}
    (member : e ∈ g.expansion) : g.isLive e.caller = true ∧ g.isLive e.callee = true := by
  rw [expansion, List.mem_flatMap] at member
  obtain ⟨call, listed, member⟩ := member
  have ends := wf.linked call (Array.mem_toList_iff.1 (List.mem_filter.1 listed).1)
  unfold expand at member
  split at member
  · obtain ⟨next, onward, rfl⟩ := List.mem_map.1 member
    exact ⟨ends.1, (wf.linked next (mem_outgoing.1 onward).1).2⟩
  · rw [List.mem_singleton.1 member]
    exact ends

theorem map_called_extend {after : CallGraph} {more : List Edge} (wf : g.WellFormed)
    (nodes : ∀ i, g.isLive i = true → after.node? i = g.node? i)
    (edges : after.edges.toList = g.edges.toList ++ more)
    (fresh : ∀ e ∈ more, g.isLive e.caller = false ∧ after.isSynthetic e.caller) :
    after.expansion.map after.called = g.expansion.map g.called := by
  rw [expansion_extend wf nodes edges fresh]
  apply List.map_congr_left
  intro e member
  obtain ⟨caller, callee⟩ := wf.isLive_of_mem_expansion member
  exact called_congr (nodes _ caller) (nodes _ callee)

theorem Grown.count (grown : Grown packages d values unread calls growth) {more : List Function}
    (present : ∀ f ∈ more, ∃ i, growth.graph.node? i = some ⟨f, false⟩)
    (outside : ∀ f ∈ more, isRead packages f.package = false ∧ isPlain f.name = true) :
    Grown packages d values (unread ++ more) calls growth where
  wf := grown.wf
  declared := grown.declared
  methods := grown.methods
  valued := grown.valued
  stubs := grown.stubs
  plain := grown.plain
  edges := grown.edges
  added := by
    intro f member
    rcases List.mem_append.1 member with member | member
    · exact grown.added f member
    · exact present f member
  outside := by
    intro f member
    rcases List.mem_append.1 member with member | member
    · exact grown.outside f member
    · exact outside f member
  nodes := by
    intro i node found
    rcases grown.nodes i node found with ⟨real, listed | listed⟩ | stub
    · exact .inl ⟨real, .inl listed⟩
    · exact .inl ⟨real, .inr (List.mem_append_left _ listed)⟩
    · exact .inr stub

theorem Grown.extend (grown : Grown packages d values unread calls growth) {next : Growth}
    {new : Nat} {node : Node} {more : List Edge} {extra : List Function}
    (wf : next.graph.WellFormed) (dead : growth.graph.isLive new = false)
    (nodes : ∀ i, next.graph.node? i = if i = new then some node else growth.graph.node? i)
    (edges : next.graph.edges.toList = growth.graph.edges.toList ++ more)
    (fresh : ∀ e ∈ more, e.caller = new ∧ node.synthetic = true)
    (added : ∀ f ∈ extra,
      node = ⟨f, false⟩ ∧ isRead packages f.package = false ∧ isPlain f.name = true)
    (kind : node.synthetic = false ∧ node.function ∈ extra ∨
      node.synthetic = true ∧
        ∃ callees, Stub next.methodStubs next.valueStub? d values new node.function callees)
    (kept : ∀ i f callees, Stub growth.methodStubs growth.valueStub? d values i f callees →
      Stub next.methodStubs next.valueStub? d values i f callees)
    (stubs : ∀ i f callees, Stub next.methodStubs next.valueStub? d values i f callees →
      Stub growth.methodStubs growth.valueStub? d values i f callees ∨
        i = new ∧ node = ⟨f, true⟩ ∧ more.map Edge.callee = callees)
    (plain : ∀ name i, next.methodStubs.get? name = some i → isPlain name = true) :
    Grown packages d values (unread ++ extra) calls next := by
  have old (i : Nat) (live : growth.graph.isLive i = true) :
      next.graph.node? i = growth.graph.node? i := by
    rw [nodes, if_neg]
    rintro rfl
    rw [dead] at live
    cases live
  have still : growth.graph.Extends next.graph := by
    intro i node found
    rw [old i (isLive_iff.2 ⟨node, found⟩), found]
  have out (i : Nat) : next.graph.callees i =
      growth.graph.callees i ++ if i = new then more.map Edge.callee else [] := by
    rw [callees, outgoing, edges, List.filter_append, List.map_append, callees, outgoing]
    congr 1
    by_cases same : i = new
    · rw [if_pos same, List.filter_eq_self.2]
      intro e member
      rw [same, (fresh e member).1, beq_self_eq_true]
    · rw [if_neg same, List.filter_eq_nil_iff.2, List.map_nil]
      intro e member
      rw [(fresh e member).1, beq_iff_eq]
      exact Ne.symm same
  constructor
  case wf => exact wf
  case declared =>
    intro f member
    obtain ⟨i, found⟩ := grown.declared f member
    exact ⟨i, still i _ found⟩
  case added =>
    intro f member
    rcases List.mem_append.1 member with member | member
    · obtain ⟨i, found⟩ := grown.added f member
      exact ⟨i, still i _ found⟩
    · exact ⟨new, by rw [nodes, if_pos rfl, (added f member).1]⟩
  case outside =>
    intro f member
    rcases List.mem_append.1 member with member | member
    · exact grown.outside f member
    · exact (added f member).2
  case methods =>
    intro name
    exact (grown.methods name).of_extends still
  case valued =>
    obtain ⟨fs, named, perm⟩ := grown.valued
    exact ⟨fs, named.of_extends still, perm⟩
  case nodes =>
    intro i other found
    rw [nodes] at found
    split at found
    · rename_i same
      rw [← Option.some.inj found, same]
      exact kind.imp (fun real => ⟨real.1, .inr (List.mem_append_right _ real.2)⟩) id
    · rcases grown.nodes i other found with ⟨real, listed | listed⟩ | ⟨synthetic, callees, stub⟩
      · exact .inl ⟨real, .inl listed⟩
      · exact .inl ⟨real, .inr (List.mem_append_left _ listed)⟩
      · exact .inr ⟨synthetic, callees, kept _ _ _ stub⟩
  case stubs =>
    intro i f callees stub
    rcases stubs i f callees stub with before | ⟨rfl, rfl, rfl⟩
    · obtain ⟨found, leads⟩ := grown.stubs i f callees before
      have other : i ≠ new := by
        rintro rfl
        simp [isLive, found] at dead
      exact ⟨still i _ found, by rw [out, if_neg other, leads, List.append_nil]⟩
    · have unused : growth.graph.callees i = [] := by
        rw [CallGraph.callees, List.map_eq_nil_iff, outgoing, List.filter_eq_nil_iff]
        intro e member same
        have live := (grown.wf.linked e (Array.mem_toList_iff.1 member)).1
        rw [beq_iff_eq.1 same, dead] at live
        cases live
      exact ⟨by rw [nodes, if_pos rfl], by rw [out, if_pos rfl, unused, List.nil_append]⟩
  case plain => exact plain
  case edges =>
    rw [map_called_extend grown.wf old edges]
    · exact grown.edges
    · intro e member
      obtain ⟨rfl, synthetic⟩ := fresh e member
      exact ⟨dead, by rw [isSynthetic, nodes, if_pos rfl, Option.map_some, synthetic]⟩

theorem Grown.add (grown : Grown packages d values unread calls growth) {f : Function}
    (absent : growth.graph.find? f = none) (outside : isRead packages f.package = false)
    (plain : isPlain f.name = true) :
    Grown packages d values (unread ++ [f]) calls
        { growth with graph := (growth.graph.add f false).1 } ∧
      (growth.graph.add f false).1.node? (growth.graph.add f false).2 = some ⟨f, false⟩ := by
  rcases grown.wf.node?_add f false with ⟨found, -⟩ | ⟨-, dead, nodes⟩
  · rw [absent] at found
    cases found
  have edges : (growth.graph.add f false).1.edges.toList = growth.graph.edges.toList ++ [] := by
    simp
  refine ⟨?_, by rw [nodes, if_pos rfl]⟩
  apply grown.extend (grown.wf.add f false) (by simp [isLive, dead]) nodes edges
  case fresh => simp
  case added =>
    intro other member
    rw [List.mem_singleton.1 member]
    exact ⟨rfl, outside, plain⟩
  case kind => exact .inl ⟨rfl, by simp⟩
  case kept => exact fun _ _ _ stub => stub
  case stubs => exact fun _ _ _ stub => .inl stub
  case plain => exact grown.plain

structure Unstubbed (packages : List Package) : Prop where
  value : valueStub ∉ functions packages
  method : ∀ name, methodStub name ∉ functions packages

theorem unstubbed_of_ne_empty (nonempty : ∀ p ∈ packages, p.importPath ≠ "") :
    Unstubbed packages where
  value listed := ne_empty_of_mem_functions nonempty listed rfl
  method _ listed := ne_empty_of_mem_functions nonempty listed rfl

theorem unstubbed_of_regular (regular : Regular packages) : Unstubbed packages :=
  unstubbed_of_ne_empty regular.nonempty

/-- Packages of which each call leads to the same functions wherever it stands among the others. -/
structure Settled (packages : List Package) : Prop where
  distinct : (packages.map Package.importPath).Nodup
  unstubbed : Unstubbed packages
  selected : ∀ call ∈ callsOf (packageNames packages) packages,
    ∀ name ∈ call.site.callee.selected?, isPlain name = true
  bare : ∀ call ∈ callsOf (packageNames packages) packages, ∀ name ∈ bareName? call.site.callee,
    ∀ path ∈ call.package.importPath :: call.scope.dotImports, path ≠ "" ∨ isPlain name = true
  uncalled : ∀ call ∈ callsOf (packageNames packages) packages,
    ∀ name ∈ bareName? call.site.callee, ∀ path ∈ call.scope.dotImports,
      ⟨path, name⟩ ∉ Packages.unread packages

theorem not_isRead_of_mem_unread {f : Function} (member : f ∈ Packages.unread packages) :
    isRead packages f.package = false := by
  obtain ⟨call, -, unread⟩ := List.mem_flatMap.1 member
  exact (mem_unreadOf unread).1

theorem settled_of_regular (regular : Regular packages) : Settled packages where
  distinct := regular.distinct
  unstubbed := unstubbed_of_regular regular
  selected _ member := (regular.call member).2.2
  bare _ member _ _ path listed := .inl (regular.ne_empty ((regular.call member).2.1 path listed))
  uncalled _ member _ _ path dotted unread := by
    have read := (regular.call member).2.1 path (by simp [dotted])
    rw [not_isRead_of_mem_unread unread] at read
    cases read

theorem Grown.find?_stub (grown : Grown packages d values unread calls growth) {f : Function}
    (undeclared : f ∉ functions packages) (notPlain : isPlain f.name = false)
    (other : ∀ i h callees, Stub growth.methodStubs growth.valueStub? d values i h callees →
      h ≠ f) : growth.graph.find? f = none := by
  -- A synthetic node that is not there is told from all others by its name.
  rw [grown.wf.find?_eq_none_iff]
  rintro i node found rfl
  rcases grown.nodes i node found with ⟨-, listed | listed⟩ | ⟨-, callees, stub⟩
  · exact undeclared listed
  · rw [(grown.outside _ listed).2] at notPlain
    cases notPlain
  · exact other i _ callees stub rfl

theorem methodStub_inj {first second : String} (same : methodStub first = methodStub second) :
    first = second := by
  have names := congrArg (fun f => f.name.toList) same
  simp only [methodStub, String.toList_append, List.append_cancel_left_eq] at names
  exact String.toList_inj.1 names

theorem valueStub_ne_methodStub {name : String} (plain : isPlain name = true) :
    methodStub name ≠ valueStub := by
  intro same
  have here : name = "func-value" := methodStub_inj same
  rw [here] at plain
  revert plain
  decide

theorem Named.isLive {nodes : List Nat} {fs : List Function} (named : g.Named nodes fs) :
    ∀ i ∈ nodes, g.isLive i = true := by
  intro i member
  obtain ⟨f, -, found⟩ := named.node? member
  exact isLive_iff.2 ⟨_, found⟩

theorem Grown.addMethodStub (grown : Grown packages d values unread calls growth)
    (unstubbed : Unstubbed packages) {name : String} (absent : growth.methodStubs.get? name = none)
    (plain : isPlain name = true) :
    let stub := addStub growth.graph (methodStub name) (d.methodsNamed name)
    Grown packages d values unread calls
      { growth with graph := stub.1, methodStubs := growth.methodStubs.put name stub.2 } := by
  intro stub
  have missing : growth.graph.find? (methodStub name) = none := by
    apply grown.find?_stub (unstubbed.method name) (isPlain_methodStub name)
    intro i f callees kept
    cases kept with
    | @method other _ kept =>
      intro same
      rw [methodStub_inj same, absent] at kept
      cases kept
    | value => exact Ne.symm (valueStub_ne_methodStub plain)
  obtain ⟨wf, dead, nodes, edges⟩ := grown.wf.addStub missing (grown.methods name).isLive
  rw [← List.append_nil unread]
  apply grown.extend wf dead nodes edges
  case fresh => simp
  case added => simp
  case kind => exact .inr ⟨rfl, _, .method (by rw [Table.get?_put, if_pos rfl])⟩
  case kept =>
    intro i f callees kept
    cases kept with
    | @method other _ kept =>
      refine .method ?_
      rw [Table.get?_put, if_neg, kept]
      rintro rfl
      rw [absent] at kept
      cases kept
    | value kept => exact .value kept
  case stubs =>
    intro i f callees kept
    cases kept with
    | @method other _ kept =>
      rw [Table.get?_put] at kept
      split at kept
      · rename_i same
        cases same
        cases kept
        exact .inr ⟨rfl, rfl, by simp [Function.comp_def]⟩
      · exact .inl (.method kept)
    | value kept => exact .inl (.value kept)
  case plain =>
    intro other i kept
    rw [Table.get?_put] at kept
    split at kept
    · rename_i same
      exact same ▸ plain
    · exact grown.plain other i kept

theorem Grown.addValueStub (grown : Grown packages d values unread calls growth)
    (unstubbed : Unstubbed packages) (absent : growth.valueStub? = none) :
    let stub := addStub growth.graph valueStub values
    Grown packages d values unread calls
      { growth with graph := stub.1, valueStub? := some stub.2 } := by
  intro stub
  have missing : growth.graph.find? valueStub = none := by
    apply grown.find?_stub unstubbed.value isPlain_valueStub
    intro i f callees kept
    cases kept with
    | @method name _ kept => exact valueStub_ne_methodStub (grown.plain name i kept)
    | value kept =>
      rw [absent] at kept
      cases kept
  obtain ⟨fs, named, -⟩ := grown.valued
  obtain ⟨wf, dead, nodes, edges⟩ := grown.wf.addStub missing named.isLive
  rw [← List.append_nil unread]
  apply grown.extend wf dead nodes edges
  case fresh => simp
  case added => simp
  case kind => exact .inr ⟨rfl, _, .value rfl⟩
  case kept =>
    intro i f callees kept
    cases kept with
    | method kept => exact .method kept
    | value kept =>
      rw [absent] at kept
      cases kept
  case stubs =>
    intro i f callees kept
    cases kept with
    | method kept => exact .inl (.method kept)
    | value kept =>
      cases kept
      exact .inr ⟨rfl, rfl, by simp [Function.comp_def]⟩
  case plain => exact grown.plain

theorem Grown.connect (grown : Grown packages d values unread calls growth) {caller callee : Nat}
    {f : Function} (found : growth.graph.node? caller = some ⟨f, false⟩)
    (live : growth.graph.isLive callee = true) {line : Nat}
    {more : List (Function × Function × Nat)}
    (leads : ((growth.graph.expand ⟨caller, callee, line⟩).map growth.graph.called).Perm
      (more.map known)) :
    Grown packages d values unread (calls ++ more) (growth.connect caller callee line) := by
  have first : growth.graph.isLive caller = true := isLive_iff.2 ⟨_, found⟩
  have real : ¬ growth.graph.isSynthetic caller := by simp [isSynthetic, found]
  have nodes (i : Nat) : (growth.connect caller callee line).graph.node? i =
      growth.graph.node? i := node?_connect _ _ _ _ _
  have same (e : Edge) : (growth.connect caller callee line).graph.called e =
      growth.graph.called e := called_congr (nodes _) (nodes _)
  have still : growth.graph.Extends (growth.connect caller callee line).graph := by
    intro i node there
    rw [nodes, there]
  constructor
  case wf => exact grown.wf.connect caller callee line
  case declared =>
    intro other member
    obtain ⟨i, there⟩ := grown.declared other member
    exact ⟨i, still i _ there⟩
  case added =>
    intro other member
    obtain ⟨i, there⟩ := grown.added other member
    exact ⟨i, still i _ there⟩
  case outside => exact grown.outside
  case methods =>
    intro name
    exact (grown.methods name).of_extends still
  case valued =>
    obtain ⟨fs, named, perm⟩ := grown.valued
    exact ⟨fs, named.of_extends still, perm⟩
  case nodes =>
    intro i node there
    rw [nodes] at there
    exact grown.nodes i node there
  case stubs =>
    intro i other callees stub
    obtain ⟨there, leads⟩ := grown.stubs i other callees stub
    have different : caller ≠ i := by
      rintro rfl
      rw [found] at there
      cases there
    refine ⟨still i _ there, ?_⟩
    rw [← leads, CallGraph.callees, Growth.connect, outgoing_connect first live,
      if_neg different, List.append_nil, CallGraph.callees]
  case plain => exact grown.plain
  case edges =>
    have all : (growth.connect caller callee line).graph.expansion =
        growth.graph.expansion ++ growth.graph.expand ⟨caller, callee, line⟩ :=
      expansion_connect first live real line
    rw [all, List.map_congr_left fun e _ => same e, List.map_append, List.map_append]
    exact grown.edges.append leads

theorem Grown.connect_node (grown : Grown packages d values unread calls growth)
    {caller callee line : Nat} {f h : Function}
    (first : growth.graph.node? caller = some ⟨f, false⟩)
    (second : growth.graph.node? callee = some ⟨h, false⟩) :
    Grown packages d values unread (calls ++ [(f, h, line)])
      (growth.connect caller callee line) := by
  apply grown.connect first (isLive_iff.2 ⟨_, second⟩)
  have real : ¬ growth.graph.isSynthetic callee := by simp [isSynthetic, second]
  simp [expand, real, called, function?, first, second, known]

theorem Grown.connect_stub (grown : Grown packages d values unread calls growth)
    {caller stub line : Nat} {f kind : Function} {callees : List Nat} {fs hs : List Function}
    (first : growth.graph.node? caller = some ⟨f, false⟩)
    (kept : Stub growth.methodStubs growth.valueStub? d values stub kind callees)
    (named : growth.graph.Named callees fs) (perm : fs.Perm hs) :
    Grown packages d values unread (calls ++ hs.map fun h => (f, h, line))
      (growth.connect caller stub line) := by
  obtain ⟨second, leads⟩ := grown.stubs stub kind callees kept
  apply grown.connect first (isLive_iff.2 ⟨_, second⟩)
  have synthetic : growth.graph.isSynthetic stub := by simp [isSynthetic, second]
  have ends : callees.map growth.graph.function? = fs.map some := by
    have functions := congrArg (List.map (Option.map Node.function)) named
    rw [List.map_map, List.map_map] at functions
    exact functions
  have all : (growth.graph.expand ⟨caller, stub, line⟩).map growth.graph.called =
      (callees.map growth.graph.function?).map fun h => (some f, h, line) := by
    rw [← leads, expand, if_pos synthetic]
    simp [CallGraph.callees, called, function?, first]
  rw [all, ends, List.map_map, List.map_map]
  exact perm.map _

end TestReach.CallGraph
