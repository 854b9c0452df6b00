import TestReach.Proofs.Graph.Nodes
import TestReach.Proofs.Graph.Targets
import Mathlib.Data.List.Perm.Basic

/-!
# Declared functions in a graph

The graph before its calls: each declared function has its one node, and the numbers that are kept
by name are those of the methods. A graph that knows the declared functions finds a function of a
package with files exactly when it is declared; so a bare name, and a name used as a value, stand
for the same functions in the graph and in the packages.
-/

namespace TestReach.CallGraph

open Packages

variable {packages : List Package} {g after : CallGraph}

def Extends (g after : CallGraph) : Prop :=
  ∀ i node, g.node? i = some node → after.node? i = some node

theorem Extends.trans {last : CallGraph} (first : g.Extends after) (second : after.Extends last) :
    g.Extends last := by
  intro i node found
  exact second i node (first i node found)

theorem Extends.isLive (extends_ : g.Extends after) {i : Nat} (live : g.isLive i = true) :
    after.isLive i = true := by
  obtain ⟨node, found⟩ := isLive_iff.1 live
  exact isLive_iff.2 ⟨node, extends_ i node found⟩

theorem WellFormed.extends_add (wf : g.WellFormed) (f : Function) (synthetic : Bool) :
    g.Extends (g.add f synthetic).1 := by
  intro i node found
  exact wf.node?_add_of_some f synthetic found

def Named (g : CallGraph) (nodes : List Nat) (fs : List Function) : Prop :=
  nodes.map g.node? = fs.map fun f => some ⟨f, false⟩

theorem Named.node? {nodes : List Nat} {fs : List Function} (named : g.Named nodes fs) {i : Nat}
    (member : i ∈ nodes) : ∃ f ∈ fs, g.node? i = some ⟨f, false⟩ := by
  have here : g.node? i ∈ nodes.map g.node? := List.mem_map_of_mem member
  rw [Named] at named
  rw [named, List.mem_map] at here
  obtain ⟨f, listed, same⟩ := here
  exact ⟨f, listed, same.symm⟩

theorem Named.exists_node {nodes : List Nat} {fs : List Function} (named : g.Named nodes fs)
    {f : Function} (member : f ∈ fs) : ∃ i ∈ nodes, g.node? i = some ⟨f, false⟩ := by
  have here : some ⟨f, false⟩ ∈ fs.map fun f => some (Node.mk f false) := by
    rw [List.mem_map]
    exact ⟨f, member, rfl⟩
  rw [Named] at named
  rw [← named, List.mem_map] at here
  exact here

theorem Named.of_extends {nodes : List Nat} {fs : List Function} (named : g.Named nodes fs)
    (extends_ : g.Extends after) : after.Named nodes fs := by
  unfold Named
  rw [← show nodes.map g.node? = _ from named]
  apply List.map_congr_left
  intro i member
  obtain ⟨f, -, found⟩ := named.node? member
  rw [found, extends_ i _ found]

theorem Named.append {nodes more : List Nat} {fs others : List Function} (first : g.Named nodes fs)
    (second : g.Named more others) : g.Named (nodes ++ more) (fs ++ others) := by
  unfold Named at *
  rw [List.map_append, List.map_append, first, second]

theorem Named.flatMap {α : Type} {items : List α} {numbers : α → List Nat}
    {fs : α → List Function} (named : ∀ a ∈ items, g.Named (numbers a) (fs a)) :
    g.Named (items.flatMap numbers) (items.flatMap fs) := by
  unfold Named at *
  rw [List.map_flatMap, List.map_flatMap]
  exact List.flatMap_congr named

structure Declares (declared : List (Function × Source.Declaration)) (g : CallGraph)
    (methods : Table String (List Nat)) : Prop where
  wf : g.WellFormed
  uncalled : g.edges = #[]
  real : ∀ i node, g.node? i = some node →
    node.synthetic = false ∧ node.function ∈ declared.map Prod.fst
  found : ∀ f ∈ declared.map Prod.fst, ∃ i, g.node? i = some ⟨f, false⟩
  named : ∀ name, g.Named ((methods.get? name).getD [])
    ((declared.filter (isMethodNamed name)).map Prod.fst)
  inhabited : ∀ name, methods.get? name ≠ some []

theorem Declares.empty : Declares [] CallGraph.empty .empty := by
  constructor
  case wf => exact wellFormed_empty
  case uncalled => rfl
  case real => simp [CallGraph.empty, CallGraph.node?]
  case found => simp
  case named => simp [Named]
  case inhabited => simp

theorem Declares.add {declared : List (Function × Source.Declaration)}
    {methods : Table String (List Nat)} (before : Declares declared g methods) (f : Function) :
    (g.add f false).1.node? (g.add f false).2 = some ⟨f, false⟩ ∧
      ∀ i node, (g.add f false).1.node? i = some node →
        node = ⟨f, false⟩ ∨ g.node? i = some node := by
  rcases before.wf.node?_add f false with ⟨found, same⟩ | ⟨-, -, nodes⟩
  · obtain ⟨node, located, rfl⟩ := before.wf.find?_eq_some_iff.1 found
    rw [same]
    refine ⟨?_, fun i node found => .inr found⟩
    rw [located, ← (before.real _ node located).1]
  · refine ⟨by rw [nodes, if_pos rfl], ?_⟩
    intro i node found
    rw [nodes] at found
    split at found
    · exact .inl (Option.some.inj found).symm
    · exact .inr found

theorem Declares.step {declared : List (Function × Source.Declaration)}
    {methods : Table String (List Nat)} (before : Declares declared g methods) (f : Function)
    (d : Source.Declaration) :
    Declares (declared ++ [(f, d)]) (declare (g, methods) (f, d)).1
      (declare (g, methods) (f, d)).2 := by
  simp only [declare]
  have more := before.wf.extends_add f false
  obtain ⟨here, nodes⟩ := before.add f
  constructor
  case wf => exact before.wf.add f false
  case uncalled => rw [edges_add, before.uncalled]
  case real =>
    intro i node found
    rcases nodes i node found with rfl | old
    · simp
    · obtain ⟨real, listed⟩ := before.real i node old
      exact ⟨real, by rw [List.map_append, List.mem_append]; exact .inl listed⟩
  case found =>
    intro other listed
    rw [List.map_append, List.mem_append] at listed
    rcases listed with listed | listed
    · obtain ⟨i, found⟩ := before.found other listed
      exact ⟨i, more i _ found⟩
    · rw [List.mem_singleton.1 listed]
      exact ⟨_, here⟩
  case named =>
    intro name
    have old := (before.named name).of_extends more
    rw [List.filter_append, List.map_append]
    by_cases method : isMethodNamed name (f, d) = true
    · obtain ⟨receiver, same⟩ := Bool.and_eq_true_iff.1 method
      have same := beq_iff_eq.1 same
      simp only at receiver same
      subst same
      rw [if_pos receiver, Table.get?_put, if_pos rfl]
      apply old.append
      simp [Named, method, here]
    · rw [Bool.not_eq_true] at method
      have kept : (if d.receiver?.isSome = true then
          methods.put d.name ((methods.get? d.name).getD [] ++ [(g.add f false).2])
          else methods).get? name = methods.get? name := by
        split
        · rename_i receiver
          have different : name ≠ d.name := by
            rintro rfl
            simp [isMethodNamed, receiver] at method
          rw [Table.get?_put, if_neg different]
        · rfl
      rw [kept, List.filter_singleton, method]
      simpa using old
  case inhabited =>
    intro name
    split
    · rw [Table.get?_put]
      split
      · simp
      · exact before.inhabited name
    · exact before.inhabited name

theorem declares_declareAll (packages : List Package) :
    Declares (packages.flatMap Package.declared) (declareAll packages).1
      (declareAll packages).2 := by
  have all (more declared : List (Function × Source.Declaration))
      (state : CallGraph × Table String (List Nat)) (before : Declares declared state.1 state.2) :
      Declares (declared ++ more) (more.foldl declare state).1 (more.foldl declare state).2 := by
    induction more generalizing declared state with
    | nil => simpa using before
    | cons entry more ih =>
      have rest := ih (declared ++ [entry]) (declare state entry) (before.step entry.1 entry.2)
      rw [List.append_assoc, List.singleton_append] at rest
      exact rest
  exact all (packages.flatMap Package.declared) [] (empty, .empty) Declares.empty

def Sees (packages : List Package) (g : CallGraph) (f : Function) : Prop :=
  (g.find? f).map g.node? = (declared? packages f).map fun f => some ⟨f, false⟩

theorem WellFormed.sees (wf : g.WellFormed) {f : Function}
    (found : f ∈ functions packages → ∃ i, g.node? i = some ⟨f, false⟩)
    (real : ∀ i node, g.node? i = some node → node.function = f →
      node.synthetic = false ∧ f ∈ functions packages) : g.Sees packages f := by
  unfold Sees declared?
  by_cases listed : f ∈ functions packages
  · obtain ⟨i, here⟩ := found listed
    have located : g.find? f = some i := wf.find?_eq_some_iff.2 ⟨_, here, rfl⟩
    simp [located, listed, here]
  · have absent : g.find? f = none := by
      rw [wf.find?_eq_none_iff]
      intro i node here same
      exact listed (real i node here same).2
    simp [absent, listed]

theorem Declares.sees {methods : Table String (List Nat)}
    (declares : Declares (packages.flatMap Package.declared) g methods) (f : Function) :
    g.Sees packages f := by
  apply declares.wf.sees
  · exact declares.found f
  · rintro i node here rfl
    exact declares.real i node here

theorem findSome?_sees {name : String} {paths : List String}
    (sees : ∀ path ∈ paths, g.Sees packages ⟨path, name⟩) :
    (paths.findSome? fun path => g.find? ⟨path, name⟩).map g.node? =
      (paths.findSome? fun path => declared? packages ⟨path, name⟩).map
        fun f => some ⟨f, false⟩ := by
  induction paths with
  | nil => rfl
  | cons path paths ih =>
    have first : g.Sees packages ⟨path, name⟩ := sees path (by simp)
    have rest := ih fun other member => sees other (by simp [member])
    unfold Sees at first
    rw [List.findSome?_cons, List.findSome?_cons]
    cases found : g.find? ⟨path, name⟩ <;> cases known : declared? packages ⟨path, name⟩ <;>
      simp_all

theorem bare?_sees {path name : String} {scope : Scope}
    (sees : ∀ other ∈ path :: scope.dotImports, g.Sees packages ⟨other, name⟩) :
    (scope.bare? g path name).map g.node? =
      (Packages.bare? packages path scope name).map fun f => some ⟨f, false⟩ := by
  have all : scope.bare? g path name =
      (path :: scope.dotImports).findSome? fun path => g.find? ⟨path, name⟩ := by
    rw [Scope.bare?, List.findSome?_cons]
    cases g.find? ⟨path, name⟩ <;> rfl
  rw [all, Packages.bare?]
  exact findSome?_sees sees

theorem named_toList {node : Option Nat} {f : Option Function}
    (same : node.map g.node? = f.map fun f => some ⟨f, false⟩) :
    g.Named node.toList f.toList := by
  cases node <;> cases f <;> simp_all [Named]

theorem Declares.named_valuesOf {d : Declared}
    (declares : Declares (packages.flatMap Package.declared) g d.methods) (package : Package)
    (scope : Scope) (callee : Source.Callee) :
    g.Named (d.valuesOf g package scope callee)
      (denoted packages package.importPath scope callee) := by
  cases callee with
  | bare name => exact named_toList (bare?_sees fun _ _ => declares.sees _)
  | qualified qualifier name =>
    simp only [Declared.valuesOf, denoted]
    -- A qualifier that is no import is a value, so the name is that of a method.
    cases scope.paths.get? qualifier with
    | none => exact declares.named name
    | some path => exact named_toList (declares.sees _)
  | method name => exact declares.named name
  | computed => rfl

theorem mem_addValues {found more : List Nat} {i : Nat} :
    i ∈ addValues g found more ↔ i ∈ found ∨ i ∈ more ∧ g.isHook i = false := by
  unfold addValues
  induction more generalizing found with
  | nil => simp
  | cons j more ih =>
    rw [List.foldl_cons, ih]
    by_cases hook : g.isHook j = true
    · rw [hook, Bool.true_or, if_pos rfl, List.mem_cons]
      by_cases same : i = j
      · subst same
        simp [hook]
      · simp [same]
    · rw [Bool.not_eq_true] at hook
      rw [hook, Bool.false_or, List.mem_cons]
      by_cases old : found.contains j = true
      · rw [if_pos old]
        rw [List.contains_iff_mem] at old
        by_cases same : i = j
        · subst same
          simp [old]
        · simp [same]
      · rw [if_neg old, List.mem_append, List.mem_singleton]
        by_cases same : i = j
        · subst same
          simp [hook]
        · simp [same]

theorem nodup_addValues {found more : List Nat} (distinct : found.Nodup) :
    (addValues g found more).Nodup := by
  unfold addValues
  induction more generalizing found with
  | nil => exact distinct
  | cons i more ih =>
    rw [List.foldl_cons]
    apply ih
    split
    · exact distinct
    · rename_i new
      rw [Bool.or_eq_true, not_or, List.contains_iff_mem] at new
      rw [← List.concat_eq_append]
      exact distinct.concat new.2

theorem usedAsValues_eq (packages : List Package) (g : CallGraph) (d : Declared) :
    usedAsValues packages g d =
      addValues g [] (packages.flatMap fun p => p.files.flatMap fun file =>
      file.references.flatMap (d.valuesOf g p (.of d.names file.imports))) := by
  simp only [usedAsValues, addValues, List.foldl_flatMap]

theorem exists_named {nodes : List Nat} (real : ∀ i ∈ nodes, ∃ f, g.node? i = some ⟨f, false⟩) :
    ∃ fs, g.Named nodes fs := by
  induction nodes with
  | nil => exact ⟨[], rfl⟩
  | cons i nodes ih =>
    obtain ⟨f, found⟩ := real i (by simp)
    obtain ⟨fs, named⟩ := ih fun j member => real j (by simp [member])
    unfold Named at named
    exact ⟨f :: fs, by rw [Named, List.map_cons, List.map_cons, found, named]⟩

theorem Named.nodup {nodes : List Nat} {fs : List Function} (named : g.Named nodes fs)
    (wf : g.WellFormed) (distinct : nodes.Nodup) : fs.Nodup := by
  have images : (nodes.map g.node?).Nodup := by
    apply distinct.map_on
    intro i first j second same
    obtain ⟨f, -, found⟩ := named.node? first
    exact wf.distinct found (same ▸ found) rfl
  rw [show nodes.map g.node? = _ from named] at images
  exact images.of_map _

theorem Declares.named_usedAsValues {d : Declared} (names : d.names = packageNames packages)
    (declares : Declares (packages.flatMap Package.declared) g d.methods) :
    ∃ fs, g.Named (usedAsValues packages g d) fs ∧ fs.Perm (used packages) := by
  rw [usedAsValues_eq, names]
  let found := packages.flatMap fun p => p.files.flatMap fun file =>
    file.references.flatMap (d.valuesOf g p (.of (packageNames packages) file.imports))
  have all : g.Named found (packages.flatMap fun p => p.files.flatMap fun file =>
      file.references.flatMap
        (denoted packages p.importPath (.of (packageNames packages) file.imports))) :=
    Named.flatMap fun p _ => Named.flatMap fun file _ => Named.flatMap fun reference _ =>
      declares.named_valuesOf p _ reference
  have valued : ∀ i ∈ addValues g [] found, ∃ f, g.node? i = some ⟨f, false⟩ := by
    intro i member
    rcases mem_addValues.1 member with member | ⟨member, -⟩
    · cases member
    · obtain ⟨f, -, located⟩ := all.node? member
      exact ⟨f, located⟩
  obtain ⟨fs, named⟩ := exists_named valued
  refine ⟨fs, named, ?_⟩
  have distinct := named.nodup declares.wf (nodup_addValues List.nodup_nil)
  rw [used, List.perm_ext_iff_of_nodup distinct (List.nodup_dedup _)]
  intro f
  rw [List.mem_dedup, List.mem_filter]
  constructor
  · intro member
    obtain ⟨i, valued, located⟩ := named.exists_node member
    rcases mem_addValues.1 valued with listed | ⟨listed, real⟩
    · cases listed
    · obtain ⟨other, denoted, same⟩ := all.node? listed
      rw [located] at same
      cases same
      exact ⟨denoted, by simpa [isHook, located] using real⟩
  · rintro ⟨denoted, real⟩
    obtain ⟨i, listed, located⟩ := all.exists_node denoted
    have valued : i ∈ addValues g [] found :=
      mem_addValues.2 (.inr ⟨listed, by simpa [isHook, located] using real⟩)
    obtain ⟨other, member, same⟩ := named.node? valued
    rw [located] at same
    cases same
    exact member

end TestReach.CallGraph
