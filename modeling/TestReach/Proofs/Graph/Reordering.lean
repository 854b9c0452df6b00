import TestReach.Loader.Memory
import TestReach.Proofs.Graph.Building
import TestReach.Proofs.Source.Naming
import Mathlib.Data.List.Forall2
import Mathlib.Data.List.Perm.Basic

/-!
# Packages in another order

What a call leads to is told from the packages alone, and their order plays no part in it. The graph
of settled packages is therefore the same in every order of the packages and of their files. It is
not where a bare name can stand for a function of a package without files: that has a node only once
it was called by its path, so the calls before decide.
-/

namespace TestReach

open Packages

namespace Packages

def Rearranged (p q : Package) : Prop := ∃ files, p.files.Perm files ∧ q = { p with files }

/-- The same packages in some order, each with its files in some order. -/
def Reordered (packages others : List Package) : Prop :=
  ∃ middle, packages.Perm middle ∧ List.Forall₂ Rearranged middle others

variable {p q : Package} {packages others : List Package}

theorem Rearranged.importPath (rearranged : Rearranged p q) : q.importPath = p.importPath := by
  obtain ⟨files, -, rfl⟩ := rearranged
  rfl

theorem Rearranged.name (rearranged : Rearranged p q) : q.name = p.name := by
  obtain ⟨files, -, rfl⟩ := rearranged
  rfl

theorem Rearranged.flatMap {α : Type} {f g : Source.File → List α} (rearranged : Rearranged p q)
    (same : ∀ file, (f file).Perm (g file)) : (p.files.flatMap f).Perm (q.files.flatMap g) := by
  obtain ⟨files, perm, rfl⟩ := rearranged
  exact perm.flatMap fun file _ => same file

theorem Rearranged.isParsed (rearranged : Rearranged p q) : q.isParsed = p.isParsed := by
  obtain ⟨files, perm, rfl⟩ := rearranged
  simp only [Package.isParsed, perm.isEmpty_eq]

theorem Rearranged.declaresType (rearranged : Rearranged p q) (name : String) :
    q.declaresType name = p.declaresType name := by
  obtain ⟨files, perm, rfl⟩ := rearranged
  exact perm.any_eq.symm

theorem Rearranged.declared (rearranged : Rearranged p q) : p.declared.Perm q.declared := by
  rw [Package.declared, Package.declared, rearranged.importPath]
  exact (rearranged.flatMap fun _ => .refl _).map _

namespace Reordered

variable (reordered : Reordered packages others)

include reordered

theorem flatMap {α : Type} {f g : Package → List α}
    (same : ∀ p q, Rearranged p q → (f p).Perm (g q)) :
    (packages.flatMap f).Perm (others.flatMap g) := by
  obtain ⟨middle, perm, each⟩ := reordered
  refine (perm.flatMap_right f).trans ?_
  clear perm
  induction each with
  | nil => exact .refl _
  | cons here _ ih => exact (same _ _ here).append ih

theorem map {α : Type} {f : Package → α} (same : ∀ p q, Rearranged p q → f q = f p) :
    (packages.map f).Perm (others.map f) := by
  rw [List.map_eq_flatMap, List.map_eq_flatMap]
  exact reordered.flatMap fun p q rearranged => by rw [same p q rearranged]

theorem any {f : Package → Bool} (same : ∀ p q, Rearranged p q → f q = f p) :
    others.any f = packages.any f := by
  have perm := (reordered.map same).any_eq (f := id)
  rw [List.any_map, List.any_map] at perm
  exact perm.symm

theorem isRead (path : String) : isRead others path = isRead packages path :=
  reordered.any fun _ _ rearranged => by rw [rearranged.importPath, rearranged.isParsed]

theorem hasType (path name : String) : hasType others path name = hasType packages path name :=
  reordered.any fun _ _ rearranged => by rw [rearranged.importPath, rearranged.declaresType]

theorem declared :
    (packages.flatMap Package.declared).Perm (others.flatMap Package.declared) :=
  reordered.flatMap fun _ _ rearranged => rearranged.declared

theorem functions : (functions packages).Perm (functions others) := reordered.declared.map _

theorem methodsNamed (name : String) :
    (methodsNamed packages name).Perm (methodsNamed others name) :=
  (reordered.declared.filter _).map _

theorem declared?_eq : declared? others = declared? packages := by
  funext f
  simp only [declared?, reordered.functions.mem_iff]

theorem bare?_eq : bare? others = bare? packages := by
  funext path scope name
  simp only [bare?, reordered.declared?_eq]

theorem packageNames (distinct : (packages.map Package.importPath).Nodup) (path : String) :
    (packageNames others).get? path = (packageNames packages).get? path := by
  -- No entry overwrites another, so that a lookup comes to membership, which no order changes.
  have named {packages : List Package} (distinct : (packages.map Package.importPath).Nodup)
      (name : String) : (TestReach.packageNames packages).get? path = some name ↔
        name ≠ "" ∧ (path, name) ∈ packages.map fun p => (p.importPath, p.name) := by
    have keys : (((packages.filter fun p => p.name != "").map fun p =>
        (p.importPath, p.name)).map Prod.fst).Nodup := by
      rw [List.map_map]
      exact distinct.sublist (List.filter_sublist.map _)
    constructor
    · intro found
      obtain ⟨p, kept, same⟩ := List.mem_map.1 (Table.mem_of_get?_ofList found)
      obtain ⟨member, called⟩ := List.mem_filter.1 kept
      obtain ⟨rfl, rfl⟩ := Prod.mk.inj same
      exact ⟨by simpa using called, List.mem_map_of_mem member⟩
    · rintro ⟨called, listed⟩
      obtain ⟨p, member, same⟩ := List.mem_map.1 listed
      have kept : p ∈ packages.filter fun p => p.name != "" :=
        List.mem_filter.2 ⟨member, by simpa [(Prod.mk.inj same).2] using called⟩
      exact Table.get?_ofList_of_nodup keys (List.mem_map.2 ⟨p, kept, same⟩)
  have paths := (reordered.map fun _ _ rearranged => rearranged.importPath).nodup_iff.1 distinct
  have names := reordered.map (f := fun p => (p.importPath, p.name)) fun _ _ rearranged => by
    rw [rearranged.importPath, rearranged.name]
  apply Option.ext
  intro name
  rw [named paths, named distinct, names.mem_iff]

theorem scope (distinct : (packages.map Package.importPath).Nodup) :
    Scope.of (TestReach.packageNames others) = Scope.of (TestReach.packageNames packages) := by
  have same : boundName (TestReach.packageNames others) =
      boundName (TestReach.packageNames packages) := by
    funext i
    simp only [boundName, reordered.packageNames distinct]
  funext imports
  simp only [Scope.of, same]

theorem denoted (path : String) (scope : Scope) (callee : Source.Callee) :
    (denoted packages path scope callee).Perm (denoted others path scope callee) := by
  cases callee with
  | bare name => rw [Packages.denoted, Packages.denoted, reordered.bare?_eq]
  | qualified qualifier name =>
    simp only [Packages.denoted]
    split
    · rw [reordered.declared?_eq]
    · exact reordered.methodsNamed name
  | method name => exact reordered.methodsNamed name
  | computed => exact .refl _

theorem used (distinct : (packages.map Package.importPath).Nodup) :
    (used packages).Perm (used others) := by
  refine ((reordered.flatMap fun p q rearranged => ?_).filter _).dedup
  rw [rearranged.importPath, reordered.scope distinct]
  refine rearranged.flatMap fun file => ?_
  exact List.Perm.flatMap_left _ fun callee _ => reordered.denoted _ _ callee

theorem onValue (distinct : (packages.map Package.importPath).Nodup) (name : String) :
    (onValue packages name).Perm (onValue others name) := by
  have methods := reordered.methodsNamed name
  unfold Packages.onValue
  by_cases none : Packages.methodsNamed packages name = []
  · rw [none, List.nil_perm] at methods
    rw [if_pos none, if_pos methods]
    exact reordered.used distinct
  · have some : Packages.methodsNamed others name ≠ [] := by
      intro absent
      rw [absent, List.perm_nil] at methods
      exact none methods
    rw [if_neg none, if_neg some]
    exact methods

theorem resolve (distinct : (packages.map Package.importPath).Nodup) (rearranged : Rearranged p q)
    (scope : Scope) (callee : Source.Callee) :
    (resolve packages p scope callee).Perm (resolve others q scope callee) := by
  cases callee with
  | bare name =>
    simp only [Packages.resolve, reordered.bare?_eq, rearranged.importPath,
      rearranged.declaresType]
    split
    · exact .refl _
    · split
      · exact .refl _
      · exact reordered.used distinct
  | qualified qualifier name =>
    simp only [Packages.resolve, reordered.isRead, reordered.hasType, reordered.functions.mem_iff]
    split
    · exact reordered.onValue distinct name
    · split
      · exact .refl _
      · split
        · exact .refl _
        · exact reordered.used distinct
  | method name => exact reordered.onValue distinct name
  | computed => exact reordered.used distinct

theorem unreadOf : unreadOf others = unreadOf packages := by
  funext scope callee
  cases callee <;> simp only [Packages.unreadOf, reordered.isRead]

theorem callsOf (distinct : (packages.map Package.importPath).Nodup) {α : Type}
    {f g : CallGraph.Call → List α}
    (same : ∀ p q scope caller site, Rearranged p q →
      (f ⟨p, scope, caller, site⟩).Perm (g ⟨q, scope, caller, site⟩)) :
    ((CallGraph.callsOf (TestReach.packageNames packages) packages).flatMap f).Perm
      ((CallGraph.callsOf (TestReach.packageNames others) others).flatMap g) := by
  simp only [CallGraph.callsOf, List.flatMap_assoc, List.flatMap_map]
  refine reordered.flatMap fun p q rearranged => ?_
  rw [reordered.scope distinct, rearranged.importPath]
  refine rearranged.flatMap fun file => ?_
  refine List.Perm.flatMap_left _ fun d _ => ?_
  exact List.Perm.flatMap_left _ fun site _ => same _ _ _ _ _ rearranged

theorem calls (distinct : (packages.map Package.importPath).Nodup) :
    (calls packages).Perm (calls others) :=
  reordered.callsOf distinct fun _ _ scope _ site rearranged =>
    (reordered.resolve distinct rearranged scope site.callee).map _

theorem unread (distinct : (packages.map Package.importPath).Nodup) :
    (unread packages).Perm (unread others) :=
  reordered.callsOf distinct fun _ _ _ _ _ _ => by rw [reordered.unreadOf]

theorem exists_call (distinct : (packages.map Package.importPath).Nodup) {call : CallGraph.Call}
    (member : call ∈ CallGraph.callsOf (TestReach.packageNames others) others) :
    ∃ other ∈ CallGraph.callsOf (TestReach.packageNames packages) packages,
      other.package.importPath = call.package.importPath ∧ other.scope = call.scope ∧
        other.site = call.site := by
  have perm := reordered.callsOf distinct
    (f := fun call => [(call.package.importPath, call.scope, call.site)])
    (g := fun call => [(call.package.importPath, call.scope, call.site)])
    fun _ _ _ _ _ rearranged => by rw [rearranged.importPath]
  have listed := perm.mem_iff.2 (List.mem_flatMap.2 ⟨call, member, List.mem_singleton_self _⟩)
  obtain ⟨other, among, same⟩ := List.mem_flatMap.1 listed
  simp only [List.mem_singleton, Prod.mk.injEq] at same
  exact ⟨other, among, same.1.symm, same.2.1.symm, same.2.2.symm⟩

end Reordered

end Packages

namespace CallGraph

variable {packages others : List Package}

theorem Settled.reordered (settled : Settled packages) (reordered : Reordered packages others) :
    Settled others where
  distinct :=
    (reordered.map fun _ _ rearranged => rearranged.importPath).nodup_iff.1 settled.distinct
  unstubbed :=
    { value := fun listed =>
        settled.unstubbed.value (reordered.functions.mem_iff.2 listed)
      method := fun name listed =>
        settled.unstubbed.method name (reordered.functions.mem_iff.2 listed) }
  selected := by
    intro call member
    obtain ⟨other, among, -, -, site⟩ := reordered.exists_call settled.distinct member
    exact site ▸ settled.selected other among
  bare := by
    intro call member
    obtain ⟨other, among, path, scope, site⟩ := reordered.exists_call settled.distinct member
    exact path ▸ scope ▸ site ▸ settled.bare other among
  uncalled := by
    intro call member name called path imported unread
    obtain ⟨other, among, -, scope, site⟩ := reordered.exists_call settled.distinct member
    exact settled.uncalled other among name (site ▸ called) path (scope ▸ imported)
      ((reordered.unread settled.distinct).mem_iff.2 unread)

/-- The purged graph of settled packages has the same functions and the same calls in every order of
the packages and of their files. -/
theorem purge_ofPackages_reordered (settled : Settled packages)
    (reordered : Reordered packages others) :
    let g := (ofPackages packages).purge
    let h := (ofPackages others).purge
    (∀ f, (∃ i, g.function? i = some f) ↔ ∃ i, h.function? i = some f) ∧
      (g.edges.toList.map g.called).Perm (h.edges.toList.map h.called) := by
  obtain ⟨_, _, _, one, here⟩ := settled.grown
  obtain ⟨_, _, _, two, there⟩ := (settled.reordered reordered).grown
  have calls := reordered.calls settled.distinct
  have unread := reordered.unread settled.distinct
  rw [← here, ← there]
  refine ⟨fun f => ?_, (one.edges_purge.trans (calls.map known)).trans two.edges_purge.symm⟩
  rw [one.function?_purge_iff, two.function?_purge_iff, reordered.functions.mem_iff,
    unread.mem_iff]

def dotted (name : String) : Package :=
  let bare : Source.File :=
    ⟨"/memory/a/m/a.go", "m", [⟨some ".", "strings"⟩],
      [⟨"A", none, "/memory/a/m/a.go", 3, 3, true, 1, [⟨3, .bare "ToUpper"⟩]⟩], [], []⟩
  let qualified : Source.File :=
    ⟨"/memory/a/m/b.go", "m", [⟨none, "strings"⟩],
      [⟨"B", none, "/memory/a/m/b.go", 3, 3, true, 1, [⟨3, .qualified "strings" name⟩]⟩], [], []⟩
  ⟨"a/m", "m", "/memory/a/m", some "a", false, false, false, [bare, qualified], []⟩

def backward (p : Package) : Package := { p with files := p.files.reverse }

theorem reordered_backward (p : Package) : Reordered [p] [backward p] :=
  ⟨[p], .refl _, .cons ⟨p.files.reverse, p.files.reverse_perm.symm, rfl⟩ .nil⟩

theorem purge_ofPackages_backward :
    let g := (ofPackages [dotted "ToLower"]).purge
    let h := (ofPackages [backward (dotted "ToLower")]).purge
    Settled [dotted "ToLower"] ∧
      (g.edges.toList.map g.called).Perm (h.edges.toList.map h.called) := by
  have settled : Settled [dotted "ToLower"] :=
    ⟨by decide, unstubbed_of_ne_empty (by decide), by decide, by decide, by decide⟩
  exact ⟨settled, (purge_ofPackages_reordered settled (reordered_backward _)).2⟩

def dottedSource : String :=
  "package m\nimport . \"strings\"\nfunc A() \x7b ToUpper(\"\") \x7d\n"

def qualifiedSource : String :=
  "package m\nimport \"strings\"\nfunc B() \x7b strings.ToUpper(\"\") \x7d\n"

def dottedTree : Source.Tree :=
  .node .plain .sourceFile ⟨⟨0, 0⟩, ⟨54, 3⟩⟩ [
    .on 0 0 9 .plain .packageClause [.on 0 8 9 .plain .packageIdentifier []],
    .on 1 10 28 .plain .importDeclaration [
      .on 1 17 28 .plain .importSpec [
        .on 1 17 18 .name .packageIdentifier [], .on 1 19 28 .path .literal []]],
    .on 2 29 53 .plain .functionDeclaration [
      .on 2 34 35 .name .identifier [], .on 2 35 37 .plain .parameterList [],
      .on 2 38 53 .body .block [
        .on 2 40 51 .plain .expressionStatement [
          .on 2 40 51 .plain .callExpression [
            .on 2 40 47 .function .identifier [],
            .on 2 47 51 .plain .argumentList [.on 2 48 50 .plain .literal []]]]]]]

def qualifiedTree : Source.Tree :=
  .node .plain .sourceFile ⟨⟨0, 0⟩, ⟨60, 3⟩⟩ [
    .on 0 0 9 .plain .packageClause [.on 0 8 9 .plain .packageIdentifier []],
    .on 1 10 26 .plain .importDeclaration [
      .on 1 17 26 .plain .importSpec [.on 1 17 26 .path .literal []]],
    .on 2 27 59 .plain .functionDeclaration [
      .on 2 32 33 .name .identifier [], .on 2 33 35 .plain .parameterList [],
      .on 2 36 59 .body .block [
        .on 2 38 57 .plain .expressionStatement [
          .on 2 38 57 .plain .callExpression [
            .on 2 38 53 .function .selectorExpression [
              .on 2 38 45 .operand .identifier [], .on 2 46 53 .field .fieldIdentifier []],
            .on 2 53 57 .plain .argumentList [.on 2 54 56 .plain .literal []]]]]]]

local instance dottedParser : Source.Parser :=
  .ofList [(dottedSource, dottedTree), (qualifiedSource, qualifiedTree)]

def dottedMemory (files : List (String × String)) : Memory :=
  Memory.empty.addPackage (some "a") "a/m" files

theorem purge_dotted : (ofPackages [dotted "ToUpper"]).purge =
    ⟨#[some ⟨⟨"a/m", "A"⟩, false⟩, some ⟨⟨"a/m", "B"⟩, false⟩,
      some ⟨⟨"strings", "ToUpper"⟩, false⟩], [], #[⟨1, 2, 3⟩]⟩ := by
  decide +kernel

theorem purge_backward_dotted : (ofPackages [backward (dotted "ToUpper")]).purge =
    ⟨#[some ⟨⟨"a/m", "B"⟩, false⟩, some ⟨⟨"a/m", "A"⟩, false⟩,
      some ⟨⟨"strings", "ToUpper"⟩, false⟩], [], #[⟨0, 2, 3⟩, ⟨1, 2, 3⟩]⟩ := by
  decide +kernel

/-- A bare name stands for a function of a package without files only behind a call by the path. -/
theorem purge_reordered_lost :
    let g := (ofPackages [dotted "ToUpper"]).purge
    let h := (ofPackages [backward (dotted "ToUpper")]).purge
    Id.run ((dottedMemory [("a.go", dottedSource), ("b.go", qualifiedSource)]).load
        ⟨"a/m", none⟩) = .ok [dotted "ToUpper"] ∧
      Id.run ((dottedMemory [("b.go", qualifiedSource), ("a.go", dottedSource)]).load
        ⟨"a/m", none⟩) = .ok [backward (dotted "ToUpper")] ∧
      ([dotted "ToUpper"].map Package.importPath).Nodup ∧
      Reordered [dotted "ToUpper"] [backward (dotted "ToUpper")] ∧
      ¬ (g.edges.toList.map g.called).Perm (h.edges.toList.map h.called) := by
  refine ⟨by decide +kernel, by decide +kernel, by decide, reordered_backward _, ?_⟩
  rw [purge_dotted, purge_backward_dotted]
  intro perm
  exact absurd perm.length_eq (by decide)

end CallGraph

end TestReach
