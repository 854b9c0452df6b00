import TestReach.Proofs.Graph.Growth
import TestReach.Proofs.Loader.Assembly

/-!
# Names of loaded packages

What loaded packages declare and call is named by words, and the names of synthetic nodes are none.
-/

namespace TestReach

theorem isPlain_of_isWord {name : String} (word : Source.isWord name = true) :
    Packages.isPlain name = true := by
  have characters := List.all_eq_true.1 word
  apply List.all_eq_true.2
  intro c member
  have continues := characters c member
  have other (mark : Char) (none : Source.isWordPart mark = false) : c ≠ mark := by
    rintro rfl
    rw [none] at continues
    cases continues
  simp [other '.' (by decide), other '-' (by decide)]

theorem regular_of_worded {packages : List Package} (separate : Packages.Separate packages)
    (worded : ∀ p ∈ packages, p.Worded) : Packages.Regular packages where
  toSeparate := separate
  plain := fun p member d declared site made name called =>
    isPlain_of_isWord ((worded p member d declared).calls site made name called)

namespace Packages

theorem not_dispatch {d : Source.Declaration} (undotted : d.Undotted)
    (path rest : String) : (d.function path).name ≠ "dispatch." ++ rest := by
  intro same
  have spelled : (d.function path).name.toList = "dispatch.".toList ++ rest.toList := by
    rw [same, String.toList_append]
  cases receiver : d.receiver? with
  | some receiver =>
    have begins : (d.function path).name.toList.head? = some '(' := by
      simp [Source.Declaration.function, receiver, Function.method, Function.methodName]
    rw [spelled] at begins
    revert begins
    simp
  | none =>
    have itself : (d.function path).name = d.name := by
      simp [Source.Declaration.function, receiver]
    rw [itself] at spelled
    rcases undotted with plain | point
    · apply plain
      simp [spelled]
    · simp [point] at spelled

variable [Source.Parser] [Source.Parser.Naming] {packages : List Package}

theorem Loaded.plain (loaded : Loaded packages) {call : CallGraph.Call}
    (member : call ∈ CallGraph.callsOf (packageNames packages) packages) :
    ∀ name ∈ call.site.callee.selected?, isPlain name = true := by
  obtain ⟨p, listed, file, there, d, declared, site, called, rfl⟩ := mem_callsOf.1 member
  have worded := loaded.worded p listed d (List.mem_flatMap.2 ⟨file, there, declared⟩)
  intro name selected
  exact isPlain_of_isWord (worded.calls site called name selected)

theorem Loaded.unstubbed (loaded : Loaded packages) : CallGraph.Unstubbed packages := by
  have undeclared (rest : String) : ⟨"", "dispatch." ++ rest⟩ ∉ functions packages := by
    intro listed
    obtain ⟨p, member, d, declared, same⟩ := mem_functions.1 listed
    obtain ⟨file, there, among⟩ := List.mem_flatMap.1 declared
    have undotted := loaded.files Source.granted_undotted p member file there d among
    exact not_dispatch undotted p.importPath rest (congrArg Function.name same)
  constructor
  case value => exact undeclared "func-value"
  case method => exact undeclared

end Packages

end TestReach
