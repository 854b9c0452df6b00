import TestReach.Proofs.Graph.Targets
import TestReach.Proofs.Loader.Assembly
import TestReach.Dataset
import Mathlib.Data.Prod.Lex
import Mathlib.Data.String.Basic

/-!
# Targets

Targets are selected by the names that they are declared with, and come in the order of functions,
each once, with the nodes that they have in the graph.
-/

namespace TestReach

namespace Function

theorem before_iff {f g : Function} :
    f.before g = true ↔ toLex (f.package, f.name) < toLex (g.package, g.name) := by
  simp [before, Prod.Lex.toLex_lt_toLex]

theorem before_trans {f g h : Function} (first : f.before g = true) (second : g.before h = true) :
    f.before h = true :=
  before_iff.2 ((before_iff.1 first).trans (before_iff.1 second))

theorem before_of_not {f g : Function} (other : f ≠ g) (behind : ¬ f.before g = true) :
    g.before f = true := by
  rw [before_iff] at behind
  apply before_iff.2
  apply lt_of_le_of_ne (not_lt.1 behind)
  intro same
  have parts := Prod.mk.inj (toLex.injective same)
  apply other
  cases f
  cases g
  simp_all

theorem mem_insert {f g : Function} {gs : List Function} :
    g ∈ insert f gs ↔ g = f ∨ g ∈ gs := by
  induction gs with
  | nil => simp [insert]
  | cons first rest ih =>
    rw [insert]
    split
    · rename_i same
      simp [same]
    · split
      · simp
      · rw [List.mem_cons, ih, List.mem_cons, or_left_comm]

theorem pairwise_insert {f : Function} {gs : List Function}
    (order : gs.Pairwise fun first second => first.before second = true) :
    (insert f gs).Pairwise fun first second => first.before second = true := by
  induction gs with
  | nil => simp [insert]
  | cons first rest ih =>
    obtain ⟨least, behind⟩ := List.pairwise_cons.1 order
    rw [insert]
    split
    · exact order
    · split
      · rename_i here
        refine List.pairwise_cons.2 ⟨?_, order⟩
        intro other member
        rcases List.mem_cons.1 member with rfl | member
        · exact here
        · exact before_trans here (least other member)
      · rename_i other later
        refine List.pairwise_cons.2 ⟨?_, ih behind⟩
        intro next member
        rcases mem_insert.1 member with rfl | member
        · exact before_of_not other later
        · exact least next member

theorem mem_sorted {f : Function} {functions : List Function} :
    f ∈ sorted functions ↔ f ∈ functions := by
  have all (set : List Function) :
      f ∈ functions.foldl (fun set g => insert g set) set ↔ f ∈ functions ∨ f ∈ set := by
    induction functions generalizing set with
    | nil => simp
    | cons first rest ih =>
      rw [List.foldl_cons, ih, mem_insert, List.mem_cons, or_left_comm, or_assoc]
  simp [sorted, all]

theorem pairwise_sorted (functions : List Function) :
    (sorted functions).Pairwise fun first second => first.before second = true := by
  have all (set : List Function)
      (order : set.Pairwise fun first second => first.before second = true) :
      (functions.foldl (fun set g => insert g set) set).Pairwise
        fun first second => first.before second = true := by
    induction functions generalizing set with
    | nil => exact order
    | cons first rest ih => exact ih _ (pairwise_insert order)
  exact all [] .nil

theorem cutLast?_of_not_mem {first : Char} {mark cs : List Char} (absent : first ∉ cs) :
    Text.cutLast? (first :: mark) cs = none := by
  induction cs with
  | nil => rfl
  | cons c cs ih =>
    rw [List.mem_cons, not_or] at absent
    simp [Text.cutLast?, ih absent.2, List.isPrefixOf, absent.1]

theorem shortName_of_not_mem {f : Function} (plain : ')' ∉ f.name.toList) :
    f.shortName = f.name := by
  rw [shortName, cutLast?_of_not_mem plain]

end Function

def Packages.IsTarget (packages : List Package) (isSelected : String → Bool) (f : Function) :
    Prop :=
  ∃ p ∈ packages, p.isRoot = true ∧ ∃ d ∈ p.declarations, d.receiver? = none ∧
    d.function p.importPath = f ∧ f.isBuiltIn = false ∧ isSelected d.name = true

namespace Dataset

variable {packages : List Package} {isSelected : String → Bool}

theorem shortName_function {p : Package} (worded : p.Worded) {d : Source.Declaration}
    (declared : d ∈ p.declarations) (none : d.receiver? = none)
    (own : (d.function p.importPath).isBuiltIn = false) :
    (d.function p.importPath).shortName = d.name := by
  -- A target is selected by its name alone: with no receiver in front, it stands for itself in a
  -- summary.
  simp only [Source.Declaration.function, none] at own ⊢
  rcases (worded d declared).name with plain | hook
  · exact Function.shortName_of_not_mem plain
  · rw [hook] at own
    cases own

theorem mem_selected (worded : ∀ p ∈ packages, p.Worded) {f : Function} :
    f ∈ selected packages isSelected ↔ Packages.IsTarget packages isSelected f := by
  simp only [selected, Packages.IsTarget, List.mem_flatMap, List.mem_filter, List.mem_map,
    Package.declared, Bool.and_eq_true, Option.isNone_iff_eq_none, Bool.not_eq_true']
  constructor
  · rintro ⟨p, ⟨member, root⟩, _, ⟨⟨d, declared, rfl⟩, ⟨none, own⟩, named⟩, rfl⟩
    rw [shortName_function (worded p member) declared none own] at named
    exact ⟨p, member, root, d, declared, none, rfl, own, named⟩
  · rintro ⟨p, member, root, d, declared, none, rfl, own, named⟩
    rw [← shortName_function (worded p member) declared none own] at named
    exact ⟨p, ⟨member, root⟩, _, ⟨⟨d, declared, rfl⟩, ⟨none, own⟩, named⟩, rfl⟩

theorem bind_ok {α β : Type} {result : Except Failure α} {next : α → Except Failure β} {b : β}
    (done : (result >>= next) = .ok b) : ∃ a, result = .ok a ∧ next a = .ok b := by
  cases result with
  | error e => cases done
  | ok a => exact ⟨a, rfl, done⟩

theorem mem_mapM_iff {α β : Type} {f : α → Except Failure β} {as : List α} {bs : List β}
    (done : as.mapM f = .ok bs) {b : β} : b ∈ bs ↔ ∃ a ∈ as, f a = .ok b := by
  induction as generalizing bs with
  | nil =>
    cases done
    simp
  | cons a as ih =>
    rw [List.mapM_cons] at done
    obtain ⟨here, first, done⟩ := bind_ok done
    obtain ⟨others, rest, done⟩ := bind_ok done
    cases done
    simp [first, ih rest, eq_comm]

theorem mapM_ok {α β γ : Type} {f : α → Except Failure β} {before : α → γ} {after : β → γ}
    (keeps : ∀ a b, f a = .ok b → after b = before a) {as : List α} {bs : List β}
    (done : as.mapM f = .ok bs) :
    bs.map after = as.map before ∧ ∀ b ∈ bs, ∃ a ∈ as, f a = .ok b := by
  refine ⟨?_, fun b => (mem_mapM_iff done).1⟩
  induction as generalizing bs with
  | nil =>
    cases done
    rfl
  | cons a as ih =>
    rw [List.mapM_cons] at done
    obtain ⟨b, first, done⟩ := bind_ok done
    obtain ⟨others, rest, done⟩ := bind_ok done
    cases done
    rw [List.map_cons, List.map_cons, keeps a b first, ih rest]

theorem withNode_ok {g : CallGraph} {f : Function} {target : Function × Nat}
    (done : withNode g f = .ok target) : target.1 = f ∧ g.find? target.1 = some target.2 := by
  unfold withNode at done
  split at done
  · rename_i i located
    cases done
    exact ⟨rfl, located⟩
  · cases done

theorem withNodes_ok {g : CallGraph} {functions : List Function} {targets : List (Function × Nat)}
    (done : withNodes g functions = .ok targets) :
    targets.map Prod.fst = Function.sorted functions ∧
      ∀ target ∈ targets, g.find? target.1 = some target.2 := by
  have keeps (f : Function) (target : Function × Nat) (found : withNode g f = .ok target) :
      target.1 = id f := (withNode_ok found).1
  obtain ⟨same, come⟩ := mapM_ok keeps done
  rw [List.map_id] at same
  refine ⟨same, ?_⟩
  intro target member
  obtain ⟨f, -, found⟩ := come target member
  exact (withNode_ok found).2

end Dataset

end TestReach
