import TestReach.Extraction

/-!
# Related walks

A walk takes no step but to ask for the module of a package. So a relation between the steps of two
monads that passes to their sequences relates whole walks and extractions, in any two datasets with
one graph and the same declarations.
-/

namespace TestReach

variable {m n : Type → Type} [Monad m] [Monad n]

structure Relates (R : (α : Type) → m α → n α → Prop) : Prop where
  pure : ∀ {α : Type} (a : α), R α (pure a) (pure a)
  bind : ∀ {α β : Type} {step : m α} {other : n α} {next : α → m β} {follow : α → n β},
    R α step other → (∀ a, R β (next a) (follow a)) → R β (step >>= next) (other >>= follow)

namespace Dataset

variable {R : (α : Type) → m α → n α → Prop} (relates : Relates R) {first second : Dataset}
  {resolve : String → m (Option String)} {told : String → n (Option String)}
  (resolves : ∀ package, R _ (resolve package) (told package))
  (graph : second.graph = first.graph) (declarations : second.declarations = first.declarations)

include relates resolves graph declarations

theorem walk_relates (module : String) (visited queue : List Nat) :
    R _ (first.walk resolve module visited queue) (second.walk told module visited queue) := by
  -- By the first walk: the second one visits the same nodes and asks for the same packages.
  induction visited, queue using walk.induct first with
  | case1 visited =>
    rw [walk, walk]
    exact relates.pure []
  | case2 visited i queue fresh found ih =>
    rw [walk_dead fresh found, walk_dead fresh (graph ▸ found)]
    exact ih
  | case3 visited i queue fresh node found builtIn ih =>
    rw [walk_builtIn fresh found builtIn, walk_builtIn fresh (graph ▸ found) builtIn]
    exact ih
  | case4 visited i queue fresh node found own skipped entered =>
    rw [Bool.not_eq_true] at own
    rw [walk_node fresh found own, walk_node fresh (graph ▸ found) own, graph]
    apply relates.bind (resolves node.function.package)
    intro verdict
    split
    · exact skipped
    · apply relates.bind entered
      intro rest
      rw [show second.dependency module i node.function = first.dependency module i node.function
        by rw [dependency, dependency, declarations]]
      exact relates.pure _
  | case5 visited i queue visit ih =>
    rw [Bool.not_eq_false] at visit
    rw [walk_visited visit, walk_visited visit]
    exact ih

variable [MonadExceptOf Failure m] [MonadExceptOf Failure n]
  (throws : ∀ (α : Type) (e : Failure), R α (throw e) (throw e))

include throws

theorem extract_relates (root? : Option Nat) :
    R _ (first.extract resolve root?) (second.extract told root?) := by
  unfold extract
  rw [graph]
  split
  · exact throws _ _
  · split
    · exact throws _ _
    · apply relates.bind (resolves _)
      intro verdict
      split
      · exact throws _ _
      · exact walk_relates relates resolves graph declarations _ [] _

theorem extractAll_relates [LawfulMonad m] [LawfulMonad n]
    (targets : second.targets = first.targets) :
    R _ (first.extractAll resolve) (second.extractAll told) := by
  unfold extractAll
  rw [targets]
  induction first.targets with
  | nil => exact relates.pure []
  | cons target targets ih =>
    rw [List.mapM_cons, List.mapM_cons]
    have one : R _ (first.extractTarget resolve target) (second.extractTarget told target) :=
      relates.bind (extract_relates relates resolves graph declarations throws _)
        fun ds => relates.pure (target.1, ds)
    exact relates.bind one fun entry => relates.bind ih fun entries => relates.pure _

end Dataset

end TestReach
