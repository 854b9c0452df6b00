import TestReach.Dataset
import TestReach.Dependency

/-!
# Extracting dependencies

The functions that a root reaches, nearest first. A function of another module and a hook are left
out, and so is all that is reached through them alone.
-/

namespace TestReach.Dataset

def dependency (dataset : Dataset) (module : String) (node : Nat) (f : Function) : Dependency :=
  let declaration? := dataset.declarations.get? f
  { module := module
    function := f
    node := node
    declaration? := declaration?
    weight := (declaration?.map Source.Declaration.weight).getD 0 }

def unvisited (g : CallGraph) (visited : List Nat) : Nat :=
  (g.numbers.filter fun i => !visited.contains i).length

theorem unvisited_cons (g : CallGraph) (visited : List Nat) (i : Nat) :
    unvisited g (i :: visited) =
      ((g.numbers.filter fun j => !visited.contains j).filter fun j => j != i).length := by
  rw [unvisited, List.filter_filter]
  congr 2
  funext j
  simp only [List.contains_cons, Bool.not_or]
  rfl

theorem unvisited_cons_lt {g : CallGraph} {visited : List Nat} {i : Nat} {node : CallGraph.Node}
    (found : g.node? i = some node) (fresh : visited.contains i = false) :
    unvisited g (i :: visited) < unvisited g visited := by
  have member : i ∈ g.numbers := CallGraph.mem_numbers.2 (CallGraph.isLive_iff.2 ⟨node, found⟩)
  rw [unvisited_cons]
  apply List.length_filter_lt_length_iff_exists.2
  exact ⟨i, by simpa [member] using fresh, by simp⟩

theorem unvisited_cons_le (g : CallGraph) (visited : List Nat) (i : Nat) :
    unvisited g (i :: visited) ≤ unvisited g visited := by
  rw [unvisited_cons]
  exact List.length_filter_le _ _

variable {m : Type → Type} [Monad m]

/-- A walk over the graph, breadth first: the nodes visited so far, the nodes still to visit, and
the module that it stays in. -/
def walk (dataset : Dataset) (resolve : String → m (Option String)) (module : String)
    (visited : List Nat) (queue : List Nat) : m (List Dependency) :=
  match queue with
  | [] => pure []
  | i :: queue =>
    if _fresh : visited.contains i = false then
      match _found : dataset.graph.node? i with
      | none => walk dataset resolve module (i :: visited) queue
      | some node => do
        if node.function.isBuiltIn then walk dataset resolve module (i :: visited) queue
        else if (← resolve node.function.package) ≠ some module then
          walk dataset resolve module (i :: visited) queue
        else do
          let next := (dataset.graph.callees i).filter fun callee =>
            !(i :: visited).contains callee
          let rest ← walk dataset resolve module (i :: visited) (queue ++ next)
          return dataset.dependency module i node.function :: rest
    else walk dataset resolve module visited queue
termination_by (unvisited dataset.graph visited, queue.length)
decreasing_by
  · have := unvisited_cons_le dataset.graph visited i
    simp only [Prod.lex_def, List.length_cons]
    omega
  · have := unvisited_cons_le dataset.graph visited i
    simp only [Prod.lex_def, List.length_cons]
    omega
  · have := unvisited_cons_le dataset.graph visited i
    simp only [Prod.lex_def, List.length_cons]
    omega
  · have := unvisited_cons_lt _found _fresh
    simp only [Prod.lex_def]
    omega
  · simp [Prod.lex_def]

section

variable {dataset : Dataset} {resolve : String → m (Option String)} {module : String}
  {visited queue : List Nat} {i : Nat} {node : CallGraph.Node}

theorem walk_visited (visit : visited.contains i = true) :
    dataset.walk resolve module visited (i :: queue) =
      dataset.walk resolve module visited queue := by
  rw [walk, dif_neg (by rw [visit]; decide)]

theorem walk_dead (fresh : visited.contains i = false) (found : dataset.graph.node? i = none) :
    dataset.walk resolve module visited (i :: queue) =
      dataset.walk resolve module (i :: visited) queue := by
  rw [walk, dif_pos fresh]
  split
  · rfl
  · simp_all

theorem walk_builtIn (fresh : visited.contains i = false)
    (found : dataset.graph.node? i = some node) (builtIn : node.function.isBuiltIn = true) :
    dataset.walk resolve module visited (i :: queue) =
      dataset.walk resolve module (i :: visited) queue := by
  rw [walk, dif_pos fresh]
  split
  · rfl
  · simp_all

theorem walk_node (fresh : visited.contains i = false)
    (found : dataset.graph.node? i = some node) (own : node.function.isBuiltIn = false) :
    dataset.walk resolve module visited (i :: queue) = do
      if (← resolve node.function.package) ≠ some module then
        dataset.walk resolve module (i :: visited) queue
      else do
        let next := (dataset.graph.callees i).filter fun callee => !(i :: visited).contains callee
        let rest ← dataset.walk resolve module (i :: visited) (queue ++ next)
        return dataset.dependency module i node.function :: rest := by
  rw [walk, dif_pos fresh]
  split
  · simp_all
  · rename_i other located
    obtain rfl : node = other := by simp_all
    rw [if_neg (by simp [own])]

end

variable [MonadExceptOf Failure m]

def extract (dataset : Dataset) (resolve : String → m (Option String))
    (root? : Option Nat) : m (List Dependency) := do
  match root? with
  | none => throw .noRoot
  | some root =>
    match dataset.graph.node? root with
    | none => throw .noRoot
    | some node =>
      match ← resolve node.function.package with
      | none => throw (.rootOutsideModule node.function)
      | some module => walk dataset resolve module [] [root]

def extractTarget (dataset : Dataset) (resolve : String → m (Option String))
    (target : Function × Nat) : m (Function × List Dependency) := do
  return (target.1, ← dataset.extract resolve (some target.2))

def extractAll (dataset : Dataset) (resolve : String → m (Option String)) :
    m (List (Function × List Dependency)) :=
  dataset.targets.mapM (dataset.extractTarget resolve)

end TestReach.Dataset
