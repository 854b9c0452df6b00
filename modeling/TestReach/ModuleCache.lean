import TestReach.Loader
import TestReach.Table

/-!
# Module verdicts

To which module each package belongs, as far as it is known. The first verdict on a package stays;
that it belongs to no module is a verdict too.
-/

namespace TestReach

structure ModuleCache where
  verdicts : Table String (Option String)

namespace ModuleCache

def empty : ModuleCache := ⟨.empty⟩

def get? (cache : ModuleCache) (package : String) : Option (Option String) :=
  cache.verdicts.get? package

def size (cache : ModuleCache) : Nat := cache.verdicts.size

/-- The cache with a verdict on a package, unless it has one. -/
def seed (cache : ModuleCache) (package : String) (verdict : Option String) : ModuleCache :=
  match cache.get? package with
  | some _ => cache
  | none => ⟨cache.verdicts.put package verdict⟩

def seeded (cache : ModuleCache) (package : String) (verdict : Option String) : Option String :=
  (cache.get? package).getD verdict

theorem get?_seed (cache : ModuleCache) (package other : String) (verdict : Option String) :
    (cache.seed package verdict).get? other =
      if other = package then some (cache.seeded package verdict) else cache.get? other := by
  unfold seed seeded
  by_cases same : other = package
  · subst same
    cases known : cache.get? other with
    | none => simp [get?, Table.get?_put]
    | some verdict => simp [known]
  · cases known : cache.get? package with
    | none => simp [get?, Table.get?_put, same]
    | some verdict => simp [same]

theorem get?_seed_of_some {cache : ModuleCache} {other : String} {known : Option String}
    (found : cache.get? other = some known) (package : String) (verdict : Option String) :
    (cache.seed package verdict).get? other = some known := by
  rw [get?_seed]
  split
  · next same => subst same; simp [seeded, found]
  · exact found

end ModuleCache

/-- Steps of an analysis: they may fail, and they leave a cache of module verdicts in any case. -/
abbrev Analysis (m : Type → Type) := ExceptT Failure (StateT ModuleCache m)

namespace Analysis

variable {m : Type → Type} [Monad m]

def call {α : Type} (effect : m (Except Failure α)) : Analysis m α :=
  ExceptT.mk (liftM effect)

def perform {α : Type} (effect : m α) : Analysis m α := ExceptT.lift (liftM effect)

def ofExcept {α : Type} (result : Except Failure α) : Analysis m α := ExceptT.mk (pure result)

/-- The module of a package. The loader is asked only if the cache has no verdict. -/
def resolve (loader : Loader m) (locator : Locator) (package : String) :
    Analysis m (Option String) := do
  let cache ← getThe ModuleCache
  match cache.get? package with
  | some verdict => return verdict
  | none =>
    match ← perform (loader.moduleOf locator package) with
    | .error e => throw (.moduleUnresolved package e.message)
    | .ok verdict =>
      let cache ← getThe ModuleCache
      set (cache.seed package verdict)
      return cache.seeded package verdict

end Analysis

end TestReach
