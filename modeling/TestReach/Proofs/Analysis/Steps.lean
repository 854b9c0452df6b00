import TestReach.Engine

/-!
# Analyses that end

An analysis over a world of any kind ends with a result, a cache and a world. What its last step
comes to is told by the ends of the steps before.
-/

namespace TestReach.Analysis

variable {World α β : Type} {cache after : ModuleCache} {world last : World} {a : α} {b : β}

def Ends (analysis : Analysis (StateM World) α) (cache : ModuleCache) (world : World) (a : α)
    (after : ModuleCache) (last : World) : Prop :=
  (analysis.run.run cache).run world = ((.ok a, after), last)

theorem Ends.pure {other : α} (ends : Ends (pure a) cache world other after last) :
    a = other ∧ cache = after ∧ world = last := by
  cases ends
  exact ⟨rfl, rfl, rfl⟩

theorem run_bind (analysis : Analysis (StateM World) α) (next : α → Analysis (StateM World) β)
    (cache : ModuleCache) (world : World) :
    ((analysis >>= next).run.run cache).run world =
      match (analysis.run.run cache).run world with
      | ((.error e, after), last) => ((.error e, after), last)
      | ((.ok a, after), last) => ((next a).run.run after).run last := by
  rw [ExceptT.run_bind, StateT.run_bind, StateT.run_bind]
  rcases (analysis.run.run cache).run world with ⟨⟨result, after⟩, last⟩
  cases result <;> rfl

theorem ends_bind {analysis : Analysis (StateM World) α} {next : α → Analysis (StateM World) β} :
    Ends (analysis >>= next) cache world b after last ↔
      ∃ a between middle, Ends analysis cache world a between middle ∧
        Ends (next a) between middle b after last := by
  simp only [Ends, run_bind]
  rcases (analysis.run.run cache).run world with ⟨⟨result, between⟩, middle⟩
  constructor
  · intro ends
    cases result with
    | error e => cases ends
    | ok a => exact ⟨a, between, middle, rfl, ends⟩
  · rintro ⟨a, between, middle, ran, ends⟩
    cases ran
    exact ends

theorem Ends.perform {effect : StateM World α}
    (ends : Ends (perform effect) cache world a after last) :
    cache = after ∧ effect.run world = (a, last) := by
  have ran : ((Analysis.perform effect).run.run cache).run world =
      ((.ok (effect.run world).1, cache), (effect.run world).2) := rfl
  rw [Ends, ran] at ends
  cases ends
  exact ⟨rfl, rfl⟩

theorem ends_perform {effect : StateM World α} (ran : effect.run world = (a, last)) :
    Ends (perform effect) cache world a cache last := by
  have steps : ((Analysis.perform effect).run.run cache).run world =
      ((.ok (effect.run world).1, cache), (effect.run world).2) := rfl
  rw [Ends, steps, ran]

theorem not_ends_throw {e : Failure} :
    ¬ Ends (throw e : Analysis (StateM World) α) cache world a after last := by
  intro ends
  cases ends

theorem Ends.call {effect : StateM World (Except Failure α)}
    (ends : Ends (call effect) cache world a after last) :
    cache = after ∧ effect.run world = (.ok a, last) := by
  have ran : ((Analysis.call effect).run.run cache).run world =
      (((effect.run world).1, cache), (effect.run world).2) := rfl
  rw [Ends, ran, Prod.mk.injEq, Prod.mk.injEq] at ends
  exact ⟨ends.1.2, Prod.ext ends.1.1 ends.2⟩

theorem run_call (effect : StateM World (Except Failure α)) (next : α → Analysis (StateM World) β)
    (cache : ModuleCache) (world : World) :
    ((call effect >>= next).run.run cache).run world =
      match effect.run world with
      | (.error e, last) => ((.error e, cache), last)
      | (.ok a, last) => ((next a).run.run cache).run last := by
  have ran : ((call effect).run.run cache).run world =
      (((effect.run world).1, cache), (effect.run world).2) := rfl
  rw [run_bind, ran]
  rcases effect.run world with ⟨result, last⟩
  cases result <;> rfl

end TestReach.Analysis
