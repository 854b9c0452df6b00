import TestReach.Proofs.Analysis.Notes

/-!
# Histories of a cache

Verdicts are seeded and packages resolved through one cache, in any order and by loaders that need
not agree on anything. What a cache holds of a package is nothing, that it has no module, or a
module; the first verdict is the last one, and no loader is asked behind it.
-/

namespace TestReach.ModuleCache

variable {World : Type}

/-- What can be done to a cache. Each package may be resolved by a loader of its own. -/
inductive Operation (World : Type)
  | seed (package : String) (verdict : Option String)
  | resolve (loader : Loader (StateM World)) (locator : Locator) (package : String)

def Operation.package : Operation World → String
  | .seed package _ => package
  | .resolve _ _ package => package

structure Event (World : Type) where
  operation : Operation World
  before : ModuleCache
  result : Except Failure (Option String)
  asked : List Question
  after : ModuleCache

def Operation.event (cache : ModuleCache) (world : World) (operation : Operation World) :
    Event World × World :=
  match operation with
  | .seed package verdict =>
    (⟨operation, cache, .ok (cache.seeded package verdict), [], cache.seed package verdict⟩, world)
  | .resolve loader locator package =>
    let ((result, after), last) :=
      ((Analysis.resolve loader locator package).run.run cache).run world
    let (_, (_, asked)) :=
      ((Analysis.resolve loader.asking locator package).run.run cache).run (world, [])
    (⟨operation, cache, result, asked, after⟩, last)

def history (cache : ModuleCache) (world : World) : List (Operation World) → List (Event World)
  | [] => []
  | operation :: operations =>
    let (event, last) := operation.event cache world
    event :: history event.after last operations

/-- What an operation does to a cache: it keeps every verdict, and whatever it answers is the
verdict in effect. It fails only if a loader does that was asked, and it asks only about a package
without a verdict. -/
structure Event.Lawful (event : Event World) : Prop where
  kept : ∀ package verdict, event.before.get? package = some verdict →
    event.after.get? package = some verdict
  effective : ∀ verdict, event.result = .ok verdict →
    event.after.get? event.operation.package = some verdict
  seeding : ∀ package verdict, event.operation = .seed package verdict →
    event.asked = [] ∧ ∃ effect, event.result = .ok effect ∧
      (event.before.get? package = none → effect = verdict)
  failing : ∀ e, event.result = .error e → event.after = event.before ∧
    ∃ loader locator package reason, event.operation = .resolve loader locator package ∧
      event.asked = [⟨package, .error reason⟩] ∧ e = .moduleUnresolved package reason.message
  asking : ∀ question ∈ event.asked, event.asked = [question] ∧
    event.before.get? question.package = none ∧
    ∃ loader locator, event.operation = .resolve loader locator question.package
  answered : ∀ question ∈ event.asked, ∀ verdict, question.answer = .ok verdict →
    event.result = .ok verdict

theorem lawful_seed (cache : ModuleCache) (world : World) (package : String)
    (verdict : Option String) :
    ((Operation.seed package verdict).event cache world).1.Lawful := by
  constructor
  case kept =>
    intro other known found
    exact get?_seed_of_some found package verdict
  case effective =>
    intro effect same
    cases same
    exact (get?_seed ..).trans (if_pos rfl)
  case seeding =>
    intro other told same
    cases same
    refine ⟨rfl, _, rfl, ?_⟩
    intro unknown
    change cache.get? package = none at unknown
    rw [seeded, unknown]
    rfl
  case failing => rintro e ⟨⟩
  case asking => rintro question ⟨⟩
  case answered => rintro question ⟨⟩

theorem event_resolve (cache : ModuleCache) (world : World) (loader : Loader (StateM World))
    (locator : Locator) (package : String) :
    let resolving : Operation World := .resolve loader locator package
    (∃ verdict, cache.get? package = some verdict ∧
        resolving.event cache world = (⟨resolving, cache, .ok verdict, [], cache⟩, world)) ∨
      cache.get? package = none ∧ ∃ last,
        (∃ reason, resolving.event cache world =
          (⟨resolving, cache, .error (.moduleUnresolved package reason.message),
            [⟨package, .error reason⟩], cache⟩, last)) ∨
        ∃ verdict, resolving.event cache world =
          (⟨resolving, cache, .ok verdict, [⟨package, .ok verdict⟩], cache.seed package verdict⟩,
            last) := by
  intro resolving
  simp only [resolving, Operation.event, Analysis.run_asking]
  simp only [Analysis.run_resolve, Analysis.questions]
  cases cache.get? package with
  | some verdict => exact .inl ⟨verdict, rfl, rfl⟩
  | none =>
    rcases (loader.moduleOf locator package).run world with ⟨answer, last⟩
    cases answer with
    | error reason => exact .inr ⟨rfl, last, .inl ⟨reason, rfl⟩⟩
    | ok verdict => exact .inr ⟨rfl, last, .inr ⟨verdict, rfl⟩⟩

theorem lawful_resolve (cache : ModuleCache) (world : World) (loader : Loader (StateM World))
    (locator : Locator) (package : String) :
    ((Operation.resolve loader locator package).event cache world).1.Lawful := by
  obtain ⟨verdict, known, ended⟩ | ⟨unknown, last, ⟨reason, ended⟩ | ⟨verdict, ended⟩⟩ :=
    event_resolve cache world loader locator package
  · rw [ended]
    constructor
    case kept => exact fun _ _ found => found
    case effective =>
      intro effect same
      cases same
      exact known
    case seeding => rintro other told ⟨⟩
    case failing => rintro e ⟨⟩
    case asking => rintro question ⟨⟩
    case answered => rintro question ⟨⟩
  · rw [ended]
    constructor
    case kept => exact fun _ _ found => found
    case effective => rintro effect ⟨⟩
    case seeding => rintro other told ⟨⟩
    case failing =>
      intro e same
      cases same
      exact ⟨rfl, loader, locator, package, reason, rfl, rfl, rfl⟩
    case asking =>
      intro question member
      obtain rfl := List.mem_singleton.1 member
      exact ⟨rfl, unknown, loader, locator, rfl⟩
    case answered =>
      intro question member verdict told
      obtain rfl := List.mem_singleton.1 member
      cases told
  · rw [ended]
    constructor
    case kept =>
      intro other before found
      exact get?_seed_of_some found package verdict
    case effective =>
      intro effect same
      cases same
      refine (get?_seed ..).trans ?_
      rw [if_pos (by rfl), seeded, unknown]
      rfl
    case seeding => rintro other told ⟨⟩
    case failing => rintro e ⟨⟩
    case asking =>
      intro question member
      obtain rfl := List.mem_singleton.1 member
      exact ⟨rfl, unknown, loader, locator, rfl⟩
    case answered =>
      intro question member other told
      obtain rfl := List.mem_singleton.1 member
      exact told

theorem lawful_event (cache : ModuleCache) (world : World) (operation : Operation World) :
    (operation.event cache world).1.Lawful := by
  cases operation with
  | seed package verdict => exact lawful_seed cache world package verdict
  | resolve loader locator package => exact lawful_resolve cache world loader locator package

theorem before_event (cache : ModuleCache) (world : World) (operation : Operation World) :
    (operation.event cache world).1.before = cache := by
  cases operation <;> rfl

theorem lawful_history (cache : ModuleCache) (world : World) (operations : List (Operation World)) :
    ∀ event ∈ history cache world operations, event.Lawful := by
  induction operations generalizing cache world with
  | nil => rintro event ⟨⟩
  | cons operation operations ih =>
    exact List.forall_mem_cons.2 ⟨lawful_event cache world operation, ih _ _⟩

theorem get?_history {cache : ModuleCache} {package : String} {verdict : Option String}
    (known : cache.get? package = some verdict) (world : World)
    (operations : List (Operation World)) :
    ∀ event ∈ history cache world operations, event.before.get? package = some verdict ∧
      event.after.get? package = some verdict := by
  induction operations generalizing cache world with
  | nil => rintro event ⟨⟩
  | cons operation operations ih =>
    have before := known
    rw [← before_event cache world operation] at before
    have after := (lawful_event cache world operation).kept package verdict before
    exact List.forall_mem_cons.2 ⟨⟨before, after⟩, ih after _⟩

theorem lasting_history (cache : ModuleCache) (world : World)
    (operations : List (Operation World)) :
    (history cache world operations).Pairwise fun event later => ∀ package verdict,
      event.after.get? package = some verdict →
        later.before.get? package = some verdict ∧ later.after.get? package = some verdict := by
  induction operations generalizing cache world with
  | nil => exact .nil
  | cons operation operations ih =>
    refine List.pairwise_cons.2 ⟨?_, ih _ _⟩
    intro later member package verdict known
    exact get?_history known _ operations later member

theorem exists_last (cache : ModuleCache) (world : World) (operations : List (Operation World)) :
    ∃ last : ModuleCache,
      (∀ package verdict, cache.get? package = some verdict → last.get? package = some verdict) ∧
      ∀ event ∈ history cache world operations, ∀ package verdict,
        event.after.get? package = some verdict → last.get? package = some verdict := by
  induction operations generalizing cache world with
  | nil => exact ⟨cache, fun _ _ known => known, by rintro event ⟨⟩⟩
  | cons operation operations ih =>
    obtain ⟨last, behind, others⟩ := ih (operation.event cache world).1.after _
    refine ⟨last, ?_, List.forall_mem_cons.2 ⟨behind, others⟩⟩
    intro package verdict known
    rw [← before_event cache world operation] at known
    exact behind package verdict ((lawful_event cache world operation).kept package verdict known)

def told (package : String) (events : List (Event World)) : List Question :=
  (events.flatMap Event.asked).filter fun question =>
    question.package = package && question.answer.isOk

theorem told_of_known {cache : ModuleCache} {package : String} {verdict : Option String}
    (known : cache.get? package = some verdict) (world : World)
    (operations : List (Operation World)) : told package (history cache world operations) = [] := by
  apply List.filter_eq_nil_iff.2
  intro question member answered
  obtain ⟨event, done, asked⟩ := List.mem_flatMap.1 member
  obtain ⟨-, unknown, -⟩ := (lawful_history cache world operations event done).asking question asked
  obtain ⟨same, -⟩ := Bool.and_eq_true_iff.1 answered
  rw [of_decide_eq_true same, (get?_history known world operations event done).1] at unknown
  cases unknown

theorem Event.Lawful.told {event : Event World} (lawful : event.Lawful) (package : String) :
    told package [event] = [] ∨ (told package [event]).length = 1 ∧
      ∃ verdict, event.after.get? package = some verdict := by
  have here : ModuleCache.told package [event] = event.asked.filter fun question =>
      question.package = package && question.answer.isOk := by
    simp [ModuleCache.told]
  rcases answered : ModuleCache.told package [event] with _ | ⟨question, others⟩
  · exact .inl rfl
  · right
    have member : question ∈ ModuleCache.told package [event] := by simp [answered]
    rw [here, List.mem_filter, Bool.and_eq_true, decide_eq_true_eq] at member
    obtain ⟨asked, rfl, isOk⟩ := member
    obtain ⟨alone, -, loader, locator, resolving⟩ := lawful.asking question asked
    constructor
    · rw [← answered, here, alone]
      simp [isOk]
    · cases answer : question.answer with
      | error e => simp [answer, Except.isOk, Except.toBool] at isOk
      | ok verdict =>
        have known := lawful.effective verdict (lawful.answered question asked verdict answer)
        rw [resolving] at known
        exact ⟨verdict, known⟩

theorem length_told_le (cache : ModuleCache) (world : World) (operations : List (Operation World))
    (package : String) : (told package (history cache world operations)).length ≤ 1 := by
  induction operations generalizing cache world with
  | nil => simp [told, history]
  | cons operation operations ih =>
    let event := (operation.event cache world).1
    let later := history event.after (operation.event cache world).2 operations
    have parts : told package (history cache world (operation :: operations)) =
        told package [event] ++ told package later := by
      simp only [told, history, List.flatMap_cons, List.flatMap_nil, List.append_nil,
        List.filter_append, event, later]
    rw [parts, List.length_append]
    -- An answer leaves a verdict behind, and about a known package nobody is asked.
    rcases (lawful_event cache world operation).told package with none | ⟨one, verdict, known⟩
    · rw [show told package [event] = [] from none, List.length_nil, Nat.zero_add]
      exact ih event.after _
    · rw [show (told package [event]).length = 1 from one, told_of_known known]
      simp

/-- What operations on one cache do, whatever loaders they go through. -/
structure Consistent (events : List (Event World)) : Prop where
  lawful : ∀ event ∈ events, event.Lawful
  lasting : events.Pairwise fun event later => ∀ package verdict,
    event.after.get? package = some verdict →
      later.before.get? package = some verdict ∧ later.after.get? package = some verdict
  agreeing : ∀ event ∈ events, ∀ other ∈ events,
    event.operation.package = other.operation.package → ∀ verdict another,
      event.result = .ok verdict → other.result = .ok another → verdict = another
  once : ∀ package, (told package events).length ≤ 1

/-- Whatever is done to a cache, and whatever the loaders answer: the first verdict on a package
stays, every operation that does not fail answers with it, and behind it no loader is asked about
the package. An operation that fails leaves the cache as it was. -/
theorem history_consistent (cache : ModuleCache) (world : World)
    (operations : List (Operation World)) : Consistent (history cache world operations) := by
  have lasting := lasting_history cache world operations
  have lawful := lawful_history cache world operations
  constructor
  case lawful => exact lawful
  case lasting => exact lasting
  case agreeing =>
    -- Both answers are the verdict of the last cache.
    obtain ⟨last, -, final⟩ := exists_last cache world operations
    intro event done other again same verdict another first second
    have one := final event done _ _ ((lawful event done).effective verdict first)
    have two := final other again _ _ ((lawful other again).effective another second)
    rw [same, two] at one
    exact (Option.some.inj one).symm
  case once => exact length_told_le cache world operations

end TestReach.ModuleCache
