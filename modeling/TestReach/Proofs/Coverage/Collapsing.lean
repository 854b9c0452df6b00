import TestReach.Proofs.Coverage.Instrumenting
import TestReach.Proofs.Graph.Lasting

/-!
# Collapsed dependencies

What is told of a function depends on the function alone: its node, its declaration and the module
that its package is in, whichever target reached it. So nothing is lost when the lists of all
targets are put together and each function is kept where it comes first.
-/

namespace TestReach

namespace Dependency

variable {seen : List Function} {ds more : List Dependency} {d : Dependency}

theorem collapseFrom_congr {other : List Function} (same : ∀ f, f ∈ seen ↔ f ∈ other) :
    collapseFrom seen ds = collapseFrom other ds := by
  induction ds generalizing seen other with
  | nil => rfl
  | cons d ds ih =>
    have known : seen.contains d.function = other.contains d.function := by
      rw [Bool.eq_iff_iff, List.contains_iff_mem, List.contains_iff_mem, same]
    have next (f : Function) : f ∈ d.function :: seen ↔ f ∈ d.function :: other := by
      rw [List.mem_cons, List.mem_cons, same]
    rw [collapseFrom, collapseFrom, known, ih same, ih next]

theorem collapseFrom_append : collapseFrom seen (ds ++ more) =
    collapseFrom seen ds ++ collapseFrom (ds.map function ++ seen) more := by
  induction ds generalizing seen with
  | nil => rfl
  | cons d ds ih =>
    rw [List.cons_append, collapseFrom, collapseFrom, ih, ih]
    split
    · rename_i known
      rw [List.contains_iff_mem] at known
      congr 1
      apply collapseFrom_congr
      intro f
      simp only [List.map_cons, List.cons_append, List.mem_append, List.mem_cons]
      constructor
      · exact .inr
      · rintro (rfl | member)
        · exact .inr known
        · exact member
    · rw [List.cons_append]
      congr 2
      apply collapseFrom_congr
      intro f
      simp [or_left_comm]

theorem collapseFrom_eq_nil (known : ∀ d ∈ ds, d.function ∈ seen) : collapseFrom seen ds = [] := by
  induction ds with
  | nil => rfl
  | cons d ds ih =>
    obtain ⟨here, others⟩ := List.forall_mem_cons.1 known
    rw [collapseFrom, if_pos (List.contains_iff_mem.2 here), ih others]

theorem collapseFrom_eq_self (distinct : (ds.map function).Nodup)
    (fresh : ∀ d ∈ ds, d.function ∉ seen) : collapseFrom seen ds = ds := by
  induction ds generalizing seen with
  | nil => rfl
  | cons d ds ih =>
    obtain ⟨here, others⟩ := List.forall_mem_cons.1 fresh
    rw [List.map_cons, List.nodup_cons] at distinct
    rw [collapseFrom, if_neg (by simpa using here), ih distinct.2]
    intro other member
    rw [List.mem_cons, not_or]
    refine ⟨?_, others other member⟩
    intro same
    exact distinct.1 (same ▸ List.mem_map_of_mem member)

theorem not_mem_of_mem_collapseFrom (member : d ∈ collapseFrom seen ds) : d.function ∉ seen := by
  induction ds generalizing seen with
  | nil => cases member
  | cons first ds ih =>
    rw [collapseFrom] at member
    split at member
    · exact ih member
    · rename_i fresh
      rcases List.mem_cons.1 member with rfl | member
      · simpa using fresh
      · exact fun known => ih member (List.mem_cons_of_mem _ known)

theorem pairwise_collapseFrom (seen : List Function) (ds : List Dependency) :
    (collapseFrom seen ds).Pairwise fun first second =>
      (ds.map function).idxOf first.function < (ds.map function).idxOf second.function := by
  induction ds generalizing seen with
  | nil => exact .nil
  | cons d ds ih =>
    -- Whatever is kept of the rest has another function, so its place is one further on.
    have behind (known : List Function) (here : d.function ∈ known) :
        (collapseFrom known ds).Pairwise fun first second =>
          ((d :: ds).map function).idxOf first.function <
            ((d :: ds).map function).idxOf second.function := by
      refine (ih known).imp_of_mem ?_
      intro first second atFirst atSecond order
      have other (e : Dependency) (member : e ∈ collapseFrom known ds) :
          d.function ≠ e.function := by
        intro same
        exact not_mem_of_mem_collapseFrom member (same ▸ here)
      rw [List.map_cons, List.idxOf_cons_ne _ (other first atFirst),
        List.idxOf_cons_ne _ (other second atSecond)]
      exact Nat.succ_lt_succ order
    rw [collapseFrom]
    split
    · rename_i known
      exact behind seen (List.contains_iff_mem.1 known)
    · refine List.pairwise_cons.2 ⟨?_, behind _ List.mem_cons_self⟩
      intro e member
      have other : d.function ≠ e.function := by
        intro same
        exact not_mem_of_mem_collapseFrom member (by simp [same])
      rw [List.map_cons, List.idxOf_cons_self, List.idxOf_cons_ne _ other]
      exact Nat.succ_pos _

theorem pairwise_collapse (ds : List Dependency) :
    (collapse ds).Pairwise fun first second =>
      (ds.map function).idxOf first.function < (ds.map function).idxOf second.function :=
  pairwise_collapseFrom [] ds

theorem nodup_collapse (ds : List Dependency) : ((collapse ds).map function).Nodup := by
  rw [List.Nodup, List.pairwise_map]
  refine (pairwise_collapse ds).imp ?_
  intro first second order same
  rw [same] at order
  exact Nat.lt_irrefl _ order

theorem collapse_collapse (ds : List Dependency) : collapse (collapse ds) = collapse ds :=
  collapseFrom_eq_self (nodup_collapse ds) (by simp)

theorem collapse_append_of_known (known : ∀ e ∈ more, ∃ d ∈ ds, d.function = e.function) :
    collapse (ds ++ more) = collapse ds := by
  have gone : collapseFrom (ds.map function ++ []) more = [] := by
    apply collapseFrom_eq_nil
    intro e member
    obtain ⟨d, listed, same⟩ := known e member
    exact List.mem_append_left _ (same ▸ List.mem_map_of_mem listed)
  rw [collapse, collapseFrom_append, gone, List.append_nil, collapse]

theorem distinctFrom_collapseFrom (isLeftOut : String → Bool) {known : List String}
    (came : ∀ f ∈ seen, isLeftOut f.package = false → f.package ∈ known) :
    distinctFrom known (((collapseFrom seen ds).map fun d => d.function.package).filter
        fun p => !isLeftOut p) =
      distinctFrom known ((ds.map fun d => d.function.package).filter fun p => !isLeftOut p) := by
  -- The packages of functions that are left out came with them.
  induction ds generalizing seen known with
  | nil => rfl
  | cons d ds ih =>
    rw [collapseFrom, List.map_cons, List.filter_cons]
    by_cases left : isLeftOut d.function.package = true
    · have after : ∀ f ∈ d.function :: seen, isLeftOut f.package = false → f.package ∈ known := by
        refine List.forall_mem_cons.2 ⟨?_, came⟩
        intro kept
        rw [left] at kept
        cases kept
      simp only [left, Bool.not_true, Bool.false_eq_true, if_false]
      split
      · exact ih came
      · rw [List.map_cons, List.filter_cons]
        simp only [left, Bool.not_true, Bool.false_eq_true, if_false]
        exact ih after
    · rw [Bool.not_eq_true] at left
      simp only [left, Bool.not_false, if_true]
      by_cases member : d.function.package ∈ known
      · have after : ∀ f ∈ d.function :: seen, isLeftOut f.package = false → f.package ∈ known :=
          List.forall_mem_cons.2 ⟨fun _ => member, came⟩
        rw [distinctFrom, if_pos (List.contains_iff_mem.2 member)]
        split
        · exact ih came
        · rw [List.map_cons, List.filter_cons]
          simp only [left, Bool.not_false, if_true]
          rw [distinctFrom, if_pos (List.contains_iff_mem.2 member)]
          exact ih after
      · have fresh : d.function ∉ seen := fun there => member (came _ there left)
        rw [if_neg (by simpa using fresh), List.map_cons, List.filter_cons]
        simp only [left, Bool.not_false, if_true]
        rw [distinctFrom, if_neg (by simpa using member), distinctFrom,
          if_neg (by simpa using member), ih]
        refine List.forall_mem_cons.2 ⟨fun _ => List.mem_cons_self, ?_⟩
        exact fun f there kept => List.mem_cons_of_mem _ (came f there kept)

theorem packages_collapse (ds : List Dependency) (files : FileIndex) :
    packages (collapse ds) files = packages ds files :=
  distinctFrom_collapseFrom files.isExternalTest (by simp)

end Dependency

theorem CallGraph.wellFormed_purge (packages : List Package) :
    (CallGraph.ofPackages packages).purge.WellFormed :=
  (CallGraph.lasts_ofPackages packages).wf.purge

namespace Dataset

open Dependency

variable {dataset : Dataset} {answers : String → Except Failure (Option String)} {root : Nat}
  {ds : List Dependency} {d : Dependency} {reached : List (Function × List Dependency)}

/-- A node to which the calls of some target lead inside the module of that target. -/
def Reaches (dataset : Dataset) (answers : String → Except Failure (Option String)) (i : Nat) :
    Prop :=
  ∃ target ∈ dataset.targets, ∃ module length, dataset.Path answers module target.2 length i

/-- What is told of a function, whichever target reached it. -/
structure Tells (dataset : Dataset) (answers : String → Except Failure (Option String))
    (d : Dependency) : Prop where
  located : dataset.graph.function? d.node = some d.function
  inside : answers d.function.package = .ok (some d.module)
  content : d = dataset.dependency d.module d.node d.function

theorem Tells.eq (wf : dataset.graph.WellFormed) {e : Dependency}
    (first : dataset.Tells answers d) (second : dataset.Tells answers e)
    (same : d.function = e.function) : d = e := by
  have node : d.node = e.node := wf.function?_inj first.located (same ▸ second.located)
  have module : d.module = e.module := by
    have verdicts := first.inside
    rw [same, second.inside, Except.ok.injEq, Option.some.injEq] at verdicts
    exact verdicts.symm
  rw [first.content, second.content, node, module, same]

theorem Emits.tells {module : String} (emits : dataset.Emits answers module root ds)
    (member : d ∈ ds) : dataset.Tells answers d := by
  have located := emits.function? member
  obtain ⟨node, -, content⟩ := emits.content d member
  have here : d.module = module := by rw [content, dependency]
  obtain ⟨length, path⟩ := (emits.mem_iff d.node).1 (List.mem_map_of_mem member)
  have inside := ((stays_iff located).1 path.stays).2
  refine ⟨located, here ▸ inside, ?_⟩
  have whose : d.function = node.function := by rw [content, dependency]
  rw [here, whose]
  exact content

theorem exists_mem_of_mapM {α β : Type} {f : α → Except Failure β} {as : List α} {bs : List β}
    (done : as.mapM f = .ok bs) {a : α} (member : a ∈ as) : ∃ b ∈ bs, f a = .ok b := by
  induction as generalizing bs with
  | nil => cases member
  | cons first as ih =>
    rw [List.mapM_cons] at done
    obtain ⟨b, here, done⟩ := bind_ok done
    obtain ⟨others, rest, done⟩ := bind_ok done
    cases done
    rcases List.mem_cons.1 member with rfl | member
    · exact ⟨b, List.mem_cons_self, here⟩
    · obtain ⟨other, among, there⟩ := ih rest member
      exact ⟨other, List.mem_cons_of_mem _ among, there⟩

theorem Path.stays_root {module : String} {length i : Nat}
    (path : dataset.Path answers module root length i) : dataset.Stays answers module root := by
  induction path with
  | root stays => exact stays
  | call _ _ _ ih => exact ih

theorem extract_emits (done : dataset.extract answers (some root) = .ok ds) :
    ∃ module, dataset.Emits answers module root ds ∧
      ∀ other, dataset.Stays answers other root → other = module := by
  cases live : dataset.graph.node? root with
  | none =>
    rw [extract] at done
    simp only [live] at done
    cases done
  | some node =>
    obtain ⟨module, inside, emits, -⟩ := extract_ok live done
    refine ⟨module, emits, ?_⟩
    rintro other ⟨_, found, -, verdict⟩
    rw [live, Option.some.injEq] at found
    rw [← found, inside, Except.ok.injEq, Option.some.injEq] at verdict
    exact verdict.symm

section

variable (done : dataset.extractAll answers = .ok reached)

include done

theorem tells_of_mem (member : d ∈ reached.flatMap Prod.snd) : dataset.Tells answers d := by
  obtain ⟨entry, among, listed⟩ := List.mem_flatMap.1 member
  obtain ⟨target, -, extracted⟩ := (mem_mapM_iff done).1 among
  obtain ⟨module, emits, -⟩ := extract_emits (extractTarget_ok extracted).2
  exact emits.tells listed

theorem exists_node_iff {i : Nat} :
    (∃ d ∈ reached.flatMap Prod.snd, d.node = i) ↔ dataset.Reaches answers i := by
  constructor
  · rintro ⟨d, member, rfl⟩
    obtain ⟨entry, among, listed⟩ := List.mem_flatMap.1 member
    obtain ⟨target, chosen, extracted⟩ := (mem_mapM_iff done).1 among
    obtain ⟨module, emits, -⟩ := extract_emits (extractTarget_ok extracted).2
    obtain ⟨length, path⟩ := (emits.mem_iff d.node).1 (List.mem_map_of_mem listed)
    exact ⟨target, chosen, module, length, path⟩
  · rintro ⟨target, chosen, module, length, path⟩
    obtain ⟨entry, among, extracted⟩ := exists_mem_of_mapM done chosen
    obtain ⟨own, emits, only⟩ := extract_emits (extractTarget_ok extracted).2
    obtain rfl := only module path.stays_root
    obtain ⟨d, listed, here⟩ := List.mem_map.1 ((emits.mem_iff i).2 ⟨length, path⟩)
    exact ⟨d, List.mem_flatMap.2 ⟨entry, among, listed⟩, here⟩

end

/-- What becomes of the lists of all targets when they are collapsed. -/
structure Lossless (dataset : Dataset) (answers : String → Except Failure (Option String))
    (ds : List Dependency) : Prop where
  agree : ∀ d ∈ ds, ∀ e ∈ ds, d.function = e.function → d = e
  tells : ∀ d ∈ ds, dataset.Tells answers d
  kept : ∀ d, d ∈ collapse ds ↔ d ∈ ds
  once : ((collapse ds).map function).Nodup
  reached : ∀ f, f ∈ (collapse ds).map function ↔
    ∃ i, dataset.Reaches answers i ∧ dataset.graph.function? i = some f
  order : (collapse ds).Pairwise fun first second =>
    (ds.map function).idxOf first.function < (ds.map function).idxOf second.function

theorem extractAll_lossless (wf : dataset.graph.WellFormed)
    (done : dataset.extractAll answers = .ok reached) :
    dataset.Lossless answers (reached.flatMap Prod.snd) := by
  have agree : ∀ d ∈ reached.flatMap Prod.snd, ∀ e ∈ reached.flatMap Prod.snd,
      d.function = e.function → d = e := by
    intro d first e second
    exact (tells_of_mem done first).eq wf (tells_of_mem done second)
  have kept (d : Dependency) :
      d ∈ collapse (reached.flatMap Prod.snd) ↔ d ∈ reached.flatMap Prod.snd := by
    refine ⟨mem_of_mem_collapse, ?_⟩
    intro member
    obtain ⟨e, among, same⟩ := exists_mem_collapse member
    exact agree e (mem_of_mem_collapse among) d member same ▸ among
  refine ⟨agree, fun d => tells_of_mem done, kept, nodup_collapse _, ?_, pairwise_collapse _⟩
  intro f
  rw [List.mem_map]
  constructor
  · rintro ⟨d, member, rfl⟩
    rw [kept] at member
    exact ⟨d.node, (exists_node_iff done).1 ⟨d, member, rfl⟩, (tells_of_mem done member).located⟩
  · rintro ⟨i, reaches, found⟩
    obtain ⟨d, member, rfl⟩ := (exists_node_iff done).2 reaches
    have located := (tells_of_mem done member).located
    rw [found, Option.some.injEq] at located
    exact ⟨d, (kept d).2 member, located.symm⟩

variable {m : Type → Type} [Monad m] [LawfulMonad m]

/-- Where a loader tells modules without effects, collapsing the lists of all targets loses
nothing: each function that some target reaches is kept where it comes first, with all that is told
of it. -/
theorem collapse_lossless (dataset : Dataset) (wf : dataset.graph.WellFormed) (loader : Loader m)
    (locator : Locator) (told : String → Except Failure (Option String))
    (asks : ∀ package, loader.moduleOf locator package = pure (told package))
    (cache : ModuleCache) :
    (∃ result after,
      (dataset.extractAll (Analysis.resolve loader locator)).run.run cache =
        pure (result, after) ∧
      ∀ reached, result = .ok reached →
        dataset.Lossless (cache.answer told) (reached.flatMap Prod.snd)) ∧
    (∀ ds, collapse (collapse ds) = collapse ds) ∧
    (∀ ds more, (∀ e ∈ more, ∃ d ∈ ds, d.function = e.function) →
      collapse (ds ++ more) = collapse ds) ∧
    ∀ ds files, packages (collapse ds) files = packages ds files := by
  refine ⟨?_, collapse_collapse, fun _ _ => collapse_append_of_known, packages_collapse⟩
  have resolves (package : String) : Analysis.Determined told (cache.answer told)
      (Analysis.resolve loader locator package) (cache.answer told package) :=
    Analysis.determined_resolve asks package
  obtain ⟨after, -, ran⟩ := determined_extractAll resolves dataset cache rfl
  exact ⟨_, after, ran, fun reached => extractAll_lossless wf⟩

def forked : Dataset where
  graph := .ofEdits [.function ⟨"m", "A"⟩, .function ⟨"m", "B"⟩, .function ⟨"m", "C"⟩,
    .edge 0 2 3, .edge 1 2 4]
  targets := [(⟨"m", "A"⟩, 0), (⟨"m", "B"⟩, 1)]
  declarations := .empty
  files := .ofPackages []

def forkedReached : List (Function × List Dependency) :=
  let common := forked.dependency "m" 2 ⟨"m", "C"⟩
  [(⟨"m", "A"⟩, [forked.dependency "m" 0 ⟨"m", "A"⟩, common]),
    (⟨"m", "B"⟩, [forked.dependency "m" 1 ⟨"m", "B"⟩, common])]

theorem extractAll_forked :
    forked.extractAll (ModuleCache.empty.answer ownModules) = .ok forkedReached := by
  have inside : ModuleCache.empty.answer ownModules "m" = .ok (some "m") := rfl
  have common : forked.graph.node? 2 = some ⟨⟨"m", "C"⟩, false⟩ := by decide
  have ended (visited : List Nat) :
      forked.walk (ModuleCache.empty.answer ownModules) "m" visited [] = .ok [] := by
    rw [walk]
    rfl
  have first : forked.graph.node? 0 = some ⟨⟨"m", "A"⟩, false⟩ := by decide
  have second : forked.graph.node? 1 = some ⟨⟨"m", "B"⟩, false⟩ := by decide
  have fromFirst : forked.walk (ModuleCache.empty.answer ownModules) "m" [] [0] =
      .ok [forked.dependency "m" 0 ⟨"m", "A"⟩, forked.dependency "m" 2 ⟨"m", "C"⟩] :=
    walk_inside (by decide) first (by decide) inside
      (walk_inside (by decide) common (by decide) inside (ended _))
  have fromSecond : forked.walk (ModuleCache.empty.answer ownModules) "m" [] [1] =
      .ok [forked.dependency "m" 1 ⟨"m", "B"⟩, forked.dependency "m" 2 ⟨"m", "C"⟩] :=
    walk_inside (by decide) second (by decide) inside
      (walk_inside (by decide) common (by decide) inside (ended _))
  rw [extractAll, show forked.targets = [(⟨"m", "A"⟩, 0), (⟨"m", "B"⟩, 1)] from rfl,
    List.mapM_cons, List.mapM_cons, List.mapM_nil, extractTarget_of_walk first inside fromFirst,
    extractTarget_of_walk second inside fromSecond]
  rfl

theorem collapse_lossless_forked :
    forked.graph.WellFormed ∧
      (∀ package, ownModuleLoader.moduleOf ⟨".", none⟩ package = pure (ownModules package)) ∧
      forked.Lossless (ModuleCache.empty.answer ownModules)
        (forkedReached.flatMap Prod.snd) := by
  have wf : forked.graph.WellFormed := CallGraph.wellFormed_ofEdits _
  obtain ⟨⟨result, after, ran, lossless⟩, -⟩ := collapse_lossless forked wf ownModuleLoader
    ⟨".", none⟩ ownModules (fun _ => rfl) .empty
  have resolves (package : String) : Analysis.Determined ownModules
      (ModuleCache.empty.answer ownModules) (Analysis.resolve ownModuleLoader ⟨".", none⟩ package)
      (ModuleCache.empty.answer ownModules package) :=
    Analysis.determined_resolve (fun _ => rfl) package
  obtain ⟨_, -, reached⟩ := determined_extractAll resolves forked .empty rfl
  have same : pure (result, after) = (pure _ : Id _) := ran.symm.trans reached
  have succeeded : result = .ok forkedReached :=
    (Prod.mk.inj same).1.trans extractAll_forked
  exact ⟨wf, fun _ => rfl, lossless _ succeeded⟩

end Dataset

end TestReach
