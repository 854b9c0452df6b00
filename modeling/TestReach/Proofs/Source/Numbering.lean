import TestReach.Proofs.Analysis.Identity
import Mathlib.Data.List.Forall2
import Mathlib.Data.List.Nodup

/-!
# Numbered initialisation functions

A package may declare any number of functions called `init`, so these get ordinals, counted through
its files as if their declarations stood in one list. What the count has come to before a
declaration decides its ordinal, and nothing else of a file changes.
-/

namespace TestReach.Source

namespace Declaration

def IsInit (d : Declaration) : Prop := d.receiver? = none ∧ d.name = "init"

instance : DecidablePred IsInit := fun d =>
  inferInstanceAs (Decidable (d.receiver? = none ∧ d.name = "init"))

def initName (ordinal : Nat) : String := "init#" ++ toString ordinal

def withOrdinal (d : Declaration) (ordinal : Nat) : Declaration :=
  { d with name := initName ordinal }

theorem initName_inj {m n : Nat} (same : initName m = initName n) : m = n := by
  have digits : Nat.toDigits 10 m = Nat.toDigits 10 n := by
    rw [← Nat.toList_repr, ← Nat.toList_repr, ← Nat.toString_eq_repr, ← Nat.toString_eq_repr,
      (String.append_right_inj _).1 same]
  calc
    m = Nat.ofDigitChars 10 (Nat.toDigits 10 m) 0 := Nat.ofDigitChars_ten_toDigits.symm
    _ = Nat.ofDigitChars 10 (Nat.toDigits 10 n) 0 := by rw [digits]
    _ = n := Nat.ofDigitChars_ten_toDigits

theorem not_isInit_withOrdinal (d : Declaration) (n : Nat) : ¬(d.withOrdinal n).IsInit := by
  rintro ⟨-, name⟩
  have mark : '#' ∈ (initName n).toList := by simp [initName]
  rw [show initName n = "init" from name] at mark
  exact absurd mark (by decide)

theorem function_withOrdinal {d : Declaration} (init : d.IsInit) (n : Nat) (package : String) :
    (d.withOrdinal n).function package = ⟨package, initName n⟩ := by
  rw [function, show (d.withOrdinal n).receiver? = none from init.1]
  rfl

theorem function_ne_initName {d : Declaration} (unnumbered : '#' ∉ d.name.toList) (n : Nat)
    (package : String) : d.function package ≠ ⟨package, initName n⟩ := by
  intro same
  have name : (d.function package).name = initName n := congrArg TestReach.Function.name same
  unfold function at name
  split at name
  · have first := congrArg (List.head? ∘ String.toList) name
    simp [TestReach.Function.method, TestReach.Function.toList_methodName, initName] at first
  · rw [show d.name = initName n from name] at unnumbered
    simp [initName] at unnumbered

end Declaration

open Declaration

theorem numberInits_cons_of_isInit {d : Declaration} (init : d.IsInit) (count : Nat)
    (ds : List Declaration) :
    numberInits count (d :: ds) =
      (d.withOrdinal (count + 1) :: (numberInits (count + 1) ds).1,
        (numberInits (count + 1) ds).2) := by
  rw [numberInits, if_pos (by simp [init.1, init.2])]
  rfl

theorem numberInits_cons_of_not {d : Declaration} (other : ¬d.IsInit) (count : Nat)
    (ds : List Declaration) :
    numberInits count (d :: ds) = (d :: (numberInits count ds).1, (numberInits count ds).2) := by
  rw [numberInits, if_neg (by simpa [IsInit] using other)]

theorem numberInits_append (count : Nat) (ds es : List Declaration) :
    numberInits count (ds ++ es) =
      ((numberInits count ds).1 ++ (numberInits (numberInits count ds).2 es).1,
        (numberInits (numberInits count ds).2 es).2) := by
  induction ds generalizing count with
  | nil => rfl
  | cons d ds ih =>
    by_cases init : d.IsInit
    · rw [List.cons_append, numberInits_cons_of_isInit init, numberInits_cons_of_isInit init, ih,
        List.cons_append]
    · rw [List.cons_append, numberInits_cons_of_not init, numberInits_cons_of_not init, ih,
        List.cons_append]

/-- What becomes of a declaration where ordinals have been given up to a count. -/
def Declaration.Counted (count : Nat) (d e : Declaration) : Prop :=
  d.IsInit ∧ (∃ n, count < n ∧ e = d.withOrdinal n) ∨ ¬d.IsInit ∧ e = d

theorem Declaration.Counted.mono {count later : Nat} {d e : Declaration} (le : count ≤ later)
    (counted : d.Counted later e) : d.Counted count e :=
  counted.imp_left fun ⟨init, n, above, numbered⟩ => ⟨init, n, le.trans_lt above, numbered⟩

theorem forall₂_numberInits (count : Nat) (ds : List Declaration) :
    List.Forall₂ (Declaration.Counted count) ds (numberInits count ds).1 := by
  induction ds generalizing count with
  | nil => exact .nil
  | cons d ds ih =>
    by_cases init : d.IsInit
    · rw [numberInits_cons_of_isInit init]
      exact .cons (.inl ⟨init, count + 1, Nat.lt_succ_self count, rfl⟩)
        ((ih (count + 1)).imp fun _ _ => Counted.mono (Nat.le_succ count))
    · rw [numberInits_cons_of_not init]
      exact .cons (.inr ⟨init, rfl⟩) (ih count)

theorem forall_not_isInit (count : Nat) (ds : List Declaration) :
    ∀ e ∈ (numberInits count ds).1, ¬e.IsInit := by
  induction ds generalizing count with
  | nil => simp [numberInits]
  | cons d ds ih =>
    by_cases init : d.IsInit
    · rw [numberInits_cons_of_isInit init]
      exact List.forall_mem_cons.2 ⟨not_isInit_withOrdinal d _, ih (count + 1)⟩
    · rw [numberInits_cons_of_not init]
      exact List.forall_mem_cons.2 ⟨init, ih count⟩

theorem numberInits_of_none {ds : List Declaration} (none : ∀ d ∈ ds, ¬d.IsInit) (count : Nat) :
    numberInits count ds = (ds, count) := by
  induction ds with
  | nil => rfl
  | cons d ds ih =>
    obtain ⟨here, behind⟩ := List.forall_mem_cons.1 none
    rw [numberInits_cons_of_not here, ih behind]

def renamedOf (given taken : List Declaration) : List (Declaration × Declaration) :=
  (given.zip taken).filter fun pair => pair.1.IsInit

theorem renamed_numberInits (count : Nat) (ds : List Declaration) :
    renamedOf ds (numberInits count ds).1 =
      ((ds.filter fun d => d.IsInit).zipIdx (count + 1)).map
        fun (d, n) => (d, d.withOrdinal n) := by
  unfold renamedOf
  induction ds generalizing count with
  | nil => rfl
  | cons d ds ih =>
    by_cases init : d.IsInit
    · simp [numberInits_cons_of_isInit init, init, ih]
    · simp [numberInits_cons_of_not init, init, ih]

theorem map_renamedOf {β : Type} {f : Declaration → β} {g : Nat → β}
    (same : ∀ d : Declaration, d.IsInit → ∀ n, f (d.withOrdinal n) = g n) (count : Nat)
    (ds : List Declaration) :
    (renamedOf ds (numberInits count ds).1).map (fun pair => f pair.2) =
      (List.range' (count + 1) (ds.countP fun d => d.IsInit)).map g := by
  rw [renamed_numberInits, List.countP_eq_length_filter, ← List.zipIdx_map_snd, List.map_map,
    List.map_map]
  apply List.map_congr_left
  rintro ⟨d, n⟩ member
  have init : d.IsInit := by simpa using (List.mem_filter.1 (List.fst_mem_of_mem_zipIdx member)).2
  exact same d init n

theorem functions_renamedOf (count : Nat) (ds : List Declaration) (package : String) :
    (renamedOf ds (numberInits count ds).1).map (fun pair => pair.2.function package) =
      (List.range' (count + 1) (ds.countP fun d => d.IsInit)).map fun n => ⟨package, initName n⟩ :=
  map_renamedOf (f := fun d => d.function package)
    (fun _ init n => function_withOrdinal init n package) count ds

theorem nodup_functions_renamedOf (count : Nat) (ds : List Declaration) (package : String) :
    ((renamedOf ds (numberInits count ds).1).map fun pair => pair.2.function package).Nodup := by
  rw [functions_renamedOf]
  refine List.Nodup.map ?_ List.nodup_range'
  exact fun m n same => initName_inj (congrArg TestReach.Function.name same)

theorem isBuiltIn_of_mem_renamedOf {count : Nat} {ds : List Declaration}
    {pair : Declaration × Declaration} (member : pair ∈ renamedOf ds (numberInits count ds).1)
    (package : String) : (pair.2.function package).isBuiltIn = true := by
  have listed := List.mem_map_of_mem (f := fun pair => pair.2.function package) member
  rw [functions_renamedOf] at listed
  obtain ⟨n, -, same⟩ := List.mem_map.1 listed
  rw [← same]
  exact isBuiltIn_numbered package (toString n)

theorem pairwise_numberInits {ds : List Declaration}
    (unnumbered : ∀ d ∈ ds, '#' ∉ d.name.toList) (count : Nat) (package : String) :
    (ds.zip (numberInits count ds).1).Pairwise fun one other =>
      one.1.IsInit ∨ other.1.IsInit → one.2.function package ≠ other.2.function package := by
  induction ds generalizing count with
  | nil => exact .nil
  | cons d ds ih =>
    obtain ⟨here, behind⟩ := List.forall_mem_cons.1 unnumbered
    have counted {count : Nat} {given taken : Declaration}
        (member : (given, taken) ∈ ds.zip (numberInits count ds).1) :
        given.Counted count taken ∧ '#' ∉ given.name.toList :=
      ⟨List.forall₂_zip (forall₂_numberInits count ds) member,
        behind given (List.of_mem_zip member).1⟩
    -- behind an ordinal there are only greater ones
    by_cases init : d.IsInit
    · rw [numberInits_cons_of_isInit init, List.zip_cons_cons, List.pairwise_cons]
      refine ⟨?_, ih behind (count + 1)⟩
      rintro ⟨given, taken⟩ member -
      rw [function_withOrdinal init]
      obtain ⟨⟨also, n, above, rfl⟩ | ⟨-, rfl⟩, plain⟩ := counted member
      · rw [function_withOrdinal also]
        intro same
        have ordinals := initName_inj (congrArg TestReach.Function.name same)
        omega
      · exact (function_ne_initName plain (count + 1) package).symm
    · rw [numberInits_cons_of_not init, List.zip_cons_cons, List.pairwise_cons]
      refine ⟨?_, ih behind count⟩
      rintro ⟨given, taken⟩ member either
      have also : given.IsInit := either.resolve_left init
      obtain ⟨⟨-, n, -, rfl⟩ | ⟨other, -⟩, -⟩ := counted member
      · rw [function_withOrdinal also]
        exact function_ne_initName here n package
      · exact absurd also other

theorem flatMap_numberFileInits (count : Nat) (files : List File) :
    (numberFileInits count files).flatMap File.declarations =
      (numberInits count (files.flatMap File.declarations)).1 := by
  -- The count goes on from file to file as it does from one declaration to the next.
  induction files generalizing count with
  | nil => rfl
  | cons file files ih =>
    rw [numberFileInits, List.flatMap_cons, ih, List.flatMap_cons, numberInits_append]

theorem flatMap_numbered (files : List File) :
    (numbered files).flatMap File.declarations =
      (numberInits 0 (files.flatMap File.declarations)).1 :=
  flatMap_numberFileInits 0 files

/-- A declaration that has all but its name from another, and from one that is no initialisation
function its name too. -/
def Declaration.Kept (d e : Declaration) : Prop :=
  e = { d with name := e.name } ∧ (¬d.IsInit → e = d)

theorem Declaration.Counted.kept {count : Nat} {d e : Declaration} (counted : d.Counted count e) :
    d.Kept e := by
  obtain ⟨init, n, -, rfl⟩ | ⟨-, rfl⟩ := counted
  · exact ⟨rfl, fun other => absurd init other⟩
  · exact ⟨rfl, fun _ => rfl⟩

structure File.Kept (file other : File) : Prop where
  rest : other = { file with declarations := other.declarations }
  declarations : List.Forall₂ Declaration.Kept file.declarations other.declarations

theorem forall₂_numberFileInits (count : Nat) (files : List File) :
    List.Forall₂ File.Kept files (numberFileInits count files) := by
  induction files generalizing count with
  | nil => exact .nil
  | cons file files ih =>
    exact .cons ⟨rfl, (forall₂_numberInits count file.declarations).imp fun _ _ => Counted.kept⟩
      (ih (numberInits count file.declarations).2)

theorem numberFileInits_of_none {files : List File}
    (none : ∀ d ∈ files.flatMap File.declarations, ¬d.IsInit) (count : Nat) :
    numberFileInits count files = files := by
  induction files with
  | nil => rfl
  | cons file files ih =>
    rw [List.flatMap_cons, List.forall_mem_append] at none
    have same := numberInits_of_none none.1 count
    simp only [numberFileInits, same, ih none.2]

/-- Numbering leaves the files of a package and their declarations in their places and changes
nothing but the names of initialisation functions. In the order of files and declarations these get
the ordinals from one on, each of them once, and numbering again changes nothing. Their functions
are all different and built in, and if the files are as they were read, no other declaration has the
function of one of them. -/
theorem numbered_inits [Parser] [Parser.Naming] (files : List File) :
    let given := files.flatMap File.declarations
    let taken := (numbered files).flatMap File.declarations
    let renamed := renamedOf given taken
    List.Forall₂ File.Kept files (numbered files) ∧
      renamed.map (fun pair => pair.2.name) =
        (List.range' 1 (given.countP fun d => d.IsInit)).map initName ∧
      numbered (numbered files) = numbered files ∧
      (∀ package, (renamed.map fun pair => pair.2.function package).Nodup ∧
        ∀ pair ∈ renamed, (pair.2.function package).isBuiltIn = true) ∧
      ((∀ file ∈ files, ∃ path source, File.parse path source = .ok file) →
        ∀ package, (given.zip taken).Pairwise fun one other => one.1.IsInit ∨ other.1.IsInit →
          one.2.function package ≠ other.2.function package) := by
  rw [flatMap_numbered]
  intro given taken renamed
  refine ⟨forall₂_numberFileInits 0 files, map_renamedOf (fun _ _ _ => rfl) 0 given, ?_,
    fun package => ⟨nodup_functions_renamedOf 0 given package,
      fun pair member => isBuiltIn_of_mem_renamedOf member package⟩, ?_⟩
  · apply numberFileInits_of_none
    rw [flatMap_numbered]
    exact forall_not_isInit 0 given
  · intro parsed package
    apply pairwise_numberInits
    intro d member
    obtain ⟨file, listed, declared⟩ := List.mem_flatMap.1 member
    obtain ⟨path, source, read⟩ := parsed file listed
    exact not_mem_name_of_parse read (by decide) (by decide) d declared

def laterSource : String :=
  "package m\nfunc init() \x7b\x7d\nfunc main() \x7b\x7d\nfunc init() \x7b\x7d\n"

def laterTree : Tree :=
  .node .plain .sourceFile ⟨⟨0, 0⟩, ⟨55, 4⟩⟩ [
    .on 0 0 9 .plain .packageClause [.on 0 8 9 .plain .packageIdentifier []],
    .on 1 10 24 .plain .functionDeclaration [
      .on 1 15 19 .name .identifier [], .on 1 19 21 .plain .parameterList [],
      .on 1 22 24 .body .block []],
    .on 2 25 39 .plain .functionDeclaration [
      .on 2 30 34 .name .identifier [], .on 2 34 36 .plain .parameterList [],
      .on 2 37 39 .body .block []],
    .on 3 40 54 .plain .functionDeclaration [
      .on 3 45 49 .name .identifier [], .on 3 49 51 .plain .parameterList [],
      .on 3 52 54 .body .block []]]

local instance laterParser : Parser :=
  .ofList [(starredSource, starredTree), (laterSource, laterTree)]

local instance laterNaming : Parser.Naming := Parser.promises_ofList (by decide +kernel)

def laterHook (name : String) (line : Nat) : Declaration :=
  ⟨name, none, "n.go", line, line, true, 1, []⟩

def laterFile : File :=
  ⟨"n.go", "m", [], [laterHook "init" 2, laterHook "main" 3, laterHook "init" 4], [], []⟩

theorem numbered_inits_starred :
    let files := [starredFile, laterFile]
    let given := files.flatMap File.declarations
    let taken := (numbered files).flatMap File.declarations
    (∀ file ∈ files, ∃ path source, File.parse path source = .ok file) ∧
      taken.map Declaration.name = ["M", "M", "init", "init#1", "init#2", "main", "init#3"] ∧
      (given.zip taken).Pairwise fun one other => one.1.IsInit ∨ other.1.IsInit →
        one.2.function "a/m" ≠ other.2.function "a/m" := by
  intro files given taken
  have starred : File.parse "m.go" starredSource = .ok starredFile := by decide +kernel
  have later : File.parse "n.go" laterSource = .ok laterFile := by decide +kernel
  have parsed : ∀ file ∈ files, ∃ path source, File.parse path source = .ok file :=
    List.forall_mem_cons.2 ⟨⟨_, _, starred⟩, List.forall_mem_singleton.2 ⟨_, _, later⟩⟩
  exact ⟨parsed, by decide, (numbered_inits files).2.2.2.2 parsed "a/m"⟩

end TestReach.Source
