import TestReach.Coverage.Pairing
import TestReach.Proofs.Analysis.Selection

/-!
# Places of rows

A row is printed with the file and the line of a function. Both are read back as they were printed,
and the file is known by the keys that it was filed under.
-/

namespace TestReach

namespace Text

theorem cutLast?_append {mark : Char} {behind : List Char} (absent : mark ∉ behind)
    (before : List Char) : cutLast? [mark] (before ++ mark :: behind) = some (before, behind) := by
  induction before with
  | nil => simp [cutLast?, Function.cutLast?_of_not_mem absent, List.isPrefixOf]
  | cons c before ih => rw [List.cons_append, cutLast?, ih]

theorem splitAt_of_not_mem {mark : Char} {cs : List Char} (absent : mark ∉ cs) :
    splitAt mark cs = [cs] := by
  induction cs with
  | nil => rfl
  | cons c cs ih =>
    rw [List.mem_cons, not_or] at absent
    rw [splitAt, if_neg (Ne.symm absent.1), ih absent.2]

theorem splitAt_append {mark : Char} {behind : List Char} (absent : mark ∉ behind)
    (before : List Char) :
    splitAt mark (before ++ mark :: behind) = splitAt mark before ++ [behind] := by
  induction before with
  | nil => simp [splitAt, splitAt_of_not_mem absent]
  | cons c before ih =>
    rw [List.cons_append, splitAt, splitAt, ih]
    split
    · rfl
    · have nonempty := splitAt_ne_nil mark before
      cases pieces : splitAt mark before with
      | nil => exact absurd pieces nonempty
      | cons piece rest => rfl

end Text

namespace Coverage

theorem isDigit_eq (c : Char) : Decimal.isDigit c = c.isDigit := by
  simp [Decimal.isDigit, Char.isDigit, Char.le_def]

theorem toList_toString (line : UInt64) :
    (toString line).toList = Nat.toDigits 10 line.toNat := by
  rw [show toString line = line.toNat.repr from rfl, Nat.toList_repr]

theorem lineNumber?_toString (line : UInt64) :
    lineNumber? (toString line).toList = some line.toNat := by
  have shown := toList_toString line
  have digits : ∀ c ∈ Nat.toDigits 10 line.toNat, c.isDigit = true :=
    fun c member => Nat.isDigit_of_mem_toDigits (by decide) (by decide) member
  have unsigned : Text.behind? ['+'] (Nat.toDigits 10 line.toNat) = none := by
    rw [Option.eq_none_iff_forall_ne_some]
    intro rest signed
    have digit := digits '+' (by simp [Text.behind?_eq_some.1 signed])
    revert digit
    decide
  have accepted : (Nat.toDigits 10 line.toNat).all Decimal.isDigit = true :=
    List.all_eq_true.2 fun c member => isDigit_eq c ▸ digits c member
  have value : Decimal.digitsValue (Nat.toDigits 10 line.toNat) = line.toNat := by
    calc Decimal.digitsValue (Nat.toDigits 10 line.toNat)
      _ = Nat.ofDigitChars 10 (Nat.toDigits 10 line.toNat) 0 := by
        rw [Nat.ofDigitChars_eq_foldl]
        rfl
      _ = line.toNat := Nat.ofDigitChars_ten_toDigits
  have bound : line.toNat < Nat.pow 2 64 := line.toNat_lt
  rw [shown, lineNumber?, unsigned]
  simp [Nat.toDigits_ne_nil, accepted, value, bound]

theorem location_place (file : String) (line : UInt64) :
    location (file ++ ":" ++ toString line ++ ":") = (file, some line.toNat) := by
  have unmarked : ':' ∉ (toString line).toList := by
    rw [toList_toString]
    intro member
    have digit := Nat.isDigit_of_mem_toDigits (by decide) (by decide) member
    revert digit
    decide
  have trimmed : Text.before? [':'] (file ++ ":" ++ toString line ++ ":").toList =
      some (file.toList ++ ':' :: (toString line).toList) := by
    rw [Text.before?_eq_some]
    simp
  rw [location, trimmed]
  simp [Text.cutLast?_append unmarked, lineNumber?_toString]

end Coverage

theorem fileName?_place {path name : String} (named : Text.Path.fileName? path = some name)
    (directory : String) : Text.Path.fileName? (directory ++ "/" ++ name) = some name := by
  unfold Text.Path.fileName? at named
  split at named
  · rename_i part last
    split at named
    · cases named
    · rename_i plain
      cases named
      have kept := List.mem_of_getLast? last
      obtain ⟨member, shown⟩ := List.mem_filter.1 kept
      have whole : '/' ∉ part := Text.not_mem_of_mem_splitAt member
      have parts : Text.Path.parts (directory ++ "/" ++ String.ofList part) =
          Text.Path.parts directory ++ [part] := by
        simp [Text.Path.parts, Text.splitAt_append whole]
      rw [Text.Path.fileName?, parts, List.filter_append]
      simp [shown, plain]
  · cases named

namespace FileIndex

variable {packages : List Package} {p : Package} {file : Source.File} {key : String}

theorem owner?_eq (distinct : (packages.flatMap fun p => p.files.flatMap (keysOf p)).Nodup)
    (listed : p ∈ packages) (there : file ∈ p.files) (known : key ∈ keysOf p file) :
    (ofPackages packages).owner? key = some p.importPath := by
  apply Table.get?_ofList_of_nodup
  · simpa [List.map_flatMap, List.map_map, Function.comp_def] using distinct
  · simp only [List.mem_flatMap, List.mem_map]
    exact ⟨p, listed, file, there, key, known, rfl⟩

theorem exists_owner (listed : p ∈ packages) (there : file ∈ p.files)
    (known : key ∈ keysOf p file) :
    ∃ owner ∈ packages, ∃ other ∈ owner.files, key ∈ keysOf owner other ∧
      (ofPackages packages).owner? key = some owner.importPath := by
  cases found : (ofPackages packages).owner? key with
  | none =>
    have absent := Table.get?_ofList_eq_none_iff.1 found (key, p.importPath)
    simp only [List.mem_flatMap, List.mem_map] at absent
    exact absurd rfl (absent ⟨p, listed, file, there, key, known, rfl⟩)
  | some path =>
    have member := Table.mem_of_get?_ofList found
    simp only [List.mem_flatMap, List.mem_map] at member
    obtain ⟨owner, among, other, inside, _, same, pair⟩ := member
    obtain ⟨rfl, rfl⟩ := Prod.mk.inj pair
    exact ⟨owner, among, other, inside, same, rfl⟩

theorem printedPath_regular (regular : p.externalTest = false) : printedPath p = p.importPath := by
  unfold printedPath
  split <;> simp [regular]

theorem mem_keysOf_place {name : String} (regular : p.externalTest = false)
    (named : Text.Path.fileName? file.path = some name) :
    p.importPath ++ "/" ++ name ∈ keysOf p file := by
  rw [keysOf, named, printedPath_regular regular]
  exact List.mem_cons_self

end FileIndex

namespace Text

theorem cutLast?_eq_none_of_append {mark before behind : List Char}
    (uncut : cutLast? mark (before ++ behind) = none) : cutLast? mark behind = none := by
  induction before with
  | nil => exact uncut
  | cons c before ih =>
    apply ih
    rw [List.cons_append, cutLast?] at uncut
    split at uncut
    · cases uncut
    · assumption

theorem cutLast?_behind {first : Char} {mark cs before behind : List Char}
    (cut : cutLast? (first :: mark) cs = some (before, behind)) :
    cutLast? (first :: mark) behind = none := by
  induction cs generalizing before with
  | nil => cases cut
  | cons c cs ih =>
    rw [cutLast?] at cut
    split at cut
    · rename_i later
      cases cut
      exact ih later
    · rename_i uncut
      split at cut
      · cases cut
        rw [← List.take_append_drop mark.length cs] at uncut
        exact cutLast?_eq_none_of_append uncut
      · cases cut

end Text

theorem Function.shortName_shortName (f : Function) (path : String) :
    (Function.mk path f.shortName).shortName = f.shortName := by
  cases cut : Text.cutLast? [')', '.'] f.name.toList with
  | none =>
    have whole : f.shortName = f.name := by rw [shortName, cut]
    rw [whole, shortName, cut]
  | some parts =>
    have last : f.shortName.toList = parts.2 := by rw [shortName, cut, String.toList_ofList]
    have behind := Text.cutLast?_behind cut
    rw [← last] at behind
    rw [shortName, behind]

theorem Coverage.namesFunction_iff {row : Row} {f : Function} (short : row.function = f.shortName)
    (d : Dependency) : namesFunction row d = true ↔ d.function.shortName = row.function := by
  rw [namesFunction, Bool.or_eq_true, beq_iff_eq, beq_iff_eq]
  constructor
  · rintro (same | whole)
    · exact same.symm
    · rw [short] at whole ⊢
      have again := f.shortName_shortName d.function.package
      rw [whole] at again ⊢
      exact again
  · intro same
    exact .inl same.symm

end TestReach
