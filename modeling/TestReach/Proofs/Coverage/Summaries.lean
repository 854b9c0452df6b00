import TestReach.Coverage.Summary
import TestReach.Proofs.Coverage.Places
import Mathlib.Data.List.Infix
import Mathlib.Data.List.TakeWhile

/-!
# Written summaries

A summary that is written with a line for each row is read back as its rows, whatever stands between
them: more tabs, blank lines, lines with the total, ends of either kind. The line with the total is
known by how it begins, so a row whose path begins with that word is taken for it.
-/

namespace TestReach

/-! ## Trimmed texts and lines -/

namespace Text

theorem dropWhile_isBlank_eq_self {cs : List Char} (first : cs.head?.any isBlank = false) :
    cs.dropWhile isBlank = cs := by
  cases cs with
  | nil => rfl
  | cons c cs => rw [List.dropWhile_cons_of_neg (by simpa using first)]

theorem trim_eq_self {cs : List Char} (first : cs.head?.any isBlank = false)
    (last : cs.getLast?.any isBlank = false) : trim cs = cs := by
  rw [← List.head?_reverse] at last
  rw [trim, dropWhile_isBlank_eq_self first, dropWhile_isBlank_eq_self last, List.reverse_reverse]

theorem trim_of_forall {cs : List Char} (shown : ∀ c ∈ cs, isBlank c = false) : trim cs = cs := by
  apply trim_eq_self
  · cases first : cs.head? with
    | none => rfl
    | some c => exact shown c (List.mem_of_head? first)
  · cases last : cs.getLast? with
    | none => rfl
    | some c => exact shown c (List.mem_of_getLast? last)

theorem trim_eq_nil {cs : List Char} (blank : ∀ c ∈ cs, isBlank c = true) : trim cs = [] := by
  rw [trim, List.dropWhile_eq_nil_iff.2 blank]
  rfl

theorem exists_trim_append {start : List Char} (first : start.head?.any isBlank = false)
    (last : start.getLast?.map isBlank = some false) (rest : List Char) :
    ∃ kept, trim (start ++ rest) = start ++ kept := by
  obtain ⟨c, ends, shown⟩ := Option.map_eq_some_iff.1 last
  obtain ⟨before, rfl⟩ := List.getLast?_eq_some_iff.1 ends
  have begins : (before ++ [c] ++ rest).dropWhile isBlank = before ++ [c] ++ rest := by
    apply dropWhile_isBlank_eq_self
    rw [← first]
    cases before <;> rfl
  rw [trim, begins, List.reverse_append, List.dropWhile_append]
  split
  · refine ⟨[], ?_⟩
    rw [dropWhile_isBlank_eq_self (by simp [shown]), List.reverse_reverse, List.append_nil]
  · exact ⟨(rest.reverse.dropWhile isBlank).reverse, by simp⟩

def withoutReturn (line : List Char) : List Char :=
  if line.getLast? = some '\r' then line.dropLast else line

theorem withoutReturn_append (line : List Char) : withoutReturn (line ++ ['\r']) = line := by
  simp [withoutReturn]

theorem withoutReturn_cons {c : Char} {line : List Char} (some : line ≠ []) :
    withoutReturn (c :: line) = c :: withoutReturn line := by
  unfold withoutReturn
  rw [List.getLast?_cons_of_ne_nil some]
  split
  · exact List.dropLast_cons_of_ne_nil some
  · rfl

theorem lines_cons {c : Char} {cs : List Char} (unbroken : c ≠ '\n')
    (further : ∀ rest, c = '\r' → cs ≠ '\n' :: rest) :
    lines (c :: cs) =
      match lines cs with
      | [] => [[c]]
      | line :: rest => (c :: line) :: rest := by
  rw [lines.eq_def]
  dsimp only
  rw [if_neg unbroken]
  split
  · rename_i rest
    exact absurd rfl (further rest rfl)
  · cases lines cs <;> rfl

theorem lines_append {line : List Char} (unbroken : '\n' ∉ line) (rest : List Char) :
    lines (line ++ '\n' :: rest) = withoutReturn line :: lines rest := by
  induction line with
  | nil => simp [lines, withoutReturn]
  | cons c line ih =>
    rw [List.mem_cons, not_or] at unbroken
    have others := ih unbroken.2
    -- Only a carriage return right before the newline is read together with it.
    by_cases ended : c = '\r' ∧ line = []
    · obtain ⟨rfl, rfl⟩ := ended
      simp [lines, withoutReturn]
    · rw [List.cons_append, lines_cons (Ne.symm unbroken.1), others]
      · cases line with
        | nil => simp_all [withoutReturn]
        | cons d line => rw [withoutReturn_cons (List.cons_ne_nil d line)]
      · rintro rest rfl same
        cases line with
        | nil => exact ended ⟨rfl, rfl⟩
        | cons d line => simp_all

theorem lines_of_unbroken {line : List Char} (unbroken : '\n' ∉ line) :
    lines line = if line = [] then [] else [line] := by
  induction line with
  | nil => rfl
  | cons c line ih =>
    rw [List.mem_cons, not_or] at unbroken
    rw [lines_cons (Ne.symm unbroken.1), ih unbroken.2]
    · cases line <;> rfl
    · rintro rest - rfl
      exact unbroken.2 List.mem_cons_self

theorem splitAt_cons_append {mark : Char} {before : List Char} (absent : mark ∉ before)
    (behind : List Char) :
    splitAt mark (before ++ mark :: behind) = before :: splitAt mark behind := by
  induction before with
  | nil => simp [splitAt]
  | cons c before ih =>
    rw [List.mem_cons, not_or] at absent
    rw [List.cons_append, splitAt, if_neg (Ne.symm absent.1), ih absent.2]

end Text

/-! ## Decimals -/

namespace Decimal

theorem isBlank_of_isDigit {c : Char} (digit : isDigit c = true) : Text.isBlank c = false := by
  simp only [isDigit, Bool.and_eq_true, decide_eq_true_eq, Char.le_def] at digit
  obtain ⟨low, high⟩ := digit
  have least : 48 ≤ c.toNat := UInt32.le_iff_toNat_le.1 low
  have most : c.toNat ≤ 57 := UInt32.le_iff_toNat_le.1 high
  simp [Text.isBlank, Text.inRanges, Text.blankRanges]
  omega

theorem isBlank_of_dropWhile {cs : List Char}
    (rest : ∀ c ∈ cs.dropWhile isDigit, Text.isBlank c = false) :
    ∀ c ∈ cs, Text.isBlank c = false := by
  rw [← List.takeWhile_append_dropWhile (p := isDigit) (l := cs), List.forall_mem_append]
  exact ⟨fun _ member => isBlank_of_isDigit (List.mem_takeWhile_imp member), rest⟩

theorem isBlank_of_cutSign {cs : List Char}
    (unsigned : ∀ c ∈ (cutSign cs).2, Text.isBlank c = false) :
    ∀ c ∈ cs, Text.isBlank c = false := by
  unfold cutSign at unsigned
  split at unsigned
  · exact List.forall_mem_cons.2 ⟨by decide, unsigned⟩
  · exact List.forall_mem_cons.2 ⟨by decide, unsigned⟩
  · exact unsigned

theorem isBlank_of_exponent? {cs : List Char} {exponent : Int}
    (found : exponent? cs = some exponent) : ∀ c ∈ cs, Text.isBlank c = false := by
  cases cs with
  | nil => simp
  | cons c cs =>
    rw [exponent?] at found
    split at found
    · rename_i mark
      refine List.forall_mem_cons.2 ⟨by rcases mark with rfl | rfl <;> decide, ?_⟩
      split at found
      rename_i digits _
      split at found
      · cases found
      · rename_i accepted
        apply isBlank_of_cutSign
        intro d member
        simp_all [isBlank_of_isDigit]
    · cases found

theorem isBlank_of_number? {cs : List Char} {parts : Nat × Nat × Int}
    (found : number? cs = some parts) : ∀ c ∈ cs, Text.isBlank c = false := by
  apply isBlank_of_dropWhile
  unfold number? at found
  dsimp only at found
  split at found
  · rename_i behind cut
    split at found
    · cases found
    · obtain ⟨exponent, power, -⟩ := Option.map_eq_some_iff.1 found
      rw [cut]
      exact List.forall_mem_cons.2
        ⟨by decide, isBlank_of_dropWhile (isBlank_of_exponent? power)⟩
  · split at found
    · cases found
    · obtain ⟨exponent, power, -⟩ := Option.map_eq_some_iff.1 found
      exact isBlank_of_exponent? power

theorem isBlank_of_name {cs name : List Char} (same : cs.map Char.toLower = name)
    (shown : name.any Text.isBlank = false) : ∀ c ∈ cs, Text.isBlank c = false := by
  intro c member
  by_contra blank
  rw [Bool.not_eq_false] at blank
  have caseless : c.toLower = c := by
    refine dif_neg fun upper => ?_
    have least : 65 ≤ c.toNat := UInt32.le_iff_toNat_le.1 upper.1
    have most : c.toNat ≤ 90 := UInt32.le_iff_toNat_le.1 upper.2
    simp [Text.isBlank, Text.inRanges, Text.blankRanges] at blank
    omega
  have listed : c.toLower ∈ name := same ▸ List.mem_map_of_mem member
  rw [caseless] at listed
  exact List.any_eq_false.1 shown c listed blank

theorem read?_of_number? {cs : List Char} {value digits : Nat} {exponent : Int}
    (number : number? (cutSign cs).2 = some (value, digits, exponent)) :
    read? cs = some (ofPowerOfTen (cutSign cs).1 value digits exponent) := by
  rw [read?]
  dsimp only
  rw [number]

theorem isBlank_of_read? {cs : List Char} {value : Float} (found : read? cs = some value) :
    ∀ c ∈ cs, Text.isBlank c = false := by
  apply isBlank_of_cutSign
  unfold read? at found
  dsimp only at found
  split at found
  · rename_i parts
    exact isBlank_of_number? parts
  · have named {name : String} (same : String.ofList ((cutSign cs).2.map Char.toLower) = name) :
        (cutSign cs).2.map Char.toLower = name.toList := by
      rw [← same, String.toList_ofList]
    split at found
    · rename_i infinite
      rcases infinite with short | long
      · exact isBlank_of_name (named short) (by decide)
      · exact isBlank_of_name (named long) (by decide)
    · split at found
      · rename_i none
        exact isBlank_of_name (named none) (by decide)
      · cases found

end Decimal

namespace Coverage

/-! ## Fields -/

theorem collapseTabs_append {start : List Char} (untabbed : '\t' ∉ start) (rest : List Char) :
    collapseTabs (start ++ rest) = start ++ collapseTabs rest := by
  induction start with
  | nil => rfl
  | cons c start ih =>
    rw [List.mem_cons, not_or] at untabbed
    rw [List.cons_append, collapseTabs_cons (Ne.symm untabbed.1), ih untabbed.2, List.cons_append]

theorem collapseTabs_replicate (more : Nat) {c : Char} (other : c ≠ '\t') (cs : List Char) :
    collapseTabs (List.replicate (more + 1) '\t' ++ c :: cs) = '\t' :: collapseTabs (c :: cs) := by
  induction more with
  | zero =>
    rw [List.replicate_one, List.singleton_append, collapseTabs]
    rintro rest - same
    exact other (List.cons.inj same).1
  | succ more ih =>
    rw [List.replicate_succ, List.replicate_succ, List.cons_append, List.cons_append,
      collapseTabs_tab_tab, ← List.cons_append, ← List.replicate_succ, ih]

theorem fields_append {field next : List Char} (untabbed : '\t' ∉ field) (more : Nat)
    (begins : ∃ c ∈ next.head?, c ≠ '\t') :
    fields (field ++ List.replicate (more + 1) '\t' ++ next) = field :: fields next := by
  obtain ⟨c, first, other⟩ := begins
  obtain ⟨cs, rfl⟩ := List.head?_eq_some_iff.1 first
  rw [fields, List.append_assoc, collapseTabs_append untabbed, collapseTabs_replicate more other,
    Text.splitAt_cons_append untabbed, fields]

theorem fields_of_untabbed {field : List Char} (untabbed : '\t' ∉ field) :
    fields field = [field] := by
  have same := collapseTabs_append untabbed []
  rw [collapseTabs_nil, List.append_nil] at same
  rw [fields, same, Text.splitAt_of_not_mem untabbed]

theorem isTotal_append (start rest : List Char) :
    isTotal (start ++ '\t' :: rest) = isTotal start := by
  have tab : Char.toLower '\t' = '\t' := by decide
  have cut (word start rest : List Char) (untabbed : '\t' ∉ word) :
      word.isPrefixOf (start ++ '\t' :: rest) = word.isPrefixOf start := by
    induction word generalizing start with
    | nil => simp
    | cons c word ih =>
      rw [List.mem_cons, not_or] at untabbed
      cases start with
      | nil => simp [List.isPrefixOf, Ne.symm untabbed.1]
      | cons d start => simp [List.isPrefixOf, ih start untabbed.2]
  rw [isTotal, isTotal, List.map_append, List.map_cons, tab, cut _ _ _ (by decide)]

/-! ## Written lines -/

/-- A text that stands in a field: there is some, no tab or newline is in it, and no blank is at its
ends. -/
structure IsField (field : String) : Prop where
  nonempty : field.toList ≠ []
  untabbed : '\t' ∉ field.toList
  unbroken : '\n' ∉ field.toList
  first : field.toList.head?.any Text.isBlank = false
  last : field.toList.getLast?.any Text.isBlank = false

structure Printed where
  path : String
  function : String
  percent : String
  value : Float

structure Printed.Sound (p : Printed) : Prop where
  path : IsField p.path
  function : IsField p.function
  percent : Decimal.read? p.percent.toList = some p.value

def Printed.row (p : Printed) : Row := ⟨p.path, p.function, p.value, none⟩

def Printed.text (p : Printed) (first second : Nat) : List Char :=
  p.path.toList ++ List.replicate (first + 1) '\t' ++
    (p.function.toList ++ List.replicate (second + 1) '\t' ++ (p.percent.toList ++ ['%']))

def totalLabel : List Char := "total:".toList

/-- A line of a summary: a row, with one or more tabs between its fields, blanks, or the total. -/
inductive WrittenLine
  | row (p : Printed) (first second : Nat)
  | blanks (text : List Char)
  | total (rest : List Char)

namespace WrittenLine

def text : WrittenLine → List Char
  | row p first second => p.text first second
  | blanks text => text
  | total rest => totalLabel ++ rest

def printed? : WrittenLine → Option Printed
  | row p _ _ => some p
  | _ => none

def Sound : WrittenLine → Prop
  | row p _ _ => p.Sound
  | blanks text => '\n' ∉ text ∧ text.all Text.isBlank = true
  | total rest => '\n' ∉ rest

end WrittenLine

inductive LineEnd
  | newline
  | returnAndNewline

def LineEnd.text : LineEnd → List Char
  | newline => ['\n']
  | returnAndNewline => ['\r', '\n']

/-- A summary as it is written. Nothing need end its last line. -/
structure Written where
  lines : List (WrittenLine × LineEnd)
  last? : Option WrittenLine

namespace Written

def text (w : Written) : String :=
  String.ofList
    ((w.lines.flatMap fun (line, ending) => line.text ++ ending.text) ++
      (w.last?.map WrittenLine.text).getD [])

def all (w : Written) : List WrittenLine := w.lines.map Prod.fst ++ w.last?.toList

def printed (w : Written) : List Printed := w.all.filterMap WrittenLine.printed?

end Written

/-! ## Read lines -/

theorem IsField.trim {field : String} (sound : IsField field) :
    Text.trim field.toList = field.toList := Text.trim_eq_self sound.first sound.last

section

variable {p : Printed} (sound : p.Sound)

include sound

theorem Printed.Sound.percentField :
    '\t' ∉ p.percent.toList ++ ['%'] ∧ '\n' ∉ p.percent.toList ++ ['%'] ∧
      Text.trim (p.percent.toList ++ ['%']) = p.percent.toList ++ ['%'] ∧
      percent? (p.percent.toList ++ ['%']) = some p.value := by
  have shown := Decimal.isBlank_of_read? sound.percent
  have all : ∀ c ∈ p.percent.toList ++ ['%'], Text.isBlank c = false :=
    List.forall_mem_append.2 ⟨shown, List.forall_mem_singleton.2 (by decide)⟩
  have signed : Text.before? ['%'] (p.percent.toList ++ ['%']) = some p.percent.toList :=
    Text.before?_eq_some.2 rfl
  refine ⟨fun tab => ?_, fun newline => ?_, Text.trim_of_forall all, ?_⟩
  · exact absurd (all '\t' tab) (by decide)
  · exact absurd (all '\n' newline) (by decide)
  · rw [percent?, signed, Option.getD_some, Text.trim_of_forall shown, sound.percent]

theorem Printed.Sound.trim_text (first second : Nat) :
    Text.trim (p.text first second) = p.text first second := by
  apply Text.trim_eq_self
  · obtain ⟨c, cs, begins⟩ := List.exists_cons_of_ne_nil sound.path.nonempty
    have head : (p.text first second).head? = p.path.toList.head? := by simp [Printed.text, begins]
    rw [head]
    exact sound.path.first
  · have last : (p.text first second).getLast? = some '%' := by simp [Printed.text]
    rw [last]
    decide

theorem Printed.Sound.fields_text (first second : Nat) :
    fields (p.text first second) =
      [p.path.toList, p.function.toList, p.percent.toList ++ ['%']] := by
  have begins {cs rest : List Char} (some : cs ≠ []) (untabbed : '\t' ∉ cs) :
      ∃ c ∈ (cs ++ rest).head?, c ≠ '\t' := by
    obtain ⟨c, cs, rfl⟩ := List.exists_cons_of_ne_nil some
    exact ⟨c, rfl, fun tab => untabbed (tab ▸ List.mem_cons_self)⟩
  have last := sound.percentField.1
  have ends : ∃ c ∈ (p.percent.toList ++ ['%']).head?, c ≠ '\t' := by
    rw [← List.append_nil (p.percent.toList ++ ['%'])]
    exact begins (by simp) last
  rw [Printed.text, fields_append sound.path.untabbed first,
    fields_append sound.function.untabbed second ends, fields_of_untabbed last]
  rw [List.append_assoc]
  exact begins sound.function.nonempty sound.function.untabbed

theorem Printed.Sound.ofLine_text (first second : Nat) :
    Row.ofLine (p.text first second) =
      .ok (if isTotal p.path.toList then none else some p.row) := by
  have some : (p.text first second).isEmpty = false := by
    simp [Printed.text]
  have total : isTotal (p.text first second) = isTotal p.path.toList := by
    rw [Printed.text, List.replicate_succ, List.append_assoc, List.cons_append, isTotal_append]
  obtain ⟨-, -, trimmed, read⟩ := sound.percentField
  have path : p.path.toList.isEmpty = false := by simpa using sound.path.nonempty
  have function : p.function.toList.isEmpty = false := by simpa using sound.function.nonempty
  rw [Row.ofLine, sound.trim_text, some, total, Bool.false_or]
  split
  · rfl
  · simp only [sound.fields_text, sound.path.trim, sound.function.trim, trimmed, read, path,
      function]
    simp [Printed.row]

end

namespace WrittenLine

variable {line : WrittenLine}

theorem ofLine_of_trim {line : List Char}
    (skipped : ((Text.trim line).isEmpty || isTotal (Text.trim line)) = true) :
    Row.ofLine line = .ok none := by
  rw [Row.ofLine]
  exact if_pos skipped

def kept? (line : WrittenLine) : Option Printed :=
  line.printed?.filter fun p => !isTotal p.path.toList

theorem ofLine_text (sound : line.Sound) :
    Row.ofLine line.text = .ok (line.kept?.map Printed.row) := by
  cases line with
  | row p first second =>
    rw [text, Printed.Sound.ofLine_text sound, kept?, printed?, Option.filter_some]
    cases isTotal p.path.toList <;> rfl
  | blanks text =>
    apply ofLine_of_trim
    rw [WrittenLine.text, Text.trim_eq_nil (List.all_eq_true.1 sound.2)]
    rfl
  | total rest =>
    obtain ⟨kept, trimmed⟩ :=
      @Text.exists_trim_append totalLabel (by decide) (by decide) rest
    have found : isTotal (totalLabel ++ kept) = true := rfl
    apply ofLine_of_trim
    rw [text, trimmed, found, Bool.or_true]

theorem unbroken (sound : line.Sound) : '\n' ∉ line.text := by
  cases line with
  | row p first second =>
    have percent := sound.percentField.2.1
    simp [text, Printed.text, sound.path.unbroken, sound.function.unbroken] at percent ⊢
    exact percent
  | blanks text => exact sound.1
  | total rest =>
    rw [text, List.mem_append, not_or]
    exact ⟨by decide, sound⟩

theorem exists_withoutReturn (sound : line.Sound) :
    ∃ other : WrittenLine, other.Sound ∧ other.text = Text.withoutReturn line.text ∧
      other.kept? = line.kept? := by
  -- A carriage return that is lost with the end of a line was none of a row.
  by_cases returns : line.text.getLast? = some '\r'
  · rw [Text.withoutReturn, if_pos returns]
    cases line with
    | row p first second => simp [text, Printed.text] at returns
    | blanks text =>
      refine ⟨blanks text.dropLast, ⟨?_, ?_⟩, rfl, rfl⟩
      · exact fun member => sound.1 (List.mem_of_mem_dropLast member)
      · exact List.all_eq_true.2 fun c member =>
          List.all_eq_true.1 sound.2 c (List.mem_of_mem_dropLast member)
    | total rest =>
      have some : rest ≠ [] := by
        rintro rfl
        revert returns
        decide
      refine ⟨total rest.dropLast, fun member => sound (List.mem_of_mem_dropLast member), ?_, rfl⟩
      rw [text, text, List.dropLast_append_of_ne_nil some]
  · rw [Text.withoutReturn, if_neg returns]
    exact ⟨line, sound, rfl, rfl⟩

end WrittenLine

/-! ## Read summaries -/

theorem rowsOfLines_cons {line : List Char} {row? : Option Row}
    (read : Row.ofLine line = .ok row?) (lines : List (List Char)) :
    rowsOfLines (line :: lines) = (rowsOfLines lines).map fun rows => row?.toList ++ rows := by
  rw [rowsOfLines, read]
  cases row? with
  | none => cases rowsOfLines lines <;> rfl
  | some row => cases found : rowsOfLines lines <;> rfl

theorem rowsOfLines_text_append {line : WrittenLine} (sound : line.Sound) (ending : LineEnd)
    (rest : List Char) :
    rowsOfLines (Text.lines (line.text ++ ending.text ++ rest)) =
      (rowsOfLines (Text.lines rest)).map fun rows =>
        (line.kept?.map Printed.row).toList ++ rows := by
  cases ending with
  | newline =>
    -- The line may itself end in a carriage return, which goes with the newline.
    obtain ⟨other, proper, same, kept⟩ := WrittenLine.exists_withoutReturn sound
    rw [LineEnd.text, List.append_assoc, List.singleton_append,
      Text.lines_append (WrittenLine.unbroken sound), ← same, ← kept]
    exact rowsOfLines_cons (WrittenLine.ofLine_text proper) _
  | returnAndNewline =>
    have unbroken : '\n' ∉ line.text ++ ['\r'] := by
      simpa using WrittenLine.unbroken sound
    have split : line.text ++ LineEnd.returnAndNewline.text ++ rest =
        line.text ++ ['\r'] ++ '\n' :: rest := by simp [LineEnd.text]
    rw [split, Text.lines_append unbroken, Text.withoutReturn_append]
    exact rowsOfLines_cons (WrittenLine.ofLine_text sound) _

theorem rowsOfLines_last {last? : Option WrittenLine} (sound : ∀ line ∈ last?, line.Sound) :
    rowsOfLines (Text.lines ((last?.map WrittenLine.text).getD [])) =
      .ok ((last?.bind WrittenLine.kept?).map Printed.row).toList := by
  cases last? with
  | none => rfl
  | some line =>
    have proper := sound line rfl
    have read := WrittenLine.ofLine_text proper
    rw [Option.map_some, Option.getD_some, Text.lines_of_unbroken (WrittenLine.unbroken proper)]
    split
    · rename_i empty
      rw [empty] at read
      rw [Option.bind_some, ← Except.ok.inj read]
      rfl
    · rw [rowsOfLines_cons read]
      simp [rowsOfLines, Except.map]

theorem rowsOfLines_written {lines : List (WrittenLine × LineEnd)} {last? : Option WrittenLine}
    (sound : ∀ line ∈ lines.map Prod.fst, line.Sound) (last : ∀ line ∈ last?, line.Sound) :
    rowsOfLines (Text.lines ((lines.flatMap fun (line, ending) => line.text ++ ending.text) ++
        (last?.map WrittenLine.text).getD [])) =
      .ok (((lines.map Prod.fst ++ last?.toList).filterMap WrittenLine.kept?).map Printed.row) := by
  induction lines with
  | nil =>
    rw [List.flatMap_nil, List.nil_append, rowsOfLines_last last]
    cases last? with
    | none => rfl
    | some line => cases shown : line.kept? <;> simp [shown]
  | cons first lines ih =>
    obtain ⟨line, ending⟩ := first
    rw [List.map_cons, List.forall_mem_cons] at sound
    rw [List.flatMap_cons, List.append_assoc, rowsOfLines_text_append sound.1, ih sound.2]
    cases shown : line.kept? <;> simp [shown, Except.map]

/-- A written summary is read as its rows, in their order, less those whose path begins with the
word of the total in letters of either case. -/
theorem rowsOfSummary_written (w : Written) (sound : ∀ line ∈ w.all, line.Sound) :
    rowsOfSummary w.text =
      .ok ((w.printed.filter fun p => !isTotal p.path.toList).map Printed.row) := by
  have kept : w.printed.filter (fun p => !isTotal p.path.toList) =
      w.all.filterMap WrittenLine.kept? := List.filter_filterMap
  rw [kept, rowsOfSummary, Written.text, String.toList_ofList]
  apply rowsOfLines_written
  · exact fun line member => sound line (List.mem_append_left _ member)
  · exact fun line member => sound line (List.mem_append_right _ (Option.mem_toList.2 member))

def tabbed : Written where
  lines :=
    [(.row ⟨"a/m.go:3:", "Top", "100.0", Decimal.ofPowerOfTen false 1000 4 (-1)⟩ 1 3,
        .returnAndNewline),
      (.blanks [' ', '\t'], .newline), (.total "\t\t(statements)\t75.0%".toList, .newline)]
  last? := some (.row ⟨"a/m.go:7:", "Get", "5e1", Decimal.ofPowerOfTen false 5 1 1⟩ 0 0)

theorem sound_tabbed : ∀ line ∈ tabbed.all, line.Sound := by
  have top : IsField "a/m.go:3:" ∧ IsField "Top" := by
    constructor <;> constructor <;> decide
  have get : IsField "a/m.go:7:" ∧ IsField "Get" := by
    constructor <;> constructor <;> decide
  have full : Decimal.read? "100.0".toList = some (Decimal.ofPowerOfTen false 1000 4 (-1)) :=
    Decimal.read?_of_number? (by decide)
  have half : Decimal.read? "5e1".toList = some (Decimal.ofPowerOfTen false 5 1 1) :=
    Decimal.read?_of_number? (by decide)
  have total : '\n' ∉ "\t\t(statements)\t75.0%".toList := by decide
  simp only [tabbed, Written.all, List.map_cons, List.map_nil, Option.toList_some,
    List.cons_append, List.nil_append, List.forall_mem_cons]
  exact ⟨⟨top.1, top.2, full⟩, ⟨by decide, by decide⟩, total, ⟨get.1, get.2, half⟩, by simp⟩

theorem rowsOfSummary_tabbed :
    (∀ line ∈ tabbed.all, line.Sound) ∧
      rowsOfSummary tabbed.text =
        .ok [⟨"a/m.go:3:", "Top", Decimal.ofPowerOfTen false 1000 4 (-1), none⟩,
          ⟨"a/m.go:7:", "Get", Decimal.ofPowerOfTen false 5 1 1, none⟩] :=
  ⟨sound_tabbed, rowsOfSummary_written tabbed sound_tabbed⟩

def totals : Written where
  lines := [(.row ⟨"totals/m.go:3:", "Top", "100.0", Decimal.ofPowerOfTen false 1000 4 (-1)⟩ 0 0,
    .newline)]
  last? := none

theorem rowsOfSummary_lost :
    (∀ line ∈ totals.all, line.Sound) ∧ (∀ p ∈ totals.printed, p.path ≠ "total:") ∧
      totals.text = "totals/m.go:3:\tTop\t100.0%\n" ∧ rowsOfSummary totals.text = .ok [] ∧
      rowsOfSummary totals.text ≠ .ok (totals.printed.map Printed.row) := by
  have field : IsField "totals/m.go:3:" ∧ IsField "Top" := by
    constructor <;> constructor <;> decide
  have full : Decimal.read? "100.0".toList = some (Decimal.ofPowerOfTen false 1000 4 (-1)) :=
    Decimal.read?_of_number? (by decide)
  have text : totals.text = "totals/m.go:3:\tTop\t100.0%\n" := by decide
  have sound : ∀ line ∈ totals.lines.map Prod.fst, line.Sound :=
    List.forall_mem_singleton.2 ⟨field.1, field.2, full⟩
  have lost : rowsOfSummary totals.text = .ok [] := by
    rw [rowsOfSummary, Written.text, String.toList_ofList]
    exact rowsOfLines_written sound (by simp [totals])
  refine ⟨by simpa [Written.all, totals] using sound, by decide, text, lost, ?_⟩
  rw [lost]
  simp [totals, Written.printed, Written.all, WrittenLine.printed?]

end Coverage

end TestReach
