import TestReach.Coverage.Table
import TestReach.Coverage.Total
import TestReach.Proofs.Coverage.Summaries
import Mathlib.Data.String.Basic

/-!
# Written reports

A table has a column for the places, one for the functions and one for the percents. Widths are
counted in bytes and blanks in characters; a text has at least as many bytes as characters, so there
is always room, and the titles have as many of one as of the other. A coverage file escapes nothing
and is still read back, since no field of a summary holds a tab or a newline.
-/

namespace TestReach

namespace Text

/-! ## Lines that are written -/

theorem withoutReturn_eq_self {line : List Char} (other : line.getLast? ≠ some '\r') :
    withoutReturn line = line := if_neg other

theorem lines_flatMap {written : List (List Char)} (unbroken : ∀ line ∈ written, '\n' ∉ line)
    (ends : ∀ line ∈ written, line.getLast? ≠ some '\r') :
    lines (written.flatMap (· ++ ['\n'])) = written := by
  induction written with
  | nil => rfl
  | cons line written ih =>
    obtain ⟨here, others⟩ := List.forall_mem_cons.1 unbroken
    obtain ⟨last, behind⟩ := List.forall_mem_cons.1 ends
    rw [List.flatMap_cons, List.append_assoc, List.singleton_append, lines_append here,
      withoutReturn_eq_self last, ih others behind]

theorem splitAt_flatMap {written : List (List Char)} (unbroken : ∀ line ∈ written, '\n' ∉ line) :
    splitAt '\n' (written.flatMap (· ++ ['\n'])) = written ++ [[]] := by
  induction written with
  | nil => rfl
  | cons line written ih =>
    obtain ⟨here, others⟩ := List.forall_mem_cons.1 unbroken
    rw [List.flatMap_cons, List.append_assoc, List.singleton_append, splitAt_cons_append here,
      ih others, List.cons_append]

theorem utf8Len_eq_length {cs : List Char} (single : ∀ c ∈ cs, c.utf8Size = 1) :
    String.utf8Len cs = cs.length := by
  induction cs with
  | nil => rfl
  | cons c cs ih =>
    obtain ⟨here, others⟩ := List.forall_mem_cons.1 single
    rw [String.utf8Len_cons, ih others, here, List.length_cons]

theorem length_le_utf8Len (cs : List Char) : cs.length ≤ String.utf8Len cs := by
  induction cs with
  | nil => exact Nat.le_refl 0
  | cons c cs ih =>
    rw [String.utf8Len_cons, List.length_cons]
    exact Nat.add_le_add ih c.utf8Size_pos

theorem utf8ByteSize_eq (text : String) : text.utf8ByteSize = String.utf8Len text.toList := by
  rw [← String.utf8ByteSize_ofList, String.ofList_toList]

/-! ## Pieces of a text -/

theorem newline_not_mem_lines (cs : List Char) : ∀ line ∈ lines cs, '\n' ∉ line := by
  fun_induction lines cs with
  | case1 => simp
  | case2 cs ih => exact List.forall_mem_cons.2 ⟨by simp, ih⟩
  | case3 rest _ ih => exact List.forall_mem_cons.2 ⟨by simp, ih⟩
  | case4 c cs _ _ other _ => simpa using Ne.symm other
  | case5 c cs _ line rest read other ih =>
    rw [read] at ih
    obtain ⟨here, others⟩ := List.forall_mem_cons.1 ih
    exact List.forall_mem_cons.2 ⟨by simp [Ne.symm other, here], others⟩

theorem mem_of_mem_trim {cs : List Char} {c : Char} (member : c ∈ trim cs) : c ∈ cs := by
  rw [trim, List.mem_reverse] at member
  have before := (List.dropWhile_sublist isBlank).mem member
  exact (List.dropWhile_sublist isBlank).mem (List.mem_reverse.1 before)

theorem head?_trim {cs : List Char} {c : Char} (first : (trim cs).head? = some c) :
    isBlank c = false := by
  have begins : trim cs <+: cs.dropWhile isBlank := by
    rw [trim, ← List.reverse_suffix, List.reverse_reverse]
    exact List.dropWhile_suffix isBlank
  obtain ⟨behind, whole⟩ := begins
  have here : (cs.dropWhile isBlank).head? = some c := by
    rw [← whole, List.head?_append, first, Option.some_or]
  exact head?_dropWhile_not here

theorem mem_joinWith {mark piece : List Char} {pieces : List (List Char)} {c : Char}
    (listed : piece ∈ pieces) (member : c ∈ piece) : c ∈ joinWith mark pieces := by
  fun_induction joinWith mark pieces with
  | case1 => cases listed
  | case2 only => exact List.mem_singleton.1 listed ▸ member
  | case3 first others _ ih =>
    rcases List.mem_cons.1 listed with rfl | behind
    · exact List.mem_append_left _ (List.mem_append_left _ member)
    · exact List.mem_append_right _ (ih behind)

theorem mem_of_mem_splitAt {mark c : Char} {cs piece : List Char} (listed : piece ∈ splitAt mark cs)
    (member : c ∈ piece) : c ∈ cs := by
  rw [← joinWith_splitAt mark cs]
  exact mem_joinWith listed member

def splitAtTwice (mark : Char) : List Char → List (List Char)
  | [] => [[]]
  | [c] => [[c]]
  | c :: d :: cs =>
    if c = mark ∧ d = mark then [] :: splitAtTwice mark cs
    else match splitAtTwice mark (d :: cs) with
      | piece :: pieces => (c :: piece) :: pieces
      | [] => [[c]]

theorem splitAtTwice_of_not_mem {mark : Char} {cs : List Char} (absent : mark ∉ cs) :
    splitAtTwice mark cs = [cs] := by
  fun_induction splitAtTwice mark cs <;> simp_all

theorem splitAtTwice_append {mark : Char} {before : List Char} (absent : mark ∉ before)
    (behind : List Char) :
    splitAtTwice mark (before ++ mark :: mark :: behind) = before :: splitAtTwice mark behind := by
  induction before with
  | nil => simp [splitAtTwice]
  | cons c before ih =>
    obtain ⟨other, absent⟩ := not_or.1 (List.mem_cons.not.1 absent)
    have further := ih absent
    cases before with
    | nil =>
      rw [List.nil_append] at further
      rw [List.singleton_append, splitAtTwice, if_neg (by simp [Ne.symm other]), further]
    | cons d before =>
      rw [List.cons_append] at further
      rw [List.cons_append, List.cons_append, splitAtTwice, if_neg (by simp [Ne.symm other]),
        further]

end Text

namespace Decimal

/-! ## Percents -/

theorem isDigit_of_mem_toString {n : Nat} {c : Char} (member : c ∈ (toString n).toList) :
    c.isDigit = true := by
  rw [Nat.toString_eq_repr, Nat.toList_repr] at member
  exact Nat.isDigit_of_mem_toDigits (by decide) (by decide) member

theorem mem_withPoint {places n : Nat} {c : Char} (member : c ∈ (withPoint places n).toList) :
    c.isDigit = true ∨ c = '.' := by
  simp only [withPoint, String.toList_append, List.mem_append, String.toList_ofList,
    List.mem_replicate] at member
  rcases member with ((whole | point) | ⟨-, zero⟩) | fraction
  · exact .inl (isDigit_of_mem_toString whole)
  · exact .inr (by simpa using point)
  · exact .inl (by rw [zero]; rfl)
  · exact .inl (isDigit_of_mem_toString fraction)

def fixedMarks : List Char := "NaN-inf.".toList

theorem mem_fixed {places : Nat} {x : Float} {c : Char} (member : c ∈ (fixed places x).toList) :
    c.isDigit = true ∨ c ∈ fixedMarks := by
  have words : ∀ word ∈ ["NaN", "-inf", "inf", "-", ""], word.toList ⊆ fixedMarks := by
    decide
  unfold fixed at member
  split at member
  · exact .inr (words "NaN" (by simp) member)
  · split at member
    · exact .inr (words "-inf" (by simp) member)
    · exact .inr (words "inf" (by simp) member)
  · dsimp only at member
    rw [String.toList_append, List.mem_append] at member
    rcases member with sign | digits
    · split at sign
      · exact .inr (words "-" (by simp) sign)
      · exact .inr (words "" (by simp) sign)
    · exact (mem_withPoint digits).imp_right fun point => by rw [point]; decide

end Decimal

namespace Coverage

theorem not_mem_percentText {c : Char} (other : c.isDigit = false)
    (absent : c ∉ Decimal.fixedMarks) (sign : c ≠ '%') (places : Nat) (x : Float) :
    c ∉ (percentText places x).toList := by
  rw [percentText, String.toList_append, List.mem_append]
  rintro (member | member)
  · rcases Decimal.mem_fixed member with digit | mark
    · rw [other] at digit
      cases digit
    · exact absent mark
  · exact sign (by simpa using member)

theorem newline_not_mem_percentText (places : Nat) (x : Float) :
    '\n' ∉ (percentText places x).toList :=
  not_mem_percentText (by decide) (by decide) (by decide) places x

theorem tab_not_mem_percentText (places : Nat) (x : Float) :
    '\t' ∉ (percentText places x).toList :=
  not_mem_percentText (by decide) (by decide) (by decide) places x

def totalText (report : Report) : List Char :=
  ("Total: " ++ percentText 2 report.total).toList

theorem toList_totalLine (report : Report) :
    (totalLine report).toList = totalText report ++ ['\n'] := by
  simp [totalLine, totalText]

theorem newline_not_mem_totalText (report : Report) : '\n' ∉ totalText report := by
  rw [totalText, String.toList_append, List.mem_append]
  rintro (label | percent)
  · revert label
    decide
  · exact newline_not_mem_percentText 2 report.total percent

theorem getLast?_totalText (report : Report) : (totalText report).getLast? = some '%' := by
  simp only [totalText, percentText, ← String.append_assoc, String.toList_append]
  exact List.getLast?_concat

/-! ## Tables -/

def IsCell (text : String) (place : List Char) : Prop :=
  ∃ more, place = text.toList ++ List.replicate (more + 2) ' '

/-- Where the second and the third column of a table begin, and where its lines end. -/
structure Columns where
  function : Nat
  percent : Nat
  width : Nat

structure Columns.Hold (columns : Columns) (cells : Cells) (line : List Char) : Prop where
  width : line.length = columns.width
  path : IsCell cells.path (line.take columns.function)
  function : IsCell cells.function ((line.take columns.percent).drop columns.function)
  percent : IsCell cells.percent (line.drop columns.percent)

def Widths.columns (widths : Widths) : Columns where
  function := widths.path + 1
  percent := widths.path + 1 + (widths.function + 1)
  width := widths.path + 1 + (widths.function + 1) + widths.percent

structure Widths.Fit (widths : Widths) (cells : Cells) : Prop where
  path : cells.path.length + 2 ≤ widths.path
  function : cells.function.length + 2 ≤ widths.function
  percent : cells.percent.length + 2 ≤ widths.percent

theorem add_two_le_columnWidth (title : String) (cells : List String) :
    ∀ cell ∈ title :: cells, cell.length + 2 ≤ columnWidth title cells := by
  have all (start : Nat) : ∀ size ∈ start :: cells.map String.utf8ByteSize,
      size ≤ cells.foldl (fun width cell => max width cell.utf8ByteSize) start := by
    induction cells generalizing start with
    | nil => simp
    | cons cell cells ih =>
      obtain ⟨widest, others⟩ := List.forall_mem_cons.1 (ih (max start cell.utf8ByteSize))
      refine List.forall_mem_cons.2 ⟨?_, List.forall_mem_cons.2 ⟨?_, others⟩⟩
      · exact Nat.le_trans (Nat.le_max_left _ _) widest
      · exact Nat.le_trans (Nat.le_max_right _ _) widest
  intro cell member
  have bytes := all title.utf8ByteSize cell.utf8ByteSize
    (List.mem_map_of_mem (f := String.utf8ByteSize) member)
  have characters := Text.length_le_utf8Len cell.toList
  rw [String.length_toList, ← Text.utf8ByteSize_eq] at characters
  exact Nat.add_le_add_right (Nat.le_trans characters bytes) 2

theorem Widths.fit_of (rows : List Row) :
    ∀ cells ∈ Cells.title :: rows.map Row.cells, (Widths.of rows).Fit cells := by
  have column (part : Cells → String) : ∀ cells ∈ Cells.title :: rows.map Row.cells,
      (part cells).length + 2 ≤
        columnWidth (part Cells.title) (rows.map fun row => part row.cells) := by
    intro cells member
    apply add_two_le_columnWidth
    have listed := List.mem_map_of_mem (f := part) member
    rwa [List.map_cons, List.map_map] at listed
  exact fun cells member =>
    ⟨column Cells.path cells member, column Cells.function cells member,
      column Cells.percent cells member⟩

theorem isCell_pad {width : Nat} {cell : String} (fits : cell.length + 2 ≤ width) (more : Nat) :
    IsCell cell ((pad width cell).toList ++ List.replicate more ' ') := by
  refine ⟨width - cell.length - 2 + more, ?_⟩
  rw [pad, String.toList_append, String.toList_ofList, List.append_assoc,
    List.replicate_append_replicate]
  congr 2
  omega

theorem length_pad {width : Nat} {cell : String} (fits : cell.length + 2 ≤ width) :
    (pad width cell).toList.length = width := by
  rw [pad, String.toList_append, String.toList_ofList, List.length_append, List.length_replicate,
    String.length_toList]
  omega

section

variable {widths : Widths} {cells : Cells}

theorem toList_line (widths : Widths) (cells : Cells) : (cells.line widths).toList =
    ((pad widths.path cells.path).toList ++ [' ']) ++
      (((pad widths.function cells.function).toList ++ [' ']) ++
        (pad widths.percent cells.percent).toList) := by
  simp [Cells.line]

theorem Widths.hold_line (fit : widths.Fit cells) :
    widths.columns.Hold cells (cells.line widths).toList := by
  have path : ((pad widths.path cells.path).toList ++ [' ']).length = widths.columns.function := by
    rw [List.length_append, length_pad fit.path]
    rfl
  have function : ((pad widths.function cells.function).toList ++ [' ']).length =
      widths.function + 1 := by
    rw [List.length_append, length_pad fit.function]
    rfl
  have both : (((pad widths.path cells.path).toList ++ [' ']) ++
      ((pad widths.function cells.function).toList ++ [' '])).length = widths.columns.percent := by
    rw [List.length_append, path, function]
    rfl
  rw [toList_line, ← List.append_assoc]
  constructor
  case width =>
    rw [List.length_append, both, length_pad fit.percent]
    rfl
  case path =>
    rw [List.append_assoc, List.take_left' path]
    exact isCell_pad fit.path 1
  case function =>
    rw [List.take_left' both, List.drop_left' path]
    exact isCell_pad fit.function 1
  case percent =>
    rw [List.drop_left' both]
    simpa using isCell_pad fit.percent 0

theorem newline_not_mem_pad {width : Nat} {cell : String} (unbroken : '\n' ∉ cell.toList) :
    '\n' ∉ (pad width cell).toList := by
  simp [pad, unbroken]

theorem getLast?_line (fit : widths.Fit cells) :
    (cells.line widths).toList.getLast? = some ' ' := by
  obtain ⟨more, ends⟩ := isCell_pad fit.percent 0
  rw [List.replicate_zero, List.append_nil] at ends
  rw [toList_line, ends, List.replicate_succ']
  simp only [← List.append_assoc]
  exact List.getLast?_concat

end

theorem newline_not_mem_line {cells : Cells} (widths : Widths)
    (unbroken : ∀ cell ∈ [cells.path, cells.function, cells.percent], '\n' ∉ cell.toList) :
    '\n' ∉ (cells.line widths).toList := by
  simp only [List.forall_mem_cons] at unbroken
  obtain ⟨path, function, percent, -⟩ := unbroken
  rw [toList_line]
  simp [newline_not_mem_pad, path, function, percent]

theorem utf8ByteSize_title (widths : Widths) :
    (Cells.title.line widths).utf8ByteSize = (Cells.title.line widths).toList.length := by
  rw [Text.utf8ByteSize_eq]
  apply Text.utf8Len_eq_length
  let titles := [Cells.title.path, Cells.title.function, Cells.title.percent]
  have letters : ∀ title ∈ titles, title.toList.all (fun c => c.utf8Size == 1) = true := by
    decide
  have blank : ∀ width, ∀ title ∈ titles, ∀ c ∈ (pad width title).toList, c.utf8Size = 1 := by
    intro width title listed c member
    rw [pad, String.toList_append, String.toList_ofList, List.mem_append, List.mem_replicate]
      at member
    rcases member with letter | ⟨-, rfl⟩
    · exact beq_iff_eq.1 (List.all_eq_true.1 (letters title listed) c letter)
    · decide
  intro c member
  simp only [toList_line, List.mem_append, List.mem_singleton] at member
  rcases member with (path | rfl) | (function | rfl) | percent
  · exact blank _ _ (by simp [titles]) c path
  · decide
  · exact blank _ _ (by simp [titles]) c function
  · decide
  · exact blank _ _ (by simp [titles]) c percent

def Report.tableLines (report : Report) : List (List Char) :=
  let widths := Widths.of report.rows
  (Cells.title.line widths).toList :: List.replicate widths.columns.width '-' ::
    (report.rows.map (fun row => (row.cells.line widths).toList) ++ [totalText report])

theorem Report.toList_table (report : Report) :
    report.table.toList = report.tableLines.flatMap (· ++ ['\n']) := by
  have titles := (Widths.hold_line (Widths.fit_of report.rows _ List.mem_cons_self)).width
  have rule : (Cells.title.line (Widths.of report.rows)).utf8ByteSize =
      (Widths.of report.rows).columns.width := (utf8ByteSize_title _).trans titles
  simp [Report.table, rule, tableLines, toList_totalLine, List.flatMap_map]

/-- A table has its titles, a rule, one line for each row and the total. Titles, rule and rows are
of one length, and the columns begin at the same place in the titles and in every row, which holds
the texts of its cells there with two blanks or more behind each. -/
theorem Report.lines_table (report : Report) (unbroken : ∀ row ∈ report.rows,
      '\n' ∉ row.path.toList ∧ '\n' ∉ row.function.toList) :
    (Text.lines report.table.toList).length = report.rows.length + 3 ∧
      ∃ (columns : Columns) (titles : List Char) (rows : List (List Char)),
        Text.lines report.table.toList =
          titles :: List.replicate columns.width '-' :: (rows ++ [totalText report]) ∧
        columns.Hold Cells.title titles ∧
        List.Forall₂ (fun row line => columns.Hold row.cells line) report.rows rows := by
  obtain ⟨titles, fits⟩ := List.forall_mem_cons.1 (Widths.fit_of report.rows)
  have fit : ∀ row ∈ report.rows, (Widths.of report.rows).Fit row.cells :=
    fun row member => fits _ (List.mem_map_of_mem member)
  have read : Text.lines report.table.toList = report.tableLines := by
    rw [Report.toList_table]
    apply Text.lines_flatMap
    · simp only [tableLines, List.forall_mem_cons, List.forall_mem_append, List.forall_mem_map]
      refine ⟨newline_not_mem_line _ (by decide), by simp, ?_, newline_not_mem_totalText report,
        by simp⟩
      intro row member
      obtain ⟨path, function⟩ := unbroken row member
      apply newline_not_mem_line
      simpa [Row.cells, path, function] using newline_not_mem_percentText 1 row.percent
    · simp only [tableLines, List.forall_mem_cons, List.forall_mem_append, List.forall_mem_map]
      refine ⟨by simp [getLast?_line titles], ?_, ?_, by simp [getLast?_totalText], by simp⟩
      · simp [List.getLast?_replicate]
      · exact fun row member => by simp [getLast?_line (fit row member)]
  rw [read]
  refine ⟨by simp [tableLines], _, _, _, rfl, Widths.hold_line titles, ?_⟩
  rw [List.forall₂_map_right_iff, List.forall₂_same]
  exact fun row member => Widths.hold_line (fit row member)

def foreign : Report :=
  ⟨[⟨"a/größe.go:3:", "Maß", 0.0 / 0.0, none⟩, ⟨"a/m.go:12:", "(*T).名\r", -1.0 / 0.0, some 2⟩],
    37.5⟩

theorem Report.lines_table_foreign :
    (∀ row ∈ foreign.rows, '\n' ∉ row.path.toList ∧ '\n' ∉ row.function.toList) ∧
      (Text.lines foreign.table.toList).length = 5 ∧
      ∃ (columns : Columns) (titles : List Char) (rows : List (List Char)),
        Text.lines foreign.table.toList =
          titles :: List.replicate columns.width '-' :: (rows ++ [totalText foreign]) ∧
        columns.Hold Cells.title titles ∧
        List.Forall₂ (fun row line => columns.Hold row.cells line) foreign.rows rows := by
  have unbroken : ∀ row ∈ foreign.rows, '\n' ∉ row.path.toList ∧ '\n' ∉ row.function.toList := by
    simp only [foreign, List.forall_mem_cons]
    decide
  exact ⟨unbroken, Report.lines_table foreign unbroken⟩

/-! ## Rows of a summary -/

theorem mem_of_mem_collapseTabs {cs : List Char} {c : Char} (member : c ∈ collapseTabs cs) :
    c ∈ cs := by
  fun_induction collapseTabs cs with
  | case1 cs ih => exact List.mem_cons_of_mem _ (ih member)
  | case2 d cs _ ih =>
    rcases List.mem_cons.1 member with rfl | behind
    · exact List.mem_cons_self
    · exact List.mem_cons_of_mem d (ih behind)
  | case3 => exact member

theorem isField_of_mem_fields {line field : List Char} (unbroken : '\n' ∉ line)
    (listed : field ∈ fields line) (some : (Text.trim field).isEmpty = false) :
    IsField (String.ofList (Text.trim field)) := by
  have inside {c : Char} (member : c ∈ Text.trim field) : c ∈ field := Text.mem_of_mem_trim member
  constructor
  case nonempty => simpa using some
  case untabbed =>
    rw [String.toList_ofList]
    exact fun tab => Text.not_mem_of_mem_splitAt listed (inside tab)
  case unbroken =>
    rw [String.toList_ofList]
    exact fun newline => unbroken
      (mem_of_mem_collapseTabs (Text.mem_of_mem_splitAt listed (inside newline)))
  case first =>
    rw [String.toList_ofList]
    cases first : (Text.trim field).head? with
    | none => rfl
    | some c => exact Text.head?_trim first
  case last =>
    rw [String.toList_ofList]
    cases last : (Text.trim field).getLast? with
    | none => rfl
    | some c => exact Text.getLast?_trim last

theorem isField_of_ofLine {line : List Char} {row : Row} (unbroken : '\n' ∉ line)
    (read : Row.ofLine line = .ok (some row)) : IsField row.path ∧ IsField row.function := by
  unfold Row.ofLine at read
  dsimp only at read
  split at read
  · cases read
  split at read
  · rename_i path function percent _ cut
    split at read
    · cases read
    · rename_i some
      rw [Bool.or_eq_true, not_or, Bool.not_eq_true, Bool.not_eq_true] at some
      have kept : '\n' ∉ Text.trim line := fun newline => unbroken (Text.mem_of_mem_trim newline)
      split at read
      · cases read
        exact ⟨isField_of_mem_fields kept (cut ▸ by simp) some.1,
          isField_of_mem_fields kept (cut ▸ by simp) some.2⟩
      · cases read
  · cases read

theorem isField_of_rowsOfLines {lines : List (List Char)} {rows : List Row}
    (unbroken : ∀ line ∈ lines, '\n' ∉ line) (read : rowsOfLines lines = .ok rows) :
    ∀ row ∈ rows, IsField row.path ∧ IsField row.function := by
  induction lines generalizing rows with
  | nil =>
    cases read
    simp
  | cons line lines ih =>
    obtain ⟨here, others⟩ := List.forall_mem_cons.1 unbroken
    rw [rowsOfLines] at read
    split at read
    · cases read
    · exact ih others read
    · rename_i row found
      split at read
      · cases read
      · rename_i rest behind
        cases read
        exact List.forall_mem_cons.2 ⟨isField_of_ofLine here found, ih others behind⟩

theorem isField_of_rowsOfSummary {summary : String} {rows : List Row}
    (read : rowsOfSummary summary = .ok rows) :
    ∀ row ∈ rows, IsField row.path ∧ IsField row.function :=
  isField_of_rowsOfLines (Text.newline_not_mem_lines summary.toList) read

/-! ## Coverage files -/

def Row.pieces (row : Row) : List (List Char) :=
  [row.function.toList, row.path.toList, (percentText 2 row.percent).toList]

def Row.fileText (row : Row) : List Char :=
  row.function.toList ++
    '\t' :: '\t' :: (row.path.toList ++ '\t' :: '\t' :: (percentText 2 row.percent).toList)

theorem Row.toList_fileLine (row : Row) : row.fileLine.toList = row.fileText ++ ['\n'] := by
  simp [fileLine, fileText]

theorem Report.toList_file (report : Report) : report.file.toList =
    (report.rows.map Row.fileText ++ [totalText report]).flatMap (· ++ ['\n']) := by
  simp [file, Row.toList_fileLine, toList_totalLine, List.flatMap_map]

def Row.Read (row : Row) : Prop := IsField row.path ∧ IsField row.function

theorem Row.Read.newline_not_mem_fileText {row : Row} (read : row.Read) :
    '\n' ∉ row.fileText := by
  simp [fileText, read.1.unbroken, read.2.unbroken, newline_not_mem_percentText]

theorem Row.Read.splitAtTwice_fileText {row : Row} (read : row.Read) :
    Text.splitAtTwice '\t' row.fileText = row.pieces := by
  rw [fileText, Text.splitAtTwice_append read.2.untabbed,
    Text.splitAtTwice_append read.1.untabbed,
    Text.splitAtTwice_of_not_mem (tab_not_mem_percentText 2 row.percent), pieces]

theorem read_of_mem_pair {rows : List Row} (read : ∀ row ∈ rows, row.Read) (files : FileIndex)
    (rule : MatchRule) (ds : List Dependency) : ∀ row ∈ pair files rule ds rows, row.Read := by
  intro row member
  obtain ⟨given, listed, paired⟩ := List.mem_filterMap.1 member
  obtain ⟨d, -, rfl⟩ := Option.map_eq_some_iff.1 paired
  exact read given listed

/-- The file of a report on a summary, cut at newlines, has one line for each row of the report, in
order, then the total, then nothing. Cut at double tabs, the line of a row is its function, its path
and its percent. -/
theorem Report.pieces_file {summary : String} {rows : List Row}
    (read : rowsOfSummary summary = .ok rows) (files : FileIndex) (rule : MatchRule)
    (ds : List Dependency) :
    let report := Report.ofRows (pair files rule ds rows)
    ∃ written, Text.splitAt '\n' report.file.toList = written ++ [totalText report, []] ∧
      written.map (Text.splitAtTwice '\t') = (pair files rule ds rows).map fun row =>
        [row.function.toList, row.path.toList, (percentText 2 row.percent).toList] := by
  intro report
  have kept := read_of_mem_pair (isField_of_rowsOfSummary read) files rule ds
  refine ⟨report.rows.map Row.fileText, ?_, ?_⟩
  · rw [Report.toList_file, Text.splitAt_flatMap]
    · simp
    · simp only [List.forall_mem_append, List.forall_mem_map, List.forall_mem_singleton]
      exact ⟨fun row member => (kept row member).newline_not_mem_fileText,
        newline_not_mem_totalText report⟩
  · rw [List.map_map]
    exact List.map_congr_left fun row member => (kept row member).splitAtTwice_fileText

def odd : Written where
  lines :=
    [(.row ⟨"a/x\x0b.go:3:", "F\rG", "50", Decimal.ofPowerOfTen false 50 2 0⟩ 0 2,
        .returnAndNewline),
      (.total "\t-".toList, .newline)]
  last? := some (.row ⟨"a/名 y.go:7:", "(*Ü).Maß", "4e1", Decimal.ofPowerOfTen false 4 1 1⟩ 1 0)

def oddRows : List Row :=
  [⟨"a/x\x0b.go:3:", "F\rG", Decimal.ofPowerOfTen false 50 2 0, none⟩,
    ⟨"a/名 y.go:7:", "(*Ü).Maß", Decimal.ofPowerOfTen false 4 1 1, none⟩]

theorem rowsOfSummary_odd : rowsOfSummary odd.text = .ok oddRows := by
  have first : IsField "a/x\x0b.go:3:" ∧ IsField "F\rG" := by
    constructor <;> constructor <;> decide
  have second : IsField "a/名 y.go:7:" ∧ IsField "(*Ü).Maß" := by
    constructor <;> constructor <;> decide
  have half : Decimal.read? "50".toList = some (Decimal.ofPowerOfTen false 50 2 0) :=
    Decimal.read?_of_number? (by decide)
  have less : Decimal.read? "4e1".toList = some (Decimal.ofPowerOfTen false 4 1 1) :=
    Decimal.read?_of_number? (by decide)
  have total : '\n' ∉ "\t-".toList := by decide
  rw [rowsOfSummary, Written.text, String.toList_ofList]
  refine rowsOfLines_written ?_ ?_
  · simp only [odd, List.map_cons, List.map_nil, List.forall_mem_cons]
    exact ⟨⟨first.1, first.2, half⟩, total, by simp⟩
  · rintro line ⟨⟩
    exact ⟨second.1, second.2, less⟩

def oddDependencies : List Dependency :=
  [⟨"a", ⟨"a", "F\rG"⟩, 0, none, 3⟩, ⟨"a", .method "a" "Ü" true "Maß", 1, none, 0⟩]

theorem Report.pieces_file_odd :
    let rows := pair ⟨.empty, []⟩ .substring oddDependencies oddRows
    odd.text = "a/x\x0b.go:3:\tF\rG\t\t\t50%\r\ntotal:\t-\na/名 y.go:7:\t\t(*Ü).Maß\t4e1%" ∧
      rowsOfSummary odd.text = .ok oddRows ∧
      rows.map Row.weight? = [some 3, some 0] ∧
      ∃ written, Text.splitAt '\n' (Report.ofRows rows).file.toList =
          written ++ [totalText (Report.ofRows rows), []] ∧
        written.map (Text.splitAtTwice '\t') = rows.map fun row =>
          [row.function.toList, row.path.toList, (percentText 2 row.percent).toList] :=
  ⟨by decide, rowsOfSummary_odd, by decide,
    Report.pieces_file rowsOfSummary_odd ⟨.empty, []⟩ .substring oddDependencies⟩

end Coverage

end TestReach
