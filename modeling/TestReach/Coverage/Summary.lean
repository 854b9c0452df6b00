import TestReach.Coverage.Row
import TestReach.Decimal.Reading
import TestReach.Failure
import TestReach.Text.Blank

/-!
# Summaries

A summary has a line for each function: its place, its name and its percent, with tabs between
them. Other lines are passed over: blank ones, the one with the total, and those with fewer fields.
-/

namespace TestReach.Coverage

def collapseTabs : List Char → List Char
  | '\t' :: '\t' :: cs => collapseTabs ('\t' :: cs)
  | c :: cs => c :: collapseTabs cs
  | [] => []

/-- Whether a trimmed line is the one with the total: it begins with the word, in letters of either
case. -/
def isTotal (line : List Char) : Bool :=
  "total".toList.isPrefixOf (line.map Char.toLower)

def fields (line : List Char) : List (List Char) := Text.splitAt '\t' (collapseTabs line)

def percent? (field : List Char) : Option Float :=
  Decimal.read? (Text.trim ((Text.before? ['%'] field).getD field))

def Row.ofLine (line : List Char) : Except Failure (Option Row) :=
  let trimmed := Text.trim line
  if trimmed.isEmpty || isTotal trimmed then .ok none
  else
    match fields trimmed with
    | path :: function :: percent :: _ =>
      let path := Text.trim path
      let function := Text.trim function
      let percent := Text.trim percent
      if path.isEmpty || function.isEmpty then .ok none
      else
        match percent? percent with
        | some value => .ok (some ⟨String.ofList path, String.ofList function, value, none⟩)
        | none => .error (.percent (String.ofList line) (String.ofList percent))
    | _ => .ok none

/-- The rows of lines, up to the first line that is wrong. -/
def rowsOfLines : List (List Char) → Except Failure (List Row)
  | [] => .ok []
  | line :: lines =>
    match Row.ofLine line with
    | .error e => .error e
    | .ok none => rowsOfLines lines
    | .ok (some row) =>
      match rowsOfLines lines with
      | .error e => .error e
      | .ok rows => .ok (row :: rows)

def rowsOfSummary (summary : String) : Except Failure (List Row) :=
  rowsOfLines (Text.lines summary.toList)

@[simp] theorem collapseTabs_nil : collapseTabs [] = [] := by simp [collapseTabs]

@[simp] theorem collapseTabs_tab_tab (cs : List Char) :
    collapseTabs ('\t' :: '\t' :: cs) = collapseTabs ('\t' :: cs) := by
  rw [collapseTabs]

theorem collapseTabs_cons {c : Char} (other : c ≠ '\t') (cs : List Char) :
    collapseTabs (c :: cs) = c :: collapseTabs cs := by
  rw [collapseTabs]
  intro rest first
  exact absurd first other

theorem collapseTabs_idem (cs : List Char) :
    collapseTabs (collapseTabs cs) = collapseTabs cs := by
  fun_induction collapseTabs cs with
  | case1 cs ih => exact ih
  | case2 c cs single ih =>
    by_cases tab : c = '\t'
    · subst tab
      cases cs with
      | nil => simp [collapseTabs]
      | cons d ds =>
        have other : d ≠ '\t' := fun same => single ds rfl (by rw [same])
        rw [collapseTabs_cons other] at ih ⊢
        rw [collapseTabs]
        · rw [ih]
        · intro rest _ same
          exact absurd (List.cons.inj same).1 other
    · rw [collapseTabs_cons tab, ih]
  | case3 => simp

end TestReach.Coverage
