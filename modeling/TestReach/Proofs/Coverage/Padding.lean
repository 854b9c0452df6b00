import TestReach.Proofs.Coverage.Summaries

/-!
# Padding with tabs

How many tabs stand together in a line says nothing. Texts that differ in no more than that still
do so when they are trimmed, since a tab is a blank, and are the same once their tabs are collapsed,
so the same is read from them.
-/

namespace TestReach.Coverage

/-- The second text is the first one with other runs of tabs, none of them empty, in the places of
its runs. -/
inductive Repadded : List Char → List Char → Prop
  | nil : Repadded [] []
  | char {c : Char} {cs ds : List Char} (other : c ≠ '\t') (rest : Repadded cs ds) :
    Repadded (c :: cs) (c :: ds)
  | tabs {cs ds : List Char} (m n : Nat) (rest : Repadded cs ds) :
    Repadded (List.replicate (m + 1) '\t' ++ cs) (List.replicate (n + 1) '\t' ++ ds)

theorem head?_collapseTabs (cs : List Char) : (collapseTabs cs).head? = cs.head? := by
  fun_induction collapseTabs cs with
  | case1 cs ih => simpa using ih
  | case2 => rfl
  | case3 => rfl

theorem collapseTabs_cons_collapseTabs (c : Char) (cs : List Char) :
    collapseTabs (c :: collapseTabs cs) = collapseTabs (c :: cs) := by
  by_cases tab : c = '\t'
  · subst tab
    cases first : cs.head? with
    | none =>
      rw [List.head?_eq_none_iff.1 first, collapseTabs_nil]
    | some d =>
      obtain ⟨ds, rfl⟩ := List.head?_eq_some_iff.1 first
      obtain ⟨es, collapsed⟩ :=
        List.head?_eq_some_iff.1 ((head?_collapseTabs (d :: ds)).trans first)
      by_cases another : d = '\t'
      · subst another
        rw [collapsed, collapseTabs_tab_tab, collapseTabs_tab_tab, ← collapsed, collapseTabs_idem]
      · have alone (rest : List Char) :
            collapseTabs ('\t' :: d :: rest) = '\t' :: collapseTabs (d :: rest) :=
          collapseTabs_replicate 0 another rest
        rw [collapsed, alone, alone, ← collapsed, collapseTabs_idem]
  · rw [collapseTabs_cons tab, collapseTabs_cons tab, collapseTabs_idem]

theorem collapseTabs_tabs (n : Nat) (cs : List Char) :
    collapseTabs (List.replicate (n + 1) '\t' ++ cs) = collapseTabs ('\t' :: cs) := by
  induction n with
  | zero => rfl
  | succ n ih =>
    rw [List.replicate_succ, List.replicate_succ, List.cons_append, List.cons_append,
      collapseTabs_tab_tab, ← List.cons_append, ← List.replicate_succ, ih]

theorem not_infix_collapseTabs (cs : List Char) : ¬['\t', '\t'] <:+: collapseTabs cs := by
  fun_induction collapseTabs cs with
  | case1 cs ih => exact ih
  | case2 c cs single ih =>
    rw [List.infix_cons_iff, not_or]
    refine ⟨?_, ih⟩
    rintro ⟨rest, same⟩
    obtain ⟨rfl, behind⟩ := List.cons.inj same
    have next : cs.head? = some '\t' := by
      rw [← head?_collapseTabs, ← behind]
      rfl
    obtain ⟨ds, rfl⟩ := List.head?_eq_some_iff.1 next
    exact single ds rfl rfl
  | case3 => simp

namespace Repadded

variable {cs ds : List Char}

theorem collapseTabs_eq (same : Repadded cs ds) : collapseTabs cs = collapseTabs ds := by
  induction same with
  | nil => rfl
  | char other _ ih => rw [collapseTabs_cons other, collapseTabs_cons other, ih]
  | tabs m n _ ih =>
    rw [collapseTabs_tabs, collapseTabs_tabs, ← collapseTabs_cons_collapseTabs, ih,
      collapseTabs_cons_collapseTabs]

theorem refl (cs : List Char) : Repadded cs cs := by
  induction cs with
  | nil => exact .nil
  | cons c cs ih =>
    by_cases tab : c = '\t'
    · subst tab
      exact .tabs 0 0 ih
    · exact .char tab ih

theorem tab_left (same : Repadded ('\t' :: cs) ds) : Repadded ('\t' :: '\t' :: cs) ds := by
  generalize begun : '\t' :: cs = text at same
  cases same with
  | nil => cases begun
  | char other _ => exact absurd (List.cons.inj begun).1.symm other
  | tabs m n rest => exact .tabs (m + 1) n rest

theorem collapsed (cs : List Char) : Repadded cs (collapseTabs cs) := by
  fun_induction collapseTabs cs with
  | case1 cs ih => exact ih.tab_left
  | case2 c cs single ih =>
    by_cases tab : c = '\t'
    · subst tab
      exact .tabs 0 0 ih
    · exact .char tab ih
  | case3 => exact .nil

theorem append {es fs : List Char} (first : Repadded cs ds) (second : Repadded es fs) :
    Repadded (cs ++ es) (ds ++ fs) := by
  induction first with
  | nil => exact second
  | char other _ ih => exact .char other ih
  | tabs m n _ ih =>
    rw [List.append_assoc, List.append_assoc]
    exact .tabs m n ih

theorem reverse (same : Repadded cs ds) : Repadded cs.reverse ds.reverse := by
  induction same with
  | nil => exact .nil
  | @char c _ _ _ _ ih =>
    rw [List.reverse_cons, List.reverse_cons]
    exact ih.append (refl [c])
  | tabs m n _ ih =>
    rw [List.reverse_append, List.reverse_append, List.reverse_replicate, List.reverse_replicate]
    have run : Repadded (List.replicate (m + 1) '\t') (List.replicate (n + 1) '\t') := by
      simpa using Repadded.tabs m n .nil
    exact ih.append run

theorem dropWhile_isBlank (same : Repadded cs ds) :
    Repadded (cs.dropWhile Text.isBlank) (ds.dropWhile Text.isBlank) := by
  -- A run of tabs goes as a whole, however long it is.
  have passed (n : Nat) (cs : List Char) :
      (List.replicate n '\t' ++ cs).dropWhile Text.isBlank = cs.dropWhile Text.isBlank :=
    List.dropWhile_append_of_pos fun c member => by
      rw [List.eq_of_mem_replicate member]
      decide
  induction same with
  | nil => exact .nil
  | @char c _ _ other rest ih =>
    rw [List.dropWhile_cons, List.dropWhile_cons]
    split
    · exact ih
    · exact .char other rest
  | tabs m n _ ih =>
    rw [passed, passed]
    exact ih

theorem trim (same : Repadded cs ds) : Repadded (Text.trim cs) (Text.trim ds) :=
  same.dropWhile_isBlank.reverse.dropWhile_isBlank.reverse

theorem isEmpty_eq (same : Repadded cs ds) : cs.isEmpty = ds.isEmpty := by
  cases same with
  | nil | char | tabs => rfl

theorem isTotal_eq (same : Repadded cs ds) : isTotal cs = isTotal ds := by
  have begins (word : List Char) (untabbed : '\t' ∉ word) :
      word.isPrefixOf (cs.map Char.toLower) = word.isPrefixOf (ds.map Char.toLower) := by
    induction same generalizing word with
    | nil => rfl
    | char _ _ ih =>
      cases word with
      | nil => rfl
      | cons d word =>
        rw [List.mem_cons, not_or] at untabbed
        simp [List.isPrefixOf, ih word untabbed.2]
    | tabs m n _ _ =>
      have lower : Char.toLower '\t' = '\t' := by decide
      cases word with
      | nil => rfl
      | cons d word =>
        rw [List.mem_cons, not_or] at untabbed
        have begins : (d == '\t') = false := beq_false_of_ne (Ne.symm untabbed.1)
        simp [List.replicate_succ, List.isPrefixOf, lower, begins]
  exact begins _ (by decide)

end Repadded

/-- Two lines of which the same row is read, of which none is read, or which are refused for the
same text in the place of their percent. -/
inductive SameOutcome : Except Failure (Option Row) → Except Failure (Option Row) → Prop
  | row (r : Row) : SameOutcome (.ok (some r)) (.ok (some r))
  | skipped : SameOutcome (.ok none) (.ok none)
  | refused (line other field : String) :
    SameOutcome (.error (.percent line field)) (.error (.percent other field))

theorem SameOutcome.symm {one other : Except Failure (Option Row)} (same : SameOutcome one other) :
    SameOutcome other one := by
  cases same with
  | row r => exact .row r
  | skipped => exact .skipped
  | refused line other field => exact .refused other line field

theorem Repadded.sameOutcome {cs ds : List Char} (same : Repadded cs ds) :
    SameOutcome (Row.ofLine cs) (Row.ofLine ds) := by
  have trimmed := same.trim
  have split : fields (Text.trim cs) = fields (Text.trim ds) := by
    rw [fields, fields, trimmed.collapseTabs_eq]
  rw [Row.ofLine, Row.ofLine, ← trimmed.isEmpty_eq, ← trimmed.isTotal_eq, ← split]
  dsimp only
  split
  · exact .skipped
  split
  · split
    · exact .skipped
    split
    · exact .row _
    · exact .refused _ _ _
  · exact .skipped

/-- However the tabs of a line are repeated, the same is read from it; collapsing them is one way to
do so, which leaves no two tabs together and does nothing more when it is done again. -/
theorem ofLine_repadded (line : List Char) :
    (∀ other, Repadded line other → SameOutcome (Row.ofLine line) (Row.ofLine other)) ∧
      SameOutcome (Row.ofLine (collapseTabs line)) (Row.ofLine line) ∧
      collapseTabs (collapseTabs line) = collapseTabs line ∧
      ¬['\t', '\t'] <:+: collapseTabs line :=
  ⟨fun _ same => same.sameOutcome, (Repadded.collapsed line).sameOutcome.symm,
    collapseTabs_idem line, not_infix_collapseTabs line⟩

def paddedLine : List Char := "\t\ta/m.go:3:\tTop\t\tall%\t".toList

def repaddedLine : List Char := "\ta/m.go:3:\t\tTop\tall%\t\t\t".toList

theorem ofLine_repadded_refused :
    Repadded paddedLine repaddedLine ∧
      SameOutcome (Row.ofLine paddedLine) (Row.ofLine repaddedLine) ∧
      Row.ofLine repaddedLine = .error (.percent "\ta/m.go:3:\t\tTop\tall%\t\t\t" "all%") := by
  have text {cs ds : List Char} (start : List Char) (same : Repadded cs ds) :
      Repadded (start ++ cs) (start ++ ds) := (Repadded.refl start).append same
  have same : Repadded paddedLine repaddedLine :=
    .tabs 1 0 (text "a/m.go:3:".toList (.tabs 0 1 (text "Top".toList
      (.tabs 1 0 (text "all%".toList (.tabs 0 2 .nil))))))
  exact ⟨same, (ofLine_repadded paddedLine).1 repaddedLine same, rfl⟩

end TestReach.Coverage
