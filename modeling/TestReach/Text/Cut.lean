/-!
# Cutting texts

Texts as lists of characters, cut at marks.
-/

namespace TestReach.Text

def splitAt (mark : Char) : List Char → List (List Char)
  | [] => [[]]
  | c :: cs =>
    if c = mark then [] :: splitAt mark cs
    else match splitAt mark cs with
      | piece :: pieces => (c :: piece) :: pieces
      | [] => [[c]]

def joinWith (mark : List Char) : List (List Char) → List Char
  | [] => []
  | [piece] => piece
  | piece :: pieces => piece ++ mark ++ joinWith mark pieces

theorem splitAt_ne_nil (mark : Char) (cs : List Char) : splitAt mark cs ≠ [] := by
  cases cs with
  | nil => simp [splitAt]
  | cons c cs =>
    unfold splitAt
    split
    · simp
    · split <;> simp

theorem joinWith_splitAt (mark : Char) (cs : List Char) :
    joinWith [mark] (splitAt mark cs) = cs := by
  induction cs with
  | nil => rfl
  | cons c cs ih =>
    unfold splitAt
    have nonempty := splitAt_ne_nil mark cs
    split
    · rename_i same
      cases pieces : splitAt mark cs with
      | nil => exact absurd pieces nonempty
      | cons piece rest => rw [pieces] at ih; simp [joinWith, ih, same]
    · cases pieces : splitAt mark cs with
      | nil => exact absurd pieces nonempty
      | cons piece rest =>
        rw [pieces] at ih
        cases rest with
        | nil => simp only [joinWith] at ih ⊢; rw [ih]
        | cons next rest => simp only [joinWith, List.cons_append] at ih ⊢; rw [ih]

theorem not_mem_of_mem_splitAt {mark : Char} {cs piece : List Char}
    (member : piece ∈ splitAt mark cs) : mark ∉ piece := by
  induction cs generalizing piece with
  | nil => simp_all [splitAt]
  | cons c cs ih =>
    unfold splitAt at member
    split at member
    · rcases List.mem_cons.1 member with rfl | member
      · simp
      · exact ih member
    · rename_i other
      split at member
      · rename_i first rest pieces
        rcases List.mem_cons.1 member with rfl | member
        · have := ih (pieces ▸ List.mem_cons_self : first ∈ splitAt mark cs)
          simp [Ne.symm other, this]
        · exact ih (pieces ▸ List.mem_cons_of_mem _ member)
      · simp at member
        simp [member, Ne.symm other]

def cutLast? (mark : List Char) : List Char → Option (List Char × List Char)
  | [] => none
  | c :: cs =>
    match cutLast? mark cs with
    | some (before, behind) => some (c :: before, behind)
    | none =>
      if mark.isPrefixOf (c :: cs) then some ([], (c :: cs).drop mark.length) else none

def behind? (start : List Char) (cs : List Char) : Option (List Char) :=
  if start.isPrefixOf cs then some (cs.drop start.length) else none

def before? (stop : List Char) (cs : List Char) : Option (List Char) :=
  (behind? stop.reverse cs.reverse).map List.reverse

def holds (part : List Char) : List Char → Bool
  | [] => part.isEmpty
  | c :: cs => part.isPrefixOf (c :: cs) || holds part cs

theorem behind?_eq_some {start cs rest : List Char} :
    behind? start cs = some rest ↔ cs = start ++ rest := by
  unfold behind?
  constructor
  · intro found
    split at found
    · rename_i begins
      obtain ⟨tail, rfl⟩ := List.isPrefixOf_iff_prefix.1 begins
      simp_all
    · simp at found
  · rintro rfl
    simp [List.isPrefixOf_iff_prefix]

theorem before?_eq_some {stop cs rest : List Char} :
    before? stop cs = some rest ↔ cs = rest ++ stop := by
  simp only [before?, Option.map_eq_some_iff, behind?_eq_some]
  constructor
  · rintro ⟨tail, same, rfl⟩
    have := congrArg List.reverse same
    simpa using this
  · rintro rfl
    exact ⟨rest.reverse, by simp, by simp⟩

theorem holds_iff {part cs : List Char} : holds part cs = true ↔ part <:+: cs := by
  induction cs with
  | nil => simp [holds]
  | cons c cs ih =>
    simp only [holds, Bool.or_eq_true, ih, List.isPrefixOf_iff_prefix]
    constructor
    · rintro (begins | inside)
      · exact begins.isInfix
      · exact inside.trans (List.suffix_cons c cs).isInfix
    · rintro ⟨before, behind, same⟩
      cases before with
      | nil => exact .inl ⟨behind, by simpa using same⟩
      | cons b before =>
        simp only [List.cons_append, List.cons.injEq] at same
        exact .inr ⟨before, behind, same.2⟩

end TestReach.Text
