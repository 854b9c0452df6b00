import TestReach.Proofs.Json.Texts

/-!
# Written values

A value that holds no numbers is read back from what is printed for it. Every step of reading takes
an octet, so as many steps as there are octets are enough.
-/

namespace TestReach.Json

open Text

/-- A value of texts, in arrays and in objects whose names are texts. -/
inductive Plain : Json → Prop
  | string (text : String) : Plain (.string (some text))
  | array {items : List Json} (below : ∀ item ∈ items, Plain item) : Plain (.array items)
  | object {members : List (Option String × Json)} (named : ∀ member ∈ members, member.1.isSome)
    (below : ∀ member ∈ members, Plain member.2) : Plain (.object members)

def compactOctets (j : Json) : List Char := j.compact.flatMap charOctets

def itemsOctets (items : List Json) : List Char := (compactItems items).flatMap charOctets

def membersOctets (members : List (Option String × Json)) : List Char :=
  (compactMembers members).flatMap charOctets

structure Reads (j : Json) : Prop where
  first : ∃ mark ∈ ['\x22', '[', '\x7b'], ∃ octets, compactOctets j = mark :: octets
  whole : ∀ fuel rest, (compactOctets j).length ≤ fuel →
    readValue fuel (compactOctets j ++ rest) = some (j, rest)

theorem skipSpace_cons {c : Char} (shown : isSpace c = false) (cs : List Char) :
    skipSpace (c :: cs) = c :: cs := List.dropWhile_cons_of_neg (by simp [shown])

variable {j : Json}

theorem Reads.skipSpace (reads : Reads j) (rest : List Char) :
    Json.skipSpace (compactOctets j ++ rest) = compactOctets j ++ rest := by
  obtain ⟨mark, listed, octets, begins⟩ := reads.first
  have shown : isSpace mark = false := by
    simp only [List.mem_cons, List.not_mem_nil, or_false] at listed
    rcases listed with rfl | rfl | rfl <;> rfl
  rw [begins, List.cons_append, skipSpace_cons shown]

theorem itemsOctets_cons (item : Json) (items : List Json) : itemsOctets (item :: items) =
    compactOctets item ++ if items.isEmpty then [']'] else ',' :: itemsOctets items := by
  have stop : charOctets ']' = [']'] := charOctets_of_lt (by decide)
  have comma : charOctets ',' = [','] := charOctets_of_lt (by decide)
  cases items with
  | nil => simp [itemsOctets, compactItems, compactOctets, stop]
  | cons next items => simp [itemsOctets, compactItems, compactOctets, comma]

theorem readItems_itemsOctets {items : List Json} (filled : items ≠ [])
    (below : ∀ item ∈ items, Reads item) (fuel : Nat) (rest : List Char)
    (enough : (itemsOctets items).length ≤ fuel) :
    readItems fuel (itemsOctets items ++ rest) = some (items, rest) := by
  induction items generalizing fuel with
  | nil => exact absurd rfl filled
  | cons item items ih =>
    obtain ⟨here, others⟩ := List.forall_mem_cons.1 below
    rw [itemsOctets_cons, List.length_append] at enough
    cases fuel with
    | zero => cases items <;> simp at enough
    | succ fuel =>
      rw [itemsOctets_cons, List.append_assoc, readItems, here.skipSpace]
      cases items with
      | nil =>
        rw [here.whole _ _ (by simp at enough; omega)]
        simp [skipSpace_cons (show isSpace ']' = false by decide)]
      | cons next items =>
        simp only [List.isEmpty_cons, Bool.false_eq_true, if_false, List.length_cons] at enough ⊢
        rw [here.whole _ _ (by omega), List.cons_append]
        have behind := ih (List.cons_ne_nil next items) others fuel (by omega)
        simp [skipSpace_cons (show isSpace ',' = false by decide), behind]

theorem membersOctets_cons (name : Option String) (value : Json)
    (members : List (Option String × Json)) (rest : List Char) :
    membersOctets ((name, value) :: members) ++ rest =
      '\x22' :: ((name.getD "").toList.flatMap escapeOctets ++ '\x22' :: ':' ::
        (compactOctets value ++
          ((if members.isEmpty then ['\x7d'] else ',' :: membersOctets members) ++ rest))) := by
  have colon : charOctets ':' = [':'] := charOctets_of_lt (by decide)
  have comma : charOctets ',' = [','] := charOctets_of_lt (by decide)
  have stop : charOctets '\x7d' = ['\x7d'] := charOctets_of_lt (by decide)
  rw [← octets_quote]
  cases members with
  | nil => simp [membersOctets, compactMembers, compactOctets, printName, colon, stop]
  | cons next members =>
    simp [membersOctets, compactMembers, compactOctets, printName, colon, comma]

theorem readMembers_membersOctets {members : List (Option String × Json)} (filled : members ≠ [])
    (named : ∀ member ∈ members, member.1.isSome) (below : ∀ member ∈ members, Reads member.2)
    (fuel : Nat) (rest : List Char) (enough : (membersOctets members).length ≤ fuel) :
    readMembers fuel (membersOctets members ++ rest) = some (members, rest) := by
  induction members generalizing fuel with
  | nil => exact absurd rfl filled
  | cons member members ih =>
    obtain ⟨here, others⟩ := List.forall_mem_cons.1 below
    obtain ⟨text, others'⟩ := List.forall_mem_cons.1 named
    obtain ⟨name, value⟩ := member
    obtain ⟨name, rfl⟩ := Option.isSome_iff_exists.1 text
    replace here : Reads value := here
    have octets := membersOctets_cons (some name) value members
    have size := congrArg List.length (octets [])
    simp only [List.append_nil, List.length_cons, List.length_append] at size
    cases fuel with
    | zero => omega
    | succ fuel =>
      rw [octets, readMembers, skipSpace_cons (by decide)]
      have colon := skipSpace_cons (show isSpace ':' = false by decide)
      simp only [Option.getD_some, readString_quote, colon, here.skipSpace, Option.bind_eq_bind,
        Option.bind_some]
      rw [here.whole _ _ (by omega)]
      cases members with
      | nil => simp [skipSpace_cons (show isSpace '\x7d' = false by decide)]
      | cons next members =>
        simp only [List.isEmpty_cons, Bool.false_eq_true, if_false, List.length_cons] at size ⊢
        have behind := ih (List.cons_ne_nil next members) others' others fuel (by omega)
        simp [skipSpace_cons (show isSpace ',' = false by decide), behind]

theorem reads_string (text : String) : Reads (.string (some text)) := by
  have octets : compactOctets (.string (some text)) = (quote text).flatMap charOctets := by
    rw [compactOctets, compact]
  have begins := octets_quote text []
  rw [List.append_nil, ← octets] at begins
  constructor
  case first => exact ⟨_, by simp, _, begins⟩
  case whole =>
    intro fuel rest enough
    rw [begins] at enough
    cases fuel with
    | zero => simp at enough
    | succ fuel =>
      rw [octets, octets_quote, readValue, readString_quote]
      rfl

theorem reads_array {items : List Json} (below : ∀ item ∈ items, Reads item) :
    Reads (.array items) := by
  have octets : compactOctets (.array items) = '[' :: itemsOctets items := by
    rw [compactOctets, compact, List.flatMap_cons, charOctets_of_lt (by decide)]
    rfl
  refine ⟨⟨_, by simp, _, octets⟩, fun fuel rest enough => ?_⟩
  rw [octets, List.length_cons] at enough
  obtain ⟨fuel, rfl⟩ := Nat.exists_eq_add_of_le' (Nat.le_trans (Nat.le_add_left 1 _) enough)
  rw [octets, List.cons_append, readValue]
  cases items with
  | nil => rfl
  | cons item items =>
    have read := readItems_itemsOctets (List.cons_ne_nil item items) below fuel rest (by omega)
    have here := (List.forall_mem_cons.1 below).1
    obtain ⟨mark, listed, octets, begins⟩ := here.first
    rw [itemsOctets_cons, List.append_assoc] at read ⊢
    rw [here.skipSpace]
    split
    · rename_i same
      rw [begins, List.cons_append, List.cons.injEq] at same
      exact absurd (same.1 ▸ listed) (by decide)
    · rw [read]
      rfl

theorem reads_object {members : List (Option String × Json)}
    (named : ∀ member ∈ members, member.1.isSome) (below : ∀ member ∈ members, Reads member.2) :
    Reads (.object members) := by
  have octets : compactOctets (.object members) = '\x7b' :: membersOctets members := by
    rw [compactOctets, compact, List.flatMap_cons, charOctets_of_lt (by decide)]
    rfl
  refine ⟨⟨_, by simp, _, octets⟩, fun fuel rest enough => ?_⟩
  rw [octets, List.length_cons] at enough
  obtain ⟨fuel, rfl⟩ := Nat.exists_eq_add_of_le' (Nat.le_trans (Nat.le_add_left 1 _) enough)
  rw [octets, List.cons_append, readValue]
  cases members with
  | nil => rfl
  | cons member members =>
    have read := readMembers_membersOctets (List.cons_ne_nil member members) named below fuel rest
      (by omega)
    rw [membersOctets_cons] at read ⊢
    rw [skipSpace_cons (by decide)]
    split
    · rename_i same
      exact absurd (List.cons.inj same).1 (by decide)
    · rw [read]
      rfl

theorem Plain.reads (plain : Plain j) : Reads j := by
  induction plain with
  | string text => exact reads_string text
  | array _ ih => exact reads_array ih
  | object named _ ih => exact reads_object named ih

theorem read?_print (plain : Plain j) : read? j.print = some j := by
  have octets : Text.octets j.print = compactOctets j := by
    rw [print, octets_ofList, compactOctets]
  have shown := plain.reads.skipSpace []
  have whole := plain.reads.whole (2 * (compactOctets j).length + 1) [] (by omega)
  rw [List.append_nil] at shown whole
  rw [read?, ofOctets?, octets, shown, whole]
  rfl

/-- A printer and a reader of texts that is faithful to what holds no numbers. -/
structure Codec where
  print : Json → String
  read? : String → Option Json
  read?_print {j : Json} (plain : j.Plain) : read? (print j) = some j

def Codec.standard : Codec := ⟨Json.print, Json.read?, Json.read?_print⟩

end TestReach.Json
