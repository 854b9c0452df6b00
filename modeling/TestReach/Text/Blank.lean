import TestReach.Text.Range

namespace TestReach.Text

def blankRanges : List (Nat × Nat) :=
  [(0x9, 0xd), (0x20, 0x20), (0x85, 0x85), (0xa0, 0xa0), (0x1680, 0x1680), (0x2000, 0x200a),
   (0x2028, 0x2029), (0x202f, 0x202f), (0x205f, 0x205f), (0x3000, 0x3000)]

def isBlank (c : Char) : Bool := inRanges blankRanges c.toNat

def trim (cs : List Char) : List Char :=
  ((cs.dropWhile isBlank).reverse.dropWhile isBlank).reverse

theorem head?_dropWhile_not {p : Char → Bool} {cs : List Char} {c : Char}
    (head : (cs.dropWhile p).head? = some c) : p c = false := by
  induction cs with
  | nil => simp at head
  | cons d cs ih =>
    simp only [List.dropWhile_cons] at head
    split at head
    · exact ih head
    · rename_i stops
      simp at head
      simpa [head] using stops

theorem getLast?_trim {cs : List Char} {c : Char} (last : (trim cs).getLast? = some c) :
    isBlank c = false := by
  rw [trim, List.getLast?_reverse] at last
  exact head?_dropWhile_not last

/-- The lines of a text. A line ends at a newline, and a carriage return before that goes with it;
the end of the text ends no line of its own. -/
def lines : List Char → List (List Char)
  | [] => []
  | c :: cs =>
    if c = '\n' then [] :: lines cs
    else match c, cs with
      | '\r', '\n' :: rest => [] :: lines rest
      | c, cs =>
        match lines cs with
        | [] => [[c]]
        | line :: rest => (c :: line) :: rest

end TestReach.Text
