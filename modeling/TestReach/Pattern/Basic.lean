import TestReach.Pattern.Chars

/-!
# Patterns

A pattern is found in a text if some part of the text matches it. From each place of the text, the
places are computed where a match that begins there can end.
-/

namespace TestReach

inductive Pattern.Place
  | textStart
  | textEnd
  | lineStart (returns : Bool)
  | lineEnd (returns : Bool)
  | wordEdge (word : Pattern.Chars)
  | noWordEdge (word : Pattern.Chars)
  | wordStart (word : Pattern.Chars)
  | wordEnd (word : Pattern.Chars)
  | noWordBefore (word : Pattern.Chars)
  | noWordBehind (word : Pattern.Chars)

inductive Pattern
  | empty
  | chars (set : Pattern.Chars)
  | place (p : Pattern.Place)
  | both (a b : Pattern)
  | either (a b : Pattern)
  | star (a : Pattern)
  | times (a : Pattern) (least : Nat) (most : Option Nat)

namespace Pattern

/-- Whether a place in a text meets a condition. A line may also end with a carriage return, but no
place between that and a newline is the end or the start of a line. -/
def Place.holds (text : Array Char) (i : Nat) (p : Place) : Bool :=
  let before? := if i = 0 then none else text[i - 1]?
  let behind? := text[i]?
  let wordBefore (word : Chars) := (before?.map word.holds).getD false
  let wordBehind (word : Chars) := (behind?.map word.holds).getD false
  match p with
  | textStart => before?.isNone
  | textEnd => behind?.isNone
  | lineStart false => before?.isNone || before? == some '\n'
  | lineStart true =>
    before?.isNone || before? == some '\n' || (before? == some '\r' && behind? != some '\n')
  | lineEnd false => behind?.isNone || behind? == some '\n'
  | lineEnd true =>
    behind?.isNone || behind? == some '\r' || (behind? == some '\n' && before? != some '\r')
  | wordEdge word => wordBefore word != wordBehind word
  | noWordEdge word => wordBefore word == wordBehind word
  | wordStart word => !wordBefore word && wordBehind word
  | wordEnd word => wordBefore word && !wordBehind word
  | noWordBefore word => !wordBefore word
  | noWordBehind word => !wordBehind word

def advance (step : Nat → List Nat) (places : List Nat) : List Nat :=
  (places.flatMap step).eraseDups

/-- The places that are reached in any number of steps. New places are followed; the first argument
bounds how often. -/
def closure (step : Nat → List Nat) : Nat → List Nat → List Nat → List Nat
  | 0, seen, _ => seen
  | fuel + 1, seen, fresh =>
    let next := (advance step fresh).filter fun i => !seen.contains i
    if next.isEmpty then seen else closure step fuel (seen ++ next) next

def advanceTimes (step : Nat → List Nat) : Nat → List Nat → List Nat
  | 0, places => places
  | n + 1, places => if places.isEmpty then [] else advanceTimes step n (advance step places)

def advanceUpTo (step : Nat → List Nat) : Nat → List Nat → List Nat → List Nat
  | 0, seen, _ => seen
  | n + 1, seen, fresh =>
    let next := (advance step fresh).filter fun i => !seen.contains i
    if next.isEmpty then seen else advanceUpTo step n (seen ++ next) next

/-- The places where a match that begins at a place can end. -/
def ends (text : Array Char) : Pattern → Nat → List Nat
  | empty, i => [i]
  | chars set, i =>
    match text[i]? with
    | some c => if set.holds c then [i + 1] else []
    | none => []
  | place p, i => if p.holds text i then [i] else []
  | both a b, i => advance (ends text b) (ends text a i)
  | either a b, i => (ends text a i ++ ends text b i).eraseDups
  | star a, i => closure (ends text a) (text.size + 1) [i] [i]
  | times a least most, i =>
    let reached := advanceTimes (ends text a) least [i]
    match most with
    | some most => advanceUpTo (ends text a) (most - least) reached reached
    | none => closure (ends text a) (text.size + 1) reached reached

def isIn (p : Pattern) (text : String) : Bool :=
  let text := text.toList.toArray
  (List.range (text.size + 1)).any fun i => !(ends text p i).isEmpty

end Pattern

end TestReach
