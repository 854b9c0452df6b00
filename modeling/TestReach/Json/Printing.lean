import TestReach.Decimal.Shortest
import TestReach.Json.Value
import TestReach.Text.Cut
import TestReach.Text.Quoted

/-!
# Printing JSON

A value in one line without blanks, or with a line for each item and member, indented by two blanks
a level.
-/

namespace TestReach.Json

def escape (c : Char) : List Char :=
  if c == '\x22' then ['\\', '\x22']
  else if c == '\\' then ['\\', '\\']
  else if c == '\n' then ['\\', 'n']
  else if c == '\r' then ['\\', 'r']
  else if c == '\t' then ['\\', 't']
  else if c == '\x08' then ['\\', 'b']
  else if c == '\x0c' then ['\\', 'f']
  else if c.toNat < 0x20 then
    ['\\', 'u', '0', '0', Text.Quoted.hexDigit (c.toNat / 16), Text.Quoted.hexDigit (c.toNat % 16)]
  else [c]

def quote (text : String) : List Char :=
  '\x22' :: text.toList.flatMap escape ++ ['\x22']

def Number.print : Number → List Char
  | natural n => (toString n).toList
  | float x => ((Decimal.shortestText? x).getD "null").toList
  | tooLarge => "null".toList

def printName (name : Option String) : List Char := quote (name.getD "")

mutual

def compact : Json → List Char
  | null => "null".toList
  | bool b => (toString b).toList
  | number n => n.print
  | string none => "null".toList
  | string (some text) => quote text
  | array items => '[' :: compactItems items
  | object members => '\x7b' :: compactMembers members

def compactItems : List Json → List Char
  | [] => [']']
  | [item] => compact item ++ [']']
  | item :: items => compact item ++ ',' :: compactItems items

def compactMembers : List (Option String × Json) → List Char
  | [] => ['\x7d']
  | [(name, value)] => printName name ++ ':' :: compact value ++ ['\x7d']
  | (name, value) :: members =>
    printName name ++ ':' :: compact value ++ ',' :: compactMembers members

end

def newLine (level : Nat) : List Char := '\n' :: List.replicate (2 * level) ' '

mutual

def spread (level : Nat) : Json → List Char
  | null => "null".toList
  | bool b => (toString b).toList
  | number n => n.print
  | string none => "null".toList
  | string (some text) => quote text
  | array [] => ['[', ']']
  | array (item :: items) => '[' :: spreadItems level (item :: items)
  | object [] => ['\x7b', '\x7d']
  | object (member :: members) => '\x7b' :: spreadMembers level (member :: members)

def spreadItems (level : Nat) : List Json → List Char
  | [] => newLine level ++ [']']
  | [item] => newLine (level + 1) ++ spread (level + 1) item ++ newLine level ++ [']']
  | item :: items =>
    newLine (level + 1) ++ spread (level + 1) item ++ ',' :: spreadItems level items

def spreadMembers (level : Nat) : List (Option String × Json) → List Char
  | [] => newLine level ++ ['\x7d']
  | [(name, value)] =>
    newLine (level + 1) ++ printName name ++ [':', ' '] ++ spread (level + 1) value ++
      newLine level ++ ['\x7d']
  | (name, value) :: members =>
    newLine (level + 1) ++ printName name ++ [':', ' '] ++ spread (level + 1) value ++
      ',' :: spreadMembers level members

end

def print (j : Json) : String := String.ofList (compact j)

def pretty (j : Json) : String := String.ofList (spread 0 j)

end TestReach.Json
