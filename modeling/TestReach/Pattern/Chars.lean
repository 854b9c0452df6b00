import TestReach.Text.Blank
import TestReach.Text.Category
import TestReach.Text.Folding
import TestReach.Text.Script

/-!
# Sets of characters

The sets that a pattern can name: ranges, properties, and what is made of them.
-/

namespace TestReach.Pattern

inductive Chars
  | range (first last : Char)
  | runs (table : List (Nat × Nat × Nat))
  | blank
  | all
  | union (a b : Chars)
  | inter (a b : Chars)
  | except (a : Chars)
  | folded (a : Chars)
  | asciiFolded (a : Chars)

namespace Chars

def holds : Chars → Char → Bool
  | range first last, c => first ≤ c && c ≤ last
  | runs table, c => Text.inRuns table c.toNat
  | blank, c => Text.isBlank c
  | all, _ => true
  | union a b, c => a.holds c || b.holds c
  | inter a b, c => a.holds c && b.holds c
  | except a, c => !a.holds c
  | folded a, c => (Text.Folding.variants c).any a.holds
  | asciiFolded a, c => a.holds c || a.holds c.toLower || a.holds c.toUpper

def single (c : Char) : Chars := range c c

def none : Chars := except all

def unions (sets : List Chars) : Chars := sets.foldl union none

def diff (a b : Chars) : Chars := inter a (except b)

def symDiff (a b : Chars) : Chars := union (diff a b) (diff b a)

open Text.Category in
def letters : Chars :=
  unions [runs uppercaseLetters, runs lowercaseLetters, runs titlecaseLetters,
    runs modifierLetters, runs otherLetters]

open Text.Category in
def marks : Chars := unions [runs nonspacingMarks, runs spacingMarks, runs enclosingMarks]

def enclosedLetters : Chars :=
  runs [(0x24b6, 0x24e9, 1), (0x1f130, 0x1f149, 1), (0x1f150, 0x1f169, 1), (0x1f170, 0x1f189, 1)]

def alphabetic : Chars := unions [letters, runs Text.Category.letterNumbers, enclosedLetters]

def joiners : Chars := range '\u200c' '\u200d'

def word : Chars :=
  unions [range 'a' 'z', range 'A' 'Z', range '0' '9', single '_', alphabetic, marks,
    runs Text.Category.decimalDigits, runs Text.Category.connectors, joiners]

def digit : Chars := runs Text.Category.decimalDigits

def asciiWord : Chars := unions [range 'a' 'z', range 'A' 'Z', range '0' '9', single '_']

def asciiDigit : Chars := range '0' '9'

def asciiBlank : Chars := unions [range '\t' '\r', single ' ']

def asciiNamed? : String → Option Chars
  | "alnum" => some (unions [range '0' '9', range 'A' 'Z', range 'a' 'z'])
  | "alpha" => some (unions [range 'A' 'Z', range 'a' 'z'])
  | "ascii" => some (range '\x00' '\x7f')
  | "blank" => some (unions [single '\t', single ' '])
  | "cntrl" => some (unions [range '\x00' '\x1f', single '\x7f'])
  | "digit" => some (range '0' '9')
  | "graph" => some (range '!' '~')
  | "lower" => some (range 'a' 'z')
  | "print" => some (range ' ' '~')
  | "punct" => some (unions [range '!' '/', range ':' '@', range '[' '\x60', range '\x7b' '~'])
  | "space" => some asciiBlank
  | "upper" => some (range 'A' 'Z')
  | "word" => some asciiWord
  | "xdigit" => some (unions [range '0' '9', range 'A' 'F', range 'a' 'f'])
  | _ => .none

open Text.Category in
def punctuation : Chars :=
  unions [runs connectors, runs dashes, runs openers, runs closers, runs initialQuotes,
    runs finalQuotes, runs otherPunctuation]

open Text.Category in
def symbols : Chars :=
  unions [runs mathSymbols, runs currencySymbols, runs modifierSymbols, runs otherSymbols]

open Text.Category in
def numbers : Chars := unions [runs decimalDigits, runs letterNumbers, runs otherNumbers]

open Text.Category in
def separators : Chars := unions [runs spaces, runs lineSeparators, runs paragraphSeparators]

def privateUse : Chars :=
  runs [(0xe000, 0xf8ff, 1), (0xf0000, 0xffffd, 1), (0x100000, 0x10fffd, 1)]

open Text.Category in
def assigned : Chars :=
  unions [letters, marks, numbers, punctuation, symbols, separators, runs controls, runs formats,
    privateUse]

open Text.Category in
def category? : String → Option Chars
  | "lu" | "uppercaseletter" => some (runs uppercaseLetters)
  | "ll" | "lowercaseletter" => some (runs lowercaseLetters)
  | "lt" | "titlecaseletter" => some (runs titlecaseLetters)
  | "lc" | "casedletter" =>
    some (unions [runs uppercaseLetters, runs lowercaseLetters, runs titlecaseLetters])
  | "lm" | "modifierletter" => some (runs modifierLetters)
  | "lo" | "otherletter" => some (runs otherLetters)
  | "l" | "letter" => some letters
  | "mn" | "nonspacingmark" => some (runs nonspacingMarks)
  | "mc" | "spacingmark" => some (runs spacingMarks)
  | "me" | "enclosingmark" => some (runs enclosingMarks)
  | "m" | "mark" | "combiningmark" => some marks
  | "nd" | "decimalnumber" | "digit" => some digit
  | "nl" | "letternumber" => some (runs letterNumbers)
  | "no" | "othernumber" => some (runs otherNumbers)
  | "n" | "number" => some numbers
  | "pc" | "connectorpunctuation" => some (runs connectors)
  | "pd" | "dashpunctuation" => some (runs dashes)
  | "ps" | "openpunctuation" => some (runs openers)
  | "pe" | "closepunctuation" => some (runs closers)
  | "pi" | "initialpunctuation" => some (runs initialQuotes)
  | "pf" | "finalpunctuation" => some (runs finalQuotes)
  | "po" | "otherpunctuation" => some (runs otherPunctuation)
  | "p" | "punctuation" | "punct" => some punctuation
  | "sm" | "mathsymbol" => some (runs mathSymbols)
  | "sc" | "currencysymbol" => some (runs currencySymbols)
  | "sk" | "modifiersymbol" => some (runs modifierSymbols)
  | "so" | "othersymbol" => some (runs otherSymbols)
  | "s" | "symbol" => some symbols
  | "zs" | "spaceseparator" => some (runs spaces)
  | "zl" | "lineseparator" => some (runs lineSeparators)
  | "zp" | "paragraphseparator" => some (runs paragraphSeparators)
  | "z" | "separator" => some separators
  | "cc" | "control" | "cntrl" => some (runs controls)
  | "cf" | "format" => some (runs formats)
  | "co" | "privateuse" => some privateUse
  | "cn" | "unassigned" => some (except assigned)
  | "cs" | "surrogate" => some none
  | "c" | "other" =>
    some (unions [runs controls, runs formats, privateUse, except assigned])
  | _ => .none

open Text.Script in
def script? : String → Option Chars
  | "latin" | "latn" => some (runs latin)
  | "greek" | "grek" => some (runs greek)
  | "cyrillic" | "cyrl" => some (runs cyrillic)
  | "armenian" | "armn" => some (runs armenian)
  | "hebrew" | "hebr" => some (runs hebrew)
  | "arabic" | "arab" => some (runs arabic)
  | "thai" => some (runs thai)
  | "hiragana" | "hira" => some (runs hiragana)
  | "katakana" | "kana" => some (runs katakana)
  | "hangul" | "hang" => some (runs hangul)
  | "han" | "hani" => some (runs han)
  | "georgian" | "geor" => some (runs georgian)
  | "devanagari" | "deva" => some (runs devanagari)
  | _ => .none

def property? : String → Option Chars
  | "any" => some all
  | "ascii" => some (range '\x00' '\x7f')
  | "assigned" => some assigned
  | "alphabetic" | "alpha" => some alphabetic
  | "uppercase" | "upper" => some (runs Text.Category.uppercaseLetters)
  | "lowercase" | "lower" => some (runs Text.Category.lowercaseLetters)
  | "whitespace" | "wspace" | "space" => some blank
  | _ => .none

/-- A set by the name of a property, a general category or a script. Case, blanks, hyphens and
underscores in it do not count. -/
def named? (name : List Char) : Option Chars :=
  let plain (cs : List Char) : String :=
    String.ofList ((cs.filter fun c => !([' ', '_', '-'].contains c)).map Char.toLower)
  match name.span fun c => c != '=' && c != ':' with
  | (cs, []) =>
    let key := plain cs
    (property? key).or ((category? key).or (script? key))
  | (kind, _ :: value) =>
    let negated := kind.getLast? == some '!'
    let kind := plain (if negated then kind.dropLast else kind)
    let found :=
      if kind == "gc" || kind == "generalcategory" then category? (plain value)
      else if kind == "sc" || kind == "script" || kind == "scx" || kind == "scriptextensions" then
        script? (plain value)
      else .none
    found.map fun set => if negated then except set else set

end Chars

end TestReach.Pattern
