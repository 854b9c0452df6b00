import TestReach.Json.Printing
import TestReach.Json.Reading

/-!
# Written strings

A string is written with escapes and read back from the octets of what was written. A character
that is not escaped stands there as its octets, of which none but those of a character below 0x80
are quotes, backslashes or controls.
-/

namespace TestReach

namespace Text

theorem toList_loop (bytes : ByteArray) (i : Nat) (read : List UInt8) :
    ByteArray.toList.loop bytes i read = read.reverse ++ bytes.data.toList.drop i := by
  fun_induction ByteArray.toList.loop bytes i read with
  | case1 i read more ih =>
    have here : bytes.get! i = bytes.data[i]! := by cases bytes; rfl
    have listed : i < bytes.data.toList.length := by simpa using more
    rw [ih, List.drop_eq_getElem_cons listed, here, getElem!_pos bytes.data i more]
    simp
  | case2 i read done =>
    rw [List.drop_eq_nil_of_le (by simpa using Nat.le_of_not_lt done), List.append_nil]

theorem octetsOf_eq (bytes : ByteArray) :
    octetsOf bytes = bytes.data.toList.map fun b => Char.ofNat b.toNat := by
  rw [octetsOf, ByteArray.toList, toList_loop, List.reverse_nil, List.nil_append, List.drop_zero]

theorem toNat_ofNat {n : Nat} (small : n < 256) : (Char.ofNat n).toNat = n := by
  rw [Char.ofNat, dif_pos (.inl (by omega))]
  rfl

theorem ofOctets?_octets (text : String) : ofOctets? (octets text) = some text := by
  have bytes : (octets text).map (fun c => UInt8.ofNat c.toNat) = text.toByteArray.data.toList := by
    rw [octets, octetsOf_eq, String.toUTF8_eq_toByteArray, List.map_map]
    apply List.map_id''
    intro b
    rw [Function.comp_apply, toNat_ofNat b.toNat_lt_size, UInt8.ofNat_toNat]
  rw [ofOctets?, bytes]
  exact dif_pos text.isValidUTF8

def charOctets (c : Char) : List Char :=
  (String.utf8EncodeChar c).map fun b => Char.ofNat b.toNat

theorem octets_ofList (cs : List Char) : octets (String.ofList cs) = cs.flatMap charOctets := by
  rw [octets, octetsOf_eq, String.toUTF8_eq_toByteArray, String.toByteArray_ofList,
    List.utf8Encode, List.toList_data_toByteArray, List.map_flatMap]
  rfl

theorem octets_eq (text : String) : octets text = text.toList.flatMap charOctets := by
  rw [← octets_ofList, String.ofList_toList]

theorem charOctets_of_lt {c : Char} (small : c.toNat < 0x80) : charOctets c = [c] := by
  have value : c.val.toNat ≤ 127 := Nat.le_of_lt_succ small
  rw [charOctets, String.utf8EncodeChar]
  simp only [value, if_true, List.map_cons, List.map_nil]
  rw [UInt8.toNat_ofNat_of_lt' (Nat.lt_of_le_of_lt value (by decide))]
  exact congrArg (· :: []) (Char.ofNat_toNat c)

theorem flatMap_charOctets {cs : List Char} (small : ∀ c ∈ cs, c.toNat < 0x80) :
    cs.flatMap charOctets = cs := by
  induction cs with
  | nil => rfl
  | cons c cs ih =>
    obtain ⟨here, others⟩ := List.forall_mem_cons.1 small
    rw [List.flatMap_cons, charOctets_of_lt here, ih others, List.singleton_append]

theorem le_of_mem_charOctets {c octet : Char} (large : 0x80 ≤ c.toNat)
    (member : octet ∈ charOctets c) : 0x80 ≤ octet.toNat := by
  obtain ⟨b, listed, rfl⟩ := List.mem_map.1 member
  have value : ¬c.val.toNat ≤ 127 := Nat.not_le_of_lt large
  have above (n low bound : Nat) (high : low + bound ≤ 256) (positive : 0 < bound)
      (least : 0x80 ≤ low) : 0x80 ≤ (UInt8.ofNat (n % bound + low)).toNat := by
    have less := Nat.mod_lt n positive
    rw [UInt8.toNat_ofNat_of_lt' (by change n % bound + low < 256; omega)]
    omega
  rw [toNat_ofNat b.toNat_lt_size]
  rw [String.utf8EncodeChar] at listed
  simp only [value, if_false] at listed
  split at listed
  · simp only [List.mem_cons, List.not_mem_nil, or_false] at listed
    rcases listed with rfl | rfl
    all_goals exact above _ _ _ (by decide) (by decide) (by decide)
  split at listed
  all_goals
    simp only [List.mem_cons, List.not_mem_nil, or_false] at listed
  · rcases listed with rfl | rfl | rfl
    all_goals exact above _ _ _ (by decide) (by decide) (by decide)
  · rcases listed with rfl | rfl | rfl | rfl
    all_goals exact above _ _ _ (by decide) (by decide) (by decide)

end Text

namespace Json

open Text

def withOctets (before : List Char) (read : (List Char × Bool) × List Char) :
    (List Char × Bool) × List Char :=
  ((before ++ read.1.1, read.1.2), read.2)

/-- An octet that stands for itself in a string. -/
structure IsPlain (octet : Char) : Prop where
  shown : ¬octet.toNat < 0x20
  quote : octet ≠ '\x22'
  slash : octet ≠ '\\'

theorem readOctets_cons {octet : Char} (plain : IsPlain octet) (fuel : Nat) (more : List Char) :
    readOctets (fuel + 1) (octet :: more) = (readOctets fuel more).map (withOctets [octet]) := by
  rw [readOctets]
  · have accepted : (decide (octet.toNat < 0x20) || octet == '\\') = false := by
      simp [plain.shown, plain.slash]
    rw [accepted]
    cases readOctets fuel more <;> rfl
  · exact plain.quote
  · exact fun _ same => absurd same plain.slash
  · exact fun _ _ same => absurd same plain.slash

theorem readOctets_append {octets : List Char} (plain : ∀ octet ∈ octets, IsPlain octet)
    (fuel : Nat) (more : List Char) :
    readOctets (fuel + octets.length) (octets ++ more) =
      (readOctets fuel more).map (withOctets octets) := by
  induction octets with
  | nil => cases found : readOctets fuel more <;> simp [found, withOctets]
  | cons octet octets ih =>
    obtain ⟨here, others⟩ := List.forall_mem_cons.1 plain
    rw [List.length_cons, ← Nat.add_assoc, List.cons_append, readOctets_cons here, ih others]
    cases readOctets fuel more <;> rfl

theorem readOctets_escaped {letter c : Char} (other : letter ≠ 'u')
    (escaped : escaped? letter = some c) (fuel : Nat) (more : List Char) :
    readOctets (fuel + 1) ('\\' :: letter :: more) =
      (readOctets fuel more).map (withOctets [c]) := by
  rw [readOctets]
  · rw [escaped]
    cases readOctets fuel more <;> rfl
  · exact other

theorem hexValue?_hexDigit : ∀ n < 16, hexValue? (Text.Quoted.hexDigit n) = some n := by
  decide

def numbered (c : Char) : List Char :=
  ['\\', 'u', '0', '0', Text.Quoted.hexDigit (c.toNat / 16), Text.Quoted.hexDigit (c.toNat % 16)]

theorem readOctets_numbered {c : Char} (low : c.toNat < 0x20) (fuel : Nat) (more : List Char) :
    readOctets (fuel + 1) (numbered c ++ more) =
      (readOctets fuel more).map (withOctets [c]) := by
  have zero : hexValue? '0' = some 0 := by decide
  have high := hexValue?_hexDigit (c.toNat / 16) (by omega)
  have rest := hexValue?_hexDigit (c.toNat % 16) (by omega)
  have whole : ((0 * 16 + 0) * 16 + c.toNat / 16) * 16 + c.toNat % 16 = c.toNat := by omega
  have digits : readHex ('0' :: '0' :: Text.Quoted.hexDigit (c.toNat / 16) ::
      Text.Quoted.hexDigit (c.toNat % 16) :: more) = some (c.toNat, more) := by
    rw [readHex, zero, high, rest]
    exact congrArg (fun n => some (n, more)) whole
  have unit : readUnit ('0' :: '0' :: Text.Quoted.hexDigit (c.toNat / 16) ::
      Text.Quoted.hexDigit (c.toNat % 16) :: more) = some (some c, more) := by
    have below : ¬(0xd800 ≤ c.toNat ∧ c.toNat < 0xdc00) := by omega
    have beside : ¬(0xdc00 ≤ c.toNat ∧ c.toNat < 0xe000) := by omega
    rw [readUnit, digits]
    simp only [Option.bind_eq_bind, Option.bind_some, if_neg below, if_neg beside, Char.ofNat_toNat,
      Option.pure_def]
  have single : octets (String.ofList [c]) = [c] := by
    rw [octets_ofList, List.flatMap_singleton, charOctets_of_lt (by omega)]
  simp only [numbered, List.cons_append, List.nil_append]
  rw [readOctets, unit]
  simp only [Option.bind_eq_bind, Option.bind_some, single]
  cases readOctets fuel more <;> rfl

theorem escape_cases (c : Char) :
    (∃ letter, escape c = ['\\', letter] ∧ escaped? letter = some c ∧ letter ≠ 'u' ∧
      letter.toNat < 0x80 ∧ c.toNat < 0x80) ∨
    (escape c = numbered c ∧ c.toNat < 0x20) ∨ (escape c = [c] ∧ IsPlain c) := by
  unfold escape
  iterate 7
    split
    · rename_i same
      rw [beq_iff_eq] at same
      subst same
      exact .inl ⟨_, rfl, by decide⟩
  split
  · rename_i low
    exact .inr (.inl ⟨rfl, low⟩)
  · rename_i quote slash _ _ _ _ _ shown
    exact .inr (.inr ⟨rfl, shown, by simpa using quote, by simpa using slash⟩)

theorem hexDigit_lt : ∀ n < 16, (Text.Quoted.hexDigit n).toNat < 0x80 := by
  decide

theorem isPlain_of_mem_charOctets {c octet : Char} (plain : IsPlain c)
    (member : octet ∈ charOctets c) : IsPlain octet := by
  by_cases small : c.toNat < 0x80
  · rw [charOctets_of_lt small, List.mem_singleton] at member
    exact member ▸ plain
  · have large := le_of_mem_charOctets (Nat.le_of_not_lt small) member
    refine ⟨by omega, ?_, ?_⟩
    all_goals
      rintro rfl
      revert large
      decide

def escapeOctets (c : Char) : List Char := (escape c).flatMap charOctets

theorem readOctets_escape (c : Char) : ∃ size ≤ (escapeOctets c).length, ∀ fuel more,
    readOctets (fuel + size) (escapeOctets c ++ more) =
      (readOctets fuel more).map (withOctets (charOctets c)) := by
  rcases escape_cases c with ⟨letter, written, escaped, other, small, low⟩ | ⟨written, low⟩ |
    ⟨written, plain⟩
  · have octets : escapeOctets c = ['\\', letter] := by
      rw [escapeOctets, written]
      exact flatMap_charOctets (by simp [small])
    refine ⟨1, by simp [octets], fun fuel more => ?_⟩
    rw [octets, charOctets_of_lt low]
    exact readOctets_escaped other escaped fuel more
  · have octets : escapeOctets c = numbered c := by
      rw [escapeOctets, written]
      have high := hexDigit_lt (c.toNat / 16) (by omega)
      have rest := hexDigit_lt (c.toNat % 16) (by omega)
      exact flatMap_charOctets (by simp [numbered, high, rest])
    refine ⟨1, by simp [octets, numbered], fun fuel more => ?_⟩
    rw [octets, charOctets_of_lt (by omega)]
    exact readOctets_numbered low fuel more
  · have octets : escapeOctets c = charOctets c := by
      rw [escapeOctets, written, List.flatMap_singleton]
    rw [octets]
    exact ⟨_, Nat.le_refl _, readOctets_append fun octet => isPlain_of_mem_charOctets plain⟩

theorem readOctets_quoted (cs : List Char) (rest : List Char) (fuel : Nat)
    (enough : (cs.flatMap escapeOctets).length < fuel) :
    readOctets fuel (cs.flatMap escapeOctets ++ '\x22' :: rest) =
      some ((cs.flatMap charOctets, true), rest) := by
  induction cs generalizing fuel with
  | nil =>
    obtain ⟨more, rfl⟩ := Nat.exists_eq_succ_of_ne_zero (Nat.ne_of_gt enough)
    rfl
  | cons c cs ih =>
    obtain ⟨size, short, step⟩ := readOctets_escape c
    rw [List.flatMap_cons, List.length_append] at enough
    have left := Nat.sub_add_cancel (show size ≤ fuel by omega)
    rw [List.flatMap_cons, List.append_assoc, ← left, step, ih _ (by omega)]
    rfl

theorem octets_quote (text : String) (rest : List Char) :
    (quote text).flatMap charOctets ++ rest =
      '\x22' :: (text.toList.flatMap escapeOctets ++ '\x22' :: rest) := by
  have mark : charOctets '\x22' = ['\x22'] := charOctets_of_lt (by decide)
  have inside : (text.toList.flatMap escape).flatMap charOctets =
      text.toList.flatMap escapeOctets := List.flatMap_assoc
  simp [quote, mark, inside]

theorem readString_quote (text : String) (rest : List Char) :
    readString (text.toList.flatMap escapeOctets ++ '\x22' :: rest) = some (some text, rest) := by
  rw [readString, readOctets_quoted _ _ _ (by rw [List.length_append]; omega), Option.map_some,
    ← octets_eq]
  simp only [if_true, ofOctets?_octets]

end Json

end TestReach
