import Mathlib.Data.List.Forall2
import Mathlib.Data.List.Induction
import PmacFabric.Address.Mac

/-!
# How hardware addresses are spelled

An address may be written in many ways. `Spells` is the grammar: six parts between colons, each an
octet in hexadecimal of either case, with any number of leading zeros, and perhaps a plus sign in
front. `Canonical` is the form in which addresses are printed.

**`parse_exact`** says that reading accepts exactly this grammar, gives every other text back in its
error, and inverts printing; and that the printed form is the only canonical one of an address.

The grammar is stated by what a text consists of, and the reader works from left to right. So each
of its steps has a law that says which texts it accepts: `Text.fields_eq_iff`,
`Hex.digitValue?_eq_some_iff`, `Hex.number?_eq_some_iff`, `Hex.octet?_eq_some_iff`.
-/

namespace PmacFabric

/-! ## Parts between separators -/

namespace Text

variable {separator : Char} {text : List Char}

/-- A text is made of parts with separators between them, and none inside. -/
def Splits (separator : Char) (text : List Char) (parts : List (List Char)) : Prop :=
  parts ≠ [] ∧ (∀ part ∈ parts, separator ∉ part) ∧ text = List.intercalate [separator] parts

/-- A text without separators is one field. -/
theorem fields_of_notMem (plain : separator ∉ text) : fields separator text = [text] := by
  induction text with
  | nil => rfl
  | cons c rest ih =>
    rw [List.mem_cons, not_or] at plain
    rw [fields, if_neg fun same => plain.1 same.symm, ih plain.2]

/-- The text before the first separator is the first field. -/
theorem fields_append {field : List Char} (plain : separator ∉ field) (rest : List Char) :
    fields separator (field ++ separator :: rest) = field :: fields separator rest := by
  induction field with
  | nil => rw [List.nil_append, fields, if_pos rfl]
  | cons c field ih =>
    rw [List.mem_cons, not_or] at plain
    rw [List.cons_append, fields, if_neg fun same => plain.1 same.symm, ih plain.2]

/-- Only the parts of a text are its fields, so a text has one list of parts. -/
theorem Splits.fields {parts : List (List Char)} (splits : Splits separator text parts) :
    fields separator text = parts := by
  obtain ⟨filled, plain, rfl⟩ := splits
  induction parts with
  | nil => exact absurd rfl filled
  | cons part others ih =>
    have first := plain part (.head _)
    cases others with
    | nil => rw [List.intercalate_singleton, fields_of_notMem first]
    | cons next others =>
      rw [List.intercalate_cons_cons, List.append_assoc, List.singleton_append,
        fields_append first, ih (List.cons_ne_nil _ _) fun part mem => plain part (.tail _ mem)]

/-- The empty text has one part, which is empty. -/
theorem splits_nil (separator : Char) : Splits separator [] [[]] := by
  refine ⟨List.cons_ne_nil _ _, fun part mem => ?_, rfl⟩
  rw [List.mem_singleton.mp mem]
  exact List.not_mem_nil

/-- A separator in front begins an empty part. -/
theorem Splits.cons_separator {parts : List (List Char)} (splits : Splits separator text parts) :
    Splits separator (separator :: text) ([] :: parts) := by
  obtain ⟨filled, plain, joined⟩ := splits
  obtain ⟨part, others, rfl⟩ := List.exists_cons_of_ne_nil filled
  refine ⟨List.cons_ne_nil _ _, fun part mem => ?_, ?_⟩
  · rcases List.mem_cons.mp mem with rfl | mem
    · exact List.not_mem_nil
    · exact plain part mem
  · rw [List.intercalate_cons_cons, ← joined, List.nil_append, List.singleton_append]

/-- Any other character in front goes to the first part. -/
theorem Splits.cons_other {c : Char} {part : List Char} {others : List (List Char)}
    (other : c ≠ separator) (splits : Splits separator text (part :: others)) :
    Splits separator (c :: text) ((c :: part) :: others) := by
  obtain ⟨-, plain, rfl⟩ := splits
  refine ⟨List.cons_ne_nil _ _, fun part' mem => ?_, ?_⟩
  · rcases List.mem_cons.mp mem with rfl | mem
    · rw [List.mem_cons, not_or]
      exact ⟨fun same => other same.symm, plain part (.head _)⟩
    · exact plain part' (.tail _ mem)
  · cases others with
    | nil => simp only [List.intercalate_singleton]
    | cons next others => simp only [List.intercalate_cons_cons, List.cons_append]

/-- Every text is made of its fields. -/
theorem splits_fields (separator : Char) (text : List Char) :
    Splits separator text (fields separator text) := by
  induction text with
  | nil => exact splits_nil separator
  | cons c rest ih =>
    rw [fields]
    split
    · rename_i same
      exact same ▸ ih.cons_separator
    · rename_i other
      -- The rest has a first field, and the character goes in front of it.
      obtain ⟨field, others, same⟩ := List.exists_cons_of_ne_nil (fields_ne_nil separator rest)
      rw [same] at ih ⊢
      exact ih.cons_other other

/-- **The fields of a text are its parts.** -/
theorem fields_eq_iff {parts : List (List Char)} :
    fields separator text = parts ↔ Splits separator text parts :=
  ⟨fun same => same ▸ splits_fields separator text, Splits.fields⟩

end Text

/-! ## Digits and numbers -/

namespace Hex

/-- A digit of either case is its value's place in the alphabet. -/
def Digit (c : Char) (value : Nat) : Prop :=
  "0123456789abcdef".toList[value]? = some c ∨ "0123456789ABCDEF".toList[value]? = some c

/-- One or more digits spell a number, the most significant digit first. -/
inductive Numeral : List Char → Nat → Prop
  | digit {c : Char} {value : Nat} : Digit c value → Numeral [c] value
  | snoc {text : List Char} {number : Nat} {c : Char} {value : Nat} :
      Numeral text number → Digit c value → Numeral (text ++ [c]) (16 * number + value)

/-- An octet is a number of at most 255, perhaps with a plus sign in front. -/
inductive Octet : List Char → UInt8 → Prop
  | plain {text : List Char} {value : UInt8} : Numeral text value.toNat → Octet text value
  | plus {text : List Char} {value : UInt8} :
      Numeral text value.toNat → Octet ('+' :: text) value

instance (c : Char) (value : Nat) : Decidable (Digit c value) :=
  inferInstanceAs (Decidable (_ ∨ _))

/-- Digits of either case are read. -/
theorem digitValue?_of_digit {c : Char} {value : Nat} (spelled : Digit c value) :
    digitValue? c = some value := by
  have lower : ∀ i : Fin 16, digitValue? "0123456789abcdef".toList[i] = some i.val := by
    decide +kernel
  have upper : ∀ i : Fin 16, digitValue? "0123456789ABCDEF".toList[i] = some i.val := by
    decide +kernel
  rcases spelled with found | found
  · obtain ⟨small, rfl⟩ := List.getElem?_eq_some_iff.mp found
    exact lower ⟨value, small⟩
  · obtain ⟨small, rfl⟩ := List.getElem?_eq_some_iff.mp found
    exact upper ⟨value, small⟩

/-- The last of the digits is the lower-case one for fifteen. -/
theorem toNat_le_of_digitValue? {c : Char} {value : Nat} (read : digitValue? c = some value) :
    c.toNat ≤ 'f'.toNat := by
  have bound {last : Char} (le : c ≤ last) (small : last.toNat ≤ 'f'.toNat) :
      c.toNat ≤ 'f'.toNat := Nat.le_trans (UInt32.le_iff_toNat_le.mp (Char.le_def.mp le)) small
  simp only [digitValue?] at read
  split at read
  · rename_i range
    exact bound range.2 (by decide)
  · split at read
    · rename_i range
      exact bound range.2 (by decide)
    · split at read
      · rename_i range
        exact bound range.2 (by decide)
      · cases read

/-- **A character is read as a digit just if it is one.** -/
theorem digitValue?_eq_some_iff {c : Char} {value : Nat} :
    digitValue? c = some value ↔ Digit c value := by
  refine ⟨fun read => ?_, digitValue?_of_digit⟩
  -- Digits lie at the beginning of the code table, so that few characters are left to look at.
  have ascii : ∀ n < 103, ∀ value ∈ digitValue? (Char.ofNat n), Digit (Char.ofNat n) value := by
    decide +kernel
  have small : c.toNat < 103 := Nat.lt_succ_of_le (toNat_le_of_digitValue? read)
  rw [← Char.ofNat_toNat c] at read ⊢
  exact ascii c.toNat small value read

/-- A digit at the end is worth its value, and sixteen times more for all before it. -/
theorem value_concat (digits : List Nat) (last : Nat) :
    value (digits ++ [last]) = 16 * value digits + last := by
  rw [value, List.foldl_append]
  rfl

/-- Reading digits may end with the last of them, as `Numeral` does. -/
theorem mapM_concat {text : List Char} {c : Char} {digits : List Nat} :
    (text ++ [c]).mapM digitValue? = some digits ↔
      ∃ before last, text.mapM digitValue? = some before ∧ Digit c last ∧
        digits = before ++ [last] := by
  simp only [List.mapM_append, List.mapM_cons, List.mapM_nil, Option.bind_eq_bind,
    Option.pure_def, Option.bind_eq_some_iff, Option.some_inj, digitValue?_eq_some_iff]
  constructor
  · rintro ⟨before, read, _, ⟨last, spelled, _, rfl, rfl⟩, rfl⟩
    exact ⟨before, last, read, spelled, rfl⟩
  · rintro ⟨before, last, read, spelled, rfl⟩
    exact ⟨before, read, _, ⟨last, spelled, _, rfl, rfl⟩, rfl⟩

theorem Numeral.ne_nil {text : List Char} {number : Nat} (spelled : Numeral text number) :
    text ≠ [] := by
  cases spelled with
  | digit => exact List.cons_ne_nil _ _
  | snoc => exact List.append_ne_nil_of_right_ne_nil _ (List.cons_ne_nil _ _)

/-- A numeral is read digit by digit. -/
theorem Numeral.digits {text : List Char} {number : Nat} (spelled : Numeral text number) :
    ∃ digits, text.mapM digitValue? = some digits ∧ value digits = number := by
  induction spelled with
  | digit spelled =>
    exact ⟨_, (@mapM_concat [] _ _).mpr ⟨[], _, rfl, spelled, rfl⟩, Nat.zero_add _⟩
  | snoc _ spelled ih =>
    obtain ⟨before, read, rfl⟩ := ih
    exact ⟨_, mapM_concat.mpr ⟨before, _, read, spelled, rfl⟩, value_concat before _⟩

/-- What is read digit by digit is a numeral, if it is anything at all. -/
theorem numeral_of_digits {text : List Char} {digits : List Nat} (filled : text ≠ [])
    (read : text.mapM digitValue? = some digits) : Numeral text (value digits) := by
  induction text using List.reverseRecOn generalizing digits with
  | nil => exact absurd rfl filled
  | append_singleton text c ih =>
    obtain ⟨before, last, start, spelled, rfl⟩ := mapM_concat.mp read
    rw [value_concat]
    cases text with
    | nil =>
      cases start
      exact (Nat.zero_add last).symm ▸ .digit spelled
    | cons first rest => exact .snoc (ih (List.cons_ne_nil _ _) start) spelled

/-- **The numbers that are read are the numerals.** -/
theorem number?_eq_some_iff {text : List Char} {number : Nat} :
    number? text = some number ↔ Numeral text number := by
  have reads : number? text = some number ↔
      text ≠ [] ∧ ∃ digits, text.mapM digitValue? = some digits ∧ value digits = number := by
    rw [number?]
    split
    · rename_i empty
      exact ⟨nofun, fun read => absurd (List.isEmpty_iff.mp empty) read.1⟩
    · rename_i filled
      rw [Option.map_eq_some_iff, and_iff_right (mt List.isEmpty_iff.mpr filled)]
  rw [reads]
  constructor
  · rintro ⟨filled, digits, read, rfl⟩
    exact numeral_of_digits filled read
  · exact fun spelled => ⟨spelled.ne_nil, spelled.digits⟩

/-! ## Octets -/

/-- Every character of a numeral is a digit. -/
theorem Numeral.digit_of_mem {text : List Char} {number : Nat} (spelled : Numeral text number)
    {c : Char} (mem : c ∈ text) : ∃ value, Digit c value := by
  induction spelled with
  | digit spelled => exact ⟨_, List.mem_singleton.mp mem ▸ spelled⟩
  | snoc _ spelled ih =>
    rcases List.mem_append.mp mem with before | last
    · exact ih before
    · exact ⟨_, List.mem_singleton.mp last ▸ spelled⟩

/-- No character is in a numeral that is not read as a digit. -/
theorem Numeral.notMem {text : List Char} {number : Nat} (spelled : Numeral text number)
    {c : Char} (other : digitValue? c = none) : c ∉ text := by
  intro mem
  obtain ⟨value, digit⟩ := spelled.digit_of_mem mem
  cases other.symm.trans (digitValue?_eq_some_iff.mpr digit)

/-- A text without a sign is left alone. -/
theorem unsigned_of_notMem {text : List Char} (plain : '+' ∉ text) : unsigned text = text := by
  unfold unsigned
  split
  · exact absurd (.head _) plain
  · rfl

/-- **A number may have a plus sign in front, and only one.** The sign is cut off before the digits
are read, and is no digit itself. -/
theorem number?_unsigned {text : List Char} {number : Nat} :
    number? (unsigned text) = some number ↔
      Numeral text number ∨ ∃ rest, text = '+' :: rest ∧ Numeral rest number := by
  rw [number?_eq_some_iff]
  constructor
  · intro spelled
    unfold unsigned at spelled
    split at spelled
    · exact .inr ⟨_, rfl, spelled⟩
    · exact .inl spelled
  · rintro (spelled | ⟨rest, rfl, spelled⟩)
    · rwa [unsigned_of_notMem (spelled.notMem rfl)]
    · exact spelled

/-- What the two constructors of `Octet` say, in one line. -/
theorem octet_iff {text : List Char} {value : UInt8} :
    Octet text value ↔ Numeral text value.toNat ∨
      ∃ rest, text = '+' :: rest ∧ Numeral rest value.toNat := by
  constructor
  · rintro (spelled | spelled)
    · exact .inl spelled
    · exact .inr ⟨_, rfl, spelled⟩
  · rintro (spelled | ⟨rest, rfl, spelled⟩)
    · exact .plain spelled
    · exact .plus spelled

/-- **The octets that are read are those of the grammar.** -/
theorem octet?_eq_some_iff {text : List Char} {value : UInt8} :
    octet? text = some value ↔ Octet text value := by
  rw [octet_iff, ← number?_unsigned, octet?]
  cases number? (unsigned text) with
  | none => exact ⟨nofun, nofun⟩
  | some number =>
    dsimp only
    constructor
    · intro read
      split at read
      · rename_i small
        cases read
        rw [UInt8.toNat_ofNat_of_lt' small]
      · cases read
    · intro read
      cases read
      rw [if_pos value.toNat_lt, UInt8.ofNat_toNat]

/-! ## Printed octets -/

/-- The digits of printed octets. -/
def lowerDigits : List Char := "0123456789abcdef".toList

/-- What is printed for a value is a digit for it. -/
theorem digit_digit {value : Nat} (small : value < 16) : Digit (digit value) value := by
  have all : ∀ i : Fin 16, Digit (digit i) i := by decide +kernel
  exact all ⟨value, small⟩

/-- The digits that are printed are the lower-case ones. -/
theorem mem_lowerDigits_iff {c : Char} : c ∈ lowerDigits ↔ ∃ value < 16, digit value = c := by
  have all : lowerDigits = (List.range 16).map digit := by decide +kernel
  simp only [all, List.mem_map, List.mem_range]

theorem digit_mem_lowerDigits {value : Nat} (small : value < 16) : digit value ∈ lowerDigits :=
  mem_lowerDigits_iff.mpr ⟨value, small, rfl⟩

/-- What is printed for an octet is one of its spellings. -/
theorem octet_spelled (value : UInt8) : Octet (octet value) value := by
  have bound := value.toNat_lt
  have high : Digit (digit (value.toNat / 16)) (value.toNat / 16) := digit_digit (by omega)
  have low : Digit (digit (value.toNat % 16)) (value.toNat % 16) := digit_digit (by omega)
  have both := (Numeral.digit high).snoc low
  rw [Nat.div_add_mod] at both
  exact .plain both

/-- Two lower-case digits are what is printed for the octet that they spell. -/
theorem Octet.eq_octet {high low : Char} {value : UInt8} (spelled : Octet [high, low] value)
    (lower : high ∈ lowerDigits) (lower' : low ∈ lowerDigits) : [high, low] = octet value := by
  obtain ⟨i, small, rfl⟩ := mem_lowerDigits_iff.mp lower
  obtain ⟨j, small', rfl⟩ := mem_lowerDigits_iff.mp lower'
  have printed : octet (UInt8.ofNat (16 * i + j)) = [digit i, digit j] := by
    rw [octet, UInt8.toNat_ofNat_of_lt' (show 16 * i + j < UInt8.size by
      simp only [UInt8.size]; omega), Nat.mul_add_div (by decide), Nat.div_eq_of_lt small',
      Nat.add_zero, Nat.mul_add_mod, Nat.mod_eq_of_lt small']
  rw [← octet?_eq_some_iff, ← printed, octet?_eq_some_iff.mpr (octet_spelled _)] at spelled
  rw [← printed, Option.some.inj spelled]

/-- An octet has no colon inside, so colons separate octets. -/
theorem Octet.notMem {text : List Char} {value : UInt8} (spelled : Octet text value) :
    ':' ∉ text := by
  cases spelled with
  | plain spelled => exact spelled.notMem rfl
  | plus spelled =>
    rw [List.mem_cons, not_or]
    exact ⟨by decide, spelled.notMem rfl⟩

end Hex

/-! ## Addresses -/

namespace MacAddress

variable {text : String} {mac : MacAddress}

/-- A text spells an address by six octets between colons. -/
def Spells (text : String) (mac : MacAddress) : Prop :=
  ∃ parts, Text.Splits ':' text.toList parts ∧ List.Forall₂ Hex.Octet parts mac.octets

/-- Six parts of two lower-case digits, between colons. -/
def Canonical (text : String) : Prop :=
  ∃ parts, Text.Splits ':' text.toList parts ∧ parts.length = 6 ∧
    ∀ part ∈ parts, ∃ high ∈ Hex.lowerDigits, ∃ low ∈ Hex.lowerDigits, part = [high, low]

/-- Reading one by one succeeds if every item can be read. -/
theorem mapM_eq_some_iff {α β : Type} {read : α → Option β} {items : List α} {results : List β} :
    items.mapM read = some results ↔
      List.Forall₂ (fun item result => read item = some result) items results := by
  induction items generalizing results with
  | nil =>
    rw [List.mapM_nil, List.forall₂_nil_left_iff, Option.pure_def, Option.some_inj, eq_comm]
  | cons item items ih =>
    simp only [List.mapM_cons, Option.bind_eq_bind, Option.pure_def, Option.bind_eq_some_iff,
      Option.some_inj, List.forall₂_cons_left_iff, ← ih]
    constructor
    · rintro ⟨first, reads, others, rest, rfl⟩
      exact ⟨first, others, reads, rest, rfl⟩
    · rintro ⟨first, others, reads, rest, rfl⟩
      exact ⟨first, reads, others, rest, rfl⟩

/-- **A text is read as an address just if it spells it.** -/
theorem parse_eq_ok_iff : parse text = .ok mac ↔ Spells text mac := by
  have reads : parse text = .ok mac ↔
      (Text.fields ':' text.toList).mapM Hex.octet? = some mac.octets := by
    unfold parse
    split
    · rename_i read
      rw [read, Except.ok.injEq, Option.some_inj]
      obtain ⟨o0, o1, o2, o3, o4, o5⟩ := mac
      simp only [octets, MacAddress.mk.injEq, List.cons.injEq, and_true]
    · rename_i other
      exact ⟨nofun, fun read => absurd read (other _ _ _ _ _ _)⟩
  rw [reads, mapM_eq_some_iff]
  simp only [Hex.octet?_eq_some_iff, Spells, ← Text.fields_eq_iff, exists_eq_left']

/-- An error names the text. -/
theorem eq_of_parse_error {e : ParseError} (failed : parse text = .error e) : e = ⟨text⟩ := by
  unfold parse at failed
  split at failed
  · cases failed
  · exact (Except.error.inj failed).symm

/-- **A text is refused just if it spells no address.** -/
theorem parse_eq_error_iff {e : ParseError} :
    parse text = .error e ↔ e = ⟨text⟩ ∧ ¬ ∃ mac, Spells text mac := by
  simp only [← parse_eq_ok_iff]
  constructor
  · intro failed
    refine ⟨eq_of_parse_error failed, ?_⟩
    rintro ⟨mac, read⟩
    cases failed.symm.trans read
  · rintro ⟨rfl, none⟩
    cases outcome : parse text with
    | error e => rw [eq_of_parse_error outcome]
    | ok mac => exact absurd ⟨mac, outcome⟩ none

/-- What is printed has an octet between any two colons. -/
theorem splits_text (mac : MacAddress) :
    Text.Splits ':' mac.text.toList (mac.octets.map Hex.octet) := by
  refine ⟨List.cons_ne_nil _ _, fun part mem => ?_, by rw [text, String.toList_ofList]⟩
  obtain ⟨value, -, rfl⟩ := List.exists_of_mem_map mem
  exact (Hex.octet_spelled value).notMem

/-- What is printed spells the address. -/
theorem spells_text (mac : MacAddress) : Spells mac.text mac :=
  ⟨_, splits_text mac, List.forall₂_map_left_iff.mpr
    (List.forall₂_same.mpr fun value _ => Hex.octet_spelled value)⟩

/-- What is printed is canonical. -/
theorem canonical_text (mac : MacAddress) : Canonical mac.text := by
  refine ⟨_, splits_text mac, rfl, fun part mem => ?_⟩
  obtain ⟨value, -, rfl⟩ := List.exists_of_mem_map mem
  have bound := value.toNat_lt
  exact ⟨_, Hex.digit_mem_lowerDigits (by omega), _, Hex.digit_mem_lowerDigits (by omega), rfl⟩

/-- **An address has one canonical spelling**, the printed one. -/
theorem Canonical.eq_text (canonical : Canonical text) (spells : Spells text mac) :
    text = mac.text := by
  obtain ⟨parts, splits, -, lower⟩ := canonical
  obtain ⟨parts', splits', spelled⟩ := spells
  have same : parts' = parts := splits'.fields.symm.trans splits.fields
  have printed : List.Forall₂ (fun part value => part = Hex.octet value) parts mac.octets := by
    rw [same] at spelled
    refine ((List.forall₂_and_left _ _).mpr ⟨lower, spelled⟩).imp ?_
    rintro _ value ⟨⟨high, highLower, low, lowLower, rfl⟩, spelled⟩
    exact spelled.eq_octet highLower lowLower
  rw [← List.forall₂_map_right_iff, List.forall₂_eq_eq_eq] at printed
  rw [← String.toList_inj, splits.2.2, (splits_text mac).2.2, printed]

/-- **Reading accepts exactly the spellings of addresses and inverts printing.** A text that spells
no address is given back in the error. -/
theorem parse_exact (text : String) (mac : MacAddress) :
    (parse text = .ok mac ↔ Spells text mac) ∧
      (∀ e, parse text = .error e ↔ e = ⟨text⟩ ∧ ¬ ∃ mac, Spells text mac) ∧
      parse mac.text = .ok mac ∧
      (Canonical text ∧ parse text = .ok mac ↔ text = mac.text) := by
  have printed := parse_eq_ok_iff.mpr (spells_text mac)
  refine ⟨parse_eq_ok_iff, fun e => parse_eq_error_iff, printed, ?_⟩
  constructor
  · rintro ⟨canonical, read⟩
    exact canonical.eq_text (parse_eq_ok_iff.mp read)
  · rintro rfl
    exact ⟨canonical_text mac, printed⟩

example : parse "2:+0:0A:fF:000010:01" = .ok ⟨2, 0, 10, 255, 16, 1⟩ := by decide +kernel

end MacAddress

end PmacFabric
