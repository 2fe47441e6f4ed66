import CriteriaQuery.Parameters.Reading
import CriteriaQuery.Proofs.Double.Integer
import CriteriaQuery.Proofs.Json.Text
import CriteriaQuery.Proofs.Path.Segments
import CriteriaQuery.Proofs.Text.Numeral
import Mathlib.Data.List.Forall2

namespace CriteriaQuery

/-! Constants and integers inside request parameters. The text of one has no
comma and no blank, so the values of a parameter are its texts, read one by one.
Constants come back as they are. Integers do as long as 64 bits with a sign hold
them; past that they are read as floats. -/

open Double (isDigit_of_mem_decimal digitsValue_decimal)

/-! ## Texts -/

namespace Text

theorem split_join {separator : Char} {texts : List String} (some : texts ≠ [])
    (plain : ∀ text ∈ texts, separator ∉ text.toList) :
    split separator (join (String.singleton separator) texts) = texts := by
  have alone {text : String} (none : separator ∉ text.toList) :
      split separator text = [text] := by
    rw [split, pieces_of_no_separator, List.map_singleton, String.ofList_toList]
    intro c member
    exact beq_eq_false_iff_ne.mpr fun same => none (same ▸ member)
  induction texts with
  | nil => contradiction
  | cons text rest induction =>
    rw [List.forall_mem_cons] at plain
    cases rest with
    | nil => exact alone plain.1
    | cons next others =>
      have characters :
          (join (String.singleton separator) (text :: next :: others)).toList =
          text.toList ++ separator ::
            (join (String.singleton separator) (next :: others)).toList := by
        simp [join]
      have cut : split separator
          (join (String.singleton separator) (text :: next :: others)) =
          split separator text ++
            split separator
              (join (String.singleton separator) (next :: others)) := by
        let isSeparator (c : Char) : Bool := c == separator
        have separates : isSeparator separator = true :=
          beq_self_eq_true separator
        have parted := pieces_append_separator separates text.toList
          (join (String.singleton separator) (next :: others)).toList
        rw [split, characters, parted, List.map_append]
        rfl
      rw [cut, alone plain.1, induction (by simp) plain.2, List.singleton_append]

theorem trimmed_of_not_blank {characters : List Char}
    (plain : ∀ c ∈ characters, isBlank c = false) :
    trimmed characters = characters := by
  have kept {characters : List Char}
      (plain : ∀ c ∈ characters, isBlank c = false) :
      characters.dropWhile isBlank = characters := by
    cases characters with
    | nil => rfl
    | cons c rest =>
      rw [List.dropWhile_cons, if_neg]
      simp [plain c List.mem_cons_self]
  have reversed : ∀ c ∈ characters.reverse, isBlank c = false := by
    simpa using plain
  rw [trimmed, kept plain, kept reversed, List.reverse_reverse]

theorem isBlank_of_isDigit {c : Char} (digit : c.isDigit = true) :
    isBlank c = false := by
  have range : '0'.toNat ≤ c.toNat ∧ c.toNat ≤ '9'.toNat := by
    simpa [Char.isDigit, UInt32.le_iff_toNat_le] using digit
  have bounds : '0'.toNat = 48 ∧ '9'.toNat = 57 := by decide
  rw [bounds.1, bounds.2] at range
  simp only [isBlank, isWithin, blankRanges, List.any_cons, List.any_nil,
    Bool.or_false,
    Bool.or_eq_false_iff, Bool.and_eq_false_iff, decide_eq_false_iff_not]
  omega

theorem spells_integerText (value : Int) : Spells (integerText value) value := by
  have digits := isDigits_decimal value.natAbs
  unfold integerText
  split
  next negative =>
    have spells := Spells.negative digits
    rwa [digitsValue_decimal,
      show -(value.natAbs : Int) = value by omega] at spells
  next positive =>
    have spells := Spells.plain digits
    rwa [digitsValue_decimal,
      show (value.natAbs : Int) = value by omega] at spells

theorem Spells.unique {characters : List Char} {value other : Int}
    (spells : Spells characters value) (spellsOther : Spells characters other) :
    value = other := by
  cases spells with
  | plain isDigits =>
    cases spellsOther with
    | plain _ => rfl
    | positive _ => exact absurd rfl (isDigits.ne_signed rfl)
    | negative _ => exact absurd rfl (isDigits.ne_signed rfl)
  | positive isDigits =>
    cases spellsOther with
    | plain isOther => exact absurd rfl (isOther.ne_signed rfl)
    | positive _ => rfl
  | negative isDigits =>
    cases spellsOther with
    | plain isOther => exact absurd rfl (isOther.ne_signed rfl)
    | negative _ => rfl

end Text

/-! ## Integers as floats -/

namespace Double

/-- The digits of a natural number are read as the float that is nearest to it. -/
theorem ofText?_decimal {value : Nat} (positive : 0 < value)
    (short : (Text.decimal value).length ≤ 400) :
    ofText? (String.ofList (Text.decimal value)) = ofInt? value := by
  have digits := Text.isDigits_decimal value
  have parts : splitDecimal (Text.decimal value) =
      (Text.decimal value, [], []) := by
    have cut := takeWhile_append_of_stop digits.all [] (by simp)
    rw [List.append_nil] at cut
    rw [splitDecimal, cut.1, cut.2]
  have some : (Text.decimal value).isEmpty = false := by
    simpa using digits.some
  have sign : ¬ (value : Int) < 0 := by omega
  have read : readUnsigned? false (Text.decimal value) = ofInt? value := by
    rw [readUnsigned?, parts]
    simp only [some, Bool.false_and, Bool.false_eq_true, if_false, readExponent?,
      List.append_nil, digitsValue_decimal, List.length_nil]
    rw [ofDecimal?, if_neg (by omega), if_neg (by omega),
      if_neg (by omega), ofInt?]
    simp [sign]
  rw [ofText?, String.toList_ofList]
  split
  next signed => exact absurd signed (digits.ne_signed rfl)
  next signed => exact absurd signed (digits.ne_signed rfl)
  next => exact read

theorem exists_ofInt? {value : Int} (small : value.natAbs ≤ 2 ^ 64) :
    ∃ double, ofInt? value = some double := by
  have rounded : BinaryFormat.double.roundNatural value.natAbs <
      BinaryFormat.double.roundNatural (2 ^ 65) := by
    calc BinaryFormat.double.roundNatural value.natAbs
        ≤ 2 ^ 64 := BinaryFormat.roundNatural_le_two_pow small
      _ < 2 ^ 65 := by decide
      _ ≤ BinaryFormat.double.roundNatural (2 ^ 65) :=
        BinaryFormat.two_pow_le_roundNatural le_rfl
  have below :=
    (BinaryFormat.nearest_natural_lt_iff _ (by decide) _ _).mpr rounded
  have limit : BinaryFormat.double.nearest
      ((2 ^ 65) <<< BinaryFormat.double.scale) 1 <
      BinaryFormat.double.count := by decide +kernel
  rw [ofInt?, ofQuotient?, ofRank?, dif_pos (below.trans limit)]
  exact ⟨_, rfl⟩

end Double

/-! ## Constants and integers -/

namespace Json

inductive IsConstantOrInteger : Json → Prop
  | null : IsConstantOrInteger .null
  | bool (flag : Bool) : IsConstantOrInteger (.bool flag)
  | integer (value : Int) (low high) : IsConstantOrInteger
      (.number (.integer value low high))

def FitsSigned (item : Json) : Prop :=
  ∀ value low high, item = .number (.integer value low high) → value < 1 <<< 63

inductive IsReadAs : Json → Json → Prop
  | null : IsReadAs .null .null
  | bool (flag : Bool) : IsReadAs (.bool flag) (.bool flag)
  | integer (value : Int) (low high) : value < 1 <<< 63 →
      IsReadAs (.number (.integer value low high))
        (.number (.integer value low high))
  /-- The float is the nearest one. -/
  | rounded (value : Int) (low high) (double : Double) : 1 <<< 63 ≤ value →
      Double.ofInt? value = some double →
      IsReadAs (.number (.integer value low high)) (.number (.float double))

theorem IsReadAs.eq_iff {item result : Json} (read : IsReadAs item result) :
    result = item ↔ item.FitsSigned := by
  cases read with
  | null => simp [FitsSigned]
  | bool flag => simp [FitsSigned]
  | integer value low high small =>
    refine iff_of_true rfl fun other _ _ same => ?_
    injection same with number
    injection number with equal
    exact equal ▸ small
  | rounded value low high double large nearest =>
    refine iff_of_false (by simp) fun fits => ?_
    exact absurd (fits value low high rfl) (Int.not_lt.mpr large)

theorem forall₂_isReadAs_eq_iff {items results : List Json}
    (read : List.Forall₂ IsReadAs items results) :
    results = items ↔ ∀ item ∈ items, item.FitsSigned := by
  induction read with
  | nil => simp
  | @cons item result items results first rest induction =>
    rw [List.cons.injEq, first.eq_iff, induction, List.forall_mem_cons]

theorem not_separated_text {item : Json} (kind : item.IsConstantOrInteger) :
    ∀ c ∈ item.text.toList, c ≠ ',' ∧ Text.isBlank c = false := by
  have checked {characters : List Char}
      (plain : (characters.all fun c => c != ',' && !Text.isBlank c) = true) :
      ∀ c ∈ characters, c ≠ ',' ∧ Text.isBlank c = false := by
    simpa using plain
  intro c member
  rw [text, String.toList_ofList] at member
  cases kind with
  | null => exact checked rfl c member
  | bool flag =>
    cases flag with
    | true => exact checked rfl c member
    | false => exact checked rfl c member
  | integer value low high =>
    rcases mem_integerText member with rfl | digit
    · decide
    · refine ⟨?_, Text.isBlank_of_isDigit digit⟩
      rintro rfl
      cases digit

end Json

namespace Parameters

open Json

theorem trim_text {item : Json} (kind : item.IsConstantOrInteger) :
    Text.trim item.text = item.text := by
  have plain : ∀ c ∈ item.text.toList, Text.isBlank c = false :=
    fun c member => (not_separated_text kind c member).2
  rw [Text.trim, Text.trimmed_of_not_blank plain, String.ofList_toList]

theorem integerText_ne_constant (value : Int) (letter : Char) {rest : List Char}
    (isLetter : letter ≠ '-' ∧ letter.isDigit = false) :
    String.ofList (integerText value) ≠ String.ofList (letter :: rest) := by
  intro same
  have characters := String.ofList_injective same
  rcases mem_integerText (characters ▸ List.mem_cons_self) with minus | digit
  · exact isLetter.1 minus
  · rw [isLetter.2] at digit
    cases digit

theorem scalar_integerText {value : Int} (low : -(1 <<< 63) ≤ value)
    (high : value < 1 <<< 64) :
    IsReadAs (.number (.integer value low high))
      (scalar (String.ofList (integerText value))) := by
  have text : (Json.number (.integer value low high)).text =
    String.ofList (integerText value) := rfl
  have trimmed := trim_text (.integer value low high)
  rw [text] at trimmed
  have spells := Text.spells_integerText value
  rw [← String.toList_ofList (l := integerText value)] at spells
  rw [scalar, trimmed, if_neg (integerText_ne_constant value 't' (by decide)),
    if_neg (integerText_ne_constant value 'f' (by decide)),
    if_neg (integerText_ne_constant value 'n' (by decide))]
  by_cases small : value < 1 <<< 63
  · rw [Text.readInteger64?_eq_some_iff.mpr ⟨spells, low, small⟩]
    dsimp only
    rw [Json.ofInt_of_range low high]
    exact .integer value low high small
  · have unread : Text.readInteger64? (String.ofList (integerText value)) =
        none := by
      rw [Option.eq_none_iff_forall_ne_some]
      intro other read
      rcases Text.readInteger64?_eq_some_iff.mp read with ⟨spellsOther, -, fits⟩
      exact small (spells.unique spellsOther ▸ fits)
    have large : 1 <<< 63 ≤ value := Int.not_lt.mp small
    rw [show (1 <<< 63 : Int) = 9223372036854775808 by decide] at large
    rw [show (1 <<< 64 : Int) = 18446744073709551616 by decide] at high
    have digits : integerText value = Text.decimal value.natAbs :=
      if_neg (by omega)
    have short : (Text.decimal value.natAbs).length ≤ 20 :=
      (Nat.length_toDigits_le_iff (by decide) (by decide)).mpr (by omega)
    have read :=
      Double.ofText?_decimal (show 0 < value.natAbs by omega) (by omega)
    rw [← digits, show (value.natAbs : Int) = value by omega] at read
    rcases Double.exists_ofInt? (show value.natAbs ≤ 2 ^ 64 by omega) with
      ⟨double, nearest⟩
    rw [unread, read, nearest]
    exact .rounded value low high double (Int.not_lt.mp small) nearest

theorem isReadAs_scalar_text {item : Json} (kind : item.IsConstantOrInteger) :
    IsReadAs item (scalar item.text) := by
  have trimmed := trim_text kind
  cases kind with
  | null =>
    rw [scalar, trimmed]
    exact .null
  | bool flag =>
    rw [scalar, trimmed]
    cases flag with
    | true => exact .bool true
    | false => exact .bool false
  | integer value low high => exact scalar_integerText low high

theorem text_ne_empty {item : Json} (kind : item.IsConstantOrInteger) :
    item.text ≠ "" := by
  intro empty
  have read := isReadAs_scalar_text kind
  have blank : scalar "" = .string "" := rfl
  rw [empty, blank] at read
  cases read

/-- Texts of constants and integers, joined with commas, are read one by one.
All of them are read as they are just when 64 bits with a sign hold each of the
integers. -/
theorem values_of_joined_texts {items : List Json} (some : items ≠ [])
    (kinds : ∀ item ∈ items, item.IsConstantOrInteger) :
    List.Forall₂ IsReadAs items (values (Text.join "," (items.map Json.text))) ∧
      (values (Text.join "," (items.map Json.text)) = items ↔
        ∀ item ∈ items, item.FitsSigned) := by
  have cut : Text.split ',' (Text.join "," (items.map Json.text)) =
      items.map Json.text := by
    apply Text.split_join (by simpa using some)
    intro text member comma
    rcases List.mem_map.mp member with ⟨item, isItem, rfl⟩
    exact (not_separated_text (kinds item isItem) ',' comma).1 rfl
  have filled : Text.join "," (items.map Json.text) ≠ "" := by
    intro empty
    have member : "" ∈ items.map Json.text := by
      rw [← cut, empty]
      exact List.mem_singleton_self ""
    rcases List.mem_map.mp member with ⟨item, isItem, blank⟩
    exact text_ne_empty (kinds item isItem) blank
  have read : List.Forall₂ IsReadAs items
      (values (Text.join "," (items.map Json.text))) := by
    rw [values, if_neg filled, cut, List.forall₂_map_right_iff,
      List.forall₂_map_right_iff, List.forall₂_same]
    exact fun item member => isReadAs_scalar_text (kinds item member)
  exact ⟨read, forall₂_isReadAs_eq_iff read⟩

def leastInteger : Json :=
  .number (.integer (-9223372036854775808) (by decide) (by decide))

def greatestInteger : Json :=
  .number (.integer 18446744073709551615 (by decide) (by decide))

/-- The least integer is read as it is, and the greatest one is not. -/
theorem greatest_integer_is_rounded :
    (∀ item ∈ [leastInteger, .null, .bool true, greatestInteger],
      item.IsConstantOrInteger) ∧
      List.Forall₂ IsReadAs [leastInteger, .null, .bool true, greatestInteger]
        (values "-9223372036854775808,null,true,18446744073709551615") ∧
      values "-9223372036854775808,null,true,18446744073709551615" ≠
        [leastInteger, .null, .bool true, greatestInteger] := by
  have kinds : ∀ item ∈ [leastInteger, .null, .bool true, greatestInteger],
      item.IsConstantOrInteger := by
    simp only [List.forall_mem_cons]
    exact ⟨.integer _ _ _, .null, .bool true, .integer _ _ _, by simp⟩
  have read := values_of_joined_texts (by simp) kinds
  have texts : Text.join "," ([leastInteger, .null, .bool true,
        greatestInteger].map Json.text) =
      "-9223372036854775808,null,true,18446744073709551615" := by decide +kernel
  rw [texts] at read
  refine ⟨kinds, read.1, fun same => ?_⟩
  have small := read.2.mp same greatestInteger (by simp) _ _ _ rfl
  exact absurd small (by decide)

end Parameters

end CriteriaQuery
