import CriteriaQuery.Proofs.Double.Text

namespace CriteriaQuery.Text

/-! Which texts are read as whole numbers, and as which ones. -/

open Double (digitsValue digitsValue_decimal isDigit_of_mem_decimal)

/-! ## Digits -/

structure IsDigits (characters : List Char) : Prop where
  some : characters ≠ []
  all : ∀ c ∈ characters, c.isDigit = true

theorem isDigits_decimal (value : Nat) : IsDigits (decimal value) where
  some := by simp [decimal, Nat.toDigits_ne_nil]
  all := fun _ => isDigit_of_mem_decimal

theorem IsDigits.ne_signed {digits rest : List Char} {sign : Char}
    (isDigits : IsDigits digits) (noDigit : sign.isDigit = false) :
    digits ≠ sign :: rest := by
  intro signed
  have digit := isDigits.all sign (signed ▸ List.mem_cons_self)
  rw [noDigit] at digit
  cases digit

def valueFrom (soFar : Nat) (digits : List Char) : Nat :=
  digits.foldl (fun value c => value * 10 + (c.toNat - '0'.toNat)) soFar

theorem le_valueFrom (soFar : Nat) (digits : List Char) :
    soFar ≤ valueFrom soFar digits := by
  induction digits generalizing soFar with
  | nil => exact le_rfl
  | cons c rest induction =>
    have later := induction (soFar * 10 + (c.toNat - '0'.toNat))
    rw [valueFrom, List.foldl_cons]
    unfold valueFrom at later
    omega

/-- Digits are read as long as their value stays within the limit. -/
theorem readDigits_eq_ok_iff {limit soFar value : Nat} {characters : List Char}
    (within : soFar ≤ limit) :
    readDigits limit soFar characters = .ok value ↔
      (∀ c ∈ characters, c.isDigit = true) ∧ valueFrom soFar characters = value ∧
        value ≤ limit := by
  induction characters generalizing soFar with
  | nil =>
    simp only [readDigits, valueFrom, List.foldl_nil, Except.ok.injEq,
      List.not_mem_nil, false_implies, implies_true, true_and]
    constructor
    · intro same
      exact ⟨same, same ▸ within⟩
    · exact And.left
  | cons c rest induction =>
    rw [List.forall_mem_cons, readDigits, digitValue?]
    by_cases digit : c.isDigit = true
    · have further : valueFrom soFar (c :: rest) =
          valueFrom (soFar * 10 + (c.toNat - '0'.toNat)) rest := rfl
      rw [if_pos digit, further]
      simp only [digit, true_and]
      by_cases exceeds : limit < soFar * 10 + (c.toNat - '0'.toNat)
      · have above := le_valueFrom (soFar * 10 + (c.toNat - '0'.toNat)) rest
        rw [if_pos exceeds]
        constructor
        · intro read
          cases read
        · rintro ⟨-, same, high⟩
          omega
      · rw [if_neg exceeds]
        exact induction (by omega)
    · simp [digit]

theorem readMagnitude_eq_ok_iff {limit value : Nat} {characters : List Char} :
    readMagnitude limit characters = .ok value ↔
      IsDigits characters ∧ digitsValue characters = value ∧ value ≤ limit := by
  cases characters with
  | nil =>
    simp only [readMagnitude, reduceCtorEq, false_iff]
    intro read
    exact read.1.some rfl
  | cons c rest =>
    rw [readMagnitude, readDigits_eq_ok_iff (Nat.zero_le limit)]
    · constructor
      · rintro ⟨all, read⟩
        exact ⟨⟨by simp, all⟩, read⟩
      · rintro ⟨isDigits, read⟩
        exact ⟨isDigits.all, read⟩
    · simp

/-! ## Numbers -/

section Except

variable {ε α β : Type} {result : Except ε α}

theorem map_eq_ok_iff {change : α → β} {value : β} :
    result.map change = .ok value ↔
    ∃ before, result = .ok before ∧ change before = value := by
  cases result <;> simp [Except.map]

theorem map_lifted (result : Except ε Nat) (change : Int → Int) :
    (do let value ← result; pure (value : Int)).map change =
      result.map fun value : Nat => change value := by
  cases result <;> rfl

theorem toOption_eq_some_iff {value : α} :
    result.toOption = some value ↔ result = .ok value := by
  cases result <;> simp [Except.toOption]

end Except

theorem readNatural_eq_ok_iff {limit value : Nat} {text : String} :
    readNatural limit text = .ok value ↔
      ∃ digits, IsDigits digits ∧
        (text.toList = digits ∨ text.toList = '+' :: digits) ∧
        digitsValue digits = value ∧ value ≤ limit := by
  unfold readNatural
  split
  next empty =>
    rw [empty]
    constructor
    · intro read
      cases read
    · rintro ⟨digits, isDigits, rfl | signed, -⟩
      · exact absurd rfl isDigits.some
      · cases signed
  next rest signed =>
    rw [readMagnitude_eq_ok_iff, signed]
    constructor
    · rintro ⟨isDigits, read⟩
      exact ⟨rest, isDigits, .inr rfl, read⟩
    · rintro ⟨digits, isDigits, plain | same, read⟩
      · exact absurd plain.symm (isDigits.ne_signed rfl)
      · cases same
        exact ⟨isDigits, read⟩
  next unsigned =>
    rw [readMagnitude_eq_ok_iff]
    constructor
    · rintro ⟨isDigits, read⟩
      exact ⟨_, isDigits, .inl rfl, read⟩
    · rintro ⟨digits, isDigits, plain | signed, read⟩
      · exact plain ▸ ⟨isDigits, read⟩
      · exact absurd signed (unsigned digits)

inductive Spells : List Char → Int → Prop
  | plain {digits : List Char} : IsDigits digits →
      Spells digits (digitsValue digits)
  | positive {digits : List Char} : IsDigits digits →
      Spells ('+' :: digits) (digitsValue digits)
  | negative {digits : List Char} : IsDigits digits →
      Spells ('-' :: digits) (-digitsValue digits)

theorem readInteger_eq_ok_iff {limit : Nat} {value : Int} {text : String} :
    readInteger limit text = .ok value ↔
      Spells text.toList value ∧ -(limit : Int) - 1 ≤ value ∧ value ≤ limit := by
  unfold readInteger
  split
  next empty =>
    rw [empty]
    constructor
    · intro read
      cases read
    · rintro ⟨spells, -⟩
      cases spells with
      | plain isDigits => exact absurd rfl isDigits.some
  next rest signed =>
    rw [map_eq_ok_iff, signed]
    constructor
    · rintro ⟨magnitude, read, rfl⟩
      rcases readMagnitude_eq_ok_iff.mp read with ⟨isDigits, rfl, high⟩
      rw [Int.ofNat_eq_natCast]
      exact ⟨.positive isDigits, by omega, by omega⟩
    · rintro ⟨spells, -, high⟩
      cases spells with
      | plain isDigits => exact absurd rfl (isDigits.ne_signed rfl)
      | positive isDigits =>
        exact ⟨_, readMagnitude_eq_ok_iff.mpr ⟨isDigits, rfl, by omega⟩, rfl⟩
  next rest signed =>
    rw [map_lifted, map_eq_ok_iff, signed]
    constructor
    · rintro ⟨magnitude, read, rfl⟩
      rcases readMagnitude_eq_ok_iff.mp read with ⟨isDigits, rfl, high⟩
      exact ⟨.negative isDigits, by omega, by omega⟩
    · rintro ⟨spells, low, -⟩
      cases spells with
      | plain isDigits => exact absurd rfl (isDigits.ne_signed rfl)
      | negative isDigits =>
        exact ⟨_, readMagnitude_eq_ok_iff.mpr ⟨isDigits, rfl, by omega⟩, rfl⟩
  next noPlus noMinus =>
    rw [map_eq_ok_iff]
    constructor
    · rintro ⟨magnitude, read, rfl⟩
      rcases readMagnitude_eq_ok_iff.mp read with ⟨isDigits, rfl, high⟩
      rw [Int.ofNat_eq_natCast]
      exact ⟨.plain isDigits, by omega, by omega⟩
    · rintro ⟨spells, -, high⟩
      generalize text.toList = characters at *
      cases spells with
      | plain isDigits =>
        exact ⟨_, readMagnitude_eq_ok_iff.mpr ⟨isDigits, rfl, by omega⟩, rfl⟩
      | positive isDigits => exact absurd rfl (noPlus _)
      | negative isDigits => exact absurd rfl (noMinus _)

theorem readInteger64?_eq_some_iff {value : Int} {text : String} :
    readInteger64? text = some value ↔
      Spells text.toList value ∧ -(1 <<< 63) ≤ value ∧ value < 1 <<< 63 := by
  rw [readInteger64?, toOption_eq_some_iff, readInteger_eq_ok_iff]
  have limit : (((1 <<< 63) - 1 : Nat) : Int) = 9223372036854775807 := by decide
  have power : (1 <<< 63 : Int) = 9223372036854775808 := by decide
  rw [limit, power]
  refine and_congr_right fun _ => ?_
  omega

end CriteriaQuery.Text
