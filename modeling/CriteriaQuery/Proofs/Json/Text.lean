import CriteriaQuery.Json.Order
import CriteriaQuery.Json.Reader
import CriteriaQuery.Proofs.Double.Text

namespace CriteriaQuery

/-! No two JSON values have the same compact text. Each part of a text shows
where it ends: a number by the first character that is not numeric, a string by
its closing quote, an array and an object by their brackets. -/

/-! ## Numbers -/

open Double (isNumeric isNumeric_of_isDigit isDigit_of_mem_decimal)

theorem Text.decimal_injective : Function.Injective Text.decimal := by
  intro left right equal
  rw [← Double.digitsValue_decimal left, equal, Double.digitsValue_decimal]

theorem mem_integerText {value : Int} {c : Char}
    (member : c ∈ integerText value) : c = '-' ∨ c.isDigit = true := by
  rw [integerText] at member
  split at member
  · rcases List.mem_cons.mp member with rfl | digit
    · exact .inl rfl
    · exact .inr (isDigit_of_mem_decimal digit)
  · exact .inr (isDigit_of_mem_decimal member)

theorem decimal_ne_signed (value : Nat) (rest : List Char) :
    Text.decimal value ≠ '-' :: rest := by
  intro signed
  have digit : '-'.isDigit = true :=
    isDigit_of_mem_decimal (signed ▸ List.mem_cons_self)
  cases digit

theorem integerText_injective : Function.Injective integerText := by
  intro left right equal
  unfold integerText at equal
  split at equal <;> split at equal
  · have magnitudes := Text.decimal_injective (List.cons.inj equal).2
    omega
  · exact absurd equal.symm (decimal_ne_signed _ _)
  · exact absurd equal (decimal_ne_signed _ _)
  · have magnitudes := Text.decimal_injective equal
    omega

namespace Number

theorem isNumeric_of_mem_text (number : Number) :
    ∀ c ∈ number.text, isNumeric c = true := by
  cases number with
  | integer value low high =>
    intro c member
    rcases mem_integerText member with rfl | digit
    · rfl
    · exact isNumeric_of_isDigit digit
  | float value => exact (Double.characters_text value).1

theorem integerText_ne_text (value : Int) (double : Double) :
    integerText value ≠ double.text := by
  intro equal
  rcases (Double.characters_text double).2 with point | mark
  · rcases mem_integerText (equal ▸ point) with minus | digit
    · cases minus
    · cases digit
  · rcases mem_integerText (equal ▸ mark) with minus | digit
    · cases minus
    · cases digit

theorem text_injective : Function.Injective Number.text := by
  intro left right equal
  cases left with
  | integer value low high =>
    cases right with
    | integer other otherLow otherHigh =>
      cases integerText_injective equal
      rfl
    | float other => exact absurd equal (integerText_ne_text value other)
  | float value =>
    cases right with
    | integer other otherLow otherHigh =>
      exact absurd equal.symm (integerText_ne_text other value)
    | float other =>
      cases Double.text_injective equal
      rfl

theorem text_ne_nil (number : Number) : number.text ≠ [] := by
  cases number with
  | integer value low high =>
    rw [text, integerText]
    split
    · simp
    · exact Nat.toDigits_ne_nil
  | float value =>
    rcases (Double.characters_text value).2 with member | member
    · exact List.ne_nil_of_mem member
    · exact List.ne_nil_of_mem member

end Number

namespace Json

/-! ## Strings -/

def unquote? : List Char → Option (Char × List Char)
  | '\\' :: 'u' :: '0' :: '0' :: high :: low :: rest => do
    let high ← Text.hexValue? high
    let low ← Text.hexValue? low
    return (Char.ofNat (high * 16 + low), rest)
  | '\\' :: letter :: rest => (Reader.unescaped? letter).map (·, rest)
  | c :: rest => some (c, rest)
  | [] => none

theorem hexValue?_digitChar :
    ∀ value < 16, Text.hexValue? (Nat.digitChar value) = some value := by
  decide

theorem unquote?_quotedCharacter (c : Char) (rest : List Char) :
    unquote? (quotedCharacter c ++ rest) = some (c, rest) := by
  unfold quotedCharacter
  split
  · rfl
  · rfl
  · rfl
  · rfl
  · rfl
  · rfl
  · rfl
  · split
    next control =>
      have high := hexValue?_digitChar (c.toNat / 16) (by omega)
      have low := hexValue?_digitChar (c.toNat % 16) (by omega)
      have whole : c.toNat / 16 * 16 + c.toNat % 16 = c.toNat := by omega
      simp [unquote?, high, low, whole]
    next =>
      rw [List.singleton_append, unquote?] <;> intros <;> simp_all

theorem exists_head_quotedCharacter (c : Char) :
    ∃ head rest, quotedCharacter c = head :: rest ∧ head ≠ '"' := by
  unfold quotedCharacter
  split
  case h_8 notQuote _ _ _ _ _ _ =>
    split
    · exact ⟨_, _, rfl, by decide⟩
    · exact ⟨_, _, rfl, notQuote⟩
  all_goals exact ⟨_, _, rfl, by decide⟩

theorem flatMap_quotedCharacter_append_inj {left right after later : List Char}
    (equal : left.flatMap quotedCharacter ++ '"' :: after =
      right.flatMap quotedCharacter ++ '"' :: later) :
    left = right ∧ after = later := by
  induction left generalizing right with
  | nil =>
    cases right with
    | nil => exact ⟨rfl, (List.cons.inj equal).2⟩
    | cons c rest =>
      obtain ⟨head, tail, quoted, different⟩ := exists_head_quotedCharacter c
      rw [List.flatMap_cons, quoted] at equal
      exact absurd (List.cons.inj equal).1.symm different
  | cons c left induction =>
    cases right with
    | nil =>
      obtain ⟨head, tail, quoted, different⟩ := exists_head_quotedCharacter c
      rw [List.flatMap_cons, quoted] at equal
      exact absurd (List.cons.inj equal).1 different
    | cons d right =>
      rw [List.flatMap_cons, List.flatMap_cons, List.append_assoc,
        List.append_assoc] at equal
      have taken := congrArg unquote? equal
      rw [unquote?_quotedCharacter, unquote?_quotedCharacter] at taken
      obtain ⟨same, rest⟩ := Prod.mk.inj (Option.some.inj taken)
      obtain ⟨sameRest, sameAfter⟩ := induction rest
      exact ⟨by rw [same, sameRest], sameAfter⟩

/-- A string ends at the first quote that is not part of a quoted character. -/
theorem quoted_append_inj {left right : String} {after later : List Char}
    (equal : quoted left ++ after = quoted right ++ later) :
    left = right ∧ after = later := by
  unfold quoted at equal
  rw [List.cons_append, List.cons_append, List.append_assoc,
    List.append_assoc] at equal
  obtain ⟨sameCharacters, sameAfter⟩ :=
    flatMap_quotedCharacter_append_inj (List.cons.inj equal).2
  exact ⟨String.toList_injective sameCharacters, sameAfter⟩

/-! ## Values -/

def rankOfHead (c : Char) : Nat :=
  if isNumeric c then 2
  else if c = 'n' then 0
  else if c = 't' ∨ c = 'f' then 1
  else if c = '"' then 3
  else if c = '[' then 4
  else if c = '\x7b' then 5
  else 6

theorem exists_head (value : Json) :
    ∃ c rest, value.characters = c :: rest ∧ rankOfHead c = value.kindRank := by
  cases value with
  | null => exact ⟨_, _, rfl, rfl⟩
  | bool flag => cases flag <;> exact ⟨_, _, rfl, rfl⟩
  | number number =>
    rw [characters]
    cases text : number.text with
    | nil => exact absurd text number.text_ne_nil
    | cons c rest =>
      have numeric := number.isNumeric_of_mem_text c (text ▸ List.mem_cons_self)
      exact ⟨c, rest, rfl, by simp [rankOfHead, numeric, kindRank]⟩
  | string text => exact ⟨_, _, rfl, rfl⟩
  | array items => exact ⟨_, _, by rw [characters], rfl⟩
  | object members => exact ⟨_, _, by rw [characters], rfl⟩

def Ends (rest : List Char) : Prop := ∀ c ∈ rest.head?, isNumeric c = false

theorem number_append_inj {left right : Number} {after later : List Char}
    (ends : Ends after) (alsoEnds : Ends later)
    (equal : left.text ++ after = right.text ++ later) :
    left = right ∧ after = later := by
  obtain ⟨taken, dropped⟩ :=
    Double.takeWhile_append_of_stop left.isNumeric_of_mem_text after ends
  obtain ⟨alsoTaken, alsoDropped⟩ :=
    Double.takeWhile_append_of_stop right.isNumeric_of_mem_text later alsoEnds
  rw [equal, alsoTaken] at taken
  rw [equal, alsoDropped] at dropped
  exact ⟨Number.text_injective taken.symm, dropped.symm⟩

section Continued

variable {α : Type} (write : List α → List Char)

/-- What is written behind the first part of a list: the other parts behind a
comma, if there are any. -/
def continued : List α → List Char
  | [] => []
  | part :: rest => ',' :: write (part :: rest)

theorem ends_continued {close : Char} (closes : isNumeric close = false)
    (parts : List α) (after : List Char) :
    Ends (continued write parts ++ close :: after) := by
  cases parts with
  | nil => simpa [Ends, continued] using closes
  | cons part rest => simp [Ends, continued, isNumeric]

theorem continued_append_inj {close : Char} (noComma : close ≠ ',')
    {left right : List α} {after later : List Char}
    (whole : write left ++ close :: after = write right ++ close :: later →
      left = right ∧ after = later)
    (equal : continued write left ++ close :: after =
      continued write right ++ close :: later) :
    left = right ∧ after = later := by
  cases left with
  | nil =>
    cases right with
    | nil => exact ⟨rfl, (List.cons.inj equal).2⟩
    | cons part rest => exact absurd (List.cons.inj equal).1 noComma
  | cons first more =>
    cases right with
    | nil => exact absurd (List.cons.inj equal).1.symm noComma
    | cons part rest => exact whole (List.cons.inj equal).2

end Continued

theorem itemCharacters_cons (item : Json) (rest : List Json) :
    itemCharacters (item :: rest) = item.characters ++
    continued itemCharacters rest := by
  cases rest with
  | nil => exact (List.append_nil _).symm
  | cons next rest => rfl

theorem memberCharacters_cons (key : String) (value : Json)
    (rest : List (String × Json)) :
    memberCharacters ((key, value) :: rest) =
      quoted key ++ ':' ::
        (value.characters ++ continued memberCharacters rest) := by
  cases rest with
  | nil =>
    rw [continued, List.append_nil]
    rfl
  | cons next rest => rfl

theorem kindRank_eq_of_append {left right : Json} {after later : List Char}
    (equal : left.characters ++ after = right.characters ++ later) :
    left.kindRank = right.kindRank := by
  obtain ⟨c, rest, written, rank⟩ := exists_head left
  obtain ⟨d, more, alsoWritten, alsoRank⟩ := exists_head right
  rw [written, alsoWritten] at equal
  rw [← rank, ← alsoRank, (List.cons.inj equal).1]

theorem characters_append_ne {value : Json} {c : Char} (noHead : rankOfHead c = 6)
    (after later : List Char) : value.characters ++ after ≠ c :: later := by
  intro equal
  obtain ⟨d, rest, written, rank⟩ := exists_head value
  rw [written] at equal
  rw [(List.cons.inj equal).1, noHead] at rank
  cases value <;> cases rank

mutual

theorem characters_append_inj : ∀ (left right : Json) {after later : List Char},
    Ends after → Ends later →
      left.characters ++ after = right.characters ++ later →
      left = right ∧ after = later
  | .null, right, after, later, ends, alsoEnds, equal => by
    cases right with
    | null => exact ⟨rfl, List.append_cancel_left equal⟩
    | _ => cases kindRank_eq_of_append equal
  | .bool flag, right, after, later, ends, alsoEnds, equal => by
    cases right with
    | bool other =>
      cases flag <;> cases other <;> simp [characters] at equal
      · exact ⟨rfl, equal⟩
      · exact ⟨rfl, equal⟩
    | _ => cases kindRank_eq_of_append equal
  | .number value, right, after, later, ends, alsoEnds, equal => by
    cases right with
    | number other =>
      rw [characters, characters] at equal
      obtain ⟨same, sameAfter⟩ := number_append_inj ends alsoEnds equal
      exact ⟨congrArg Json.number same, sameAfter⟩
    | _ => cases kindRank_eq_of_append equal
  | .string written, right, after, later, ends, alsoEnds, equal => by
    cases right with
    | string other =>
      rw [characters, characters] at equal
      obtain ⟨same, sameAfter⟩ := quoted_append_inj equal
      exact ⟨congrArg Json.string same, sameAfter⟩
    | _ => cases kindRank_eq_of_append equal
  | .array items, right, after, later, ends, alsoEnds, equal => by
    cases right with
    | array others =>
      rw [characters, characters, List.cons_append, List.cons_append,
        List.append_assoc, List.append_assoc] at equal
      obtain ⟨same, sameAfter⟩ :=
        itemCharacters_append_inj items others (List.cons.inj equal).2
      exact ⟨congrArg Json.array same, sameAfter⟩
    | _ => cases kindRank_eq_of_append equal
  | .object members, right, after, later, ends, alsoEnds, equal => by
    cases right with
    | object others =>
      rw [characters, characters, List.cons_append, List.cons_append,
        List.append_assoc, List.append_assoc] at equal
      obtain ⟨same, sameAfter⟩ :=
        memberCharacters_append_inj members others (List.cons.inj equal).2
      exact ⟨congrArg Json.object same, sameAfter⟩
    | _ => cases kindRank_eq_of_append equal

theorem itemCharacters_append_inj :
    ∀ (left right : List Json) {after later : List Char},
    itemCharacters left ++ ']' :: after = itemCharacters right ++ ']' :: later →
      left = right ∧ after = later
  | [], [], after, later, equal => ⟨rfl, (List.cons.inj equal).2⟩
  | [], item :: rest, after, later, equal => by
    rw [itemCharacters_cons, List.append_assoc] at equal
    exact absurd equal.symm (characters_append_ne (by decide) _ _)
  | item :: rest, [], after, later, equal => by
    rw [itemCharacters_cons, List.append_assoc] at equal
    exact absurd equal (characters_append_ne (by decide) _ _)
  | item :: rest, other :: others, after, later, equal => by
    rw [itemCharacters_cons, itemCharacters_cons, List.append_assoc,
      List.append_assoc] at equal
    obtain ⟨same, more⟩ := characters_append_inj item other
      (ends_continued itemCharacters rfl rest after)
      (ends_continued itemCharacters rfl others later) equal
    obtain ⟨sameRest, sameAfter⟩ := continued_append_inj itemCharacters
      (by decide) (itemCharacters_append_inj rest others) more
    exact ⟨by rw [same, sameRest], sameAfter⟩

theorem memberCharacters_append_inj : ∀ (left right : List (String × Json))
    {after later : List Char},
    memberCharacters left ++ '\x7d' :: after =
      memberCharacters right ++ '\x7d' :: later → left = right ∧ after = later
  | [], [], after, later, equal => ⟨rfl, (List.cons.inj equal).2⟩
  | [], (key, value) :: rest, after, later, equal => by
    rw [memberCharacters_cons] at equal
    cases (List.cons.inj equal).1
  | (key, value) :: rest, [], after, later, equal => by
    rw [memberCharacters_cons] at equal
    cases (List.cons.inj equal).1
  | (key, value) :: rest, (otherKey, other) :: others, after, later, equal => by
    rw [memberCharacters_cons, memberCharacters_cons, List.append_assoc,
      List.append_assoc] at equal
    obtain ⟨sameKey, behind⟩ := quoted_append_inj equal
    rw [List.cons_append, List.cons_append, List.append_assoc,
      List.append_assoc] at behind
    obtain ⟨same, more⟩ := characters_append_inj value other
      (ends_continued memberCharacters rfl rest after)
      (ends_continued memberCharacters rfl others later) (List.cons.inj behind).2
    obtain ⟨sameRest, sameAfter⟩ := continued_append_inj memberCharacters
      (by decide) (memberCharacters_append_inj rest others) more
    exact ⟨by rw [sameKey, same, sameRest], sameAfter⟩

end

/-- No two values have the same text. -/
theorem text_injective : Function.Injective Json.text := by
  intro left right equal
  have characters : left.characters = right.characters := by
    have lists := congrArg String.toList equal
    rwa [text, text, String.toList_ofList, String.toList_ofList] at lists
  have ended : left.characters ++ [] = right.characters ++ [] := by
    rw [characters]
  exact (characters_append_inj left right (by simp [Ends])
    (by simp [Ends]) ended).1

end Json

end CriteriaQuery
