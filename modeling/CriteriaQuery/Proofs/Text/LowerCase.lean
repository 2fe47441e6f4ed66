import CriteriaQuery.Proofs.Text.Occurrence
import Mathlib.Data.List.TakeWhile

namespace CriteriaQuery

/-! Lower casing of a text inside a longer one. Only the form of a capital sigma
depends on what stands around the text, and only for a sigma that no cased
letter of the text itself decides about. -/

namespace Text

/-! ## What stands around a text -/

def isIgnorable (c : Char) : Bool := isWithin ignorableRanges c

theorem isIgnorable_sigma : isIgnorable 'Σ' = false := by decide +kernel

theorem meetsCased_cons (c : Char) (rest : List Char) :
    meetsCased (c :: rest) =
      if isIgnorable c then meetsCased rest else isWithin casedRanges c := by
  cases ignorable : isIgnorable c <;> simp_all [meetsCased, isIgnorable]

theorem meetsCased_append_of_ignorable {front : List Char}
    (ignorable : ∀ c ∈ front, isIgnorable c = true) (rest : List Char) :
    meetsCased (front ++ rest) = meetsCased rest := by
  induction front with
  | nil => rfl
  | cons c front induction =>
    rcases List.forall_mem_cons.mp ignorable with ⟨first, others⟩
    rw [List.cons_append, meetsCased_cons, if_pos first, induction others]

theorem meetsCased_append_congr (front : List Char) {rest other : List Char}
    (same : meetsCased rest = meetsCased other) :
    meetsCased (front ++ rest) = meetsCased (front ++ other) := by
  induction front with
  | nil => exact same
  | cons c front induction =>
    rw [List.cons_append, List.cons_append, meetsCased_cons,
      meetsCased_cons, induction]

theorem meetsCased_append_of_meetsCased {front : List Char}
    (meets : meetsCased front = true) (rest : List Char) :
    meetsCased (front ++ rest) = true := by
  induction front with
  | nil => cases meets
  | cons c front induction =>
    rw [List.cons_append, meetsCased_cons] at *
    split at meets
    next ignorable => rw [if_pos ignorable, induction meets]
    next decides => rw [if_neg decides, meets]

theorem meetsCased_cons_congr {c : Char} (decides : isIgnorable c = false)
    (rest other : List Char) :
    meetsCased (c :: rest) = meetsCased (c :: other) := by
  simp only [meetsCased_cons, decides, Bool.false_eq_true, if_false]

/-! ## Lower case in the middle of a text -/

def lowerAmid (before : List Char) (c : Char) (after : List Char) : List Char :=
  if c = 'Σ' then [if endsWord before after then 'ς' else 'σ']
  else lowerCharacter c

def lowerBetween (before : List Char) : List Char → List Char → List Char
  | [], _ => []
  | c :: rest, after =>
    lowerAmid before c (rest ++ after) ++ lowerBetween (c :: before) rest after

theorem lowerFrom_append (before characters after : List Char) :
    lowerFrom before (characters ++ after) =
      lowerBetween before characters after ++
      lowerFrom (characters.reverse ++ before) after := by
  induction characters generalizing before with
  | nil => rfl
  | cons c rest induction =>
    rw [List.cons_append, lowerFrom, lowerBetween, induction, List.append_assoc,
      List.reverse_cons, List.append_assoc]
    rfl

theorem lowerBetween_nil (before characters : List Char) :
    lowerBetween before characters [] = lowerFrom before characters := by
  have whole := lowerFrom_append before characters []
  rw [List.append_nil, lowerFrom, List.append_nil] at whole
  exact whole.symm

theorem lowerBetween_append (before left right after : List Char) :
    lowerBetween before (left ++ right) after =
      lowerBetween before left (right ++ after) ++
        lowerBetween (left.reverse ++ before) right after := by
  induction left generalizing before with
  | nil => rfl
  | cons c rest induction =>
    rw [List.cons_append, lowerBetween, lowerBetween, induction,
      List.append_assoc,
      List.append_assoc, List.reverse_cons, List.append_assoc]
    rfl

theorem lowerAmid_congr {before before' after after' : List Char}
    (sameBefore : meetsCased before = meetsCased before')
    (sameAfter : meetsCased after = meetsCased after') (c : Char) :
    lowerAmid before c after = lowerAmid before' c after' := by
  rw [lowerAmid, lowerAmid, endsWord, endsWord, sameBefore, sameAfter]

/-- All that counts of what stands around a text is whether the nearest letters
are cased. -/
theorem lowerBetween_congr {before before' after after' : List Char}
    (sameBefore : meetsCased before = meetsCased before')
    (sameAfter : meetsCased after = meetsCased after') (characters : List Char) :
    lowerBetween before characters after =
      lowerBetween before' characters after' := by
  induction characters generalizing before before' with
  | nil => rfl
  | cons c rest induction =>
    have next : meetsCased (c :: before) = meetsCased (c :: before') :=
      meetsCased_append_congr [c] sameBefore
    rw [lowerBetween, lowerBetween, induction next,
      lowerAmid_congr sameBefore (meetsCased_append_congr rest sameAfter)]

theorem lowerBetween_of_ignorable {characters : List Char}
    (ignorable : ∀ c ∈ characters, isIgnorable c = true)
    (before after : List Char) :
    lowerBetween before characters after = characters.flatMap lowerCharacter := by
  induction characters generalizing before with
  | nil => rfl
  | cons c rest induction =>
    rcases List.forall_mem_cons.mp ignorable with ⟨first, others⟩
    have noSigma : c ≠ 'Σ' := by
      rintro rfl
      rw [isIgnorable_sigma] at first
      cases first
    rw [lowerBetween, lowerAmid, if_neg noSigma, induction others,
      List.flatMap_cons]

/-! ## The first and the last character that is not passed over -/

/-- The text begins with a sigma, characters that are passed over aside, and meets
no cased letter after it: the sigma ends a word if a letter stands before the
text. -/
def beginsWithSigma (characters : List Char) : Bool :=
  match characters.dropWhile isIgnorable with
  | c :: rest => c == 'Σ' && !meetsCased rest
  | [] => false

/-- The text ends in a sigma behind a cased letter, characters that are passed
over aside: the sigma ends a word unless a letter stands after the text. -/
def endsInSigma (characters : List Char) : Bool :=
  match characters.reverse.dropWhile isIgnorable with
  | c :: before => c == 'Σ' && meetsCased before
  | [] => false

example : beginsWithSigma "Σ.".toList ∧ ¬ endsInSigma "Σ.".toList := by
  decide +kernel
example : endsInSigma "ΑΣ".toList ∧ ¬ beginsWithSigma "ΑΣ".toList := by
  decide +kernel
example : ¬ beginsWithSigma "ΣΑΣΑ".toList ∧ ¬ endsInSigma "ΣΑΣΑ".toList := by
  decide +kernel

theorem ignorable_or_eq_append (characters : List Char) :
    (∀ c ∈ characters, isIgnorable c = true) ∨
      ∃ front c rest, characters = front ++ c :: rest ∧
        (∀ d ∈ front, isIgnorable d = true) ∧ isIgnorable c = false := by
  have whole :=
    List.takeWhile_append_dropWhile (p := isIgnorable) (l := characters)
  cases later : characters.dropWhile isIgnorable with
  | nil => exact .inl (List.dropWhile_eq_nil_iff.mp later)
  | cons c rest =>
    have decides := List.head?_dropWhile_not isIgnorable characters
    rw [later] at whole decides
    exact .inr ⟨_, c, rest, whole.symm,
      fun d member => List.mem_takeWhile_imp member, by simpa using decides⟩

theorem ignorable_or_eq_append_last (characters : List Char) :
    (∀ c ∈ characters, isIgnorable c = true) ∨
      ∃ front c rest, characters = front ++ c :: rest ∧
        (∀ d ∈ rest, isIgnorable d = true) ∧ isIgnorable c = false := by
  rcases ignorable_or_eq_append characters.reverse with
    all | ⟨front, c, rest, whole, passed, decides⟩
  · exact .inl fun c member => all c (List.mem_reverse.mpr member)
  · refine .inr ⟨rest.reverse, c, front.reverse, ?_, ?_, decides⟩
    · rw [← List.reverse_reverse characters, whole]
      simp
    · exact fun d member => passed d (List.mem_reverse.mp member)

section Deciding

variable {front rest : List Char} {c : Char}

theorem beginsWithSigma_append (passed : ∀ d ∈ front, isIgnorable d = true)
    (decides : isIgnorable c = false) :
    beginsWithSigma (front ++ c :: rest) = (c == 'Σ' && !meetsCased rest) := by
  simp only [beginsWithSigma, List.dropWhile_append_of_pos passed,
    List.dropWhile_cons, decides]
  rfl

theorem endsInSigma_append (passed : ∀ d ∈ rest, isIgnorable d = true)
    (decides : isIgnorable c = false) :
    endsInSigma (front ++ c :: rest) =
      (c == 'Σ' && meetsCased front.reverse) := by
  have passedBack : ∀ d ∈ rest.reverse, isIgnorable d = true :=
    fun d member => passed d (List.mem_reverse.mp member)
  simp only [endsInSigma, List.reverse_append, List.reverse_cons,
    List.append_assoc, List.dropWhile_append_of_pos passedBack,
    List.singleton_append, List.dropWhile_cons, decides]
  rfl

/-- What stands before the text counts for its first deciding character only. -/
theorem lowerBetween_first (passed : ∀ d ∈ front, isIgnorable d = true)
    (decides : isIgnorable c = false) (before after : List Char) :
    lowerBetween before (front ++ c :: rest) after =
      front.flatMap lowerCharacter ++
        (lowerAmid before c (rest ++ after) ++ lowerBetween [c] rest after) := by
  have passedBack : ∀ d ∈ front.reverse, isIgnorable d = true :=
    fun d member => passed d (List.mem_reverse.mp member)
  rw [lowerBetween_append, lowerBetween_of_ignorable passed, lowerBetween,
    lowerAmid_congr (meetsCased_append_of_ignorable passedBack before) rfl,
    lowerBetween_congr (meetsCased_cons_congr decides _ []) rfl]

/-- What stands after the text counts for its last deciding character only. -/
theorem lowerBetween_last (passed : ∀ d ∈ rest, isIgnorable d = true)
    (decides : isIgnorable c = false) (before after : List Char) :
    lowerBetween before (front ++ c :: rest) after =
      lowerBetween before front [c] ++
        (lowerAmid (front.reverse ++ before) c after ++
          rest.flatMap lowerCharacter) := by
  rw [lowerBetween_append, lowerBetween, lowerBetween_of_ignorable passed,
    List.cons_append,
    lowerAmid_congr rfl (meetsCased_append_of_ignorable passed after),
    lowerBetween_congr rfl (meetsCased_cons_congr decides _ [])]

end Deciding

/-! ## Texts that are lowered alike wherever they stand -/

theorem lowerAmid_of_ne {c : Char} (noSigma : c ≠ 'Σ')
    (before after before' after' : List Char) :
    lowerAmid before c after = lowerAmid before' c after' := by
  rw [lowerAmid, lowerAmid, if_neg noSigma, if_neg noSigma]

theorem lowerAmid_sigma (before after : List Char) :
    lowerAmid before 'Σ' after =
      [if meetsCased before = true ∧ meetsCased after = false
        then 'ς' else 'σ'] := by
  simp [lowerAmid, endsWord]

theorem lowerBetween_of_not_beginsWithSigma {characters : List Char}
    (closed : beginsWithSigma characters = false) (before after : List Char) :
    lowerBetween before characters after = lowerBetween [] characters after := by
  rcases ignorable_or_eq_append characters with
    all | ⟨front, c, rest, rfl, passed, decides⟩
  · rw [lowerBetween_of_ignorable all, lowerBetween_of_ignorable all]
  · rw [lowerBetween_first passed decides, lowerBetween_first passed decides]
    rw [beginsWithSigma_append passed decides] at closed
    by_cases sigma : c = 'Σ'
    · subst sigma
      have meets : meetsCased rest = true := by simpa using closed
      have further := meetsCased_append_of_meetsCased meets after
      simp only [lowerAmid_sigma, further, Bool.true_eq_false,
        and_false, if_false]
    · rw [lowerAmid_of_ne sigma before _ [] _]

theorem lowerBetween_of_not_endsInSigma {characters : List Char}
    (closed : endsInSigma characters = false) (after : List Char) :
    lowerBetween [] characters after = lowerFrom [] characters := by
  rw [← lowerBetween_nil]
  rcases ignorable_or_eq_append_last characters with
    all | ⟨front, c, rest, rfl, passed, decides⟩
  · rw [lowerBetween_of_ignorable all, lowerBetween_of_ignorable all]
  · rw [lowerBetween_last passed decides, lowerBetween_last passed decides]
    rw [endsInSigma_append passed decides] at closed
    by_cases sigma : c = 'Σ'
    · subst sigma
      have misses : meetsCased front.reverse = false := by simpa using closed
      simp only [lowerAmid_sigma, List.append_nil, misses]
      rfl
    · rw [lowerAmid_of_ne sigma _ after _ []]

/-! ## Texts that are not -/

/-- A letter before the text turns the first sigma into a final one. -/
theorem count_medial_lt {characters before : List Char}
    (begins : beginsWithSigma characters = true)
    (cased : meetsCased before = true) :
    (lowerBetween before characters []).count 'σ' <
      (lowerFrom [] characters).count 'σ' := by
  rw [← lowerBetween_nil]
  rcases ignorable_or_eq_append characters with
    all | ⟨front, c, rest, rfl, passed, decides⟩
  · have none : characters.dropWhile isIgnorable = [] :=
      List.dropWhile_eq_nil_iff.mpr all
    rw [beginsWithSigma, none] at begins
    cases begins
  · rw [beginsWithSigma_append passed decides, Bool.and_eq_true,
      beq_iff_eq] at begins
    rcases begins with ⟨rfl, misses⟩
    have misses : meetsCased rest = false := by simpa using misses
    have nothing : meetsCased [] = false := rfl
    rw [lowerBetween_first passed decides, lowerBetween_first passed decides]
    simp [lowerAmid_sigma, cased, misses, nothing, List.count_append]

/-- A letter after the text keeps the last sigma from being a final one. -/
theorem count_final_lt {characters after : List Char}
    (ends : endsInSigma characters = true) (cased : meetsCased after = true) :
    (lowerBetween [] characters after).count 'ς' <
      (lowerFrom [] characters).count 'ς' := by
  rw [← lowerBetween_nil]
  rcases ignorable_or_eq_append_last characters with
    all | ⟨front, c, rest, rfl, passed, decides⟩
  · have none : characters.reverse.dropWhile isIgnorable = [] :=
      List.dropWhile_eq_nil_iff.mpr fun c member =>
        all c (List.mem_reverse.mp member)
    rw [endsInSigma, none] at ends
    cases ends
  · rw [endsInSigma_append passed decides, Bool.and_eq_true, beq_iff_eq] at ends
    rcases ends with ⟨rfl, meets⟩
    have nothing : meetsCased [] = false := rfl
    rw [lowerBetween_last passed decides, lowerBetween_last passed decides]
    simp [lowerAmid_sigma, cased, meets, nothing, List.count_append]

end Text

end CriteriaQuery
