import CriteriaQuery.Pieces

namespace CriteriaQuery.Text

/-! Text operations that the rest of the library is defined with. Each one
works on the list of characters of a string, so that statements about it are
statements about lists. -/

/-! ## Cutting and joining -/

def split (separator : Char) (text : String) : List String :=
  (pieces (· == separator) text.toList).map String.ofList

example : split '.' "roles.auth.name" = ["roles", "auth", "name"] := by decide
example : split ',' "" = [""] := by decide

theorem split_ne_nil (separator : Char) (text : String) :
    split separator text ≠ [] := by
  simp [split, pieces_ne_nil]

def join (separator : String) : List String → String
  | [] => ""
  | [text] => text
  | text :: rest => text ++ separator ++ join separator rest

/-! ## Occurrence -/

def occursIn (needle : List Char) : List Char → Bool
  | [] => needle.isEmpty
  | c :: rest => needle.isPrefixOf (c :: rest) || occursIn needle rest

theorem occursIn_iff (needle characters : List Char) :
    occursIn needle characters = true ↔ needle <:+: characters := by
  induction characters with
  | nil => cases needle <;> simp [occursIn]
  | cons c rest induction =>
    rw [occursIn, Bool.or_eq_true, induction, List.isPrefixOf_iff_prefix,
      List.infix_cons_iff]

def contains (text needle : String) : Bool := occursIn needle.toList text.toList

def beginsWith (text needle : String) : Bool :=
  needle.toList.isPrefixOf text.toList

def endsWith (text needle : String) : Bool := needle.toList.isSuffixOf text.toList

def after? : (start text : List Char) → Option (List Char)
  | [], text => some text
  | _ :: _, [] => none
  | s :: start, c :: text => if s = c then after? start text else none

theorem after?_eq_some_iff {start text rest : List Char} :
    after? start text = some rest ↔ text = start ++ rest := by
  induction start generalizing text with
  | nil => simp [after?, eq_comm]
  | cons s start induction =>
    cases text with
    | nil => simp [after?]
    | cons c text =>
      by_cases equal : s = c
      · subst equal; simp [after?, induction]
      · simp [after?, equal, Ne.symm equal]

/-! ## Character classes -/

def isWithin (ranges : List (Nat × Nat)) (c : Char) : Bool :=
  ranges.any fun (first, last) => first ≤ c.toNat && c.toNat ≤ last

/-! ## Blank characters

They are those with the Unicode property `White_Space`. The byte order mark and
the zero width space are not among them. -/

def blankRanges : List (Nat × Nat) :=
  [(0x0009, 0x000D), (0x0020, 0x0020), (0x0085, 0x0085), (0x00A0, 0x00A0),
    (0x1680, 0x1680), (0x2000, 0x200A), (0x2028, 0x2029), (0x202F, 0x202F),
    (0x205F, 0x205F), (0x3000, 0x3000)]

def isBlank (c : Char) : Bool := isWithin blankRanges c

example : isBlank ' ' ∧ isBlank '\u00a0' ∧ isBlank '\u3000' := by decide
example : ¬ isBlank '\u200b' ∧ ¬ isBlank '\ufeff' := by decide

def trimmed (characters : List Char) : List Char :=
  ((characters.dropWhile isBlank).reverse.dropWhile isBlank).reverse

def trim (text : String) : String := String.ofList (trimmed text.toList)

example : trim " \ta b\u3000" = "a b" := by decide

def isBlankText (text : String) : Bool := (trimmed text.toList).isEmpty

/-! ## ASCII case and replacement -/

def asciiUpper (text : String) : String :=
  String.ofList (text.toList.map Char.toUpper)

def asciiLower (text : String) : String :=
  String.ofList (text.toList.map Char.toLower)

/-- Equality that ignores the case of ASCII letters only. -/
def equalIgnoringCase (left right : String) : Bool :=
  left.toList.map Char.toLower == right.toList.map Char.toLower

def replace (old new : Char) (text : String) : String :=
  String.ofList (text.toList.map fun c => if c = old then new else c)

def escape (special : Char → Bool) (text : String) : String :=
  String.ofList (text.toList.flatMap fun c =>
    if special c then ['\\', c] else [c])

end CriteriaQuery.Text
