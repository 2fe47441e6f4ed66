import CriteriaQuery.Sql.Rendering
import Mathlib.Data.List.SplitBy

namespace CriteriaQuery.Sql

/-! Conditions read by the grammar of SQL: `NOT` binds closer than `AND`, and
`AND` closer than `OR`. A text has one reading at most. -/

/-! ## Tokens -/

/-- Characters of one kind that stand beside each other belong to one token, if
they are not marks. -/
inductive CharacterKind where
  | word
  | sign
  | quote
  | mark
  deriving DecidableEq

def characterKind (c : Char) : CharacterKind :=
  if c.isAlphanum || c = '_' then .word
  else if c = '<' || c = '=' || c = '>' then .sign
  else if c = '\'' || c = '\\' then .quote
  else .mark

def adjoins (left right : Char) : Bool :=
  characterKind left = characterKind right && characterKind left ≠ .mark

def tokens (text : String) : List String :=
  ((text.toList.splitBy adjoins).map String.ofList).filter fun token =>
    !token.toList.all Char.isWhitespace

example :
    tokens "NOT (a1.age >= :p0)" =
      ["NOT", "(", "a1", ".", "age", ">=", ":", "p0", ")"] := by
  decide

def beginsAlone (text : String) : Bool :=
  text.toList.head?.any (characterKind · = .mark)

def endsAlone (text : String) : Bool :=
  text.toList.getLast?.any (characterKind · = .mark)

theorem tokens_append {left right : String}
    (apart : ∀ last ∈ left.toList.getLast?, ∀ first ∈ right.toList.head?,
      adjoins last first = false) :
    tokens (left ++ right) = tokens left ++ tokens right := by
  unfold tokens
  rw [String.toList_append, List.splitBy_append apart, List.map_append,
    List.filter_append]

theorem tokens_append_mark (left : String) {right : String}
    (alone : beginsAlone right = true) :
    tokens (left ++ right) = tokens left ++ tokens right := by
  refine tokens_append fun last _ first isFirst => ?_
  have mark : characterKind first = .mark := by
    simpa [beginsAlone, Option.mem_def.mp isFirst] using alone
  simp [adjoins, mark]

theorem tokens_mark_append {left : String} (alone : endsAlone left = true)
    (right : String) :
    tokens (left ++ right) = tokens left ++ tokens right := by
  refine tokens_append fun last isLast first _ => ?_
  have mark : characterKind last = .mark := by
    simpa [endsAlone, Option.mem_def.mp isLast] using alone
  simp [adjoins, mark]

theorem beginsAlone_append {left : String} (alone : beginsAlone left = true)
    (right : String) :
    beginsAlone (left ++ right) = true := by
  unfold beginsAlone at alone ⊢
  rw [String.toList_append]
  cases characters : left.toList with
  | nil => simp [characters] at alone
  | cons first rest => simpa [characters] using alone

/-- A separator with marks at both ends keeps what stands beside it apart. -/
theorem tokens_between (left : String) {separator : String}
    (begins : beginsAlone separator = true) (ends : endsAlone separator = true)
    (right : String) :
    tokens (left ++ (separator ++ right)) = tokens left ++
    (tokens separator ++ tokens right) := by
  rw [tokens_append_mark left (beginsAlone_append begins right),
    tokens_mark_append ends]

theorem characterKind_of_mem {word : String} (named : isIdentifier word = true) :
    word.toList ≠ [] ∧ ∀ c ∈ word.toList, characterKind c = .word := by
  unfold isIdentifier at named
  cases characters : word.toList with
  | nil => simp [characters] at named
  | cons first rest =>
    simp only [characters, Bool.and_eq_true, Bool.or_eq_true, decide_eq_true_eq,
      List.all_eq_true] at named
    refine ⟨by simp, fun c member => ?_⟩
    rw [characterKind, if_pos]
    rcases List.mem_cons.mp member with rfl | member
    · rcases named.1 with letter | underscore
      · simp [Char.isAlphanum, letter]
      · simp [underscore]
    · simpa using named.2 c member

theorem tokens_identifier {word : String} (named : isIdentifier word = true) :
    tokens word = [word] := by
  obtain ⟨some, kinds⟩ := characterKind_of_mem named
  have joined : word.toList.IsChain fun left right =>
      adjoins left right = true := by
    refine List.Pairwise.isChain
      (List.pairwise_of_forall_mem_list fun left leftMember right
      rightMember => ?_)
    simp [adjoins, kinds left leftMember, kinds right rightMember]
  have solid : ¬ word.toList.all Char.isWhitespace = true := by
    intro blank
    obtain ⟨first, rest, characters⟩ := List.exists_cons_of_ne_nil some
    have kind := kinds first (by simp [characters])
    have whitespace : first.isWhitespace = true :=
      List.all_eq_true.mp blank first (by simp [characters])
    simp only [Char.isWhitespace, Bool.or_eq_true,
      decide_eq_true_eq] at whitespace
    rcases whitespace with ((rfl | rfl) | rfl) | rfl <;> revert kind <;> decide
  rw [tokens, List.splitBy_of_isChain some joined]
  simp [solid]

/-! ## Formulas -/

def keywords : List String :=
  ["AND", "ESCAPE", "EXISTS", "FROM", "IS", "LIKE", "NOT", "NULL", "OR",
    "SELECT", "WHERE"]

def isKeyword (word : String) : Bool := keywords.contains (Text.asciiUpper word)

def IsName (word : String) : Prop :=
  isIdentifier word = true ∧ isKeyword word = false

instance (word : String) : Decidable (IsName word) :=
  inferInstanceAs (Decidable (_ ∧ _))

def Column.IsNamed (column : Column) : Prop :=
  IsName column.table ∧ isIdentifier column.name = true

attribute [ext] Column

def Column.tokens (column : Column) : List String :=
  [column.table, ".", column.name]

inductive Atom where
  | compare (column : Column) (comparison : Comparison) (parameter : String)
  | like (column : Column) (parameter : String)
  | notNull (column : Column)
  | correlation (inner outer : Column)

namespace Atom

def tokens : Atom → List String
  | .compare column comparison parameter =>
    column.tokens ++ [comparisonSign comparison, ":", parameter]
  | .like column parameter =>
    "LOWER" :: "(" :: column.tokens ++
      [")", "LIKE", ":", parameter, "ESCAPE", "'\\'"]
  | .notNull column => column.tokens ++ ["IS", "NOT", "NULL"]
  | .correlation inner outer => inner.tokens ++ "=" :: outer.tokens

def IsNamed : Atom → Prop
  | .compare column _ parameter => column.IsNamed ∧ isIdentifier parameter = true
  | .like column parameter => column.IsNamed ∧ isIdentifier parameter = true
  | .notNull column => column.IsNamed
  | .correlation inner outer => inner.IsNamed ∧ outer.IsNamed

end Atom

inductive Formula where
  | truth
  | atom (atom : Atom)
  | not (inner : Formula)
  | and (left right : Formula)
  | or (left right : Formula)
  /-- Some row of the table, under the alias, satisfies the inner formula. -/
  | someRow (table name : String) (inner : Formula)

inductive Level where
  | disjunction
  | conjunction
  | negation
  | primary

/-- At a level, a formula can be read off the beginning of the tokens, and some
tokens are left behind it. -/
inductive Reads : Level → List String → Formula → List String → Prop
  | truth (rest : List String) : Reads .primary
      ("1" :: "=" :: "1" :: rest) .truth rest
  | atom {atom : Atom} (named : atom.IsNamed) (rest : List String) :
    Reads .primary (atom.tokens ++ rest) (.atom atom) rest
  | parentheses {tokens rest : List String} {formula : Formula} :
    Reads .disjunction tokens formula (")" :: rest) →
    Reads .primary ("(" :: tokens) formula rest
  | someRow {table name : String} {tokens rest : List String} {formula : Formula}
    (tableNamed : IsName table) (named : IsName name) :
    Reads .disjunction tokens formula (")" :: rest) →
      Reads .primary
        ("EXISTS" :: "(" :: "SELECT" :: "1" :: "FROM" :: table :: name ::
          "WHERE" :: tokens)
        (.someRow table name formula) rest
  | primary {tokens rest : List String} {formula : Formula} :
    Reads .primary tokens formula rest → Reads .negation tokens formula rest
  | not {tokens rest : List String} {formula : Formula} :
    Reads .negation tokens formula rest →
    Reads .negation ("NOT" :: tokens) (.not formula) rest
  | negation {tokens rest : List String} {formula : Formula} :
    Reads .negation tokens formula rest → Reads .conjunction tokens formula rest
  | and {tokens more rest : List String} {left right : Formula} :
    Reads .negation tokens left ("AND" :: more) →
      Reads .conjunction more right rest →
      Reads .conjunction tokens (.and left right) rest
  | conjunction {tokens rest : List String} {formula : Formula} :
    Reads .conjunction tokens formula rest →
    Reads .disjunction tokens formula rest
  | or {tokens more rest : List String} {left right : Formula} :
    Reads .conjunction tokens left ("OR" :: more) →
      Reads .disjunction more right rest →
      Reads .disjunction tokens (.or left right) rest

def ReadsAs (text : String) (formula : Formula) : Prop :=
  Reads .disjunction (tokens text) formula []

/-! ## One reading at most -/

def Level.Stops : Level → List String → Prop
  | .disjunction, rest => rest.head? ≠ some "AND" ∧ rest.head? ≠ some "OR"
  | .conjunction, rest => rest.head? ≠ some "AND"
  | .negation, _ => True
  | .primary, _ => True

theorem comparisonSign_injective : Function.Injective comparisonSign := by
  intro left right
  cases left <;> cases right <;> decide

theorem Atom.IsNamed.isName_head {atom : Atom} (named : atom.IsNamed)
    {first : String} {rest more : List String}
    (whole : atom.tokens ++ rest = first :: more) : IsName first := by
  cases atom with
  | compare column comparison parameter =>
    exact (List.cons.inj whole).1 ▸ named.1.1
  | like column parameter =>
    have lower : IsName "LOWER" := by decide
    exact (List.cons.inj whole).1 ▸ lower
  | notNull column => exact (List.cons.inj whole).1 ▸ named.1
  | correlation inner outer => exact (List.cons.inj whole).1 ▸ named.1.1

theorem Atom.tokens_append_inj {atom other : Atom} (named : atom.IsNamed)
    (otherNamed : other.IsNamed) {rest more : List String}
    (same : atom.tokens ++ rest = other.tokens ++ more) :
    atom = other ∧ rest = more := by
  have colon : ¬ IsName ":" := by decide
  cases atom with
  | compare column comparison parameter =>
    cases other with
    | compare second sign bound =>
      simp only [tokens, Column.tokens, List.cons_append, List.nil_append,
        List.cons.injEq, true_and] at same
      obtain ⟨table, name, signs, rfl, rfl⟩ := same
      rw [comparisonSign_injective signs, Column.ext table name]
      exact ⟨rfl, rfl⟩
    | correlation inner outer =>
      simp only [tokens, Column.tokens, List.cons_append, List.nil_append,
        List.cons.injEq] at same
      exact absurd (same.2.2.2.2.1 ▸ otherNamed.2.1) colon
    | _ => simp [tokens, Column.tokens] at same
  | like column parameter =>
    cases other with
    | like second bound =>
      simp only [tokens, Column.tokens, List.cons_append, List.nil_append,
        List.cons.injEq, true_and] at same
      obtain ⟨table, name, rfl, rfl⟩ := same
      rw [Column.ext table name]
      exact ⟨rfl, rfl⟩
    | _ => simp [tokens, Column.tokens] at same
  | notNull column =>
    cases other with
    | notNull second =>
      simp only [tokens, Column.tokens, List.cons_append, List.nil_append,
        List.cons.injEq, true_and] at same
      obtain ⟨table, name, rfl⟩ := same
      rw [Column.ext table name]
      exact ⟨rfl, rfl⟩
    | _ => simp [tokens, Column.tokens] at same
  | correlation inner outer =>
    cases other with
    | compare second sign bound =>
      simp only [tokens, Column.tokens, List.cons_append, List.nil_append,
        List.cons.injEq] at same
      exact absurd (same.2.2.2.2.1 ▸ named.2.1) colon
    | correlation second third =>
      simp only [tokens, Column.tokens, List.cons_append, List.nil_append,
        List.cons.injEq, true_and] at same
      obtain ⟨innerTable, innerName, outerTable, outerName, rfl⟩ := same
      rw [Column.ext innerTable innerName, Column.ext outerTable outerName]
      exact ⟨rfl, rfl⟩
    | _ => simp [tokens, Column.tokens] at same

theorem Reads.of_primary {tokens rest : List String} {formula : Formula}
    (read : Reads .primary tokens formula rest) :
    (tokens = "1" :: "=" :: "1" :: rest ∧ formula = .truth) ∨
      (∃ atom : Atom,
        atom.IsNamed ∧ tokens = atom.tokens ++ rest ∧ formula = .atom atom) ∨
      (∃ more,
        tokens = "(" :: more ∧ Reads .disjunction more formula (")" :: rest)) ∨
      ∃ table name more inner, tokens =
          "EXISTS" :: "(" :: "SELECT" :: "1" :: "FROM" :: table :: name ::
            "WHERE" :: more ∧
        formula = .someRow table name inner ∧
        Reads .disjunction more inner (")" :: rest) := by
  cases read with
  | truth => exact .inl ⟨rfl, rfl⟩
  | atom named => exact .inr (.inl ⟨_, named, rfl, rfl⟩)
  | parentheses inner => exact .inr (.inr (.inl ⟨_, rfl, inner⟩))
  | someRow tableNamed named inner =>
    exact .inr (.inr (.inr ⟨_, _, _, _, rfl, rfl, inner⟩))

theorem Reads.of_truth {rest more : List String} {formula : Formula}
    (read : Reads .primary ("1" :: "=" :: "1" :: rest) formula more) :
    formula = .truth ∧ more = rest := by
  rcases read.of_primary with
    ⟨whole, same⟩ | ⟨atom, named, whole, -⟩ | ⟨_, whole, -⟩ |
    ⟨_, _, _, _, whole, -⟩
  · exact ⟨same, by simpa using whole.symm⟩
  · exact absurd (named.isName_head whole.symm) (by decide)
  · simp at whole
  · simp at whole

theorem Reads.of_atom {atom : Atom} (named : atom.IsNamed)
    {rest more : List String} {formula : Formula}
    (read : Reads .primary (atom.tokens ++ rest) formula more) :
    formula = .atom atom ∧ more = rest := by
  rcases read.of_primary with
    ⟨whole, -⟩ | ⟨second, secondNamed, whole, same⟩ | ⟨_, whole, -⟩ |
    ⟨_, _, _, _, whole, -⟩
  · exact absurd (named.isName_head whole) (by decide)
  · obtain ⟨rfl, rfl⟩ := Atom.tokens_append_inj named secondNamed whole
    exact ⟨same, rfl⟩
  · exact absurd (named.isName_head whole) (by decide)
  · exact absurd (named.isName_head whole) (by decide)

theorem Reads.of_parenthesis {tokens more : List String} {formula : Formula}
    (read : Reads .primary ("(" :: tokens) formula more) :
    Reads .disjunction tokens formula (")" :: more) := by
  rcases read.of_primary with
    ⟨whole, -⟩ | ⟨atom, named, whole, -⟩ | ⟨_, whole, inner⟩ |
    ⟨_, _, _, _, whole, -⟩
  · simp at whole
  · exact absurd (named.isName_head whole.symm) (by decide)
  · cases whole
    exact inner
  · simp at whole

theorem Reads.of_exists {table name : String} {tokens more : List String}
    {formula : Formula}
    (read : Reads .primary
      ("EXISTS" :: "(" :: "SELECT" :: "1" :: "FROM" :: table :: name ::
        "WHERE" :: tokens) formula more) :
    ∃ inner, formula = .someRow table name inner ∧
      Reads .disjunction tokens inner (")" :: more) := by
  rcases read.of_primary with
    ⟨whole, -⟩ | ⟨atom, named, whole, -⟩ | ⟨_, whole, -⟩ |
    ⟨_, _, _, inner, whole, same, read⟩
  · simp at whole
  · exact absurd (named.isName_head whole.symm) (by decide)
  · simp at whole
  · cases whole
    exact ⟨inner, same, read⟩

theorem Reads.ne_not_of_primary {tokens rest : List String} {formula : Formula} :
    ¬ Reads .primary ("NOT" :: tokens) formula rest := by
  intro read
  rcases read.of_primary with
    ⟨whole, -⟩ | ⟨atom, named, whole, -⟩ | ⟨more, whole, -⟩ |
    ⟨table, name, more, inner, whole, -⟩
  · simp at whole
  · exact absurd (named.isName_head whole.symm) (by decide)
  · simp at whole
  · simp at whole

theorem Level.stops_close (rest : List String) :
    Level.disjunction.Stops (")" :: rest) := by
  simp [Stops]

theorem Level.stops_or (rest : List String) :
    Level.conjunction.Stops ("OR" :: rest) := by
  simp [Stops]

theorem Reads.unique {level : Level} {tokens rest : List String}
    {formula : Formula} (read : Reads level tokens formula rest)
    {other : Formula} {more : List String}
    (otherwise : Reads level tokens other more) (stops : level.Stops rest)
    (otherStops : level.Stops more) : formula = other ∧ rest = more := by
  -- On the first reading. The first token settles which primary is read; at the
  -- levels above, the words that stop a formula settle where its last part ends.
  induction read generalizing other more with
  | truth rest =>
    obtain ⟨rfl, rfl⟩ := otherwise.of_truth
    exact ⟨rfl, rfl⟩
  | atom named rest =>
    obtain ⟨rfl, rfl⟩ := otherwise.of_atom named
    exact ⟨rfl, rfl⟩
  | parentheses inner induction =>
    obtain ⟨rfl, same⟩ := induction otherwise.of_parenthesis
      (Level.stops_close _) (Level.stops_close _)
    cases same
    exact ⟨rfl, rfl⟩
  | someRow tableNamed named inner induction =>
    obtain ⟨second, rfl, read⟩ := otherwise.of_exists
    obtain ⟨rfl, same⟩ :=
      induction read (Level.stops_close _) (Level.stops_close _)
    cases same
    exact ⟨rfl, rfl⟩
  | primary inner induction =>
    cases otherwise with
    | primary second => exact induction second trivial trivial
    | not second => exact absurd inner Reads.ne_not_of_primary
  | not inner induction =>
    cases otherwise with
    | primary second => exact absurd second Reads.ne_not_of_primary
    | not second =>
      obtain ⟨rfl, rfl⟩ := induction second trivial trivial
      exact ⟨rfl, rfl⟩
  | negation inner induction =>
    cases otherwise with
    | negation second => exact induction second trivial trivial
    | and left right =>
      obtain ⟨-, rfl⟩ := induction left trivial trivial
      exact absurd rfl stops
  | and left right inductionLeft inductionRight =>
    cases otherwise with
    | negation second =>
      obtain ⟨-, rfl⟩ := inductionLeft second trivial trivial
      exact absurd rfl otherStops
    | and second third =>
      obtain ⟨rfl, same⟩ := inductionLeft second trivial trivial
      cases same
      obtain ⟨rfl, rfl⟩ := inductionRight third stops otherStops
      exact ⟨rfl, rfl⟩
  | conjunction inner induction =>
    cases otherwise with
    | conjunction second => exact induction second stops.1 otherStops.1
    | or left right =>
      obtain ⟨-, rfl⟩ := induction left stops.1 (Level.stops_or _)
      exact absurd rfl stops.2
  | or left right inductionLeft inductionRight =>
    cases otherwise with
    | conjunction second =>
      obtain ⟨-, rfl⟩ := inductionLeft second (Level.stops_or _) otherStops.1
      exact absurd rfl otherStops.2
    | or second third =>
      obtain ⟨rfl, same⟩ :=
        inductionLeft second (Level.stops_or _) (Level.stops_or _)
      cases same
      obtain ⟨rfl, rfl⟩ := inductionRight third stops otherStops
      exact ⟨rfl, rfl⟩

end CriteriaQuery.Sql
