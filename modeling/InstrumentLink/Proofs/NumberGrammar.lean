import InstrumentLink.Client.Number
import Mathlib.Data.List.TakeWhile
import Mathlib.Data.Nat.Digits.Defs
import Mathlib.Tactic.IntervalCases

/-!
The numbers on a command line, by a grammar.

A number is digits of base ten, or `0x` or `0X` and digits of base sixteen; underscores may stand
anywhere among the digits, and white space at the ends of the text does not count. Every number
below the limit is read as what it denotes, and every other text is refused by its own wording, save
one kind: a plus sign may stand in front of the digits, behind the prefix and behind any
underscores. No number is written with a sign, so the grammar says what is read exactly where there
is none.
-/

set_option autoImplicit false

namespace InstrumentLink.Text.Blank

/-- The text between the blanks at both ends. -/
structure TrimsTo (text trimmed : List Char) : Prop where
  around : ∃ front back, text = front ++ trimmed ++ back ∧
    (∀ character ∈ front, isBlank character) ∧ (∀ character ∈ back, isBlank character)
  head : ∀ character ∈ trimmed.head?, isBlank character = false
  last : ∀ character ∈ trimmed.getLast?, isBlank character = false

theorem dropWhile_of_head {text : List Char}
    (head : ∀ character ∈ text.head?, isBlank character = false) :
    text.dropWhile isBlank = text := by
  cases text with
  | nil => rfl
  | cons first rest => exact List.dropWhile_cons_of_neg (by simp [head first rfl])

theorem head_dropWhile (text : List Char) :
    ∀ character ∈ (text.dropWhile isBlank).head?, isBlank character = false := by
  intro character first
  have stopped := List.head?_dropWhile_not isBlank text
  rw [first] at stopped
  exact stopped

theorem trims_to_trim (text : List Char) : TrimsTo text (trim text) := by
  have stopped := head_dropWhile text
  unfold trim
  generalize behind : text.dropWhile isBlank = middle at stopped
  have before : text = text.takeWhile isBlank ++ middle := by
    rw [← behind, List.takeWhile_append_dropWhile]
  have after : middle = (middle.reverse.dropWhile isBlank).reverse ++
      (middle.reverse.takeWhile isBlank).reverse := by
    rw [← List.reverse_append, List.takeWhile_append_dropWhile, List.reverse_reverse]
  constructor
  · refine ⟨text.takeWhile isBlank, (middle.reverse.takeWhile isBlank).reverse, ?_, ?_, ?_⟩
    · rw [List.append_assoc, ← after, ← before]
    · exact fun character member => List.mem_takeWhile_imp member
    · exact fun character member => List.mem_takeWhile_imp (List.mem_reverse.mp member)
  · intro character first
    apply stopped character
    generalize (middle.reverse.dropWhile isBlank).reverse = trimmed at after first
    cases trimmed with
    | nil => contradiction
    | cons head rest => rw [after]; exact first
  · intro character final
    rw [List.getLast?_reverse] at final
    exact head_dropWhile _ character final

theorem TrimsTo.eq_trim {text trimmed : List Char} (trims : TrimsTo text trimmed) :
    trimmed = trim text := by
  obtain ⟨front, back, whole, before, after⟩ := trims.around
  have last : ∀ character ∈ trimmed.reverse.head?, isBlank character = false := by
    rw [List.head?_reverse]
    exact trims.last
  unfold trim
  rw [whole, List.append_assoc, List.dropWhile_append_of_pos before]
  cases trimmed with
  | nil => simp [List.dropWhile_eq_nil_iff.mpr after]
  | cons first rest =>
      have kept : (first :: rest ++ back).dropWhile isBlank = first :: rest ++ back :=
        dropWhile_of_head trims.head
      rw [kept, List.reverse_append,
        List.dropWhile_append_of_pos fun character member => after character
          (List.mem_reverse.mp member), dropWhile_of_head last, List.reverse_reverse]

end InstrumentLink.Text.Blank

namespace InstrumentLink.Client.Number

def IsDigit (base : Nat) (character : Char) (value : Nat) : Prop :=
  value < base ∧ ("0123456789abcdef".toList[value]? = some character ∨
    "0123456789ABCDEF".toList[value]? = some character)

instance (base : Nat) (character : Char) (value : Nat) :
    Decidable (IsDigit base character value) :=
  inferInstanceAs (Decidable (_ ∧ _))

/-- The values of the digits in a text, underscores left out. -/
inductive Digits (base : Nat) : List Char → List Nat → Prop where
  | done : Digits base [] []
  | separator {text : List Char} {values : List Nat} (rest : Digits base text values) :
      Digits base ('_' :: text) values
  | digit {character : Char} {value : Nat} {text : List Char} {values : List Nat}
      (first : IsDigit base character value) (rest : Digits base text values) :
      Digits base (character :: text) (value :: values)

def Denotes (base : Nat) (text : List Char) (value : Nat) : Prop :=
  ∃ values, values ≠ [] ∧ Digits base text values ∧ Nat.ofDigits base values.reverse = value

/-- Digits behind a plus sign, with nothing but underscores in front of the sign. -/
inductive Signed (base : Nat) : List Char → Nat → Prop where
  | separator {text : List Char} {value : Nat} (rest : Signed base text value) :
      Signed base ('_' :: text) value
  | sign {text : List Char} {value : Nat} (rest : Denotes base text value) :
      Signed base ('+' :: text) value

inductive Prefixed (Spells : Nat → List Char → Nat → Prop) : List Char → Nat → Prop where
  | decimal {text : List Char} {value : Nat} (digits : Spells 10 text value) :
      Prefixed Spells text value
  | lower {text : List Char} {value : Nat} (digits : Spells 16 text value) :
      Prefixed Spells ('0' :: 'x' :: text) value
  | upper {text : List Char} {value : Nat} (digits : Spells 16 text value) :
      Prefixed Spells ('0' :: 'X' :: text) value

def Numeral : List Char → Nat → Prop := Prefixed Denotes

def SignedNumeral : List Char → Nat → Prop := Prefixed Signed

def Answers (text : String) (answer : Except String UInt32) : Prop :=
  ∃ trimmed, Text.Blank.TrimsTo text.toList trimmed ∧
    ((∃ word : UInt32, Numeral trimmed word.toNat ∧ answer = .ok word) ∨
      ((∀ word : UInt32, ¬ Numeral trimmed word.toNat) ∧
        answer = .error (String.ofList trimmed)))

theorem hexadecimal_digit_iff (character : Char) (value : Nat) :
    Text.Hexadecimal.digitValue character = some value ↔ IsDigit 16 character value := by
  constructor
  · intro read
    -- A character is known by its code point, and each range of them is gone through.
    have same := Char.ofNat_toNat character
    simp only [Text.Hexadecimal.digitValue, Char.le_def, UInt32.le_iff_toNat_le] at read
    change (if 48 ≤ character.toNat ∧ character.toNat ≤ 57 then some (character.toNat - 48)
      else if 97 ≤ character.toNat ∧ character.toNat ≤ 102 then some (character.toNat - 97 + 10)
      else if 65 ≤ character.toNat ∧ character.toNat ≤ 70 then some (character.toNat - 65 + 10)
      else none) = some value at read
    generalize character.toNat = code at same read
    subst same
    split at read
    · next range =>
        obtain ⟨low, high⟩ := range
        cases read
        interval_cases code <;> decide
    · split at read
      · next range =>
          obtain ⟨low, high⟩ := range
          cases read
          interval_cases code <;> decide
      · split at read
        · next range =>
            obtain ⟨low, high⟩ := range
            cases read
            interval_cases code <;> decide
        · contradiction
  · intro digit
    obtain ⟨small, place⟩ := digit
    interval_cases value <;> rcases place with place | place <;> cases place <;> rfl

theorem digit_value_iff {base : Nat} (small : base ≤ 16) (character : Char) (value : Nat) :
    digitValue base character = some value ↔ IsDigit base character value := by
  rw [digitValue, Option.filter_eq_some_iff, hexadecimal_digit_iff, decide_eq_true_eq]
  constructor
  · intro digit
    exact ⟨digit.2, digit.1.2⟩
  · intro digit
    exact ⟨⟨Nat.lt_of_lt_of_le digit.1 small, digit.2⟩, digit.1⟩

theorem not_digit_separator (base value : Nat) : ¬ IsDigit base '_' value := by
  intro digit
  rcases digit.2 with place | place <;>
    exact absurd (List.mem_of_getElem? place) (by decide)

theorem not_digit_plus (base value : Nat) : ¬ IsDigit base '+' value := by
  intro digit
  rcases digit.2 with place | place <;>
    exact absurd (List.mem_of_getElem? place) (by decide)

theorem without_separators_separator (text : List Char) :
    withoutSeparators ('_' :: text) = withoutSeparators text :=
  List.filter_cons_of_neg (by decide)

theorem without_separators_cons {character : Char} (other : character ≠ '_') (text : List Char) :
    withoutSeparators (character :: text) = character :: withoutSeparators text :=
  List.filter_cons_of_pos (by simpa using other)

theorem foldlM_digits (base start : Nat) (text : List Char) :
    text.foldlM (fun total digit => do return base * total + (← digitValue base digit)) start =
      (text.mapM (digitValue base)).map
        (List.foldl (fun total digit => base * total + digit) start) := by
  induction text generalizing start with
  | nil => rfl
  | cons character text induction =>
      rw [List.foldlM_cons, List.mapM_cons]
      cases digitValue base character with
      | none => rfl
      | some value =>
          change text.foldlM _ (base * start + value) = _
          rw [induction]
          cases text.mapM (digitValue base) <;> rfl

theorem of_no_values {base : Nat} {text : List Char}
    (digits : text.mapM (digitValue base) = some []) : text = [] := by
  cases text with
  | nil => rfl
  | cons character text =>
      rw [List.mapM_cons] at digits
      obtain ⟨value, -, digits⟩ := Option.bind_eq_some_iff.mp digits
      obtain ⟨values, -, digits⟩ := Option.bind_eq_some_iff.mp digits
      cases digits

section Denotation

variable {base : Nat} (small : base ≤ 16)

include small

theorem digits_iff (text : List Char) (values : List Nat) :
    (withoutSeparators text).mapM (digitValue base) = some values ↔ Digits base text values := by
  constructor
  · intro read
    induction text generalizing values with
    | nil =>
        cases read
        exact .done
    | cons character text induction =>
        by_cases separator : character = '_'
        · rw [separator, without_separators_separator] at read
          rw [separator]
          exact .separator (induction values read)
        · rw [without_separators_cons separator, List.mapM_cons] at read
          obtain ⟨value, first, read⟩ := Option.bind_eq_some_iff.mp read
          obtain ⟨more, rest, read⟩ := Option.bind_eq_some_iff.mp read
          cases read
          exact .digit ((digit_value_iff small character value).mp first) (induction more rest)
  · intro spelled
    induction spelled with
    | done => rfl
    | separator rest induction => rw [without_separators_separator, induction]
    | @digit character value text values first rest induction =>
        have other : character ≠ '_' := by
          intro separator
          exact not_digit_separator base value (separator ▸ first)
        rw [without_separators_cons other, List.mapM_cons, induction,
          (digit_value_iff small character value).mpr first]
        rfl

theorem denotes_iff (text : List Char) (value : Nat) :
    ofDigits base (withoutSeparators text) = some value ↔ Denotes base text value := by
  have positions : ∀ values : List Nat, Nat.ofDigits base values.reverse =
      values.foldl (fun total digit => base * total + digit) 0 := by
    intro values
    rw [Nat.ofDigits_eq_foldr, List.foldr_reverse]
    simp only [Nat.cast_id, Nat.add_comm]
  unfold ofDigits Denotes
  rw [foldlM_digits]
  constructor
  · intro read
    split at read
    · contradiction
    · next some =>
        obtain ⟨values, digits, total⟩ := Option.map_eq_some_iff.mp read
        refine ⟨values, ?_, (digits_iff small text values).mp digits, ?_⟩
        · intro none
          rw [none] at digits
          exact some (of_no_values digits)
        · rw [positions, total]
  · intro denoted
    obtain ⟨values, some, spelled, total⟩ := denoted
    have digits := (digits_iff small text values).mpr spelled
    have characters : withoutSeparators text ≠ [] := by
      intro none
      rw [none] at digits
      exact some (Option.some.inj digits).symm
    rw [if_neg characters, digits, Option.map_some, ← positions, total]

theorem signed_iff (text : List Char) (value : Nat) :
    Signed base text value ↔ ∃ digits, withoutSeparators text = '+' :: digits ∧
      ofDigits base digits = some value := by
  constructor
  · intro signed
    induction signed with
    | separator rest induction => rwa [without_separators_separator]
    | sign rest =>
        exact ⟨_, without_separators_cons (by decide) _, (denotes_iff small _ _).mpr rest⟩
  · intro read
    obtain ⟨digits, plus, read⟩ := read
    induction text with
    | nil => contradiction
    | cons character text induction =>
        by_cases separator : character = '_'
        · rw [separator, without_separators_separator] at plus
          rw [separator]
          exact .separator (induction plus)
        · rw [without_separators_cons separator] at plus
          obtain ⟨first, rest⟩ := List.cons_eq_cons.mp plus
          rw [first]
          rw [← rest] at read
          exact .sign ((denotes_iff small text value).mp read)

theorem of_digits_plus (digits : List Char) : ofDigits base ('+' :: digits) = none := by
  have refused : digitValue base '+' = none := by
    rw [Option.eq_none_iff_forall_ne_some]
    intro value read
    exact not_digit_plus base value ((digit_value_iff small _ _).mp read)
  rw [ofDigits, if_neg (List.cons_ne_nil _ _), List.foldlM_cons, refused]
  rfl

theorem bounded_iff (limit : Nat) (text : List Char) (value : Nat) :
    bounded base limit (withoutSeparators text) = some value ↔
      value < limit ∧ (Denotes base text value ∨ Signed base text value) := by
  rw [← denotes_iff small, signed_iff small]
  unfold bounded
  rw [Option.filter_eq_some_iff, decide_eq_true_eq, and_comm]
  apply and_congr_right
  intro below
  split
  · next digits plus =>
      simp [plus, of_digits_plus small]
  · next plain =>
      have unsigned : ¬ ∃ digits, withoutSeparators text = '+' :: digits ∧
          ofDigits base digits = some value := by
        intro signed
        obtain ⟨digits, plus, read⟩ := signed
        exact plain digits plus
      rw [or_iff_left unsigned]

end Denotation

theorem not_denotes_marked {mark : Char} (letter : mark = 'x' ∨ mark = 'X') (text : List Char)
    (value : Nat) : ¬ Denotes 10 ('0' :: mark :: text) value := by
  intro denoted
  obtain ⟨values, -, digits, -⟩ := denoted
  cases digits with
  | digit first rest =>
      rcases letter with rfl | rfl <;> cases rest with
      | digit second rest =>
          rcases second.2 with place | place <;>
            exact absurd (List.mem_of_getElem? place) (by decide)

theorem not_signed_digit (rest : List Char) (value : Nat) : ¬ Signed 10 ('0' :: rest) value := by
  intro signed
  cases signed

section Prefix

variable {Spells : Nat → List Char → Nat → Prop} {text : List Char} {value : Nat}

theorem prefixed_lower_iff (other : ¬ Spells 10 ('0' :: 'x' :: text) value) :
    Prefixed Spells ('0' :: 'x' :: text) value ↔ Spells 16 text value := by
  constructor
  · intro number
    cases number with
    | decimal digits => exact absurd digits other
    | lower digits => exact digits
  · exact .lower

theorem prefixed_upper_iff (other : ¬ Spells 10 ('0' :: 'X' :: text) value) :
    Prefixed Spells ('0' :: 'X' :: text) value ↔ Spells 16 text value := by
  constructor
  · intro number
    cases number with
    | decimal digits => exact absurd digits other
    | upper digits => exact digits
  · exact .upper

theorem prefixed_decimal_iff (lower : ∀ digits, text ≠ '0' :: 'x' :: digits)
    (upper : ∀ digits, text ≠ '0' :: 'X' :: digits) :
    Prefixed Spells text value ↔ Spells 10 text value := by
  constructor
  · intro number
    cases number with
    | decimal digits => exact digits
    | lower digits => exact absurd rfl (lower _)
    | upper digits => exact absurd rfl (upper _)
  · exact .decimal

end Prefix

theorem bounded_word_iff {base : Nat} (small : base ≤ 16) (text : List Char) (word : UInt32) :
    (bounded base 4294967296 (withoutSeparators text)).map UInt32.ofNat = some word ↔
      Denotes base text word.toNat ∨ Signed base text word.toNat := by
  rw [Option.map_eq_some_iff]
  constructor
  · intro read
    obtain ⟨value, number, same⟩ := read
    obtain ⟨below, spelled⟩ := (bounded_iff small 4294967296 text value).mp number
    rw [← same, UInt32.toNat_ofNat', Nat.mod_eq_of_lt below]
    exact spelled
  · intro spelled
    exact ⟨word.toNat, (bounded_iff small _ text _).mpr ⟨word.toNat_lt, spelled⟩,
      UInt32.ofNat_toNat⟩

theorem read_trimmed_iff (text : List Char) (word : UInt32) :
    readTrimmed text = some word ↔
      Numeral text word.toNat ∨ SignedNumeral text word.toNat := by
  unfold readTrimmed Numeral SignedNumeral
  dsimp only
  split
  · next digits =>
      rw [bounded_word_iff (by decide), prefixed_lower_iff (not_denotes_marked (.inl rfl) _ _),
        prefixed_lower_iff (not_signed_digit _ _)]
  · next digits =>
      rw [bounded_word_iff (by decide), prefixed_upper_iff (not_denotes_marked (.inr rfl) _ _),
        prefixed_upper_iff (not_signed_digit _ _)]
  · next lower upper =>
      rw [bounded_word_iff (by decide), prefixed_decimal_iff lower upper,
        prefixed_decimal_iff lower upper]

theorem plus_mem_of_signed {text : List Char} {value : Nat} (signed : SignedNumeral text value) :
    '+' ∈ text := by
  have inside : ∀ {base : Nat} {rest : List Char} {number : Nat},
      Signed base rest number → '+' ∈ rest := by
    intro base rest number behind
    induction behind with
    | separator rest induction => exact List.mem_cons_of_mem _ induction
    | sign rest => exact List.mem_cons_self
  cases signed with
  | decimal digits => exact inside digits
  | lower digits => exact List.mem_cons_of_mem _ (List.mem_cons_of_mem _ (inside digits))
  | upper digits => exact List.mem_cons_of_mem _ (List.mem_cons_of_mem _ (inside digits))

theorem plus_not_mem_of_digits {base : Nat} {text : List Char} {values : List Nat}
    (spelled : Digits base text values) : '+' ∉ text := by
  induction spelled with
  | done => exact List.not_mem_nil
  | separator rest induction => simpa using induction
  | @digit character value text values first rest induction =>
      have other : '+' ≠ character := by
        intro plus
        exact not_digit_plus base value (plus ▸ first)
      simpa [other] using induction

theorem plus_not_mem_of_numeral {text : List Char} {value : Nat} (numeral : Numeral text value) :
    '+' ∉ text := by
  cases numeral with
  | decimal digits =>
      obtain ⟨values, -, spelled, -⟩ := digits
      exact plus_not_mem_of_digits spelled
  | lower digits =>
      obtain ⟨values, -, spelled, -⟩ := digits
      simpa using plus_not_mem_of_digits spelled
  | upper digits =>
      obtain ⟨values, -, spelled, -⟩ := digits
      simpa using plus_not_mem_of_digits spelled

theorem read_word_iff (text : String) (word : UInt32) :
    readWord text = .ok word ↔ readTrimmed (Text.Blank.trim text.toList) = some word := by
  unfold readWord
  dsimp only
  split
  · next read => rw [read, Except.ok.injEq, Option.some.injEq]
  · next refused => simp [refused]

theorem read_word_error (text : String)
    (refused : ∀ word, readWord text ≠ .ok word) :
    readWord text = .error (String.ofList (Text.Blank.trim text.toList)) := by
  unfold readWord at refused ⊢
  dsimp only at refused ⊢
  split
  · next word read =>
      simp only [read] at refused
      exact absurd rfl (refused word)
  · rfl

/-- A text is read by the grammar, with signed numbers let in. -/
theorem grammar_is_read_unless_signed (text : String) :
    ∃ trimmed, Text.Blank.TrimsTo text.toList trimmed ∧
      (∀ word : UInt32, readWord text = .ok word ↔
        Numeral trimmed word.toNat ∨ SignedNumeral trimmed word.toNat) ∧
      ((∀ word, readWord text ≠ .ok word) →
        readWord text = .error (String.ofList trimmed)) ∧
      (Answers text (readWord text) ↔
        ∀ word : UInt32, ¬ SignedNumeral trimmed word.toNat) := by
  have trims := Text.Blank.trims_to_trim text.toList
  have accepted : ∀ word : UInt32, readWord text = .ok word ↔
      Numeral (Text.Blank.trim text.toList) word.toNat ∨
        SignedNumeral (Text.Blank.trim text.toList) word.toNat := by
    intro word
    rw [read_word_iff, read_trimmed_iff]
  refine ⟨Text.Blank.trim text.toList, trims, accepted, read_word_error text, ?_⟩
  constructor
  · intro answered word signed
    obtain ⟨trimmed, trimmedAlike, said⟩ := answered
    have same := trimmedAlike.eq_trim
    have read := (accepted word).mpr (.inr signed)
    rw [read, same] at said
    rcases said with ⟨number, numeral, -⟩ | ⟨-, refused⟩
    · exact plus_not_mem_of_numeral numeral (plus_mem_of_signed signed)
    · contradiction
  · intro unsigned
    refine ⟨Text.Blank.trim text.toList, trims, ?_⟩
    by_cases number : ∃ word : UInt32, Numeral (Text.Blank.trim text.toList) word.toNat
    · obtain ⟨word, numeral⟩ := number
      exact .inl ⟨word, numeral, (accepted word).mpr (.inl numeral)⟩
    · have none : ∀ word : UInt32, ¬ Numeral (Text.Blank.trim text.toList) word.toNat :=
        fun word numeral => number ⟨word, numeral⟩
      have refused : ∀ word, readWord text ≠ .ok word := by
        intro word read
        exact ((accepted word).mp read).elim (none word) (unsigned word)
      exact .inr ⟨none, read_word_error text refused⟩

example : readWord " 0xE000_1000 " = .ok 0xe0001000 := by decide

example : readWord "+0x10 " = .error "+0x10" := by decide

/-- The sign behind the prefix is read over. -/
theorem sign_behind_prefix_is_read : ¬ Answers "0x+10" (readWord "0x+10") := by
  have trims : Text.Blank.trim "0x+10".toList = ['0', 'x', '+', '1', '0'] := by decide
  intro answered
  obtain ⟨trimmed, ends, said⟩ := answered
  have same := ends.eq_trim
  rw [trims] at same
  subst same
  have read : readWord "0x+10" = .ok 16 := by decide
  rw [read] at said
  rcases said with ⟨word, numeral, -⟩ | ⟨-, refused⟩
  · exact plus_not_mem_of_numeral numeral (by decide)
  · contradiction

end InstrumentLink.Client.Number
