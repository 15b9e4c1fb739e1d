import Labyrinth.Json.Token
import Labyrinth.Proofs.Grammar

/-!
# Numerals and strings are scanned as they are spelled

A scanner takes a spelled numeral or string whole and leaves what follows it. A numeral goes on for as
long as it can, so what follows it must not go on with it (`Follows`): after a value there is nothing, a
blank, a comma or a closing bracket. A string ends with its quote, whatever comes then.
-/

namespace Labyrinth.Json

variable {text rest digits : List Char}

/-! ### Rows of digits -/

/-- A row of digits does not go on here. -/
def EndsDigits (rest : List Char) : Prop := ∀ c, rest.head? = some c → c.isDigit = false

theorem EndsDigits.takeWhile_isDigit (ends : EndsDigits rest) : rest.takeWhile Char.isDigit = [] := by
  cases rest with
  | nil => rfl
  | cons c rest => exact List.takeWhile_cons_of_neg (Bool.eq_false_iff.1 (ends c rfl))

theorem EndsDigits.dropWhile_isDigit (ends : EndsDigits rest) :
    rest.dropWhile Char.isDigit = rest := by
  have split := List.takeWhile_append_dropWhile (p := Char.isDigit) (l := rest)
  rwa [ends.takeWhile_isDigit, List.nil_append] at split

theorem Digits.scan (row : Digits digits) (ends : EndsDigits rest) :
    scanDigits (digits ++ rest) = .ok (digits, rest) := by
  rw [scanDigits, List.takeWhile_append_of_pos row.each, List.dropWhile_append_of_pos row.each,
    ends.takeWhile_isDigit, ends.dropWhile_isDigit, List.append_nil]
  cases digits with
  | nil => exact absurd rfl row.nonempty
  | cons c digits => rfl

theorem Digits.exists_cons (row : Digits digits) :
    ∃ c more, digits = c :: more ∧ c.isDigit = true := by
  cases digits with
  | nil => exact absurd rfl row.nonempty
  | cons c more => exact ⟨c, more, rfl, row.each c List.mem_cons_self⟩

theorem WholeDigits.row (whole : WholeDigits digits) : Digits digits := by
  rcases whole with rfl | ⟨row, -⟩
  · exact ⟨List.cons_ne_nil '0' [], List.forall_mem_singleton.2 rfl⟩
  · exact row

/-! ### Numerals -/

/-- What can follow a value: nothing, a blank, a comma, or a closing bracket. -/
def Follows (rest : List Char) : Prop :=
  ∀ c, rest.head? = some c → c ∈ [' ', '\t', '\n', '\r', ',', ']', '\x7d']

/-- Where a row of digits does not go on, and no point comes. -/
def EndsFraction (rest : List Char) : Prop := EndsDigits rest ∧ rest.head? ≠ some '.'

theorem Follows.endsFraction (follows : Follows rest) : EndsFraction rest := by
  refine ⟨fun c head => ?_, fun head => absurd (follows '.' head) (by decide)⟩
  have close := follows c head
  simp only [List.mem_cons, List.not_mem_nil, or_false] at close
  rcases close with rfl | rfl | rfl | rfl | rfl | rfl | rfl <;> rfl

theorem SpellsSign.scan {negative : Bool} {sign : List Char} (signed : SpellsSign negative sign)
    (row : Digits digits) : scanSign (sign ++ (digits ++ rest)) = (negative, digits ++ rest) := by
  cases signed with
  | plus => rfl
  | minus => rfl
  | none =>
    -- without a sign there is a digit, which is none of the two signs
    obtain ⟨c, more, rfl, digit⟩ := row.exists_cons
    unfold scanSign
    split
    · next same => cases same; cases digit
    · next same => cases same; cases digit
    · rfl

section Parts

variable {exponent : Option Exponent} {fraction point power : List Char}

theorem SpellsExponent.scan (scale : SpellsExponent exponent power) (follows : Follows rest) :
    scanExponent (power ++ rest) = .ok (exponent, rest) := by
  cases scale with
  | none =>
    cases rest with
    | nil => rfl
    | cons c rest =>
      have no_letter : ¬(c = 'e' || c = 'E') = true := by
        rw [Bool.or_eq_true, decide_eq_true_iff, decide_eq_true_iff]
        rintro (rfl | rfl) <;> exact absurd (follows _ rfl) (by decide)
      rw [List.nil_append, scanExponent, if_neg no_letter]
  | @power letter negative sign digits letter_e signed row =>
    have letters : (letter = 'e' || letter = 'E') = true := by simpa using letter_e
    rw [List.cons_append, List.append_assoc, scanExponent, if_pos letters, signed.scan row]
    simp only [row.scan follows.endsFraction.1]
    rfl

theorem SpellsExponent.endsFraction (scale : SpellsExponent exponent power) (follows : Follows rest) :
    EndsFraction (power ++ rest) := by
  cases scale with
  | none => exact follows.endsFraction
  | @power letter negative sign digits letter_e signed row =>
    simp only [List.mem_cons, List.not_mem_nil, or_false] at letter_e
    rcases letter_e with rfl | rfl <;> simp [EndsFraction, EndsDigits]

theorem SpellsFraction.scan (after : SpellsFraction fraction point) (ends : EndsFraction rest) :
    scanFraction (point ++ rest) = .ok (fraction, rest) := by
  cases after with
  | point row => exact row.scan ends.1
  | none =>
    rw [List.nil_append]
    unfold scanFraction
    split
    · exact absurd rfl ends.2
    · rfl

theorem SpellsFraction.endsDigits (after : SpellsFraction fraction point) (ends : EndsFraction rest) :
    EndsDigits (point ++ rest) := by
  cases after with
  | point row => simp [EndsDigits]
  | none => exact ends.1

theorem scanUnsigned_of_parts (negative : Bool) (whole : WholeDigits digits)
    (after : SpellsFraction fraction point) (scale : SpellsExponent exponent power)
    (follows : Follows rest) :
    scanUnsigned negative (digits ++ (point ++ (power ++ rest))) =
      .ok (⟨negative, digits, fraction, exponent⟩, rest) := by
  have ends : EndsFraction (power ++ rest) := scale.endsFraction follows
  have lead : ¬(digits.head? = some '0' && digits ≠ ['0']) = true := by
    rw [Bool.and_eq_true, decide_eq_true_iff, decide_eq_true_iff]
    rintro ⟨zero, longer⟩
    rcases whole with alone | ⟨-, no_zero⟩
    · exact longer alone
    · exact no_zero zero
  unfold scanUnsigned
  rw [whole.row.scan (after.endsDigits ends)]
  simp only [bind, Except.bind, if_neg lead, after.scan ends, scale.scan follows]
  rfl

end Parts

/-- A spelled numeral starts with a minus sign or a digit. -/
theorem SpellsNumeral.exists_cons {n : Numeral} (numeral : SpellsNumeral n text) :
    ∃ c more, text = c :: more ∧ (c = '-' ∨ c.isDigit = true) := by
  obtain @⟨negative, digits, fraction, point, power, exponent, whole, after, scale⟩ := numeral
  cases negative with
  | true => exact ⟨'-', _, rfl, .inl rfl⟩
  | false =>
    obtain ⟨c, more, rfl, digit⟩ := whole.row.exists_cons
    exact ⟨c, _, rfl, .inr digit⟩

theorem SpellsNumeral.scan {n : Numeral} (numeral : SpellsNumeral n text) (follows : Follows rest) :
    scanNumeral (text ++ rest) = .ok (n, rest) := by
  obtain @⟨negative, digits, fraction, point, power, exponent, whole, after, scale⟩ := numeral
  have unsigned := scanUnsigned_of_parts negative whole after scale follows
  rw [List.append_assoc, List.append_assoc, List.append_assoc]
  cases negative with
  | true => exact unsigned
  | false =>
    obtain ⟨c, more, rfl, digit⟩ := whole.row.exists_cons
    unfold scanNumeral
    split
    · next same => cases same; cases digit
    · exact unsigned

/-- A character that starts a numeral starts nothing else. -/
theorem scanToken_of_numeral {c : Char} {front : List Char} {n : Numeral}
    (start : c = '-' ∨ c.isDigit = true) (scan : scanNumeral (c :: front) = .ok (n, rest)) :
    scanToken c front = (.number n, rest) := by
  unfold scanToken
  split <;> first
    | exact absurd start (by decide)
    | next => simp only [scan]; simp [start]

/-! ### Strings -/

theorem SpellsPiece.scan {piece : Piece} (spelled : SpellsPiece piece text) (rest : List Char) :
    scanPieces (text ++ rest) = (piece :: (scanPieces rest).1, (scanPieces rest).2) := by
  cases spelled with
  | plain printable no_quote no_backslash =>
    rw [List.singleton_append, scanPieces, if_neg (Nat.not_lt.2 printable)]
    all_goals simp [*]
  | escape known =>
    simp only [escapes, List.mem_cons, Prod.mk.injEq, List.not_mem_nil, or_false] at known
    rcases known with ⟨rfl, rfl⟩ | ⟨rfl, rfl⟩ | ⟨rfl, rfl⟩ | ⟨rfl, rfl⟩ | ⟨rfl, rfl⟩ | ⟨rfl, rfl⟩ |
      ⟨rfl, rfl⟩ | ⟨rfl, rfl⟩ <;> rfl
  | unit digits =>
    show scanPieces ('\\' :: 'u' :: _ :: _ :: _ :: _ :: rest) = _
    rw [scanPieces, digits]

theorem SpellsPieces.scan {pieces : List Piece} (written : SpellsPieces pieces text)
    (rest : List Char) : scanPieces (text ++ '"' :: rest) = (pieces, .ok rest) := by
  induction written with
  | nil => rfl
  | cons first later ih => rw [List.append_assoc, first.scan, ih]

theorem isPair_iff {n m : Nat} : (isLeading n && isTrailing m) = true ↔
    (0xd800 ≤ n ∧ n < 0xdc00) ∧ 0xdc00 ≤ m ∧ m < 0xe000 := by
  simp [isLeading, isTrailing]

theorem isHalf_iff {n : Nat} :
    (isLeading n || isTrailing n) = true ↔ ¬(n < 0xd800 ∨ 0xe000 ≤ n) := by
  rw [Bool.or_eq_true, isLeading, isTrailing]
  simp only [Bool.and_eq_true, decide_eq_true_iff]
  omega

theorem joinPieces_single {n : Nat} (no_half : n < 0xd800 ∨ 0xe000 ≤ n) (torn : Bool)
    (pieces : List Piece) :
    joinPieces torn (.unit n :: pieces) = (joinPieces torn pieces).map (Char.ofNat n :: ·) := by
  have neither : (isLeading n || isTrailing n) = false :=
    Bool.eq_false_iff.2 fun half => isHalf_iff.1 half no_half
  obtain ⟨leading, trailing⟩ := Bool.or_eq_false_iff.1 neither
  rcases pieces with - | ⟨c | m, pieces⟩ <;> simp [joinPieces, leading, trailing]

/-- The characters of a string are those that its pieces stand for. -/
theorem joinPieces_eq_some_iff {pieces : List Piece} {cs : List Char} :
    joinPieces false pieces = some cs ↔ Joins pieces cs := by
  constructor
  · intro joined
    fun_induction joinPieces false pieces generalizing cs with
    | case1 =>
      cases joined
      exact .nil
    | case2 c rest ih =>
      obtain ⟨more, later, rfl⟩ := Option.map_eq_some_iff.1 joined
      exact .char (ih later)
    | case3 n m rest pair ih =>
      obtain ⟨more, later, rfl⟩ := Option.map_eq_some_iff.1 joined
      exact .pair (isPair_iff.1 pair).1 (isPair_iff.1 pair).2 (ih later)
    | case4 n m rest no_pair half => cases joined
    | case5 n m rest no_pair no_half ih =>
      obtain ⟨more, later, rfl⟩ := Option.map_eq_some_iff.1 joined
      exact .single (Decidable.not_not.1 (mt isHalf_iff.2 no_half)) (ih later)
    | case6 n rest no_unit torn => simp at torn
    | case7 n rest no_unit torn half => cases joined
    | case8 n rest no_unit torn no_half ih =>
      obtain ⟨more, later, rfl⟩ := Option.map_eq_some_iff.1 joined
      exact .single (Decidable.not_not.1 (mt isHalf_iff.2 no_half)) (ih later)
  · intro joins
    induction joins with
    | nil => rfl
    | char later ih => rw [joinPieces, ih, Option.map_some]
    | single no_half later ih => rw [joinPieces_single no_half, ih, Option.map_some]
    | pair leading trailing later ih =>
      rw [joinPieces, if_pos (isPair_iff.2 ⟨leading, trailing⟩), ih, Option.map_some]

/-- A spelled string is scanned after its opening quote, whatever follows its closing one. -/
theorem SpellsString.scan {s : Option String} (string : SpellsString s text) :
    ∃ front, text = '"' :: front ∧ ∀ rest, scanString (front ++ rest) = (.text s, rest) := by
  cases string with
  | @joined pieces text cs written joins =>
    refine ⟨text ++ ['"'], rfl, fun rest => ?_⟩
    rw [List.append_assoc, List.singleton_append, scanString, written.scan]
    simp only [joinPieces_eq_some_iff.2 joins, Option.map_some]
  | @torn pieces text written alone =>
    refine ⟨text ++ ['"'], rfl, fun rest => ?_⟩
    have none_joined : joinPieces false pieces = none :=
      Option.eq_none_iff_forall_ne_some.2 fun cs joined => alone cs (joinPieces_eq_some_iff.1 joined)
    rw [List.append_assoc, List.singleton_append, scanString, written.scan]
    simp only [none_joined, Option.map_none]

end Labyrinth.Json
