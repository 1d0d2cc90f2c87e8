import ClosedShape.Proofs.SchemaConformance
import Mathlib.Algebra.Order.Ring.Rat
import Mathlib.Order.WithBot
import Mathlib.Tactic.NormNum

/-!
# What a literal matches

A literal matches the values that are the same as itself: the same empty value, the same text, or a
number in the same place of the number line, whether it is an integer or a double.  Numbers are
compared exactly, so that matching is an equivalence of literals.  Only `nan` has no place on the
line and matches nothing.
-/

namespace ClosedShape

/-- The line of rational numbers with both infinities. -/
abbrev NumberLine := WithBot (WithTop ℚ)

/-- The place of a compared number, which `nan` has not. -/
def Number.place? : Number → Option NumberLine
  | .exact value => some ((value.toRat : WithTop ℚ) : NumberLine)
  | .infinite true => some ⊥
  | .infinite false => some ⊤
  | .nan => none

theorem Number.equals_iff {left right : Number} :
    left.equals right = true ↔ ∃ place, left.place? = some place ∧ right.place? = some place := by
  cases left with
  | exact left =>
      cases right with
      | exact right => simp [equals, place?, Dyadic.toRat_inj, eq_comm]
      | infinite negative => cases negative <;> simp [equals, place?]
      | nan => simp [equals, place?]
  | infinite negative =>
      cases right with
      | exact right => cases negative <;> simp [equals, place?]
      | infinite other => cases negative <;> cases other <;> simp [equals, place?]
      | nan => simp [equals, place?]
  | nan => simp [equals, place?]

/-- Integers of so few digits can be shown. -/
theorem lt_integerLimit {number digits : Nat} (small : number < 10 ^ digits)
    (few : digits ≤ digitLimit) : number < integerLimit := by
  unfold integerLimit
  generalize digitLimit = limit at few ⊢
  exact Nat.lt_of_lt_of_le small (Nat.pow_le_pow_right (Nat.succ_pos 9) few)

namespace Value

/-- The place of a number on the line.  Booleans have none, and neither has `nan`. -/
def place? : Value → Option NumberLine
  | .int number => some (((number : ℚ) : WithTop ℚ) : NumberLine)
  | .float (.finite negative mantissa exponent) =>
      let magnitude : ℚ := mantissa * 2 ^ exponent
      some (((if negative then -magnitude else magnitude : ℚ) : WithTop ℚ) : NumberLine)
  | .float (.infinite negative) => some (if negative then ⊥ else ⊤)
  | _ => none

theorem exists_number?_of_isNumber {value : Value} (isNumber : value.isNumber = true) :
    ∃ compared, value.number? = some compared ∧ value.place? = compared.place? := by
  cases value with
  | int number =>
      refine ⟨_, rfl, ?_⟩
      have rational : (Dyadic.ofInt number).toRat = number := Dyadic.toRat_intCast number
      simp [place?, Number.place?, rational]
  | float number =>
      refine ⟨_, rfl, ?_⟩
      cases number with
      | finite negative mantissa exponent =>
          cases negative <;>
            simp [place?, Number.place?, Double.toNumber, Dyadic.toRat_ofIntWithPrec_eq_mul_two_pow]
      | infinite negative => cases negative <;> rfl
      | nan => rfl
  | _ => cases isNumber

theorem equals_iff_of_isNumber {left right : Value} (isNumber : left.isNumber = true)
    (otherIsNumber : right.isNumber = true) :
    left.equals right = true ↔ ∃ place, left.place? = some place ∧ right.place? = some place := by
  obtain ⟨compared, isCompared, samePlace⟩ := exists_number?_of_isNumber isNumber
  obtain ⟨other, isOther, otherPlace⟩ := exists_number?_of_isNumber otherIsNumber
  have equal : left.equals right = compared.equals other := by
    cases left <;> cases isNumber <;> cases right <;> cases otherIsNumber <;>
      simp [equals, isCompared, isOther]
  rw [equal, Number.equals_iff, samePlace, otherPlace]

theorem isNumber_of_place? {value : Value} {place : NumberLine}
    (found : value.place? = some place) : value.isNumber = true := by
  cases value <;> first | rfl | cases found

theorem isNumber_of_kind {value : Value} (sameKind : value.kind = .number) :
    value.isNumber = true := by
  cases value <;> first | rfl | cases sameKind

/-- The values that literals are made of, as far as their text can be shown. -/
def IsLiteral : Value → Prop
  | .text _ | .float _ | .null | .absent => True
  | .int number => number.natAbs < integerLimit
  | _ => False

theorem IsLiteral.not_holdsLongInteger {literal : Value} (admitted : literal.IsLiteral) :
    ¬ literal.HoldsLongInteger := by
  cases literal with
  | int number =>
      have short : number.natAbs < integerLimit := admitted
      simpa using short
  | text | float | null | absent =>
      intro holds
      cases holds
  | _ => exact admitted.elim

/-- A literal and a value that is the same. -/
inductive SameLiteral : Value → Value → Prop
  | null : SameLiteral .null .null
  | absent : SameLiteral .absent .absent
  | text (content : Text) : SameLiteral (.text content) (.text content)
  | number {literal value : Value} {place : NumberLine} (own : literal.place? = some place)
      (same : value.place? = some place) : SameLiteral literal value

namespace SameLiteral

variable {literal value : Value}

theorem of_isLiteral (admitted : literal.IsLiteral) (noNaN : literal ≠ .float .nan) :
    SameLiteral literal literal := by
  cases literal with
  | null => exact .null
  | absent => exact .absent
  | text content => exact .text content
  | int number => exact .number rfl rfl
  | float number =>
      cases number with
      | finite | infinite => exact .number rfl rfl
      | nan => exact absurd rfl noNaN
  | _ => exact admitted.elim

theorem symm (same : SameLiteral literal value) : SameLiteral value literal := by
  cases same with
  | null => exact .null
  | absent => exact .absent
  | text content => exact .text content
  | number own same => exact .number same own

theorem trans {other : Value} (same : SameLiteral literal value)
    (next : SameLiteral value other) : SameLiteral literal other := by
  cases same with
  | null | absent | text => exact next
  | number own same =>
      cases next with
      | null | absent | text => cases same
      | number middle last =>
          obtain rfl := Option.some.inj (same.symm.trans middle)
          exact .number own last

theorem kindName_eq (same : SameLiteral literal value) : value.kindName = literal.kindName := by
  cases same with
  | null | absent | text => rfl
  | number own same =>
      have isNumber := isNumber_of_place? own
      have otherIsNumber := isNumber_of_place? same
      cases literal <;> cases isNumber <;> cases value <;> cases otherIsNumber <;> rfl

theorem equals_eq_true (same : SameLiteral literal value) : value.equals literal = true := by
  cases same with
  | null | absent | text => simp [equals]
  | number own same =>
      exact (equals_iff_of_isNumber (isNumber_of_place? same) (isNumber_of_place? own)).mpr
        ⟨_, same, own⟩

end SameLiteral

/-- Comparing first the kinds and then the values tells exactly the values that are the same. -/
theorem kindName_and_equals_iff_sameLiteral {literal value : Value}
    (admitted : literal.IsLiteral) :
    value.kindName = literal.kindName ∧ value.equals literal = true ↔
      SameLiteral literal value := by
  constructor
  · intro both
    obtain ⟨sameKind, equal⟩ := Schema.kind_and_equals_iff.mp both
    cases literal with
    | null =>
        cases value <;> cases sameKind
        exact .null
    | absent =>
        cases value <;> cases sameKind
        exact .absent
    | text content =>
        cases value <;> cases sameKind
        obtain rfl := by simpa [equals] using equal
        exact .text _
    | int | float =>
        have isNumber : value.isNumber = true := isNumber_of_kind sameKind
        obtain ⟨place, same, own⟩ := (equals_iff_of_isNumber isNumber rfl).mp equal
        exact .number own same
    | _ => exact admitted.elim
  · exact fun same => ⟨same.kindName_eq, same.equals_eq_true⟩

end Value

namespace Schema

variable {expected value : Value}

theorem literal?_of_isLiteral (admitted : expected.IsLiteral) :
    literal? expected = .ok (.literal .required expected) := by
  have kind : literalKinds.contains expected.kindName = true := by
    cases expected <;> first | exact admitted.elim | rfl
  exact if_pos kind

theorem parse_literal (expected value : Value) :
    (Schema.literal .required expected).parse value = (parseLiteral expected value).outcome := by
  have provided : ¬ Omitted .required value := fun omitted => by cases omitted.1
  rw [parse, run, guardPresence_of_not_omitted provided]

/-- A schema made of one value accepts another. -/
def LiteralAccepts (expected value : Value) : Prop :=
  ∃ schema result, literal? expected = .ok schema ∧ schema.parse value = .ok result

theorem parse_literal_eq_ok_iff (admitted : expected.IsLiteral) {result : Value} :
    (Schema.literal .required expected).parse value = .ok result ↔
      Value.SameLiteral expected value ∧ result = value := by
  have shown := (Value.literalText_tooLongIff expected).exists_ok_iff.mpr
    admitted.not_holdsLongInteger
  rw [parse_literal, outcome_parseLiteral_eq_ok_iff,
    Value.kindName_and_equals_iff_sameLiteral admitted]
  simp [shown]

theorem literalAccepts_iff (admitted : expected.IsLiteral) :
    LiteralAccepts expected value ↔ Value.SameLiteral expected value := by
  constructor
  · rintro ⟨schema, result, built, parsed⟩
    cases (literal?_of_isLiteral admitted).symm.trans built
    exact ((parse_literal_eq_ok_iff admitted).mp parsed).1
  · intro same
    exact ⟨_, value, literal?_of_isLiteral admitted,
      (parse_literal_eq_ok_iff admitted).mpr ⟨same, rfl⟩⟩

/-- Why a literal rejects a value: another kind, or another value of the same kind. -/
theorem parse_literal_eq_error {shown : String} (admitted : expected.IsLiteral)
    (isShown : expected.literalText = .ok shown) (other : ¬ Value.SameLiteral expected value) :
    (Schema.literal .required expected).parse value = .error (.invalid
      (if value.kindName = expected.kindName then
        .literalMismatch ("Must be " ++ shown ++ ".") expected value
      else .typeMismatch ("Must be " ++ shown ++ ".") expected.kindName value.kindName)) := by
  rw [parse_literal, outcome_parseLiteral_eq_error_iff]
  refine .inr ⟨shown, isShown, ?_⟩
  by_cases sameKind : value.kindName = expected.kindName
  · have different : value.equals expected = false := by
      rw [← Bool.not_eq_true]
      intro equal
      exact other ((Value.kindName_and_equals_iff_sameLiteral admitted).mp ⟨sameKind, equal⟩)
    exact .inr ⟨sameKind, different, by rw [if_pos sameKind]⟩
  · exact .inl ⟨sameKind, by rw [if_neg sameKind]; rfl⟩

/-- A literal accepts exactly the values that are the same as itself, and says of any other whether
it is of another kind.  Accepting is an equivalence of the literals that are numbers at all. -/
theorem literal_matches_exactly :
    (∀ expected : Value, expected.IsLiteral →
      ∃ schema shown, literal? expected = .ok schema ∧ expected.literalText = .ok shown ∧
        ∀ value,
          (∀ result, schema.parse value = .ok result ↔
            Value.SameLiteral expected value ∧ result = value) ∧
          (¬ Value.SameLiteral expected value → schema.parse value = .error (.invalid
            (if value.kindName = expected.kindName then
              .literalMismatch ("Must be " ++ shown ++ ".") expected value
            else .typeMismatch ("Must be " ++ shown ++ ".") expected.kindName value.kindName)))) ∧
    Equivalence fun first second :
        { literal : Value // literal.IsLiteral ∧ literal ≠ .float .nan } =>
      LiteralAccepts first.1 second.1 := by
  refine ⟨fun expected admitted => ?_, ?_, ?_, ?_⟩
  · obtain ⟨shown, isShown⟩ := (Value.literalText_tooLongIff expected).exists_ok_iff.mpr
      admitted.not_holdsLongInteger
    exact ⟨_, shown, literal?_of_isLiteral admitted, isShown, fun value =>
      ⟨fun result => parse_literal_eq_ok_iff admitted,
        parse_literal_eq_error admitted isShown⟩⟩
  · intro literal
    exact (literalAccepts_iff literal.2.1).mpr (.of_isLiteral literal.2.1 literal.2.2)
  · intro first second accepts
    rw [literalAccepts_iff first.2.1] at accepts
    exact (literalAccepts_iff second.2.1).mpr accepts.symm
  · intro first second third accepts next
    rw [literalAccepts_iff first.2.1] at accepts
    rw [literalAccepts_iff second.2.1] at next
    exact (literalAccepts_iff first.2.1).mpr (accepts.trans next)

/-- An integer that lies beside a double matches no double, and the double matches its own integer.
-/
theorem literal_matches_exactly_beside_double :
    let double : Value := .float (.finite false 4503599627370496 1)
    (∃ schema, literal? (.int 9007199254740992) = .ok schema ∧ schema.parse double = .ok double) ∧
      (∃ schema, literal? (.int 9007199254740993) = .ok schema ∧
        schema.parse double = .error (.invalid
          (.literalMismatch "Must be 9007199254740993." (.int 9007199254740993) double))) ∧
      LiteralAccepts double (.int 9007199254740992) := by
  intro double
  have few : 16 ≤ digitLimit := by decide
  have admitted : (Value.int 9007199254740992).IsLiteral :=
    lt_integerLimit (by decide : 9007199254740992 < 10 ^ 16) few
  have nextAdmitted : (Value.int 9007199254740993).IsLiteral :=
    lt_integerLimit (by decide : 9007199254740993 < 10 ^ 16) few
  have isPlace : double.place? = some (((9007199254740992 : ℚ) : WithTop ℚ) : NumberLine) := by
    norm_num [double, Value.place?]
  have same : Value.SameLiteral (.int 9007199254740992) double := by
    refine .number ?_ isPlace
    norm_num [Value.place?]
  have other : ¬ Value.SameLiteral (.int 9007199254740993) double := by
    rintro (_ | _ | _ | ⟨own, found⟩)
    rw [isPlace] at found
    cases found
    norm_num [Value.place?] at own
  obtain ⟨matching, symmetric⟩ := literal_matches_exactly
  obtain ⟨schema, _, built, _, answers⟩ := matching _ admitted
  obtain ⟨next, shown, nextBuilt, isShown, nextAnswers⟩ := matching _ nextAdmitted
  have text : shown = "9007199254740993" := by
    have limited : Int.natAbs 9007199254740993 < integerLimit := nextAdmitted
    simp only [Value.literalText, Value.source, Value.integerText, if_pos limited] at isShown
    exact (Except.ok.inj isShown).symm.trans rfl
  refine ⟨⟨schema, built, ((answers double).1 double).mpr ⟨same, rfl⟩⟩, ⟨next, nextBuilt, ?_⟩, ?_⟩
  · rw [(nextAnswers double).2 other, text]
    rfl
  · have accepts : LiteralAccepts (.int 9007199254740992) double :=
      ⟨schema, double, built, ((answers double).1 double).mpr ⟨same, rfl⟩⟩
    exact symmetric.symm (x := ⟨.int 9007199254740992, admitted, by simp⟩)
      (y := ⟨double, trivial, by simp [double]⟩) accepts

end Schema

end ClosedShape
