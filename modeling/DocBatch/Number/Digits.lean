/-!
# Integers written in decimal

The text of an integer is an optional sign and one or more ASCII digits, nothing else: no
blank, no separator. A `-` is a sign only for a type with negative numbers; a sign alone
is no number. The digits are read from the left, and the first fault met decides the
answer: a character that is no digit, or a value that leaves the type's range on the side
its sign points to.

Main statements: `readInteger_empty` and `readInteger_sign` (a sign alone is no number).
-/

namespace DocBatch

/-- Why a text is not an integer of a type. -/
inductive IntegerFault where
  /-- The text is empty. -/
  | empty
  /-- A character is not a digit, or the sign stands alone. -/
  | invalidDigit
  /-- The value is above the type's largest value. -/
  | tooLarge
  /-- The value is below the type's smallest value. -/
  | tooSmall
  deriving Repr, DecidableEq, Inhabited

/-- The text of an integer fault. -/
def IntegerFault.message : IntegerFault → String
  | .empty => "cannot parse integer from empty string"
  | .invalidDigit => "invalid digit found in string"
  | .tooLarge => "number too large to fit in target type"
  | .tooSmall => "number too small to fit in target type"

/-- The value of an ASCII digit. -/
def digitValue? (c : Char) : Option Nat :=
  if c.isDigit then some (c.toNat - '0'.toNat) else none

/-- Reads digits onto `acc`, moving away from zero in the direction `positive` says and
staying within `[lo, hi]`. -/
def accumulate (positive : Bool) (lo hi : Int) : Int → List Char → Except IntegerFault Int
  | acc, [] => .ok acc
  | acc, c :: rest =>
    match digitValue? c with
    | none => .error .invalidDigit
    | some d =>
      let next := if positive then acc * 10 + d else acc * 10 - d
      if positive && hi < next then .error .tooLarge
      else if !positive && next < lo then .error .tooSmall
      else accumulate positive lo hi next rest

/-- Reads an integer of the type whose values are `[lo, hi]`; `lo < 0` allows a `-` sign. -/
def readInteger (lo hi : Int) (s : String) : Except IntegerFault Int :=
  match s.toList with
  | [] => .error .empty
  | ['+'] | ['-'] => .error .invalidDigit
  | '+' :: rest => accumulate true lo hi 0 rest
  | '-' :: rest => if lo < 0 then accumulate false lo hi 0 rest else .error .invalidDigit
  | cs => accumulate true lo hi 0 cs

/-- Reads a natural number no larger than `hi`. -/
def readNatural (hi : Nat) (s : String) : Except IntegerFault Nat :=
  (readInteger 0 hi s).map Int.toNat

theorem readInteger_empty (lo hi : Int) : readInteger lo hi "" = .error .empty := rfl

theorem readInteger_sign (lo hi : Int) : readInteger lo hi "+" = .error .invalidDigit := rfl

end DocBatch
