/-!
# Decimal numerals

A numeral is a run of decimal digits with an optional sign in front. This module
writes an integer as its shortest numeral, finds the numeral at the head of a
text, and reads a text that is one numeral from end to end.
-/

namespace RegisterMachine

/-- A signed run of decimal digits. Leading zeros are kept as they stand. -/
structure Numeral where
  /-- Whether a minus sign stands in front. -/
  negative : Bool
  /-- The digits after the sign. -/
  digits : List Char
  deriving DecidableEq

namespace Numeral

/-- The integer that a numeral denotes. -/
def value (numeral : Numeral) : Int :=
  if numeral.negative then
    -(Nat.ofDigitChars 10 numeral.digits 0 : Int)
  else
    (Nat.ofDigitChars 10 numeral.digits 0 : Int)

/-- The characters of a numeral. -/
def chars (numeral : Numeral) : List Char :=
  if numeral.negative then '-' :: numeral.digits else numeral.digits

/-- The shortest numeral of an integer. -/
def ofInt : Int → Numeral
  | .ofNat n => ⟨false, Nat.toDigits 10 n⟩
  | .negSucc n => ⟨true, Nat.toDigits 10 (n + 1)⟩

@[simp] theorem value_ofInt (n : Int) : (ofInt n).value = n := by
  cases n with
  | ofNat n => simp [ofInt, value]
  | negSucc n => simp [ofInt, value, Int.negSucc_eq]

theorem isDigit_of_mem_digits_ofInt
    {n : Int}
    {c : Char}
    (isMember : c ∈ (ofInt n).digits) :
    c.isDigit = true := by
  cases n <;> exact Nat.isDigit_of_mem_toDigits (by decide) (by decide) isMember

/-- The numeral made of the digits at the head of a text, if there is a digit. -/
def ofLeadingDigits? (negative : Bool) (cs : List Char) : Option Numeral :=
  match cs.takeWhile Char.isDigit with
  | [] => none
  | digit :: digits => some ⟨negative, digit :: digits⟩

/-- The longest numeral at the head of a text. A minus sign may stand in front. -/
def leading? : List Char → Option Numeral
  | [] => none
  | c :: cs => if c = '-' then ofLeadingDigits? true cs else ofLeadingDigits? false (c :: cs)

/-- The numeral made of all the characters of a text, if they are digits and there is one. -/
def ofDigits? (negative : Bool) (cs : List Char) : Option Numeral :=
  if cs ≠ [] ∧ cs.all Char.isDigit then some ⟨negative, cs⟩ else none

/-- The numeral that a text is from end to end. A plus or a minus sign may stand in front. -/
def whole? : List Char → Option Numeral
  | [] => none
  | c :: cs =>
      if c = '-' then ofDigits? true cs
      else if c = '+' then ofDigits? false cs
      else ofDigits? false (c :: cs)

theorem chars_ne_nil_of_ofLeadingDigits?
    {negative : Bool}
    {cs : List Char}
    {numeral : Numeral}
    (found : ofLeadingDigits? negative cs = some numeral) :
    numeral.chars ≠ [] := by
  unfold ofLeadingDigits? at found
  split at found
  · cases found
  · cases found
    cases negative <;> simp [chars]

/-- A numeral found at the head of a text has at least one character. -/
theorem chars_ne_nil_of_leading?
    {cs : List Char}
    {numeral : Numeral}
    (found : leading? cs = some numeral) :
    numeral.chars ≠ [] := by
  cases cs with
  | nil => cases found
  | cons c cs =>
      simp only [leading?] at found
      split at found <;> exact chars_ne_nil_of_ofLeadingDigits? found

end Numeral

namespace Decimal

/-- A natural number in decimal. -/
def ofNat (n : Nat) : String :=
  String.ofList (Nat.toDigits 10 n)

/-- An integer in decimal, with a minus sign when it is negative. -/
def ofInt (n : Int) : String :=
  String.ofList (Numeral.ofInt n).chars

end Decimal
end RegisterMachine
