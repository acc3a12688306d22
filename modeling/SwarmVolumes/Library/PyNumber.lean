import Mathlib.Algebra.Order.Ring.Nat

/-!
# Numbers in Python's texts

An integer over a power of two as a float, none so large that it overflows, and the formats
`.2f` and `,.0f` of one. Both the division and the formats round to the nearest value, and to
the even one of two.
-/
namespace Library.PyNumber

/-- The nearest integer to `num / den`. -/
def roundEven (num den : Nat) : Nat :=
  let floor := num / den
  let rest := 2 * (num % den)
  if rest < den ∨ rest = den ∧ floor % 2 = 0 then floor else floor + 1

example : [1, 2, 3, 5, 6, 7].map (roundEven · 4) = [0, 0, 1, 1, 2, 2] := by decide

/-- The nearest number of 53 significant bits. -/
def significant (n : Nat) : Nat :=
  let scale := 2 ^ (n.log2 - 52)
  roundEven n scale * scale

example : [9007199254740992, 9007199254740993, 9007199254740995].map significant =
    [9007199254740992, 9007199254740992, 9007199254740996] := by decide

/-- The digits of a number, `places` of them at least. -/
def digits (places n : Nat) : List Char := (Nat.toDigits 10 n).leftpad places '0'

/-- Commas between thousands, in a text of digits from the last to the first. -/
def thousands : List Char → List Char
  | a :: b :: c :: d :: rest => a :: b :: c :: ',' :: thousands (d :: rest)
  | short => short

def sign (n : Int) : List Char := if n < 0 then ['-'] else []

/-- `n / 2 ** k`, with two decimals. -/
def fixed (n : Int) (k : Nat) : String :=
  let hundredths := roundEven (significant n.natAbs * 100) (2 ^ k)
  String.ofList (sign n ++ digits 1 (hundredths / 100) ++ '.' :: digits 2 (hundredths % 100))

/-- `n / 2 ** k`, with no decimals and thousands apart. -/
def grouped (n : Int) (k : Nat) : String :=
  let whole := roundEven (significant n.natAbs) (2 ^ k)
  String.ofList (sign n ++ (thousands (digits 1 whole).reverse).reverse)

example : [fixed 1288490189 30, fixed 1073741824 40, fixed 128 10, fixed 384 10, grouped 5057281 12,
    grouped (-1) 12] = ["1.20", "0.00", "0.12", "0.38", "1,235", "-0"] := by decide

end Library.PyNumber
