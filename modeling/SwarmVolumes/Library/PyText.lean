import Mathlib.Data.List.DropRight
import SwarmVolumes.Library.Json
import SwarmVolumes.Library.Unicode

/-!
# Texts in Python

`str.lower` and `int(text, base)`, of a base of ten or sixteen. ASCII text has the lower case of
its letters (`lower_ascii`), and a number is read from its own digits (`int_number`).
-/
namespace Library.PyText
open Unicode (cased caseIgnorable simpleLower decimal? spaces)

/-! ## `str.lower` -/

/-- The first character that is not case-ignorable is cased. -/
def firstCased (cs : List Char) : Bool := (cs.dropWhile caseIgnorable).head?.any cased

/-- A capital sigma ends a word, between the text before it, last character first, and the rest. -/
def finalSigma (before rest : List Char) : Bool := firstCased before && !firstCased rest

def lowerChar (before : List Char) (c : Char) (rest : List Char) : List Char :=
  if c.toNat < 128 then [c.toLower]
  else if c = 'Σ' then [if finalSigma before rest then 'ς' else 'σ']
  else if c = 'İ' then ['i', Char.ofNat 0x307]
  else [simpleLower c]

def lowerFrom (before : List Char) : List Char → List Char
  | [] => []
  | c :: rest => lowerChar before c rest ++ lowerFrom (c :: before) rest

/-- `text.lower()`. -/
def lower (text : List Char) : List Char := lowerFrom [] text

example : lower "ΟΔΥΣΣΕΥΣ".toList = "οδυσσευς".toList := by decide +kernel

theorem lowerFrom_ascii {text : List Char} (ascii : ∀ c ∈ text, c.toNat < 128) (before : List Char) :
    lowerFrom before text = text.map Char.toLower := by
  induction text generalizing before with
  | nil => rfl
  | cons c rest ih =>
    rw [lowerFrom, lowerChar, if_pos (ascii c (by simp)), ih fun d member => ascii d (by simp [member])]
    rfl

theorem lower_ascii {text : List Char} (ascii : ∀ c ∈ text, c.toNat < 128) :
    lower text = text.map Char.toLower := lowerFrom_ascii ascii []

theorem firstCased_cons (c : Char) (cs : List Char) :
    firstCased (c :: cs) = if caseIgnorable c then firstCased cs else cased c := by
  unfold firstCased
  rw [List.dropWhile_cons]
  split <;> rfl

/-- Of the text before a character, only the last one that is not case-ignorable matters. -/
theorem lowerFrom_congr {before before' : List Char} (same : firstCased before = firstCased before')
    (text : List Char) : lowerFrom before text = lowerFrom before' text := by
  induction text generalizing before before' with
  | nil => rfl
  | cons c rest ih =>
    have head : lowerChar before c rest = lowerChar before' c rest := by
      unfold lowerChar finalSigma
      rw [same]
    have tail : firstCased (c :: before) = firstCased (c :: before') := by
      simp only [firstCased_cons, same]
    rw [lowerFrom, lowerFrom, head, ih tail]

theorem lowerFrom_append {front : List Char} (ascii : ∀ c ∈ front, c.toNat < 128) (before text : List Char) :
    lowerFrom before (front ++ text) = front.map Char.toLower ++ lowerFrom (front.reverse ++ before) text := by
  induction front generalizing before with
  | nil => rfl
  | cons c rest ih =>
    rw [List.cons_append, lowerFrom, lowerChar, if_pos (ascii c (by simp)),
      ih fun d member => ascii d (by simp [member])]
    simp

/-- A text behind ASCII text that does not end with a letter. -/
theorem lower_append {front : List Char} (ascii : ∀ c ∈ front, c.toNat < 128)
    (ends : firstCased front.reverse = false) (text : List Char) :
    lower (front ++ text) = front.map Char.toLower ++ lower text := by
  have fresh : firstCased front.reverse = firstCased [] := ends
  rw [lower, lowerFrom_append ascii, List.append_nil, lowerFrom_congr fresh, lower]

theorem digit_uncased {c : Char} (digit : c.isDigit = true) : cased c = false ∧ caseIgnorable c = false := by
  have bounds := Char.isDigit_iff_toNat.mp digit
  have low : 48 ≤ c.toNat := bounds.1
  have high : c.toNat ≤ 57 := bounds.2
  have ascii : c.toNat < 128 := by omega
  rw [cased, caseIgnorable, if_pos ascii, if_pos ascii]
  constructor
  · have upper : c.isUpper = false := by
      apply decide_eq_false
      rintro ⟨first, _⟩
      have : 65 ≤ c.toNat := first
      omega
    have lowercase : c.isLower = false := by
      apply Bool.and_eq_false_imp.mpr
      intro first
      have : 97 ≤ c.toNat := of_decide_eq_true first
      omega
    change (c.isUpper || c.isLower) = false
    rw [upper, lowercase]
    rfl
  · simp only [List.mem_cons, List.not_mem_nil, or_false, decide_eq_false_iff_not]
    omega

/-- `text.lower()`, of a `String`. -/
def lowerString (s : String) : String := String.ofList (lower s.toList)

/-! ## `int` -/

/-- A character in ASCII: a decimal digit of any script as that digit, any space as a blank. -/
def toAscii (c : Char) : Char :=
  if c.toNat < 128 then c
  else if c.toNat ∈ spaces then ' '
  else
    match decimal? c with
    | some digit => Nat.digitChar digit
    | none => '?'

/-- The blanks around a number. -/
def isBlank (c : Char) : Bool := c = ' ' ∨ 9 ≤ c.toNat ∧ c.toNat ≤ 13

/-- The number that digits spell, of which there is one at least. -/
def digitsIn (base : Nat) (ds : List Char) : Option Nat :=
  if ds = [] then none
  else ds.foldlM (fun n d => (Json.hexDigit? d).bind fun digit =>
    if digit < base then some (base * n + digit) else none) 0

/-- Of a number in base ten, the most digits. -/
def maxDigits : Nat := 4300

/-- Digits, with single underscores between them. -/
def numeral (base : Nat) (text : List Char) : Option Nat :=
  let groups := text.splitOn '_'
  let ds := groups.flatten
  if [] ∈ groups ∨ base = 10 ∧ maxDigits < ds.length then none else digitsIn base ds

/-- The text after the prefix of base sixteen and one underscore. -/
def afterPrefix : List Char → Option (List Char)
  | '0' :: x :: rest =>
    if x = 'x' ∨ x = 'X' then
      some (match rest with
        | '_' :: rest => rest
        | rest => rest)
    else none
  | _ => none

def unsigned (base : Nat) (text : List Char) : Option Nat :=
  numeral base (if base = 16 then (afterPrefix text).getD text else text)

/-- `int(text, base)`, of base ten or sixteen. -/
def int (base : Nat) (text : List Char) : Option Int :=
  match ((text.map toAscii).dropWhile isBlank).rdropWhile isBlank with
  | '-' :: rest => (unsigned base rest).map fun n : Nat => -(n : Int)
  | '+' :: rest => (unsigned base rest).map Int.ofNat
  | rest => (unsigned base rest).map Int.ofNat

/-! ## Numbers read back -/

theorem digitsIn_toDigits (n : Nat) : digitsIn 10 (Nat.toDigits 10 n) = some n := by
  rw [digitsIn, if_neg Nat.toDigits_ne_nil]
  induction n using Nat.strongRecOn with
  | ind n ih =>
    rw [Nat.toDigits_eq_if (by decide)]
    split
    · rename_i small
      have found := Json.hexDigit?_digitChar (Nat.lt_trans small (by decide : 10 < 16))
      simp [found, small]
    · rename_i large
      have found := Json.hexDigit?_digitChar (Nat.lt_trans (Nat.mod_lt n (by decide : 0 < 10)) (by decide))
      have small : n % 10 < 10 := Nat.mod_lt n (by decide)
      rw [List.foldlM_append, ih (n / 10) (by omega)]
      simp [found, small, Nat.div_add_mod]

theorem numeric_ascii {c : Char} (numeric : c = '-' ∨ c.isDigit = true) :
    toAscii c = c ∧ isBlank c = false := by
  rcases numeric with rfl | digit
  · decide
  · have bounds := Char.isDigit_iff_toNat.mp digit
    have low : 48 ≤ c.toNat := bounds.1
    have high : c.toNat ≤ 57 := bounds.2
    have blank : c ≠ ' ' := Json.ne_of_digit digit rfl
    constructor
    · rw [toAscii, if_pos (by omega)]
    · simp only [isBlank, blank, false_or, decide_eq_false_iff_not]
      omega

/-- A number is written in ASCII, without blanks around it. -/
theorem number_plain (n : Int) :
    (((Json.number n).map toAscii).dropWhile isBlank).rdropWhile isBlank = Json.number n := by
  have same : (Json.number n).map toAscii = Json.number n := by
    rw [List.map_congr_left fun c member => (numeric_ascii (Json.numeric_of_mem member)).1]
    exact List.map_id' _
  have solid : ∀ c ∈ Json.number n, isBlank c = false := fun c member =>
    (numeric_ascii (Json.numeric_of_mem member)).2
  have front : (Json.number n).dropWhile isBlank = Json.number n := by
    rw [List.dropWhile_eq_self_iff]
    intro present
    simp [solid _ (List.getElem_mem present)]
  rw [same, front, List.rdropWhile_eq_self_iff]
  intro present
  simp [solid _ (List.getLast_mem present)]

theorem unsigned_toDigits {n m : Nat} (read : unsigned 10 (Nat.toDigits 10 n) = some m) : m = n := by
  have digits : ∀ c ∈ Nat.toDigits 10 n, c.isDigit = true := fun c member =>
    Nat.isDigit_of_mem_toDigits (by decide) (by decide) member
  have whole : (Nat.toDigits 10 n).splitOn '_' = [Nat.toDigits 10 n] :=
    List.splitOn_eq_singleton fun member => absurd (digits '_' member) (by decide)
  rw [unsigned, if_neg (by decide), numeral, whole] at read
  split at read
  · cases read
  · simp only [List.flatten_cons, List.flatten_nil, List.append_nil, digitsIn_toDigits] at read
    exact (Option.some.inj read).symm

/-- What is read of a number's own digits is the number. -/
theorem int_number {n m : Int} (read : int 10 (Json.number n) = some m) : m = n := by
  rw [int, number_plain] at read
  cases n with
  | ofNat n =>
    have digits : ∀ c ∈ Nat.toDigits 10 n, c.isDigit = true := fun c member =>
      Nat.isDigit_of_mem_toDigits (by decide) (by decide) member
    rw [Json.number] at read
    split at read
    · rename_i spelled
      exact absurd (digits '-' (by simp [spelled])) (by decide)
    · rename_i spelled
      exact absurd (digits '+' (by simp [spelled])) (by decide)
    · obtain ⟨m, unsigned, rfl⟩ := Option.map_eq_some_iff.mp read
      rw [unsigned_toDigits unsigned]
  | negSucc n =>
    obtain ⟨m, unsigned, rfl⟩ := Option.map_eq_some_iff.mp read
    rw [unsigned_toDigits unsigned]
    rfl

end Library.PyText
