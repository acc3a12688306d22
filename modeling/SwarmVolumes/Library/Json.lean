import SwarmVolumes.Library.Hex
import Mathlib.Data.List.TakeWhile

/-!
# The strings and numbers of JSON

How `json.dumps` writes a string and an integer, and how `json.loads` reads them. The
text is ASCII: a character outside it is escaped, in two halves when it does not fit
in 16 bits. `loads` has no unpaired halves.
-/
namespace Library.Json
open Hex

/-! ## Writing -/

def unit (n : Nat) : List Char := '\\' :: 'u' :: digits 4 n

def escape (c : Char) : List Char :=
  if c = '"' then ['\\', '"']
  else if c = '\\' then ['\\', '\\']
  else if c = '\n' then ['\\', 'n']
  else if c = '\r' then ['\\', 'r']
  else if c = '\t' then ['\\', 't']
  else if c.toNat = 8 then ['\\', 'b']
  else if c.toNat = 12 then ['\\', 'f']
  else if 32 ≤ c.toNat ∧ c.toNat ≤ 126 then [c]
  else if c.toNat < 65536 then unit c.toNat
  else unit (0xd800 + (c.toNat - 65536) / 1024) ++ unit (0xdc00 + (c.toNat - 65536) % 1024)

def quote (s : List Char) : List Char := '"' :: (s.flatMap escape ++ ['"'])

def number : Int → List Char
  | .ofNat n => Nat.toDigits 10 n
  | .negSucc n => '-' :: Nat.toDigits 10 (n + 1)

/-! ## Reading -/

def isSpace (c : Char) : Bool := c = ' ' ∨ c = '\t' ∨ c = '\n' ∨ c = '\r'

def skip (cs : List Char) : List Char := cs.dropWhile isSpace

def hexDigit? (c : Char) : Option Nat :=
  (List.range 16).find? fun n => n.digitChar = c.toLower

/-- The four digits of a unit. -/
def unit? : List Char → Option (Nat × List Char)
  | a :: b :: c :: d :: rest => do
    let a ← hexDigit? a
    let b ← hexDigit? b
    let c ← hexDigit? c
    let d ← hexDigit? d
    some (((a * 16 + b) * 16 + c) * 16 + d, rest)
  | _ => none

/-- The character of a unit, which may be the first half of two. -/
def paired? (n : Nat) : List Char → Option (Char × List Char)
  | '\\' :: 'u' :: rest => do
    let (m, rest) ← unit? rest
    if n < 0xdc00 ∧ 0xdc00 ≤ m ∧ m ≤ 0xdfff then
      some (Char.ofNat (65536 + (n - 0xd800) * 1024 + (m - 0xdc00)), rest)
    else none
  | _ => none

/-- What follows a backslash. -/
def escaped? : List Char → Option (Char × List Char)
  | '"' :: rest => some ('"', rest)
  | '\\' :: rest => some ('\\', rest)
  | '/' :: rest => some ('/', rest)
  | 'b' :: rest => some (Char.ofNat 8, rest)
  | 'f' :: rest => some (Char.ofNat 12, rest)
  | 'n' :: rest => some ('\n', rest)
  | 'r' :: rest => some ('\r', rest)
  | 't' :: rest => some ('\t', rest)
  | 'u' :: rest => do
    let (n, rest) ← unit? rest
    if n < 0xd800 ∨ 0xdfff < n then some (Char.ofNat n, rest) else paired? n rest
  | _ => none

/-- The characters up to the closing quote. -/
def string? : Nat → List Char → Option (List Char × List Char)
  | 0, _ => none
  | _, [] => none
  | fuel + 1, c :: cs =>
    if c = '"' then some ([], cs)
    else if c = '\\' then do
      let (c, rest) ← escaped? cs
      let (s, rest) ← string? fuel rest
      some (c :: s, rest)
    else if c.toNat < 32 then none
    else do
      let (s, rest) ← string? fuel cs
      some (c :: s, rest)

/-- Decimal digits, without a leading zero. -/
def natural? (cs : List Char) : Option (Nat × List Char) :=
  match cs.takeWhile Char.isDigit, cs.dropWhile Char.isDigit with
  | [], _ => none
  | '0' :: more, rest => some (0, more ++ rest)
  | ds, rest => some (Nat.ofDigitChars 10 ds 0, rest)

/-! ## Reading what was written -/

theorem hexDigit?_digitChar {n : Nat} (small : n < 16) : hexDigit? n.digitChar = some n := by
  have all : ∀ n < 16, hexDigit? n.digitChar = some n := by decide
  exact all n small

theorem unit?_digits {n : Nat} (small : n < 65536) (rest : List Char) :
    unit? (digits 4 n ++ rest) = some (n, rest) := by
  have spread : digits 4 n = [(n / 16 / 16 / 16 % 16).digitChar, (n / 16 / 16 % 16).digitChar,
      (n / 16 % 16).digitChar, (n % 16).digitChar] := rfl
  have whole : ((n / 16 / 16 / 16 % 16 * 16 + n / 16 / 16 % 16) * 16 + n / 16 % 16) * 16 + n % 16 = n := by
    omega
  rw [spread]
  simp [unit?, hexDigit?_digitChar (Nat.mod_lt _ (by decide : 0 < 16)), whole]

theorem escaped?_unit {c : Char} (short : c.toNat < 65536) (rest : List Char) :
    escaped? ('u' :: (digits 4 c.toNat ++ rest)) = some (c, rest) := by
  have scalar : c.toNat < 0xd800 ∨ 0xdfff < c.toNat := by
    rcases c.valid with low | ⟨high, _⟩
    · exact .inl low
    · exact .inr high
  simp [escaped?, unit?_digits short, scalar, Char.ofNat_toNat]

/-- A character that does not fit in 16 bits, in its two halves. -/
theorem escaped?_units {c : Char} (long : 65536 ≤ c.toNat) (rest : List Char) :
    escaped? ('u' :: (digits 4 (0xd800 + (c.toNat - 65536) / 1024) ++
      (unit (0xdc00 + (c.toNat - 65536) % 1024) ++ rest))) = some (c, rest) := by
  have bound : c.toNat < 0x110000 := by
    rcases c.valid with low | ⟨_, high⟩
    · exact Nat.lt_trans low (by decide)
    · exact high
  have first : 0xd800 + (c.toNat - 65536) / 1024 < 65536 := by omega
  have second : 0xdc00 + (c.toNat - 65536) % 1024 < 65536 := by omega
  have paired : ¬ (0xd800 + (c.toNat - 65536) / 1024 < 0xd800 ∨
      0xdfff < 0xd800 + (c.toNat - 65536) / 1024) := by omega
  have halves : 0xd800 + (c.toNat - 65536) / 1024 < 0xdc00 ∧
      0xdc00 ≤ 0xdc00 + (c.toNat - 65536) % 1024 ∧
      0xdc00 + (c.toNat - 65536) % 1024 ≤ 0xdfff := by omega
  have whole : 65536 + (0xd800 + (c.toNat - 65536) / 1024 - 0xd800) * 1024 +
      (0xdc00 + (c.toNat - 65536) % 1024 - 0xdc00) = c.toNat := by omega
  rw [escaped?, unit?_digits first, Option.bind_eq_bind, Option.bind_some]
  dsimp only
  rw [if_neg paired, unit, List.cons_append, List.cons_append, paired?, unit?_digits second,
    Option.bind_eq_bind, Option.bind_some]
  dsimp only
  rw [if_pos halves, whole, Char.ofNat_toNat]

theorem string?_escape (c : Char) (fuel : Nat) (rest : List Char) :
    string? (fuel + 1) (escape c ++ rest) = (string? fuel rest).map fun (s, rest) => (c :: s, rest) := by
  have escaped : ∀ cs, escaped? cs = some (c, rest) → string? (fuel + 1) ('\\' :: cs) =
      (string? fuel rest).map fun (s, rest) => (c :: s, rest) := by
    intro cs found
    rw [string?, if_neg (by decide), if_pos rfl, found, Option.bind_eq_bind, Option.bind_some]
    dsimp only
    cases string? fuel rest <;> rfl
  unfold escape
  split
  · subst c
    exact escaped _ rfl
  split
  · subst c
    exact escaped _ rfl
  split
  · subst c
    exact escaped _ rfl
  split
  · subst c
    exact escaped _ rfl
  split
  · subst c
    exact escaped _ rfl
  split
  · rename_i code
    refine escaped ('b' :: rest) ?_
    rw [escaped?, ← code, Char.ofNat_toNat]
  split
  · rename_i code
    refine escaped ('f' :: rest) ?_
    rw [escaped?, ← code, Char.ofNat_toNat]
  split
  · rename_i quote slash _ _ _ _ _ printed
    rw [List.singleton_append, string?, if_neg quote, if_neg slash,
      if_neg (Nat.not_lt.mpr printed.1)]
    cases string? fuel rest <;> rfl
  split
  · rename_i short
    exact escaped _ (escaped?_unit short rest)
  · rename_i long
    rw [List.append_assoc]
    exact escaped _ (escaped?_units (Nat.not_lt.mp long) rest)

theorem escape_ne_nil (c : Char) : escape c ≠ [] := by
  unfold escape unit
  split_ifs <;> simp

theorem string?_quote (s : List Char) {fuel : Nat} (enough : s.length < fuel) (rest : List Char) :
    string? fuel (s.flatMap escape ++ '"' :: rest) = some (s, rest) := by
  induction s generalizing fuel with
  | nil =>
    obtain ⟨fuel, rfl⟩ := Nat.exists_eq_succ_of_ne_zero (Nat.ne_of_gt enough)
    rw [List.flatMap_nil, List.nil_append, string?, if_pos rfl]
  | cons c s ih =>
    obtain ⟨fuel, rfl⟩ := Nat.exists_eq_succ_of_ne_zero (Nat.ne_of_gt (Nat.zero_lt_of_lt enough))
    rw [List.flatMap_cons, List.append_assoc, string?_escape, ih (Nat.lt_of_succ_lt_succ enough)]
    rfl

theorem length_le_escaped (s : List Char) : s.length ≤ (s.flatMap escape).length := by
  induction s with
  | nil => exact Nat.le_refl 0
  | cons c s ih =>
    have some := List.length_pos_iff.mpr (escape_ne_nil c)
    rw [List.flatMap_cons, List.length_cons, List.length_append]
    omega

/-- The string of a quoted text, with the fuel `value?` and `field?` give it. -/
theorem string?_quoted (s rest : List Char) :
    string? ((s.flatMap escape ++ ['"'] ++ rest).length + 1) (s.flatMap escape ++ ['"'] ++ rest) =
      some (s, rest) := by
  have enough := length_le_escaped s
  rw [List.append_assoc, List.singleton_append]
  refine string?_quote s ?_ rest
  rw [List.length_append]
  omega

/-- A text that does not go on with a digit. -/
def Stops (rest : List Char) : Prop := ∀ c ∈ rest.head?, c.isDigit = false

theorem toDigits_head {n : Nat} (positive : 0 < n) :
    ∃ c ds, Nat.toDigits 10 n = c :: ds ∧ c ≠ '0' := by
  induction n using Nat.strongRecOn with
  | ind n ih =>
    rw [Nat.toDigits_eq_if (by decide)]
    split
    · rename_i small
      have nonzero : ∀ d < 10, 0 < d → d.digitChar ≠ '0' := by decide
      exact ⟨n.digitChar, [], rfl, nonzero n small positive⟩
    · rename_i large
      obtain ⟨c, ds, spelled, nonzero⟩ := ih (n / 10) (by omega) (by omega)
      rw [spelled]
      exact ⟨c, _, rfl, nonzero⟩

theorem natural?_toDigits (n : Nat) {rest : List Char} (stops : Stops rest) :
    natural? (Nat.toDigits 10 n ++ rest) = some (n, rest) := by
  have digits : ∀ c ∈ Nat.toDigits 10 n, c.isDigit = true := fun c member =>
    Nat.isDigit_of_mem_toDigits (by decide) (by decide) member
  have taken : (Nat.toDigits 10 n ++ rest).takeWhile Char.isDigit = Nat.toDigits 10 n := by
    rw [List.takeWhile_append_of_pos digits]
    cases rest with
    | nil => exact List.append_nil _
    | cons c rest => rw [List.takeWhile_cons_of_neg (by simp [stops c rfl]), List.append_nil]
  have dropped : (Nat.toDigits 10 n ++ rest).dropWhile Char.isDigit = rest := by
    rw [List.dropWhile_append_of_pos digits]
    cases rest with
    | nil => rfl
    | cons c rest => rw [List.dropWhile_cons_of_neg (by simp [stops c rfl])]
  unfold natural?
  rw [taken, dropped]
  rcases Nat.eq_zero_or_pos n with rfl | positive
  · rw [Nat.toDigits_zero]
    rfl
  · obtain ⟨c, ds, spelled, nonzero⟩ := toDigits_head positive
    have value : Nat.ofDigitChars 10 (c :: ds) 0 = n := by
      rw [← spelled, Nat.ofDigitChars_ten_toDigits]
    rw [spelled]
    split
    · contradiction
    · rename_i same
      exact absurd (List.head_eq_of_cons_eq same) nonzero
    · rw [value]

theorem skip_of_head {c : Char} {cs : List Char} (solid : isSpace c = false) :
    skip (c :: cs) = c :: cs := by
  rw [skip, List.dropWhile_cons_of_neg (by simp [solid])]

theorem digit_head (n : Nat) : ∃ c ds, Nat.toDigits 10 n = c :: ds ∧ c.isDigit = true := by
  have digits : ∀ c ∈ Nat.toDigits 10 n, c.isDigit = true := fun c member =>
    Nat.isDigit_of_mem_toDigits (by decide) (by decide) member
  cases spelled : Nat.toDigits 10 n with
  | nil => exact absurd spelled Nat.toDigits_ne_nil
  | cons c ds => exact ⟨c, ds, rfl, digits c (by rw [spelled]; exact List.mem_cons_self ..)⟩

/-- A digit of a number, or its sign. -/
theorem numeric_of_mem {n : Int} {c : Char} (member : c ∈ number n) :
    c = '-' ∨ c.isDigit = true := by
  have digits : ∀ {m : Nat}, c ∈ Nat.toDigits 10 m → c.isDigit = true := fun member =>
    Nat.isDigit_of_mem_toDigits (by decide) (by decide) member
  cases n with
  | ofNat m => exact .inr (digits member)
  | negSucc m => exact (List.mem_cons.mp member).imp id digits

theorem ne_of_digit {c c' : Char} (digit : c.isDigit = true) (other : c'.isDigit = false) : c ≠ c' := by
  rintro rfl
  rw [digit] at other
  cases other

theorem stops_of_head {c : Char} {cs : List Char} (solid : c.isDigit = false) : Stops (c :: cs) := by
  intro c' same
  cases same
  exact solid

theorem skip_space (cs : List Char) : skip (' ' :: cs) = skip cs := rfl

/-! ## Printing characters -/

/-- Printing ASCII characters only. -/
def Prints (cs : List Char) : Prop := ∀ c ∈ cs, 32 ≤ c.toNat ∧ c.toNat ≤ 126

instance (cs : List Char) : Decidable (Prints cs) :=
  List.decidableBAll (fun c : Char => 32 ≤ c.toNat ∧ c.toNat ≤ 126) cs

theorem prints_cons {c : Char} {cs : List Char} (low : 32 ≤ c.toNat) (high : c.toNat ≤ 126)
    (rest : Prints cs) : Prints (c :: cs) :=
  List.forall_mem_cons.mpr ⟨⟨low, high⟩, rest⟩

theorem prints_append (cs : List Char) {cs' : List Char} (first : Prints cs) (rest : Prints cs') :
    Prints (cs ++ cs') :=
  List.forall_mem_append.mpr ⟨first, rest⟩

theorem prints_digits (k n : Nat) : Prints (digits k n) := by
  induction k generalizing n with
  | zero => exact nofun
  | succ k ih =>
    have all : ∀ d < 16, Prints [Nat.digitChar d] := by decide
    exact prints_append _ (ih _) (all _ (Nat.mod_lt _ (by decide)))

theorem prints_unit (n : Nat) : Prints (unit n) :=
  prints_append ['\\', 'u'] (by decide) (prints_digits 4 n)

theorem prints_escape (c : Char) : Prints (escape c) := by
  unfold escape
  split
  · decide
  split
  · decide
  split
  · decide
  split
  · decide
  split
  · decide
  split
  · decide
  split
  · decide
  split
  · rename_i printed
    exact prints_cons printed.1 printed.2 nofun
  split
  · exact prints_unit _
  · exact prints_append _ (prints_unit _) (prints_unit _)

theorem prints_quote (s : List Char) : Prints (quote s) := by
  have inner : Prints (s.flatMap escape) := by
    intro c member
    obtain ⟨c', _, member⟩ := List.mem_flatMap.mp member
    exact prints_escape c' c member
  exact prints_cons (by decide) (by decide) (prints_append _ inner (by decide))

theorem prints_toDigits (n : Nat) : Prints (Nat.toDigits 10 n) := by
  intro c member
  have digit := Nat.isDigit_of_mem_toDigits (by decide) (by decide) member
  simp only [Char.isDigit, Bool.and_eq_true, decide_eq_true_eq] at digit
  have low : 48 ≤ c.toNat := digit.1
  have high : c.toNat ≤ 57 := digit.2
  omega

end Library.Json
