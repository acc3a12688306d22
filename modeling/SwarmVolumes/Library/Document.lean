import SwarmVolumes.Library.Json

/-!
# JSON documents

`json.dumps`, with an indent of two and on one line, and the `json.loads` that reads
both, for values with fractions. How a float is spelled and read is a parameter
(`Floats`); the rest of the text, a number's grammar included, is not. Reading what
was written gives it back, in any layout (`loads_writeAt`).
-/
namespace Library
open Json

/-! ## Numbers -/

/-- A run of decimal digits. -/
abbrev Digits := { cs : List Char // ∀ c ∈ cs, c.isDigit = true }

/-- The exponent of a number, which has a digit. -/
structure Exponent where
  negative : Bool
  digits : Digits
  present : digits.val ≠ []
  deriving DecidableEq

/-- A number as JSON spells it; without a fraction its digits are empty. -/
structure Numeral where
  negative : Bool
  whole : Nat
  fraction : Digits
  exponent : Option Exponent
  deriving DecidableEq

/-- No fraction and no exponent, which is how an integer is spelled. -/
def Numeral.Plain (n : Numeral) : Prop := n.fraction.val = [] ∧ n.exponent = none

instance (n : Numeral) : Decidable n.Plain := inferInstanceAs (Decidable (_ ∧ _))

/-- The integer of a plain numeral. -/
def Numeral.toInt (n : Numeral) : Int := if n.negative then -n.whole else n.whole

/-- `float.__repr__` of the finite floats, and `float` of a number's text, if there are floats. -/
structure Floats (F : Type) where
  repr : F → Numeral
  parse : Numeral → Option F

/-- A float is never spelled like an integer, and reading its spelling gives it back. -/
structure Floats.Documented {F : Type} (floats : Floats F) : Prop where
  marked : ∀ x, ¬ (floats.repr x).Plain
  round : ∀ x, floats.parse (floats.repr x) = some x

def fractionText (ds : Digits) : List Char := if ds.val = [] then [] else '.' :: ds.val

def exponentText : Option Exponent → List Char
  | none => []
  | some e => 'e' :: (if e.negative then '-' else '+') :: e.digits.val

def Numeral.text (n : Numeral) : List Char :=
  (if n.negative then ['-'] else []) ++
    (Nat.toDigits 10 n.whole ++ (fractionText n.fraction ++ exponentText n.exponent))

def digits (cs : List Char) : Digits × List Char :=
  (⟨cs.takeWhile Char.isDigit, fun _ => List.mem_takeWhile_imp⟩, cs.dropWhile Char.isDigit)

/-- A fraction, if the text goes on with one. -/
def fraction : List Char → Digits × List Char
  | '.' :: cs => if (digits cs).1.val = [] then (⟨[], by simp⟩, '.' :: cs) else digits cs
  | cs => (⟨[], by simp⟩, cs)

/-- The digits of an exponent, if it has some. -/
def exponentDigits (negative : Bool) (whole cs : List Char) : Option Exponent × List Char :=
  if present : (digits cs).1.val ≠ [] then (some ⟨negative, (digits cs).1, present⟩, (digits cs).2)
  else (none, whole)

def exponent (cs : List Char) : Option Exponent × List Char :=
  match cs with
  | c :: rest =>
    if c = 'e' ∨ c = 'E' then
      match rest with
      | '-' :: more => exponentDigits true cs more
      | '+' :: more => exponentDigits false cs more
      | _ => exponentDigits false cs rest
    else (none, cs)
  | [] => (none, cs)

def unsigned? (negative : Bool) (cs : List Char) : Option (Numeral × List Char) := do
  let (whole, cs) ← natural? cs
  let (fraction, cs) := fraction cs
  let (exponent, cs) := exponent cs
  some (⟨negative, whole, fraction, exponent⟩, cs)

def numeral? : List Char → Option (Numeral × List Char)
  | '-' :: cs => unsigned? true cs
  | cs => unsigned? false cs

/-- A text with which no number goes on. -/
def Ends (rest : List Char) : Prop :=
  ∀ c ∈ rest.head?, c.isDigit = false ∧ c ≠ '.' ∧ c ≠ 'e' ∧ c ≠ 'E'

theorem Ends.stops {rest : List Char} (ends : Ends rest) : Stops rest := fun c first => (ends c first).1

theorem digits_append (ds : Digits) {rest : List Char} (stops : Stops rest) :
    digits (ds.val ++ rest) = (ds, rest) := by
  have taken : (ds.val ++ rest).takeWhile Char.isDigit = ds.val := by
    rw [List.takeWhile_append_of_pos ds.property]
    cases rest with
    | nil => exact List.append_nil _
    | cons c rest => rw [List.takeWhile_cons_of_neg (by simp [stops c rfl]), List.append_nil]
  have dropped : (ds.val ++ rest).dropWhile Char.isDigit = rest := by
    rw [List.dropWhile_append_of_pos ds.property]
    cases rest with
    | nil => rfl
    | cons c rest => rw [List.dropWhile_cons_of_neg (by simp [stops c rfl])]
  exact Prod.ext (Subtype.ext taken) dropped

theorem exponentText_stops (e : Option Exponent) {rest : List Char}
    (ends : Ends rest) : Stops (exponentText e ++ rest) ∧
    (exponentText e ++ rest).head? ≠ some '.' := by
  cases e with
  | none =>
    refine ⟨ends.stops, fun dot => ?_⟩
    exact (ends '.' dot).2.1 rfl
  | some e => exact ⟨stops_of_head rfl, by simp [exponentText]⟩

theorem fraction_text (ds : Digits) {rest : List Char} (stops : Stops rest)
    (dotless : rest.head? ≠ some '.') : fraction (fractionText ds ++ rest) = (ds, rest) := by
  unfold fractionText
  split
  · rename_i empty
    obtain rfl : ds = ⟨[], nofun⟩ := Subtype.ext empty
    rw [List.nil_append]
    unfold fraction
    split
    · simp at dotless
    · rfl
  · rename_i present
    rw [List.cons_append, fraction, digits_append ds stops, if_neg present]

theorem exponent_text (e : Option Exponent) {rest : List Char}
    (ends : Ends rest) : exponent (exponentText e ++ rest) = (e, rest) := by
  cases e with
  | none =>
    rw [exponentText, List.nil_append]
    unfold exponent
    split
    · rename_i c more
      obtain ⟨_, _, small, large⟩ := ends c rfl
      rw [if_neg (not_or.mpr ⟨small, large⟩)]
    · rfl
  | some e =>
    obtain ⟨negative, ds, present⟩ := e
    have read : ∀ whole, exponentDigits negative whole (ds.val ++ rest) =
        (some ⟨negative, ds, present⟩, rest) := by
      intro whole
      simp only [exponentDigits, digits_append ds ends.stops, dif_pos present]
    cases negative with
    | true => exact read _
    | false => exact read _

theorem numeral?_text (n : Numeral) {rest : List Char} (ends : Ends rest) :
    numeral? (n.text ++ rest) = some (n, rest) := by
  obtain ⟨negative, whole, fraction, exponent⟩ := n
  obtain ⟨stops, dotless⟩ := exponentText_stops exponent ends
  have after : Stops (fractionText fraction ++ (exponentText exponent ++ rest)) := by
    unfold fractionText
    split
    · exact stops
    · exact stops_of_head rfl
  have read : ∀ sign, unsigned? sign (Nat.toDigits 10 whole ++ (fractionText fraction ++
      (exponentText exponent ++ rest))) = some (⟨sign, whole, fraction, exponent⟩, rest) := by
    intro sign
    simp only [unsigned?, natural?_toDigits whole after, Option.bind_eq_bind, Option.bind_some,
      fraction_text fraction stops dotless, exponent_text exponent ends]
  simp only [Numeral.text, List.append_assoc]
  cases negative with
  | true => exact read true
  | false =>
    obtain ⟨c, ds, spelled, digit⟩ := digit_head whole
    rw [if_neg (by decide), List.nil_append, ← read false, spelled, List.cons_append, numeral?]
    intro more same
    rw [List.head_eq_of_cons_eq same] at digit
    cases digit

/-! ## Documents -/

/-- A value `json` writes; the keys of an object are in the order of its fields. -/
inductive Document (F : Type) where
  | null
  | bool (b : Bool)
  | int (n : Int)
  | float (x : F)
  | str (s : List Char)
  | arr (items : List (Document F))
  | obj (fields : List (List Char × Document F))

namespace Document

variable {F : Type} (floats : Floats F)

/-- A new line at a depth, two blanks a level. -/
def newline (depth : Nat) : List Char := '\n' :: List.replicate (2 * depth) ' '

/-! ## Layouts -/

/-- The white space of a text at each depth: after an opening bracket, after a comma
and before a closing bracket. -/
structure Layout where
  opened : Nat → List Char
  between : Nat → List Char
  closing : Nat → List Char
  blank : ∀ depth, ∀ c ∈ opened depth ++ (between depth ++ closing depth), isSpace c = true

section
variable (layout : Layout)

mutual

def writeAt (depth : Nat) : Document F → List Char
  | .null => ['n', 'u', 'l', 'l']
  | .bool true => ['t', 'r', 'u', 'e']
  | .bool false => ['f', 'a', 'l', 's', 'e']
  | .int n => number n
  | .float x => (floats.repr x).text
  | .str s => quote s
  | .arr [] => ['[', ']']
  | .arr (v :: items) =>
    '[' :: (layout.opened depth ++ (writeAt (depth + 1) v ++ writeItems depth items))
  | .obj [] => ['{', '}']
  | .obj ((k, v) :: fields) =>
    '{' :: (layout.opened depth ++
      (quote k ++ ':' :: ' ' :: (writeAt (depth + 1) v ++ writeFields depth fields)))

/-- The items after the first. -/
def writeItems (depth : Nat) : List (Document F) → List Char
  | [] => layout.closing depth ++ [']']
  | v :: items =>
    ',' :: (layout.between depth ++ (writeAt (depth + 1) v ++ writeItems depth items))

/-- The fields after the first. -/
def writeFields (depth : Nat) : List (List Char × Document F) → List Char
  | [] => layout.closing depth ++ ['}']
  | (k, v) :: fields =>
    ',' :: (layout.between depth ++
      (quote k ++ ':' :: ' ' :: (writeAt (depth + 1) v ++ writeFields depth fields)))

end

end

theorem blank_newline (depth : Nat) : ∀ c ∈ newline depth, isSpace c = true := by
  intro c member
  rcases List.mem_cons.mp member with rfl | blank
  · rfl
  · rw [List.eq_of_mem_replicate blank]
    rfl

/-- An indent of two. -/
def indented : Layout where
  opened depth := newline (depth + 1)
  between depth := newline (depth + 1)
  closing := newline
  blank _ := List.forall_mem_append.mpr ⟨blank_newline _,
    List.forall_mem_append.mpr ⟨blank_newline _, blank_newline _⟩⟩

/-- No indent: one line. -/
def inline : Layout where
  opened _ := []
  between _ := [' ']
  closing _ := []
  blank _ := List.forall_mem_singleton.mpr rfl

/-- `json.dumps` with an indent of two. -/
def dumps (v : Document F) : List Char := writeAt floats indented 0 v

/-- `json.dumps` without an indent. -/
def line (v : Document F) : List Char := writeAt floats inline 0 v

/-- The rest of a word whose first letter is read. -/
def word? (letters : List Char) (v : Document F) (cs : List Char) : Option (Document F × List Char) :=
  if letters.isPrefixOf cs then some (v, cs.drop letters.length) else none

/-- A number is an integer unless it has a fraction or an exponent. -/
def ofNumeral (n : Numeral) : Option (Document F) :=
  if n.Plain then some (.int n.toInt) else (floats.parse n).map .float

mutual

def value? : Nat → List Char → Option (Document F × List Char)
  | 0, _ => none
  | _, [] => none
  | fuel + 1, c :: cs =>
    if c = '"' then do
      let (s, rest) ← string? (cs.length + 1) cs
      some (.str s, rest)
    else if c = '[' then
      if (skip cs).head? = some ']' then some (.arr [], (skip cs).tail)
      else do
        let (v, rest) ← value? fuel (skip cs)
        let (items, rest) ← items? fuel (skip rest)
        some (.arr (v :: items), rest)
    else if c = '{' then
      if (skip cs).head? = some '}' then some (.obj [], (skip cs).tail)
      else do
        let (entry, rest) ← field? fuel (skip cs)
        let (fields, rest) ← fields? fuel (skip rest)
        some (.obj (entry :: fields), rest)
    else if c = 'n' then word? ['u', 'l', 'l'] .null cs
    else if c = 't' then word? ['r', 'u', 'e'] (.bool true) cs
    else if c = 'f' then word? ['a', 'l', 's', 'e'] (.bool false) cs
    else do
      let (n, rest) ← numeral? (c :: cs)
      let v ← ofNumeral floats n
      some (v, rest)

/-- The items after the first. -/
def items? : Nat → List Char → Option (List (Document F) × List Char)
  | 0, _ => none
  | _, [] => none
  | fuel + 1, c :: cs =>
    if c = ']' then some ([], cs)
    else if c = ',' then do
      let (v, rest) ← value? fuel (skip cs)
      let (items, rest) ← items? fuel (skip rest)
      some (v :: items, rest)
    else none

/-- The fields after the first. -/
def fields? : Nat → List Char → Option (List (List Char × Document F) × List Char)
  | 0, _ => none
  | _, [] => none
  | fuel + 1, c :: cs =>
    if c = '}' then some ([], cs)
    else if c = ',' then do
      let (entry, rest) ← field? fuel (skip cs)
      let (fields, rest) ← fields? fuel (skip rest)
      some (entry :: fields, rest)
    else none

/-- One field. -/
def field? : Nat → List Char → Option ((List Char × Document F) × List Char)
  | 0, _ => none
  | _, [] => none
  | fuel + 1, c :: cs =>
    if c = '"' then do
      let (k, rest) ← string? (cs.length + 1) cs
      if (skip rest).head? = some ':' then do
        let (v, rest) ← value? fuel (skip (skip rest).tail)
        some ((k, v), rest)
      else none
    else none

end

/-- A whole text. -/
def loads (cs : List Char) : Option (Document F) :=
  match value? floats (cs.length + 1) (skip cs) with
  | some (v, rest) => if skip rest = [] then some v else none
  | none => none

/-! ## Reading what was written -/

variable {floats}

section
variable (layout : Layout) (depth : Nat) (cs : List Char)

theorem skip_opened : skip (layout.opened depth ++ cs) = skip cs :=
  List.dropWhile_append_of_pos fun c member => layout.blank depth c (List.mem_append_left _ member)

theorem skip_between : skip (layout.between depth ++ cs) = skip cs :=
  List.dropWhile_append_of_pos fun c member =>
    layout.blank depth c (List.mem_append_right _ (List.mem_append_left _ member))

theorem blank_closing : ∀ c ∈ layout.closing depth, isSpace c = true := fun c member =>
  layout.blank depth c (List.mem_append_right _ (List.mem_append_right _ member))

theorem skip_closing : skip (layout.closing depth ++ cs) = skip cs :=
  List.dropWhile_append_of_pos (blank_closing layout depth)

end

/-- The integer of its own spelling. -/
theorem numeral?_number (n : Int) {rest : List Char} (ends : Ends rest) :
    ∃ m : Numeral, m.Plain ∧ m.toInt = n ∧ numeral? (number n ++ rest) = some (m, rest) := by
  have plain : ∀ negative whole, Numeral.text ⟨negative, whole, ⟨[], nofun⟩, none⟩ =
      (if negative then ['-'] else []) ++ Nat.toDigits 10 whole := by
    intro negative whole
    simp [Numeral.text, fractionText, exponentText]
  cases n with
  | ofNat whole =>
    refine ⟨⟨false, whole, ⟨[], nofun⟩, none⟩, ⟨rfl, rfl⟩, rfl, ?_⟩
    have read := numeral?_text ⟨false, whole, ⟨[], nofun⟩, none⟩ ends
    rwa [plain] at read
  | negSucc whole =>
    refine ⟨⟨true, whole + 1, ⟨[], nofun⟩, none⟩, ⟨rfl, rfl⟩, rfl, ?_⟩
    have read := numeral?_text ⟨true, whole + 1, ⟨[], nofun⟩, none⟩ ends
    rwa [plain] at read

/-- Two numbers with which a text can begin are the same, and so is what follows them. -/
theorem number_append_inj {n n' : Int} {rest rest' : List Char} (ends : Ends rest) (ends' : Ends rest')
    (same : number n ++ rest = number n' ++ rest') : n = n' ∧ rest = rest' := by
  obtain ⟨m, -, value, read⟩ := numeral?_number n ends
  obtain ⟨m', -, value', read'⟩ := numeral?_number n' ends'
  rw [same, read'] at read
  cases read
  exact ⟨value.symm.trans value', rfl⟩

/-- The first character of a number. -/
theorem text_head (n : Numeral) : ∃ c cs, n.text = c :: cs ∧ (c = '-' ∨ c.isDigit = true) := by
  obtain ⟨negative, whole, fraction, exponent⟩ := n
  cases negative with
  | true => exact ⟨'-', _, rfl, .inl rfl⟩
  | false =>
    obtain ⟨c, ds, spelled, digit⟩ := digit_head whole
    refine ⟨c, ds ++ (fractionText fraction ++ exponentText exponent), ?_, .inr digit⟩
    rw [Numeral.text, if_neg Bool.false_ne_true, List.nil_append, spelled, List.cons_append]

theorem number_head (n : Int) : ∃ c cs, number n = c :: cs ∧ (c = '-' ∨ c.isDigit = true) := by
  cases n with
  | ofNat n =>
    obtain ⟨c, ds, spelled, digit⟩ := digit_head n
    exact ⟨c, ds, spelled, .inr digit⟩
  | negSucc n => exact ⟨'-', _, rfl, .inl rfl⟩

/-- A character no number starts with. -/
theorem ne_of_numeric {c c' : Char} (numeric : c = '-' ∨ c.isDigit = true) (other : c'.isDigit = false)
    (sign : c' ≠ '-') : c ≠ c' := by
  rcases numeric with rfl | digit
  · exact sign.symm
  · exact ne_of_digit digit other

theorem solid_of_numeric {c : Char} (numeric : c = '-' ∨ c.isDigit = true) :
    isSpace c = false ∧ c ≠ ']' ∧ c ≠ '}' := by
  have other : ∀ c', c'.isDigit = false → c' ≠ '-' → c ≠ c' := fun _ => ne_of_numeric numeric
  refine ⟨?_, other _ rfl (by decide), other _ rfl (by decide)⟩
  simp [isSpace, other ' ' rfl (by decide), other '\t' rfl (by decide), other '\n' rfl (by decide),
    other '\r' rfl (by decide)]

variable {layout : Layout}

/-- The first character a document is written with. -/
theorem writeAt_head (depth : Nat) (v : Document F) :
    ∃ c cs, writeAt floats layout depth v = c :: cs ∧ isSpace c = false ∧ c ≠ ']' ∧ c ≠ '}' := by
  cases v with
  | null => exact ⟨_, _, rfl, by decide⟩
  | bool b => cases b <;> exact ⟨_, _, rfl, by decide⟩
  | int n =>
    obtain ⟨c, cs, spelled, numeric⟩ := number_head n
    exact ⟨c, cs, spelled, solid_of_numeric numeric⟩
  | float x =>
    obtain ⟨c, cs, spelled, numeric⟩ := text_head (floats.repr x)
    exact ⟨c, cs, spelled, solid_of_numeric numeric⟩
  | str s => exact ⟨_, _, rfl, by decide⟩
  | arr items => cases items <;> exact ⟨_, _, rfl, by decide⟩
  | obj fields => cases fields <;> exact ⟨_, _, rfl, by decide⟩

theorem skip_writeAt (depth : Nat) (v : Document F) (rest : List Char) :
    skip (writeAt floats layout depth v ++ rest) = writeAt floats layout depth v ++ rest := by
  obtain ⟨c, cs, spelled, solid, _⟩ := @writeAt_head F floats layout depth v
  rw [spelled]
  exact skip_of_head solid

theorem ends_of_head {c : Char} {cs : List Char} (solid : c.isDigit = false)
    (mark : c ≠ '.' ∧ c ≠ 'e' ∧ c ≠ 'E') : Ends (c :: cs) := by
  intro c' same
  cases same
  exact ⟨solid, mark⟩

theorem blank_ends {c : Char} (space : isSpace c = true) :
    c.isDigit = false ∧ c ≠ '.' ∧ c ≠ 'e' ∧ c ≠ 'E' := by
  simp only [isSpace, Bool.decide_or, Bool.or_eq_true, decide_eq_true_eq] at space
  rcases space with rfl | rfl | rfl | rfl <;> decide

theorem ends_of_blank {ws rest : List Char} (blank : ∀ c ∈ ws, isSpace c = true) (ends : Ends rest) :
    Ends (ws ++ rest) := by
  cases ws with
  | nil => exact ends
  | cons c ws =>
    obtain ⟨solid, mark⟩ := blank_ends (blank c (List.mem_cons_self ..))
    exact ends_of_head solid mark

theorem items_ends (floats : Floats F) (layout : Layout) (depth : Nat) (items : List (Document F))
    (rest : List Char) :
    Ends (writeItems floats layout depth items ++ rest) := by
  cases items with
  | nil =>
    rw [writeItems, List.append_assoc]
    exact ends_of_blank (blank_closing layout depth) (ends_of_head rfl (by decide))
  | cons v items => exact ends_of_head rfl (by decide)

theorem fields_ends (floats : Floats F) (layout : Layout) (depth : Nat)
    (fields : List (List Char × Document F)) (rest : List Char) :
    Ends (writeFields floats layout depth fields ++ rest) := by
  cases fields with
  | nil =>
    rw [writeFields, List.append_assoc]
    exact ends_of_blank (blank_closing layout depth) (ends_of_head rfl (by decide))
  | cons entry fields => exact ends_of_head rfl (by decide)

/-- A number, however it is spelled. -/
theorem value?_numeral {n : Numeral} {v : Document F} {text rest : List Char} (fuel : Nat)
    (head : ∃ c cs, text = c :: cs ∧ (c = '-' ∨ c.isDigit = true))
    (read : numeral? (text ++ rest) = some (n, rest)) (found : ofNumeral floats n = some v) :
    value? floats (fuel + 1) (text ++ rest) = some (v, rest) := by
  obtain ⟨c, cs, rfl, numeric⟩ := head
  have other : ∀ c', c'.isDigit = false → c' ≠ '-' → c ≠ c' := fun _ => ne_of_numeric numeric
  rw [List.cons_append] at read ⊢
  rw [value?, if_neg (other _ rfl (by decide)), if_neg (other _ rfl (by decide)),
    if_neg (other _ rfl (by decide)), if_neg (other _ rfl (by decide)), if_neg (other _ rfl (by decide)),
    if_neg (other _ rfl (by decide)), read, Option.bind_eq_bind, Option.bind_some]
  dsimp only
  rw [found]
  rfl

/-- A field, when its value is read back. -/
theorem field?_of_value (k : List Char) {v : Document F} {depth fuel : Nat} {rest : List Char}
    (read : value? floats fuel (writeAt floats layout depth v ++ rest) = some (v, rest)) :
    field? floats (fuel + 1) (quote k ++ ':' :: ' ' :: (writeAt floats layout depth v ++ rest)) =
      some ((k, v), rest) := by
  rw [quote, List.cons_append, field?, if_pos rfl, string?_quoted, Option.bind_eq_bind,
    Option.bind_some]
  dsimp only
  rw [skip_of_head rfl, List.head?_cons, if_pos rfl, List.tail_cons, skip_space, skip_writeAt, read]
  rfl

theorem skip_quote (k rest : List Char) : skip (quote k ++ rest) = quote k ++ rest :=
  skip_of_head rfl

mutual

theorem value?_writeAt (documented : floats.Documented) (depth : Nat) (v : Document F) {fuel : Nat}
    (enough : (writeAt floats layout depth v).length ≤ fuel) {rest : List Char} (ends : Ends rest) :
    value? floats fuel (writeAt floats layout depth v ++ rest) = some (v, rest) := by
  obtain ⟨fuel, rfl⟩ : ∃ more, fuel = more + 1 := by
    obtain ⟨c, cs, spelled, _⟩ := @writeAt_head F floats layout depth v
    rw [spelled, List.length_cons] at enough
    exact ⟨fuel - 1, by omega⟩
  match v with
  | .null => rfl
  | .bool true => rfl
  | .bool false => rfl
  | .int n =>
    obtain ⟨m, plain, rfl, read⟩ := numeral?_number n ends
    rw [writeAt]
    exact value?_numeral fuel (number_head _) read (by rw [ofNumeral, if_pos plain])
  | .float x =>
    have read := numeral?_text (floats.repr x) ends
    have found : ofNumeral floats (floats.repr x) = some (.float x) := by
      rw [ofNumeral, if_neg (documented.marked x), documented.round]
      rfl
    rw [writeAt]
    exact value?_numeral fuel (text_head _) read found
  | .str s =>
    rw [writeAt, quote, List.cons_append, value?, if_pos rfl, string?_quoted]
    rfl
  | .arr [] => rfl
  | .arr (v :: items) =>
    rw [writeAt, List.length_cons, List.length_append, List.length_append] at enough
    obtain ⟨c, cs, spelled, _, open_, _⟩ := @writeAt_head F floats layout (depth + 1) v
    have head : (writeAt floats layout (depth + 1) v ++
        (writeItems floats layout depth items ++ rest)).head? ≠ some ']' := by
      rw [spelled]
      simpa using open_
    have first := value?_writeAt documented (depth + 1) v
      (by omega : (writeAt floats layout (depth + 1) v).length ≤ fuel)
      (items_ends floats layout depth items rest)
    have others := items?_writeItems documented depth items
      (by omega : (writeItems floats layout depth items).length ≤ fuel) rest
    rw [writeAt, List.cons_append, List.append_assoc, List.append_assoc, value?, if_neg (by decide),
      if_pos rfl, skip_opened, skip_writeAt, if_neg head, first, Option.bind_eq_bind,
      Option.bind_some]
    dsimp only
    rw [others]
    rfl
  | .obj [] => rfl
  | .obj ((k, v) :: fields) =>
    rw [writeAt, List.length_cons, List.length_append, List.length_append, List.length_cons,
      List.length_cons, List.length_append] at enough
    obtain ⟨fuel, rfl⟩ : ∃ more, fuel = more + 1 := ⟨fuel - 1, by omega⟩
    have first := value?_writeAt documented (depth + 1) v
      (by omega : (writeAt floats layout (depth + 1) v).length ≤ fuel)
      (fields_ends floats layout depth fields rest)
    have others := fields?_writeFields documented depth fields
      (by omega : (writeFields floats layout depth fields).length ≤ fuel + 1) rest
    have head : (quote k ++ ':' :: ' ' :: (writeAt floats layout (depth + 1) v ++
        (writeFields floats layout depth fields ++ rest))).head? ≠ some '}' := by simp [quote]
    rw [writeAt, List.cons_append, List.append_assoc, List.append_assoc, List.cons_append,
      List.cons_append, List.append_assoc, value?, if_neg (by decide), if_neg (by decide), if_pos rfl,
      skip_opened, skip_quote, if_neg head, field?_of_value k first, Option.bind_eq_bind,
      Option.bind_some]
    dsimp only
    rw [others]
    rfl

theorem items?_writeItems (documented : floats.Documented) (depth : Nat) (items : List (Document F))
    {fuel : Nat} (enough : (writeItems floats layout depth items).length ≤ fuel) (rest : List Char) :
    items? floats fuel (skip (writeItems floats layout depth items ++ rest)) = some (items, rest) := by
  match items with
  | [] =>
    rw [writeItems, List.length_append, List.length_singleton] at enough
    obtain ⟨fuel, rfl⟩ : ∃ more, fuel = more + 1 := ⟨fuel - 1, by omega⟩
    rw [writeItems, List.append_assoc, skip_closing]
    rfl
  | v :: items =>
    rw [writeItems, List.length_cons, List.length_append, List.length_append] at enough
    obtain ⟨fuel, rfl⟩ : ∃ more, fuel = more + 1 := ⟨fuel - 1, by omega⟩
    have first := value?_writeAt documented (depth + 1) v
      (by omega : (writeAt floats layout (depth + 1) v).length ≤ fuel)
      (items_ends floats layout depth items rest)
    have others := items?_writeItems documented depth items
      (by omega : (writeItems floats layout depth items).length ≤ fuel) rest
    rw [writeItems, List.cons_append, List.append_assoc, List.append_assoc, skip_of_head rfl, items?,
      if_neg (by decide), if_pos rfl, skip_between, skip_writeAt, first, Option.bind_eq_bind,
      Option.bind_some]
    dsimp only
    rw [others]
    rfl

theorem fields?_writeFields (documented : floats.Documented) (depth : Nat)
    (fields : List (List Char × Document F)) {fuel : Nat}
    (enough : (writeFields floats layout depth fields).length ≤ fuel) (rest : List Char) :
    fields? floats fuel (skip (writeFields floats layout depth fields ++ rest)) = some (fields, rest) := by
  match fields with
  | [] =>
    rw [writeFields, List.length_append, List.length_singleton] at enough
    obtain ⟨fuel, rfl⟩ : ∃ more, fuel = more + 1 := ⟨fuel - 1, by omega⟩
    rw [writeFields, List.append_assoc, skip_closing]
    rfl
  | (k, v) :: fields =>
    rw [writeFields, List.length_cons, List.length_append, List.length_append, List.length_cons,
      List.length_cons, List.length_append] at enough
    obtain ⟨fuel, rfl⟩ : ∃ more, fuel = more + 2 := ⟨fuel - 2, by omega⟩
    have first := value?_writeAt documented (depth + 1) v
      (by omega : (writeAt floats layout (depth + 1) v).length ≤ fuel)
      (fields_ends floats layout depth fields rest)
    have others := fields?_writeFields documented depth fields
      (by omega : (writeFields floats layout depth fields).length ≤ fuel + 1) rest
    rw [writeFields, List.cons_append, List.append_assoc, List.append_assoc, List.cons_append,
      List.cons_append, List.append_assoc, skip_of_head rfl, fields?, if_neg (by decide), if_pos rfl,
      skip_between, skip_quote, field?_of_value k first, Option.bind_eq_bind, Option.bind_some]
    dsimp only
    rw [others]
    rfl

end

/-- Reading what was written in a layout, with white space after it, gives it back. -/
theorem loads_writeAt (documented : floats.Documented) (layout : Layout) (v : Document F)
    {after : List Char} (blank : ∀ c ∈ after, isSpace c = true) :
    loads floats (writeAt floats layout 0 v ++ after) = some v := by
  have skipped : skip after = [] := List.dropWhile_eq_nil_iff.mpr blank
  have ends : Ends after := fun c first => blank_ends (blank c (List.mem_of_mem_head? first))
  have enough : (writeAt floats layout 0 v).length ≤ (writeAt floats layout 0 v ++ after).length + 1 := by
    rw [List.length_append]
    omega
  rw [loads, skip_writeAt, value?_writeAt documented 0 v enough ends]
  dsimp only
  rw [if_pos skipped]

/-- Reading what was written, with white space after it, gives it back. -/
theorem loads_dumps (documented : floats.Documented) (v : Document F) {after : List Char}
    (blank : ∀ c ∈ after, isSpace c = true) : loads floats (dumps floats v ++ after) = some v :=
  loads_writeAt documented indented v blank

theorem loads_line (documented : floats.Documented) (v : Document F) : loads floats (line floats v) = some v := by
  have read : loads floats (line floats v ++ []) = some v := loads_writeAt documented inline v nofun
  rwa [List.append_nil] at read

/-! ## The characters of a line -/

theorem prints_of_digits {cs : List Char} (digits : ∀ c ∈ cs, c.isDigit = true) : Prints cs := by
  intro c member
  have digit := digits c member
  simp only [Char.isDigit, Bool.and_eq_true, decide_eq_true_eq] at digit
  obtain ⟨low, high⟩ := digit
  exact ⟨Nat.le_trans (by decide) low, Nat.le_trans high (by decide)⟩

theorem prints_text (n : Numeral) : Prints n.text := by
  obtain ⟨negative, whole, fraction, exponent⟩ := n
  have sign : Prints (if negative then ['-'] else []) := by cases negative <;> decide
  have decimals : Prints (fractionText fraction) := by
    unfold fractionText
    split
    · decide
    · exact prints_append ['.'] (by decide) (prints_of_digits fraction.property)
  have power : Prints (exponentText exponent) := by
    cases exponent with
    | none => exact nofun
    | some e =>
      have mark : Prints ['e', if e.negative then '-' else '+'] := by cases e.negative <;> decide
      exact prints_append _ mark (prints_of_digits e.digits.property)
  exact prints_append _ sign (prints_append _ (prints_toDigits whole) (prints_append _ decimals power))

theorem prints_number (n : Int) : Prints (number n) := by
  cases n with
  | ofNat n => exact prints_toDigits n
  | negSucc n => exact prints_append ['-'] (by decide) (prints_toDigits (n + 1))

mutual

theorem prints_writeAt (floats : Floats F) (depth : Nat) (v : Document F) :
    Prints (writeAt floats inline depth v) := by
  match v with
  | .null =>
    rw [writeAt]
    decide
  | .bool true =>
    rw [writeAt]
    decide
  | .bool false =>
    rw [writeAt]
    decide
  | .int n => exact prints_number n
  | .float x => exact prints_text (floats.repr x)
  | .str s => exact prints_quote s
  | .arr [] =>
    rw [writeAt]
    decide
  | .arr (v :: items) =>
    rw [writeAt]
    exact prints_append ['['] (by decide)
      (prints_append _ (prints_writeAt floats (depth + 1) v) (prints_writeItems floats depth items))
  | .obj [] =>
    rw [writeAt]
    decide
  | .obj ((k, v) :: fields) =>
    rw [writeAt]
    exact prints_append ['{'] (by decide) (prints_append _ (prints_quote k)
      (prints_append [':', ' '] (by decide)
        (prints_append _ (prints_writeAt floats (depth + 1) v) (prints_writeFields floats depth fields))))

theorem prints_writeItems (floats : Floats F) (depth : Nat) (items : List (Document F)) :
    Prints (writeItems floats inline depth items) := by
  match items with
  | [] => exact prints_append [] (by decide) (by decide)
  | v :: items =>
    rw [writeItems]
    exact prints_append [',', ' '] (by decide)
      (prints_append _ (prints_writeAt floats (depth + 1) v) (prints_writeItems floats depth items))

theorem prints_writeFields (floats : Floats F) (depth : Nat) (fields : List (List Char × Document F)) :
    Prints (writeFields floats inline depth fields) := by
  match fields with
  | [] => exact prints_append [] (by decide) (by decide)
  | (k, v) :: fields =>
    rw [writeFields]
    exact prints_append [',', ' '] (by decide) (prints_append _ (prints_quote k)
      (prints_append [':', ' '] (by decide)
        (prints_append _ (prints_writeAt floats (depth + 1) v) (prints_writeFields floats depth fields))))

end

theorem writeFields_last (floats : Floats F) (depth : Nat) (fields : List (List Char × Document F)) :
    ∃ inner, writeFields floats inline depth fields = inner ++ ['}'] := by
  induction fields with
  | nil => exact ⟨[], rfl⟩
  | cons entry fields ih =>
    obtain ⟨inner, last⟩ := ih
    rw [writeFields, last]
    exact ⟨',' :: ' ' :: (quote entry.1 ++ ':' :: ' ' :: (writeAt floats inline (depth + 1) entry.2 ++ inner)),
      by simp [inline]⟩

/-- The line of an object, between its braces. -/
theorem line_obj (floats : Floats F) (fields : List (List Char × Document F)) :
    ∃ inner, line floats (.obj fields) = '{' :: (inner ++ ['}']) := by
  cases fields with
  | nil => exact ⟨[], rfl⟩
  | cons entry fields =>
    obtain ⟨inner, last⟩ := writeFields_last floats 0 fields
    rw [line, writeAt, last]
    exact ⟨quote entry.1 ++ ':' :: ' ' :: (writeAt floats inline 1 entry.2 ++ inner), by simp [inline]⟩

/-! ## The strings of a value -/

mutual

/-- The strings in a value, without the keys. -/
def strings : Document F → List (List Char)
  | .str s => [s]
  | .arr items => stringsOfItems items
  | .obj fields => stringsOfFields fields
  | _ => []

def stringsOfItems : List (Document F) → List (List Char)
  | [] => []
  | v :: items => strings v ++ stringsOfItems items

def stringsOfFields : List (List Char × Document F) → List (List Char)
  | [] => []
  | (_, v) :: fields => strings v ++ stringsOfFields fields

end

mutual

/-- The value with every string in it changed, and the keys as they are. -/
def mapStrings (f : List Char → List Char) : Document F → Document F
  | .str s => .str (f s)
  | .arr items => .arr (mapItems f items)
  | .obj fields => .obj (mapFields f fields)
  | v => v

def mapItems (f : List Char → List Char) : List (Document F) → List (Document F)
  | [] => []
  | v :: items => mapStrings f v :: mapItems f items

def mapFields (f : List Char → List Char) : List (List Char × Document F) → List (List Char × Document F)
  | [] => []
  | (k, v) :: fields => (k, mapStrings f v) :: mapFields f fields

end

mutual

theorem strings_mapStrings (f : List Char → List Char) (v : Document F) :
    strings (mapStrings f v) = (strings v).map f := by
  match v with
  | .null => rfl
  | .bool _ => rfl
  | .int _ => rfl
  | .float _ => rfl
  | .str _ => rfl
  | .arr items => exact strings_mapItems f items
  | .obj fields => exact strings_mapFields f fields

theorem strings_mapItems (f : List Char → List Char) (items : List (Document F)) :
    stringsOfItems (mapItems f items) = (stringsOfItems items).map f := by
  match items with
  | [] => rfl
  | v :: items =>
    rw [mapItems, stringsOfItems, stringsOfItems, List.map_append, strings_mapStrings f v,
      strings_mapItems f items]

theorem strings_mapFields (f : List Char → List Char) (fields : List (List Char × Document F)) :
    stringsOfFields (mapFields f fields) = (stringsOfFields fields).map f := by
  match fields with
  | [] => rfl
  | (k, v) :: fields =>
    rw [mapFields, stringsOfFields, stringsOfFields, List.map_append, strings_mapStrings f v,
      strings_mapFields f fields]

end

end Document

/-! ## Values without floats -/

/-- A value without floats. -/
abbrev Json := Document Empty

namespace Json

/-- No number is a float, so a text with a fraction or an exponent is not read. -/
def floats : Floats Empty where
  repr x := x.elim
  parse _ := none

theorem floats_documented : floats.Documented where
  marked x := x.elim
  round x := x.elim

/-- `json.dumps`, on one line. -/
def dumps (v : Json) : List Char := Document.line floats v

def loads (cs : List Char) : Option Json := Document.loads floats cs

/-- Reading what was written, with white space after it, gives it back. -/
theorem loads_dumps (v : Json) {after : List Char} (blank : ∀ c ∈ after, isSpace c = true) :
    loads (dumps v ++ after) = some v :=
  Document.loads_writeAt floats_documented Document.inline v blank

end Json
end Library
