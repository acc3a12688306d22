import Mathlib.Tactic.Common

/-!
# Dates as text

`datetime.isoformat` of a UTC time, given as seconds since the epoch, and
`fromisoformat` on the texts it writes. The date comes from the proleptic Gregorian
calendar, counted in eras of 400 years that start in March. A year after 9999, which
`datetime` does not have, takes more than four digits.
-/
namespace Library.Calendar

/-- A day of the calendar. -/
structure Civil where
  year : Nat
  month : Nat
  day : Nat

def daysBeforeYear (year : Nat) : Nat := 365 * year + year / 4 - year / 100

def daysBeforeMonth (month : Nat) : Nat := (153 * month + 2) / 5

/-- The year of a day of an era: its century, then its four years in the century. -/
def yearOfEra (dayOfEra : Nat) : Nat :=
  let century := min (dayOfEra / 36524) 3
  let leaps := (dayOfEra - 36524 * century) / 1461
  100 * century + 4 * leaps + min ((dayOfEra - 36524 * century - 1461 * leaps) / 365) 3

/-- The date of a day counted from the start of an era. -/
def ofEras (day : Nat) : Civil :=
  let dayOfEra := day % 146097
  let dayOfYear := dayOfEra - daysBeforeYear (yearOfEra dayOfEra)
  let month := (5 * dayOfYear + 2) / 153
  { year := 400 * (day / 146097) + yearOfEra dayOfEra + (if month < 10 then 0 else 1)
    month := if month < 10 then month + 3 else month - 9
    day := dayOfYear - daysBeforeMonth month + 1 }

def toEras (date : Civil) : Nat :=
  let year := if date.month ≤ 2 then date.year - 1 else date.year
  let month := if date.month ≤ 2 then date.month + 9 else date.month - 3
  146097 * (year / 400) + (daysBeforeYear (year % 400) + (daysBeforeMonth month + (date.day - 1)))

/-- 1970-01-01, counted from the start of the first era. -/
def epoch : Nat := 719468

/-- The date of a day since the epoch. -/
def civil (days : Nat) : Civil := ofEras (days + epoch)

/-- The day since the epoch of a date. -/
def days (date : Civil) : Nat := toEras date - epoch

theorem century_spec {dayOfEra century : Nat} (within : dayOfEra < 146097)
    (centuries : century = min (dayOfEra / 36524) 3) :
    century ≤ 3 ∧ 36524 * century ≤ dayOfEra ∧ dayOfEra - 36524 * century ≤ 36524 := by
  omega

theorem leaps_spec {day leaps : Nat} (within : day ≤ 36524) (fours : leaps = day / 1461) :
    leaps ≤ 24 ∧ 1461 * leaps ≤ day ∧ day - 1461 * leaps < 1461 := by
  omega

theorem year_spec {day year : Nat} (within : day < 1461) (years : year = min (day / 365) 3) :
    year ≤ 3 ∧ 365 * year ≤ day ∧ day - 365 * year < 366 := by
  omega

theorem daysBeforeYear_parts {century leaps year : Nat} (fours : leaps ≤ 24) (years : year ≤ 3) :
    daysBeforeYear (100 * century + 4 * leaps + year) = 36524 * century + 1461 * leaps + 365 * year := by
  have quads : (100 * century + 4 * leaps + year) / 4 = 25 * century + leaps := by omega
  have hundreds : (100 * century + 4 * leaps + year) / 100 = century := by omega
  rw [daysBeforeYear, quads, hundreds]
  omega

theorem yearOfEra_spec {dayOfEra : Nat} (within : dayOfEra < 146097) :
    yearOfEra dayOfEra < 400 ∧ daysBeforeYear (yearOfEra dayOfEra) ≤ dayOfEra ∧
      dayOfEra - daysBeforeYear (yearOfEra dayOfEra) < 366 := by
  unfold yearOfEra
  dsimp only
  obtain ⟨few, low, high⟩ := century_spec within rfl
  generalize min (dayOfEra / 36524) 3 = century at *
  obtain ⟨few', low', high'⟩ := leaps_spec high rfl
  generalize (dayOfEra - 36524 * century) / 1461 = leaps at *
  obtain ⟨few'', low'', high''⟩ := year_spec high' rfl
  generalize min ((dayOfEra - 36524 * century - 1461 * leaps) / 365) 3 = year at *
  rw [daysBeforeYear_parts few' few'']
  omega

/-- Month and day of a day of the year, months counted from March. -/
theorem month_spec {dayOfYear month : Nat} (within : dayOfYear < 366)
    (months : month = (5 * dayOfYear + 2) / 153) :
    month < 12 ∧ daysBeforeMonth month ≤ dayOfYear := by
  unfold daysBeforeMonth
  omega

theorem toEras_march {eras year month day : Nat} (era : year < 400) (early : month < 10) :
    toEras ⟨400 * eras + year, month + 3, day + 1⟩ =
      146097 * eras + (daysBeforeYear year + (daysBeforeMonth month + day)) := by
  have march : ¬ month + 3 ≤ 2 := by omega
  have modulus : (400 * eras + year) % 400 = year := by omega
  have quotient : (400 * eras + year) / 400 = eras := by omega
  simp only [toEras, if_neg march, Nat.add_sub_cancel, modulus, quotient]

theorem toEras_january {eras year month day : Nat} (era : year < 400) (late : 10 ≤ month)
    (months : month < 12) :
    toEras ⟨400 * eras + year + 1, month - 9, day + 1⟩ =
      146097 * eras + (daysBeforeYear year + (daysBeforeMonth month + day)) := by
  have january : month - 9 ≤ 2 := by omega
  have months : month - 9 + 9 = month := by omega
  have modulus : (400 * eras + year) % 400 = year := by omega
  have quotient : (400 * eras + year) / 400 = eras := by omega
  simp only [toEras, if_pos january, Nat.add_sub_cancel, modulus, quotient, months]

theorem toEras_ofEras (day : Nat) : toEras (ofEras day) = day := by
  have within : day % 146097 < 146097 := Nat.mod_lt day (by decide)
  obtain ⟨era, before, short⟩ := yearOfEra_spec within
  obtain ⟨months, counted⟩ := month_spec short rfl
  have whole := Nat.div_add_mod day 146097
  unfold ofEras
  dsimp only
  split
  · rename_i early
    rw [Nat.add_zero, toEras_march era early]
    omega
  · rename_i late
    rw [toEras_january era (Nat.not_lt.mp late) months]
    omega

theorem days_civil (n : Nat) : days (civil n) = n := by
  rw [days, civil, toEras_ofEras, Nat.add_sub_cancel]

/-! ## Text -/

/-- A number of at least two digits. -/
def two (n : Nat) : List Char := if n < 10 then '0' :: Nat.toDigits 10 n else Nat.toDigits 10 n

/-- A number of at least four digits. -/
def four (n : Nat) : List Char :=
  List.replicate (4 - (Nat.toDigits 10 n).length) '0' ++ Nat.toDigits 10 n

def isoformat (timestamp : Nat) : List Char :=
  let date := civil (timestamp / 86400)
  let second := timestamp % 86400
  four date.year ++ '-' :: (two date.month ++ '-' :: (two date.day ++ 'T' :: (two (second / 3600) ++
    ':' :: (two (second / 60 % 60) ++ ':' :: (two (second % 60) ++ ['+', '0', '0', ':', '0', '0'])))))

/-- The number at the start of a text, and what follows the separator after it. -/
def number (cs : List Char) : Nat × List Char :=
  (Nat.ofDigitChars 10 (cs.takeWhile Char.isDigit) 0, (cs.dropWhile Char.isDigit).tail)

/-- The time that the numbers of a text name. -/
def numbered (cs : List Char) : Nat :=
  let year := number cs
  let month := number year.2
  let day := number month.2
  let hour := number day.2
  let minute := number hour.2
  let second := number minute.2
  86400 * days ⟨year.1, month.1, day.1⟩ + (3600 * hour.1 + 60 * minute.1 + second.1)

/-- The one time whose text this is. -/
def fromisoformat (cs : List Char) : Option Nat :=
  if isoformat (numbered cs) = cs then some (numbered cs) else none

theorem number_append {ds rest : List Char} {c : Char} (digits : ∀ d ∈ ds, d.isDigit = true)
    (separator : c.isDigit = false) :
    number (ds ++ c :: rest) = (Nat.ofDigitChars 10 ds 0, rest) := by
  rw [number, List.takeWhile_append_of_pos digits, List.dropWhile_append_of_pos digits,
    List.takeWhile_cons_of_neg (by simp [separator]), List.dropWhile_cons_of_neg (by simp [separator]),
    List.append_nil, List.tail_cons]

theorem digits_two (n : Nat) : ∀ d ∈ two n, d.isDigit = true := by
  have digits : ∀ d ∈ Nat.toDigits 10 n, d.isDigit = true := fun d member =>
    Nat.isDigit_of_mem_toDigits (by decide) (by decide) member
  unfold two
  split
  · exact List.forall_mem_cons.mpr ⟨rfl, digits⟩
  · exact digits

theorem value_two (n : Nat) : Nat.ofDigitChars 10 (two n) 0 = n := by
  unfold two
  split
  · rw [Nat.ofDigitChars_cons]
    exact Nat.ofDigitChars_ten_toDigits
  · exact Nat.ofDigitChars_ten_toDigits

theorem digits_four (n : Nat) : ∀ d ∈ four n, d.isDigit = true := by
  intro d member
  rcases List.mem_append.mp member with zero | digit
  · rw [List.eq_of_mem_replicate zero]
    rfl
  · exact Nat.isDigit_of_mem_toDigits (by decide) (by decide) digit

theorem value_four (n : Nat) : Nat.ofDigitChars 10 (four n) 0 = n := by
  rw [four, Nat.ofDigitChars_append, Nat.ofDigitChars_replicate_zero, Nat.mul_zero]
  exact Nat.ofDigitChars_ten_toDigits

theorem number_two (n : Nat) {c : Char} (separator : c.isDigit = false) (rest : List Char) :
    number (two n ++ c :: rest) = (n, rest) := by
  rw [number_append (digits_two n) separator, value_two]

theorem number_four (n : Nat) {c : Char} (separator : c.isDigit = false) (rest : List Char) :
    number (four n ++ c :: rest) = (n, rest) := by
  rw [number_append (digits_four n) separator, value_four]

theorem numbered_isoformat (timestamp : Nat) : numbered (isoformat timestamp) = timestamp := by
  have date : days ⟨(civil (timestamp / 86400)).year, (civil (timestamp / 86400)).month,
      (civil (timestamp / 86400)).day⟩ = timestamp / 86400 := days_civil _
  have seconds : 3600 * (timestamp % 86400 / 3600) + 60 * (timestamp % 86400 / 60 % 60) +
      timestamp % 86400 % 60 = timestamp % 86400 := by
    omega
  have dash : ('-').isDigit = false := rfl
  have letter : ('T').isDigit = false := rfl
  have colon : (':').isDigit = false := rfl
  have plus : ('+').isDigit = false := rfl
  simp only [numbered, isoformat, number_four _ dash, number_two _ dash, number_two _ letter,
    number_two _ colon, number_two _ plus, date, seconds, Nat.div_add_mod]

theorem fromisoformat_isoformat (timestamp : Nat) :
    fromisoformat (isoformat timestamp) = some timestamp := by
  rw [fromisoformat, numbered_isoformat, if_pos rfl]

/-! ## Dates sort as their texts -/

/-- `%Y-%m-%d` of a day since the epoch. -/
def dateText (day : Nat) : List Char :=
  let date := civil day
  four date.year ++ '-' :: (two date.month ++ '-' :: two date.day)

/-- 10000-01-01, which `datetime` does not have. -/
def endOfTime : Nat := 2932897

/-- Dates compare by year, then month, then day. -/
def Earlier (date date' : Civil) : Prop :=
  date.year < date'.year ∨ date.year = date'.year ∧
    (date.month < date'.month ∨ date.month = date'.month ∧ date.day < date'.day)

theorem yearOfEra_mono {day day' : Nat} (within : day' < 146097) (order : day ≤ day') :
    yearOfEra day ≤ yearOfEra day' := by
  unfold yearOfEra
  dsimp only
  have centuries : min (day / 36524) 3 ≤ min (day' / 36524) 3 := by omega
  obtain ⟨_, low, high⟩ := century_spec (Nat.lt_of_le_of_lt order within) rfl
  obtain ⟨_, low', high'⟩ := century_spec within rfl
  generalize min (day / 36524) 3 = century at *
  generalize min (day' / 36524) 3 = century' at *
  obtain ⟨few, _, _⟩ := leaps_spec high rfl
  obtain ⟨few', _, _⟩ := leaps_spec high' rfl
  have leaps : century = century' → (day - 36524 * century) / 1461 ≤ (day' - 36524 * century') / 1461 := by
    rintro rfl
    exact Nat.div_le_div_right (by omega)
  generalize (day - 36524 * century) / 1461 = four at *
  generalize (day' - 36524 * century') / 1461 = four' at *
  have years : century = century' → four = four' →
      (day - 36524 * century - 1461 * four) / 365 ≤ (day' - 36524 * century' - 1461 * four') / 365 := by
    rintro rfl rfl
    exact Nat.div_le_div_right (by omega)
  omega

/-- The months of a year, and the days of a month. -/
theorem month_mono {day day' : Nat} (order : day < day') :
    (5 * day + 2) / 153 < (5 * day' + 2) / 153 ∨ (5 * day + 2) / 153 = (5 * day' + 2) / 153 ∧
      day - daysBeforeMonth ((5 * day + 2) / 153) < day' - daysBeforeMonth ((5 * day' + 2) / 153) := by
  unfold daysBeforeMonth
  omega

theorem civil_bounds (day : Nat) :
    (1 ≤ (civil day).month ∧ (civil day).month < 13) ∧ 1 ≤ (civil day).day ∧ (civil day).day < 100 := by
  have within : (day + epoch) % 146097 < 146097 := Nat.mod_lt _ (by decide)
  obtain ⟨_, before, short⟩ := yearOfEra_spec within
  obtain ⟨months, counted⟩ := month_spec short rfl
  unfold civil ofEras
  dsimp only
  refine ⟨?_, Nat.le_add_left .., ?_⟩
  · split
    · omega
    · omega
  · unfold daysBeforeMonth at *
    omega

/-- A date from a year that starts in March, its month counted from March. -/
theorem earlier_of_march {year month day year' month' day' : Nat} (months : month < 12)
    (order : year < year' ∨ year = year' ∧ (month < month' ∨ month = month' ∧ day < day')) :
    Earlier
      ⟨year + (if month < 10 then 0 else 1), if month < 10 then month + 3 else month - 9, day + 1⟩
      ⟨year' + (if month' < 10 then 0 else 1), if month' < 10 then month' + 3 else month' - 9, day' + 1⟩ := by
  unfold Earlier
  dsimp only
  split
  · split
    · omega
    · omega
  · split
    · omega
    · omega

theorem civil_mono {day day' : Nat} (order : day < day') : Earlier (civil day) (civil day') := by
  have within : (day + epoch) % 146097 < 146097 := Nat.mod_lt _ (by decide)
  have within' : (day' + epoch) % 146097 < 146097 := Nat.mod_lt _ (by decide)
  obtain ⟨few, before, short⟩ := yearOfEra_spec within
  obtain ⟨few', before', _⟩ := yearOfEra_spec within'
  have eras : (day + epoch) / 146097 < (day' + epoch) / 146097 ∨
      (day + epoch) / 146097 = (day' + epoch) / 146097 ∧
        (day + epoch) % 146097 < (day' + epoch) % 146097 := by omega
  have years : (day + epoch) % 146097 ≤ (day' + epoch) % 146097 →
      yearOfEra ((day + epoch) % 146097) ≤ yearOfEra ((day' + epoch) % 146097) := yearOfEra_mono within'
  unfold civil ofEras
  dsimp only
  generalize (day + epoch) / 146097 = era at *
  generalize (day' + epoch) / 146097 = era' at *
  generalize (day + epoch) % 146097 = dayOfEra at *
  generalize (day' + epoch) % 146097 = dayOfEra' at *
  refine earlier_of_march (month_spec short rfl).1 ?_
  by_cases sooner : 400 * era + yearOfEra dayOfEra < 400 * era' + yearOfEra dayOfEra'
  · exact .inl sooner
  · obtain ⟨rfl, later⟩ : era = era' ∧ dayOfEra < dayOfEra' := by omega
    have same : yearOfEra dayOfEra = yearOfEra dayOfEra' := by
      have := years (Nat.le_of_lt later)
      omega
    rw [same] at before ⊢
    exact .inr ⟨rfl, month_mono (by omega)⟩

theorem two_eq {n : Nat} (few : n < 100) : two n = [Nat.digitChar (n / 10), Nat.digitChar (n % 10)] := by
  unfold two
  split
  · rename_i small
    rw [Nat.toDigits_of_lt_base small, Nat.div_eq_of_lt small, Nat.mod_eq_of_lt small]
    rfl
  · rename_i large
    rw [Nat.toDigits_of_base_le (by decide) (Nat.not_lt.mp large), Nat.toDigits_of_lt_base (by omega)]
    rfl

theorem toDigits_step {n : Nat} (large : 10 ≤ n) :
    Nat.toDigits 10 n = Nat.toDigits 10 (n / 10) ++ [Nat.digitChar (n % 10)] :=
  Nat.toDigits_of_base_le (by decide) large

theorem four_eq {n : Nat} (few : n < 10000) : four n =
    [Nat.digitChar (n / 1000), Nat.digitChar (n / 100 % 10), Nat.digitChar (n / 10 % 10),
      Nat.digitChar (n % 10)] := by
  have tens : n / 10 / 10 = n / 100 := Nat.div_div_eq_div_mul ..
  have hundreds : n / 100 / 10 = n / 1000 := Nat.div_div_eq_div_mul ..
  have zero : Nat.digitChar 0 = '0' := rfl
  unfold four
  by_cases units : n < 10
  · have none : n / 1000 = 0 ∧ n / 100 % 10 = 0 ∧ n / 10 % 10 = 0 ∧ n % 10 = n := by omega
    rw [Nat.toDigits_of_lt_base units, none.1, none.2.1, none.2.2.1, none.2.2.2, zero]
    rfl
  by_cases two : n < 100
  · have none : n / 1000 = 0 ∧ n / 100 % 10 = 0 ∧ n / 10 % 10 = n / 10 := by omega
    rw [toDigits_step (by omega), Nat.toDigits_of_lt_base (by omega), none.1, none.2.1, none.2.2, zero]
    rfl
  by_cases three : n < 1000
  · have none : n / 1000 = 0 ∧ n / 100 % 10 = n / 100 := by omega
    rw [toDigits_step (by omega), toDigits_step (by omega), tens, Nat.toDigits_of_lt_base (by omega), none.1,
      none.2, zero]
    rfl
  · rw [toDigits_step (by omega), toDigits_step (by omega), tens, toDigits_step (by omega), hundreds,
      Nat.toDigits_of_lt_base (by omega)]
    rfl

theorem digitChar_lt {m n : Nat} (order : m < n) (digit : n < 10) : Nat.digitChar m < Nat.digitChar n := by
  have all : ∀ b < 10, ∀ a < b, Nat.digitChar a < Nat.digitChar b := by decide
  exact all n digit m order

/-- Numbers below 100 sort as their texts, whatever follows. -/
theorem two_lt {m n : Nat} (order : m < n) (few : n < 100) (cs ds : List Char) :
    two m ++ cs < two n ++ ds := by
  rw [two_eq few, two_eq (Nat.lt_trans order few)]
  simp only [List.cons_append, List.nil_append, List.cons_lt_cons_iff]
  by_cases tens : m / 10 < n / 10
  · exact .inl (digitChar_lt tens (by omega))
  · have same : m / 10 = n / 10 := by omega
    exact .inr ⟨congrArg _ same, .inl (digitChar_lt (by omega) (by omega))⟩

theorem four_lt {m n : Nat} (order : m < n) (few : n < 10000) (cs ds : List Char) :
    four m ++ cs < four n ++ ds := by
  rw [four_eq few, four_eq (Nat.lt_trans order few)]
  simp only [List.cons_append, List.nil_append, List.cons_lt_cons_iff]
  by_cases first : m / 1000 < n / 1000
  · exact .inl (digitChar_lt first (by omega))
  have same : m / 1000 = n / 1000 := by omega
  refine .inr ⟨congrArg _ same, ?_⟩
  by_cases second : m / 100 % 10 < n / 100 % 10
  · exact .inl (digitChar_lt second (by omega))
  have same' : m / 100 % 10 = n / 100 % 10 := by omega
  refine .inr ⟨congrArg _ same', ?_⟩
  by_cases third : m / 10 % 10 < n / 10 % 10
  · exact .inl (digitChar_lt third (by omega))
  have same'' : m / 10 % 10 = n / 10 % 10 := by omega
  exact .inr ⟨congrArg _ same'', .inl (digitChar_lt (by omega) (by omega))⟩

theorem civil_year_lt {day : Nat} (within : day < endOfTime) : (civil day).year < 10000 := by
  have last : civil endOfTime = ⟨10000, 1, 1⟩ := rfl
  obtain ⟨⟨first, _⟩, one, _⟩ := civil_bounds day
  have sooner := civil_mono within
  rw [last] at sooner
  rcases sooner with before | ⟨_, early | ⟨_, early⟩⟩
  · exact before
  · exact absurd early (Nat.not_lt.mpr first)
  · exact absurd early (Nat.not_lt.mpr one)

/-- Up to the year 9999 the texts of dates are in the order of the dates. -/
theorem dateText_lt {day day' : Nat} (order : day < day') (within : day' < endOfTime) :
    dateText day < dateText day' := by
  have year := civil_year_lt within
  obtain ⟨⟨_, month⟩, _, days⟩ := civil_bounds day'
  unfold dateText
  dsimp only
  rcases civil_mono order with sooner | ⟨same, later⟩
  · exact four_lt sooner year _ _
  · rw [same]
    refine List.append_left_lt (List.cons_lt_cons_iff.mpr (.inr ⟨rfl, ?_⟩))
    rcases later with sooner | ⟨same', later⟩
    · exact two_lt sooner (Nat.lt_trans month (by decide)) _ _
    · rw [same']
      refine List.append_left_lt (List.cons_lt_cons_iff.mpr (.inr ⟨rfl, ?_⟩))
      have last := two_lt later days [] []
      rwa [List.append_nil, List.append_nil] at last

/-! ## A time in its fields -/

def isLeap (year : Nat) : Prop := year % 4 = 0 ∧ (year % 100 ≠ 0 ∨ year % 400 = 0)

instance (year : Nat) : Decidable (isLeap year) := inferInstanceAs (Decidable (_ ∧ _))

def daysInMonth (year month : Nat) : Nat :=
  if month = 2 then if isLeap year then 29 else 28
  else if month ∈ [4, 6, 9, 11] then 30 else 31

/-- The bounds `datetime` keeps its fields in. -/
def Bounded (date : Civil) (hour minute second microsecond : Nat) : Prop :=
  (1 ≤ date.year ∧ date.year ≤ 9999) ∧ (1 ≤ date.month ∧ date.month ≤ 12) ∧
    (1 ≤ date.day ∧ date.day ≤ daysInMonth date.year date.month) ∧
    hour < 24 ∧ minute < 60 ∧ second < 60 ∧ microsecond < 1000000

instance (date : Civil) (hour minute second microsecond : Nat) :
    Decidable (Bounded date hour minute second microsecond) := inferInstanceAs (Decidable (_ ∧ _))

/-- A `datetime` in UTC. -/
structure DateTime where
  date : Civil
  hour : Nat
  minute : Nat
  second : Nat
  microsecond : Nat
  bounded : Bounded date hour minute second microsecond

namespace DateTime

/-- `%Y-%m-%dT%H:%M:%S`, and what follows. -/
def strftime (t : DateTime) (zone : List Char) : List Char :=
  four t.date.year ++ '-' :: (two t.date.month ++ '-' :: (two t.date.day ++ 'T' :: (two t.hour ++
    ':' :: (two t.minute ++ ':' :: (two t.second ++ zone)))))

/-- Without its microseconds. -/
def wholeSecond (t : DateTime) : DateTime :=
  { t with
    microsecond := 0
    bounded := by
      obtain ⟨year, month, day, hour, minute, second, _⟩ := t.bounded
      exact ⟨year, month, day, hour, minute, second, by decide⟩ }

/-- `+00:00`. -/
def utc : List Char := ['+', '0', '0', ':', '0', '0']

/-- The numbers of a text, date first. -/
def numbers (cs : List Char) : Civil × Nat × Nat × Nat :=
  let year := number cs
  let month := number year.2
  let day := number month.2
  let hour := number day.2
  let minute := number hour.2
  let second := number minute.2
  (⟨year.1, month.1, day.1⟩, hour.1, minute.1, second.1)

/-- `fromisoformat`, of the text of a whole second in UTC. -/
def fromisoformat (cs : List Char) : Option DateTime :=
  let (date, hour, minute, second) := numbers cs
  if bounded : Bounded date hour minute second 0 then
    let t : DateTime := ⟨date, hour, minute, second, 0, bounded⟩
    if t.strftime utc = cs then some t else none
  else none

theorem numbers_strftime (t : DateTime) :
    numbers (t.strftime utc) = (t.date, t.hour, t.minute, t.second) := by
  have dash : ('-').isDigit = false := rfl
  have letter : ('T').isDigit = false := rfl
  have colon : (':').isDigit = false := rfl
  have plus : ('+').isDigit = false := rfl
  simp only [numbers, strftime, utc, number_four _ dash, number_two _ dash, number_two _ letter,
    number_two _ colon, number_two _ plus]

theorem fromisoformat_strftime (t : DateTime) : fromisoformat (t.strftime utc) = some t.wholeSecond := by
  have bounded : Bounded t.date t.hour t.minute t.second 0 := t.wholeSecond.bounded
  rw [fromisoformat, numbers_strftime]
  dsimp only
  rw [dif_pos bounded]
  exact if_pos rfl

/-! ## To the microsecond -/

/-- A number of at least six digits. -/
def six (n : Nat) : List Char :=
  List.replicate (6 - (Nat.toDigits 10 n).length) '0' ++ Nat.toDigits 10 n

theorem digits_six (n : Nat) : ∀ d ∈ six n, d.isDigit = true := by
  intro d member
  rcases List.mem_append.mp member with zero | digit
  · rw [List.eq_of_mem_replicate zero]
    rfl
  · exact Nat.isDigit_of_mem_toDigits (by decide) (by decide) digit

theorem value_six (n : Nat) : Nat.ofDigitChars 10 (six n) 0 = n := by
  rw [six, Nat.ofDigitChars_append, Nat.ofDigitChars_replicate_zero, Nat.mul_zero]
  exact Nat.ofDigitChars_ten_toDigits

/-- `datetime.isoformat`, which leaves out a fraction of zero. -/
def isoformat (t : DateTime) : List Char :=
  t.strftime (if t.microsecond = 0 then utc else '.' :: (six t.microsecond ++ utc))

/-- The microseconds of a text that goes on after its seconds. -/
def fractionOf : List Char → Nat
  | '.' :: cs => (Calendar.number cs).1
  | _ => 0

/-- What follows the seconds of a text. -/
def afterSeconds (cs : List Char) : List Char :=
  (number (number (number (number (number cs).2).2).2).2).2.dropWhile Char.isDigit

/-- `fromisoformat`, of the text of a time in UTC. -/
def parse (cs : List Char) : Option DateTime :=
  let (date, hour, minute, second) := numbers cs
  let microsecond := fractionOf (afterSeconds cs)
  if bounded : Bounded date hour minute second microsecond then
    let t : DateTime := ⟨date, hour, minute, second, microsecond, bounded⟩
    if t.isoformat = cs then some t else none
  else none

/-- The numbers of a time, whatever follows its seconds. -/
theorem strftime_read (t : DateTime) {c : Char} (separator : c.isDigit = false) (rest : List Char) :
    numbers (t.strftime (c :: rest)) = (t.date, t.hour, t.minute, t.second) ∧
      afterSeconds (t.strftime (c :: rest)) = c :: rest := by
  have dash : ('-').isDigit = false := rfl
  have letter : ('T').isDigit = false := rfl
  have colon : (':').isDigit = false := rfl
  constructor
  · simp only [numbers, strftime, number_four _ dash, number_two _ dash, number_two _ letter,
      number_two _ colon, number_two _ separator]
  · simp only [afterSeconds, strftime, number_four _ dash, number_two _ dash, number_two _ letter,
      number_two _ colon]
    rw [List.dropWhile_append_of_pos (digits_two _), List.dropWhile_cons_of_neg (by simp [separator])]

/-- A time is read back to the microsecond. -/
theorem parse_isoformat (t : DateTime) : parse t.isoformat = some t := by
  have plus : ('+').isDigit = false := rfl
  have numbered : numbers t.isoformat = (t.date, t.hour, t.minute, t.second) ∧
      fractionOf (afterSeconds t.isoformat) = t.microsecond := by
    unfold isoformat
    split
    · rename_i whole
      obtain ⟨fields, after⟩ := strftime_read t plus ['0', '0', ':', '0', '0']
      exact ⟨fields, by rw [utc, after, whole, fractionOf]; simp⟩
    · obtain ⟨fields, after⟩ := strftime_read t (c := '.') rfl (six t.microsecond ++ utc)
      refine ⟨fields, ?_⟩
      rw [after, fractionOf, utc, number_append (digits_six _) plus, value_six]
  unfold parse
  rw [numbered.1, numbered.2]
  dsimp only
  rw [dif_pos t.bounded]
  exact if_pos rfl

end DateTime

end Library.Calendar
