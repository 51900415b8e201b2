import StayRide.Lib.CivilDate
import Mathlib.Data.String.Basic

/-!
# Dates as texts

`isoText` writes a day as `YYYY-MM-DD`, with zeros in front, and `readDate` reads it back
(`readDate_isoText`).  For the days of the years 1000 to 9999 (`IsoDay`) the text has ten
characters and texts compare as days do (`isoText_lt_isoText`).

Everything rests on numbers written with a fixed number of digits, `fixedDigits`: padding
the usual notation gives them (`toList_padStart`), and they compare as the numbers
(`fixedDigits_lt_fixedDigits`).
-/

namespace StayRide.Lib

/-! ## Fixed digits -/

/-- The last `k` digits of a number. -/
def fixedDigits : ℕ → ℕ → List Char
  | 0, _ => []
  | k + 1, n => fixedDigits k (n / 10) ++ [(n % 10).digitChar]

@[simp] theorem length_fixedDigits (k n : ℕ) : (fixedDigits k n).length = k := by
  induction k generalizing n with
  | zero => rfl
  | succ k ih => simp [fixedDigits, ih]

theorem fixedDigits_zero (k : ℕ) : fixedDigits k 0 = List.replicate k '0' := by
  induction k with
  | zero => rfl
  | succ k ih =>
      show fixedDigits k 0 ++ ['0'] = _
      rw [ih, List.replicate_succ']

/-- `padStart(length, "0")` -/
def padStart (length : ℕ) (text : String) : String :=
  String.ofList (List.replicate (length - text.toList.length) '0') ++ text

theorem padStart_of_le {length : ℕ} {text : String} (h : length ≤ text.toList.length) :
    padStart length text = text := by
  rw [padStart, Nat.sub_eq_zero_of_le h]
  exact String.empty_append

/-- Zeros in front of the usual notation give a fixed number of digits. -/
theorem replicate_append_toDigits {k n : ℕ} (hn : n < 10 ^ (k + 1)) :
    List.replicate (k + 1 - (Nat.toDigits 10 n).length) '0' ++ Nat.toDigits 10 n =
      fixedDigits (k + 1) n := by
  induction k generalizing n with
  | zero =>
      have hsmall : n < 10 := by omega
      rw [Nat.toDigits_of_lt_base hsmall]
      show [n.digitChar] = [(n % 10).digitChar]
      rw [Nat.mod_eq_of_lt hsmall]
  | succ k ih =>
      rw [fixedDigits]
      by_cases hsmall : n < 10
      · rw [Nat.toDigits_of_lt_base hsmall, Nat.mod_eq_of_lt hsmall, Nat.div_eq_of_lt hsmall,
          fixedDigits_zero]
        rfl
      · have hdigits := Nat.toDigits_of_base_le (by decide : 1 < 10) (not_lt.mp hsmall)
        have htens : n / 10 < 10 ^ (k + 1) := by
          rw [Nat.div_lt_iff_lt_mul (by decide), ← Nat.pow_succ]
          exact hn
        rw [hdigits, ← ih htens, List.length_append, List.length_singleton, Nat.add_sub_add_right,
          List.append_assoc]

theorem toList_padStart (k : ℕ) {n : ℕ} (hn : n < 10 ^ (k + 1)) :
    (padStart (k + 1) (toString n)).toList = fixedDigits (k + 1) n := by
  rw [padStart, String.toList_append, String.toList_ofList, Nat.toString_eq_repr,
    Nat.toList_repr, replicate_append_toDigits hn]

/-! ## Order -/

/-- Texts whose first parts have the same length compare by them, then by the rest. -/
theorem append_lt_append {a a' b b' : List Char} (hlength : a.length = a'.length)
    (h : a < a' ∨ a = a' ∧ b < b') : a ++ b < a' ++ b' := by
  induction a generalizing a' with
  | nil =>
      obtain rfl := List.length_eq_zero_iff.mp hlength.symm
      rcases h with h | h
      · exact absurd h (lt_irrefl _)
      · exact h.2
  | cons x a ih =>
      cases a' with
      | nil => cases hlength
      | cons x' a' =>
          rw [List.cons_append, List.cons_append, List.cons_lt_cons_iff]
          have hrest := ih (Nat.succ.inj hlength)
          rcases h with h | ⟨heq, h⟩
          · rcases List.cons_lt_cons_iff.mp h with hx | ⟨hx, h⟩
            · exact .inl hx
            · exact .inr ⟨hx, hrest (.inl h)⟩
          · obtain ⟨hx, rfl⟩ := List.cons.inj heq
            exact .inr ⟨hx, hrest (.inr ⟨rfl, h⟩)⟩

/-- Numbers with the same number of digits compare as their digits. -/
theorem fixedDigits_lt_fixedDigits {k n n' : ℕ} (h : n < n') (hn : n' < 10 ^ k) :
    fixedDigits k n < fixedDigits k n' := by
  induction k generalizing n n' with
  | zero => omega
  | succ k ih =>
      refine append_lt_append (by simp) ?_
      by_cases htens : n / 10 < n' / 10
      · exact .inl (ih htens (by rw [Nat.div_lt_iff_lt_mul (by decide), ← Nat.pow_succ]; exact hn))
      · -- The tens agree, so the last digits differ.
        have hsame : n / 10 = n' / 10 := by omega
        have hdigit : n % 10 < n' % 10 := by omega
        refine .inr ⟨by rw [hsame], ?_⟩
        have htable : ∀ i < 10, ∀ j < i, [j.digitChar] < [i.digitChar] := by decide
        exact htable _ (Nat.mod_lt _ (by decide)) _ hdigit

/-! ## The text of a day -/

/-- `YYYY-MM-DD` -/
def isoText (n : ℤ) : String :=
  padStart 4 (toString (CivilDate.ofDay n).year) ++ "-" ++
    padStart 2 (toString (CivilDate.ofDay n).month) ++ "-" ++
    padStart 2 (toString (CivilDate.ofDay n).day)

/-- The days whose year has four digits. -/
def IsoDay (n : ℤ) : Prop :=
  yearStart 1000 ≤ n ∧ n < yearStart 10000

instance (n : ℤ) : Decidable (IsoDay n) :=
  inferInstanceAs (Decidable (_ ∧ _))

/-- The days between two such days are such days. -/
theorem IsoDay.between {a n b : ℤ} (ha : IsoDay a) (hb : IsoDay b) (han : a ≤ n) (hnb : n ≤ b) :
    IsoDay n :=
  ⟨ha.1.trans han, hnb.trans_lt hb.2⟩

theorem IsoDay.year {n : ℤ} (h : IsoDay n) :
    ∃ year : ℕ, (CivilDate.ofDay n).year = year ∧ 1000 ≤ year ∧ year < 10000 := by
  obtain ⟨hlow, hhigh⟩ := (CivilDate.year_ofDay_iff n 1000 10000).mpr h
  exact ⟨(CivilDate.ofDay n).year.toNat, by omega, by omega, by omega⟩

/-- The characters of a date text. -/
theorem toList_isoText {n : ℤ} {year : ℕ} (hyear : (CivilDate.ofDay n).year = year)
    (hlt : year < 10000) :
    (isoText n).toList = fixedDigits 4 year ++ ('-' :: (fixedDigits 2 (CivilDate.ofDay n).month ++
      ('-' :: fixedDigits 2 (CivilDate.ofDay n).day))) := by
  have hyear' : (padStart 4 (toString (CivilDate.ofDay n).year)).toList = fixedDigits 4 year := by
    rw [hyear]
    exact toList_padStart 3 hlt
  have hmonth : (padStart 2 (toString (CivilDate.ofDay n).month)).toList =
      fixedDigits 2 (CivilDate.ofDay n).month :=
    toList_padStart 1 ((CivilDate.ofDay n).month_le.trans_lt (by decide))
  have hday : (padStart 2 (toString (CivilDate.ofDay n).day)).toList =
      fixedDigits 2 (CivilDate.ofDay n).day :=
    toList_padStart 1 ((CivilDate.ofDay n).day_le_31.trans_lt (by decide))
  have hdash : "-".toList = ['-'] := rfl
  simp only [isoText, String.toList_append, hyear', hmonth, hday, hdash, List.append_assoc,
    List.cons_append, List.nil_append]

/-- **Texts of dates compare as the dates.** -/
theorem isoText_lt_isoText {n n' : ℤ} (hn : IsoDay n) (hn' : IsoDay n') (h : n < n') :
    isoText n < isoText n' := by
  obtain ⟨year, hyear, -, hlt⟩ := IsoDay.year hn
  obtain ⟨year', hyear', -, hlt'⟩ := IsoDay.year hn'
  rw [String.lt_iff, toList_isoText hyear hlt, toList_isoText hyear' hlt']
  have horder := CivilDate.ofDay_lt h
  rw [hyear, hyear'] at horder
  refine append_lt_append (by simp) ?_
  rcases horder with hlater | ⟨hsame, hrest⟩
  · exact .inl (fixedDigits_lt_fixedDigits (by omega) hlt')
  · refine .inr ⟨by rw [Int.ofNat.inj hsame], List.cons_lt_cons_iff.mpr (.inr ⟨rfl, ?_⟩)⟩
    refine append_lt_append (by simp) ?_
    rcases hrest with hmonth | ⟨hmonth, hday⟩
    · exact .inl (fixedDigits_lt_fixedDigits hmonth
        ((CivilDate.ofDay n').month_le.trans_lt (by decide)))
    · refine .inr ⟨by rw [hmonth], List.cons_lt_cons_iff.mpr (.inr ⟨rfl, ?_⟩)⟩
      exact fixedDigits_lt_fixedDigits hday
        ((CivilDate.ofDay n').day_le_31.trans_lt (by decide))

/-- Two dates have two texts. -/
theorem eq_of_isoText_eq {n n' : ℤ} (hn : IsoDay n) (hn' : IsoDay n')
    (h : isoText n = isoText n') : n = n' := by
  by_contra hne
  rcases lt_or_gt_of_ne hne with hlt | hgt
  · have htext := isoText_lt_isoText hn hn' hlt
    rw [h] at htext
    exact String.lt_irrefl _ htext
  · have htext := isoText_lt_isoText hn' hn hgt
    rw [h] at htext
    exact String.lt_irrefl _ htext

/-! ## Reading a text -/

def readNumber (digits : List Char) : Option ℕ :=
  if digits.all Char.isDigit then some (Nat.ofDigitChars 10 digits 0) else none

/-- The date at the beginning of a text, and what follows it. -/
def readDate : List Char → Option (ℤ × List Char)
  | y₁ :: y₂ :: y₃ :: y₄ :: '-' :: m₁ :: m₂ :: '-' :: d₁ :: d₂ :: rest => do
      let year ← readNumber [y₁, y₂, y₃, y₄]
      let month ← readNumber [m₁, m₂]
      let day ← readNumber [d₁, d₂]
      if h : (1 ≤ month ∧ month ≤ 12) ∧ 1 ≤ day ∧ monthStart (isLeapYear year) month + day ≤
          monthStart (isLeapYear year) (month + 1) then
        return (CivilDate.toDay ⟨year, month, day, h.1.1, h.1.2, h.2.1, h.2.2⟩, rest)
      else none
  | _ => none

theorem readNumber_fixedDigits {k n : ℕ} (hn : n < 10 ^ k) :
    readNumber (fixedDigits k n) = some n := by
  have hdigits : (fixedDigits k n).all Char.isDigit = true ∧
      Nat.ofDigitChars 10 (fixedDigits k n) 0 = n := by
    induction k generalizing n with
    | zero => exact ⟨rfl, (Nat.lt_one_iff.mp hn).symm⟩
    | succ k ih =>
        obtain ⟨hall, hvalue⟩ := ih (n := n / 10)
          (by rw [Nat.div_lt_iff_lt_mul (by decide), ← Nat.pow_succ]; exact hn)
        have htable : ∀ i < 10, i.digitChar.isDigit = true ∧ i.digitChar.toNat - '0'.toNat = i := by
          decide
        obtain ⟨hdigit, hlast⟩ := htable _ (Nat.mod_lt n (by decide))
        refine ⟨by simp [fixedDigits, hall, hdigit], ?_⟩
        rw [fixedDigits, Nat.ofDigitChars_append, hvalue]
        show 10 * (n / 10) + _ = n
        rw [hlast]
        omega
  rw [readNumber, if_pos hdigits.1, hdigits.2]

/-- **What was written is read back**, whatever follows. -/
theorem readDate_isoText {n : ℤ} (hn : IsoDay n) (rest : List Char) :
    readDate ((isoText n).toList ++ rest) = some (n, rest) := by
  obtain ⟨year, hyear, -, hlt⟩ := hn.year
  have hmonth : (CivilDate.ofDay n).month < 10 ^ 2 :=
    (CivilDate.ofDay n).month_le.trans_lt (by decide)
  have hday : (CivilDate.ofDay n).day < 10 ^ 2 :=
    (CivilDate.ofDay n).day_le_31.trans_lt (by decide)
  have hyears := readNumber_fixedDigits (k := 4) hlt
  have hmonths := readNumber_fixedDigits hmonth
  have hdays := readNumber_fixedDigits hday
  -- Each number has its digits, one by one.
  obtain ⟨y₁, y₂, y₃, y₄, hy⟩ : ∃ y₁ y₂ y₃ y₄, fixedDigits 4 year = [y₁, y₂, y₃, y₄] :=
    ⟨_, _, _, _, rfl⟩
  obtain ⟨m₁, m₂, hm⟩ : ∃ m₁ m₂, fixedDigits 2 (CivilDate.ofDay n).month = [m₁, m₂] :=
    ⟨_, _, rfl⟩
  obtain ⟨d₁, d₂, hd⟩ : ∃ d₁ d₂, fixedDigits 2 (CivilDate.ofDay n).day = [d₁, d₂] :=
    ⟨_, _, rfl⟩
  rw [hy] at hyears
  rw [hm] at hmonths
  rw [hd] at hdays
  rw [toList_isoText hyear hlt, hy, hm, hd]
  have hvalid : (1 ≤ (CivilDate.ofDay n).month ∧ (CivilDate.ofDay n).month ≤ 12) ∧
      1 ≤ (CivilDate.ofDay n).day ∧
      monthStart (isLeapYear year) (CivilDate.ofDay n).month + (CivilDate.ofDay n).day ≤
        monthStart (isLeapYear year) ((CivilDate.ofDay n).month + 1) :=
    ⟨⟨(CivilDate.ofDay n).month_pos, (CivilDate.ofDay n).month_le⟩,
      (CivilDate.ofDay n).day_pos, hyear ▸ (CivilDate.ofDay n).day_le⟩
  have hday_number := CivilDate.toDay_ofDay n
  rw [CivilDate.toDay, CivilDate.dayOfYear, hyear] at hday_number
  simp only [List.cons_append, List.nil_append, readDate, hyears, hmonths, hdays,
    Option.bind_eq_bind, Option.bind_some, dif_pos hvalid]
  exact congrArg (fun day => some (day, rest)) hday_number

example : readDate ("2025-07-01T20:00:00".toList) = some (20270, "T20:00:00".toList) := by
  decide +kernel

end StayRide.Lib
