import Mathlib.Algebra.Order.Field.Power
import Mathlib.Data.List.DropRight
import Mathlib.Data.String.Basic
import Mathlib.Tactic.Positivity
import StayRide.Lib.JsNumber

/-!
# Numbers and texts in JavaScript

`parseInt` reads the integer at the beginning of a text and ignores what follows;
`stringToNumber` is the conversion of a whole text to a number, with fractions and
exponents.  Both skip white space.  Numbers are exact.

`PrintedNumber` is a number with the digits that `String` prints: the conversion of a number
to a text writes it out, or uses an exponent when it is very large or very small.

Read as an integer, a text with an exponent can be anything: `5e-7` begins with a 5.  Without
one, a number below 1 never reads as a positive integer (`parseInt_of_below_one`).
-/

namespace StayRide.Lib

/-! ## Characters -/

/-- White space and ends of lines. -/
def isJsSpace (c : Char) : Bool :=
  [9, 10, 11, 12, 13, 32, 160, 5760, 8232, 8233, 8239, 8287, 12288, 65279].contains c.toNat ||
    8192 ≤ c.toNat && c.toNat ≤ 8202

/-- The value of a digit, which is one of `0` to `9`, `a` to `z` and `A` to `Z`; 36 for a
character that is none. -/
def digitValue (c : Char) : ℕ :=
  if 48 ≤ c.toNat ∧ c.toNat ≤ 57 then c.toNat - 48
  else if 97 ≤ c.toNat ∧ c.toNat ≤ 122 then c.toNat - 87
  else if 65 ≤ c.toNat ∧ c.toNat ≤ 90 then c.toNat - 55
  else 36

def isDigitIn (radix : ℕ) (c : Char) : Bool :=
  digitValue c < radix

/-- The number that is written by digits. -/
def numeral (radix : ℕ) (digits : List Char) : ℕ :=
  digits.foldl (fun n c => radix * n + digitValue c) 0

/-- A sign, if there is one, and what follows it. -/
def readSign : List Char → Bool × List Char
  | '-' :: cs => (true, cs)
  | '+' :: cs => (false, cs)
  | cs => (false, cs)

/-! ## Integers at the beginning of a text -/

/-- The radix, which is 16 after `0x`, and the digits. -/
def readRadix : List Char → ℕ × List Char
  | '0' :: 'x' :: cs => (16, cs)
  | '0' :: 'X' :: cs => (16, cs)
  | cs => (10, cs)

/-- The digits at the beginning, as a number. -/
def readUnsigned (cs : List Char) : Option ℕ :=
  let (radix, cs) := readRadix cs
  match cs.takeWhile (isDigitIn radix) with
  | [] => none
  | digits => some (numeral radix digits)

/-- `parseInt(text)`; `none` is `NaN`. -/
def parseInt (text : String) : Option ℤ :=
  let (negative, cs) := readSign (text.toList.dropWhile isJsSpace)
  (readUnsigned cs).map fun n : ℕ => if negative then -(n : ℤ) else n

/-! ## The number of a whole text -/

def trimSpaces (cs : List Char) : List Char :=
  (cs.dropWhile isJsSpace).rdropWhile isJsSpace

/-- What follows `0x`, `0o` or `0b`, with the radix. -/
def announcedRadix : List Char → Option (ℕ × List Char)
  | '0' :: c :: cs =>
      if c = 'x' ∨ c = 'X' then some (16, cs)
      else if c = 'o' ∨ c = 'O' then some (8, cs)
      else if c = 'b' ∨ c = 'B' then some (2, cs)
      else none
  | _ => none

/-- The digits after the point, if there is one, and what follows them. -/
def readFraction : List Char → List Char × List Char
  | '.' :: cs => (cs.takeWhile (isDigitIn 10), cs.dropWhile (isDigitIn 10))
  | cs => ([], cs)

/-- The exponent that ends a number, if there is one. -/
def readExponent : List Char → Option ℤ
  | [] => some 0
  | c :: cs =>
      let (negative, digits) := readSign cs
      if (c = 'e' ∨ c = 'E') ∧ digits ≠ [] ∧ digits.all (isDigitIn 10) = true then
        some (if negative then -(numeral 10 digits : ℤ) else numeral 10 digits)
      else none

/-- A decimal number without sign. -/
def readDecimal (cs : List Char) : Option ℚ :=
  let whole := cs.takeWhile (isDigitIn 10)
  let (fraction, rest) := readFraction (cs.dropWhile (isDigitIn 10))
  if whole = [] ∧ fraction = [] then none
  else (readExponent rest).map fun exponent : ℤ =>
    numeral 10 (whole ++ fraction) * (10 : ℚ) ^ (exponent - (fraction.length : ℤ))

def readLiteral (cs : List Char) : JsNumber :=
  let (negative, cs) := readSign cs
  if cs = "Infinity".toList then .infinite negative
  else
    match readDecimal cs with
    | none => .nan
    | some q => .finite (if negative then -q else q)

/-- `Number(text)` -/
def stringToNumber (text : String) : JsNumber :=
  match trimSpaces text.toList with
  | [] => .finite 0
  | cs =>
      match announcedRadix cs with
      | none => readLiteral cs
      | some (radix, digits) =>
          if digits ≠ [] ∧ digits.all (isDigitIn radix) = true then .finite (numeral radix digits)
          else .nan

namespace JsScalar

/-- The number that a value holds, as a number or as a text; `null` and `undefined` hold
none. -/
def content : JsScalar → Option JsNumber
  | .undefined | .null => none
  | .number x => some x
  | .text s => some (stringToNumber s)

/-- What is read back from JSON, which has no other numbers than the finite ones. -/
def throughJson : JsScalar → JsScalar
  | .number (.finite q) => .number (.finite q)
  | .number (.infinite _) | .number .nan => .null
  | value => value

end JsScalar

/-! ## Numbers as they are printed -/

/-- The shortest digits of a finite number other than zero: `0.digits` times ten to the power
of `point`.  There is no zero at the end of the digits. -/
structure PrintedDecimal where
  negative : Bool
  digits : ℕ
  point : ℤ
  digits_mod : digits % 10 ≠ 0

inductive PrintedNumber
  | zero
  | decimal (d : PrintedDecimal)
  | infinite (negative : Bool)
  | nan

namespace PrintedDecimal

variable (d : PrintedDecimal)

def digitChars : List Char :=
  Nat.toDigits 10 d.digits

/-- The value without the sign. -/
def magnitude : ℚ :=
  d.digits * (10 : ℚ) ^ (d.point - (d.digitChars.length : ℤ))

/-- The text without the sign: in full up to 21 places, with at most six zeros after the
point, and otherwise with an exponent. -/
def unsignedText : List Char :=
  if d.digitChars.length ≤ d.point ∧ d.point ≤ 21 then
    d.digitChars ++ List.replicate (d.point - d.digitChars.length).toNat '0'
  else if 0 < d.point ∧ d.point ≤ 21 then
    d.digitChars.take d.point.toNat ++ '.' :: d.digitChars.drop d.point.toNat
  else if -6 < d.point ∧ d.point ≤ 0 then
    '0' :: '.' :: (List.replicate (-d.point).toNat '0' ++ d.digitChars)
  else
    d.digitChars.take 1 ++ (if d.digitChars.length = 1 then [] else '.' :: d.digitChars.drop 1) ++
      'e' :: (if 0 < d.point - 1 then '+' else '-') :: Nat.toDigits 10 (d.point - 1).natAbs

end PrintedDecimal

namespace PrintedNumber

def toNumber : PrintedNumber → JsNumber
  | .zero => .finite 0
  | .decimal d => .finite (if d.negative then -d.magnitude else d.magnitude)
  | .infinite negative => .infinite negative
  | .nan => .nan

/-- `String(number)` -/
def toText : PrintedNumber → String
  | .zero => "0"
  | .decimal d => String.ofList (if d.negative then '-' :: d.unsignedText else d.unsignedText)
  | .infinite negative => if negative then "-Infinity" else "Infinity"
  | .nan => "NaN"

end PrintedNumber

example : parseInt "  -0x1Fg" = some (-31) ∧ parseInt "5e-7" = some 5 ∧ parseInt ".5" = none := by
  decide +kernel

example : stringToNumber " 5e-7 " = .finite (5 / 10000000) ∧
    stringToNumber "-.5" = .finite (-1 / 2) ∧ stringToNumber "0x1F" = .finite 31 ∧
    stringToNumber "12px" = .nan := by
  decide +kernel

example : (PrintedNumber.decimal ⟨false, 5, -6, by decide⟩).toText = "5e-7" ∧
    (PrintedNumber.decimal ⟨true, 125, 1, by decide⟩).toText = "-1.25" ∧
    (PrintedNumber.decimal ⟨false, 12, 22, by decide⟩).toText = "1.2e+21" := by
  decide +kernel

/-! ## Reading digits -/

theorem isDigitIn_ten (c : Char) : isDigitIn 10 c = c.isDigit := by
  have hdigit : c.isDigit = true ↔ 48 ≤ c.toNat ∧ c.toNat ≤ 57 := Char.isDigit_iff_toNat
  rw [Bool.eq_iff_iff, hdigit, isDigitIn, decide_eq_true_iff, digitValue]
  split_ifs <;> omega

theorem isDigitIn_zero : isDigitIn 10 '0' = true := by decide

theorem digitValue_of_isJsSpace {c : Char} (h : isJsSpace c = true) : digitValue c = 36 := by
  have hcode : c.toNat ∈ [9, 10, 11, 12, 13, 32, 160, 5760, 8232, 8233, 8239, 8287, 12288, 65279] ∨
      8192 ≤ c.toNat ∧ c.toNat ≤ 8202 := by
    simpa [isJsSpace] using h
  simp only [List.mem_cons, List.not_mem_nil, or_false] at hcode
  unfold digitValue
  split_ifs <;> omega

/-- What is no sign is left where it is. -/
theorem readSign_cons_of_ne {c : Char} {cs : List Char} (hminus : c ≠ '-') (hplus : c ≠ '+') :
    readSign (c :: cs) = (false, c :: cs) := by
  unfold readSign
  split
  · next heq => exact absurd (List.cons.inj heq).1 hminus
  · next heq => exact absurd (List.cons.inj heq).1 hplus
  · rfl

theorem numeral_append (radix : ℕ) (digits more : List Char) :
    numeral radix (digits ++ more) =
      numeral radix digits * radix ^ more.length + numeral radix more := by
  have hfold : ∀ init : ℕ, more.foldl (fun n c => radix * n + digitValue c) init =
      init * radix ^ more.length + numeral radix more := by
    unfold numeral
    induction more with
    | nil => simp
    | cons c cs ih =>
        intro init
        rw [List.foldl_cons, List.foldl_cons, ih, ih (radix * 0 + digitValue c), List.length_cons]
        ring
  rw [numeral, List.foldl_append]
  exact hfold _

/-- The usual notation is read back. -/
theorem numeral_toDigits (n : ℕ) : numeral 10 (Nat.toDigits 10 n) = n := by
  have hfold : ∀ (digits : List Char) (init : ℕ), (∀ c ∈ digits, c.isDigit = true) →
      digits.foldl (fun n c => 10 * n + digitValue c) init = Nat.ofDigitChars 10 digits init := by
    intro digits
    induction digits with
    | nil =>
        intro init _
        rw [Nat.ofDigitChars_nil]
        rfl
    | cons c cs ih =>
        intro init hdigits
        have hc : 48 ≤ c.toNat ∧ c.toNat ≤ 57 :=
          Char.isDigit_iff_toNat.mp (hdigits c List.mem_cons_self)
        rw [List.foldl_cons, ih _ fun c' hc' => hdigits c' (List.mem_cons_of_mem c hc'),
          Nat.ofDigitChars_cons, digitValue, if_pos hc]
        rfl
  rw [numeral, hfold _ 0 fun c => Nat.isDigit_of_mem_toDigits (by decide) (by decide),
    Nat.ofDigitChars_ten_toDigits]

theorem numeral_replicate_zero (k : ℕ) : numeral 10 (List.replicate k '0') = 0 := by
  induction k with
  | zero => rfl
  | succ k ih =>
      rw [List.replicate_succ', numeral_append, ih]
      rfl

/-- What may follow the digits of an integer: no further digit, and nothing that makes a
leading zero announce a radix. -/
def Stops (rest : List Char) : Prop :=
  ∀ c ∈ rest.head?, isDigitIn 10 c = false ∧ c ≠ 'x' ∧ c ≠ 'X'

theorem readRadix_eq_ten {c : Char} {cs : List Char}
    (h : c = '0' → ∀ c' ∈ cs.head?, c' ≠ 'x' ∧ c' ≠ 'X') :
    readRadix (c :: cs) = (10, c :: cs) := by
  unfold readRadix
  split
  · next heq =>
      obtain ⟨hzero, rfl⟩ := List.cons.inj heq
      exact absurd rfl (h hzero 'x' rfl).1
  · next heq =>
      obtain ⟨hzero, rfl⟩ := List.cons.inj heq
      exact absurd rfl (h hzero 'X' rfl).2
  · rfl

theorem takeWhile_append_stops {digits rest : List Char}
    (hdigits : ∀ c ∈ digits, isDigitIn 10 c = true) (hrest : Stops rest) :
    (digits ++ rest).takeWhile (isDigitIn 10) = digits := by
  have hnone : rest.takeWhile (isDigitIn 10) = [] := by
    cases rest with
    | nil => rfl
    | cons c cs => rw [List.takeWhile_cons_of_neg (by simp [(hrest c rfl).1])]
  rw [List.takeWhile_append_of_pos hdigits, hnone, List.append_nil]

/-- **Digits and what follows them**: the digits are read. -/
theorem readUnsigned_append {digits rest : List Char} (hne : digits ≠ [])
    (hdigits : ∀ c ∈ digits, isDigitIn 10 c = true) (hrest : Stops rest) :
    readUnsigned (digits ++ rest) = some (numeral 10 digits) := by
  obtain ⟨c, cs, rfl⟩ := List.exists_cons_of_ne_nil hne
  have hradix : readRadix (c :: (cs ++ rest)) = (10, c :: (cs ++ rest)) := by
    refine readRadix_eq_ten fun _ c' hc' => ?_
    cases cs with
    | nil => exact (hrest c' hc').2
    | cons d ds =>
        obtain rfl : d = c' := Option.some.inj hc'
        have hd := hdigits d (List.mem_cons_of_mem c List.mem_cons_self)
        constructor
        · rintro rfl
          exact absurd hd (by decide)
        · rintro rfl
          exact absurd hd (by decide)
  have htake := takeWhile_append_stops hdigits hrest
  unfold readUnsigned
  rw [List.cons_append, hradix]
  rw [List.cons_append] at htake
  simp only [htake]

theorem numeral_of_readUnsigned {cs : List Char} {m : ℕ} (h : readUnsigned cs = some m) :
    m = numeral (readRadix cs).1 ((readRadix cs).2.takeWhile (isDigitIn (readRadix cs).1)) := by
  unfold readUnsigned at h
  dsimp only at h
  split at h
  · cases h
  · exact (Option.some.inj h).symm

theorem readUnsigned_of_stops {rest : List Char} (hrest : Stops rest) :
    readUnsigned rest = none := by
  have htake : ([] ++ rest).takeWhile (isDigitIn 10) = [] :=
    takeWhile_append_stops (fun c hc => by cases hc) hrest
  rw [List.nil_append] at htake
  cases rest with
  | nil => rfl
  | cons c cs =>
      have hradix : readRadix (c :: cs) = (10, c :: cs) := by
        refine readRadix_eq_ten fun hzero => ?_
        have hc := (hrest c rfl).1
        rw [hzero, isDigitIn_zero] at hc
        cases hc
      unfold readUnsigned
      rw [hradix]
      simp only [htake]

/-! ## Numbers below one -/

/-- `x < q` -/
def JsNumber.IsBelow (x : JsNumber) (q : ℚ) : Prop :=
  match x with
  | .finite p => p < q
  | .infinite negative => negative = true
  | .nan => False

/-- The text has an `e`, which makes it a number with an exponent if it is a number. -/
def HasExponent (cs : List Char) : Prop :=
  'e' ∈ cs ∨ 'E' ∈ cs

theorem stops_of_spaces {cs : List Char} (h : ∀ c ∈ cs, isJsSpace c = true) : Stops cs := by
  intro c hc
  have hvalue := digitValue_of_isJsSpace (h c (List.mem_of_mem_head? hc))
  refine ⟨by simp [isDigitIn, hvalue], ?_, ?_⟩
  · rintro rfl
    exact absurd hvalue (by decide)
  · rintro rfl
    exact absurd hvalue (by decide)

theorem readSign_append {cs : List Char} (hne : cs ≠ []) (rest : List Char) :
    readSign (cs ++ rest) = ((readSign cs).1, (readSign cs).2 ++ rest) := by
  obtain ⟨c, cs, rfl⟩ := List.exists_cons_of_ne_nil hne
  by_cases hminus : c = '-'
  · subst hminus
    rfl
  · by_cases hplus : c = '+'
    · subst hplus
      rfl
    · rw [List.cons_append, readSign_cons_of_ne hminus hplus, readSign_cons_of_ne hminus hplus,
        List.cons_append]

/-- An exponent begins with its letter. -/
theorem letter_of_readExponent {c : Char} {cs : List Char} {exponent : ℤ}
    (h : readExponent (c :: cs) = some exponent) : c = 'e' ∨ c = 'E' := by
  cases hsign : readSign cs with
  | mk negative digits =>
      rw [readExponent, hsign] at h
      dsimp only at h
      split at h
      · next hletter => exact hletter.1
      · cases h

theorem mem_of_mem_readFraction {c : Char} {cs : List Char} (h : c ∈ (readFraction cs).2) :
    c ∈ cs := by
  unfold readFraction at h
  split at h
  · exact List.mem_cons_of_mem _ (List.dropWhile_sublist _ |>.mem h)
  · exact h

/-- After the digits of a decimal number comes a point, an exponent or nothing. -/
theorem stops_of_readDecimal {cs : List Char} {exponent : ℤ}
    (h : readExponent (readFraction (cs.dropWhile (isDigitIn 10))).2 = some exponent)
    {rest : List Char} (hrest : ∀ c ∈ rest, isJsSpace c = true) :
    Stops (cs.dropWhile (isDigitIn 10) ++ rest) := by
  have hdigit := List.head?_dropWhile_not (isDigitIn 10) cs
  cases hdrop : cs.dropWhile (isDigitIn 10) with
  | nil => exact stops_of_spaces hrest
  | cons c cs' =>
      rw [hdrop] at h hdigit
      intro c' hc'
      obtain rfl : c = c' := Option.some.inj hc'
      refine ⟨hdigit, ?_, ?_⟩
      · rintro rfl
        exact absurd (letter_of_readExponent h) (by decide)
      · rintro rfl
        exact absurd (letter_of_readExponent h) (by decide)

/-- **A decimal number below one** begins with zeros, if it has no exponent. -/
theorem readUnsigned_of_decimal {cs rest : List Char} {q : ℚ} {m : ℕ}
    (hq : readDecimal cs = some q) (hbelow : q < 1) (hplain : 0 < q → ¬ HasExponent cs)
    (hrest : ∀ c ∈ rest, isJsSpace c = true) (hm : readUnsigned (cs ++ rest) = some m) :
    m = 0 := by
  cases hfraction : readFraction (cs.dropWhile (isDigitIn 10)) with
  | mk fraction tail =>
  unfold readDecimal at hq
  rw [hfraction] at hq
  dsimp only at hq
  split at hq
  · cases hq
  obtain ⟨exponent, hexponent, rfl⟩ := Option.map_eq_some_iff.mp hq
  have hstops : Stops (cs.dropWhile (isDigitIn 10) ++ rest) :=
    stops_of_readDecimal (by rw [hfraction]; exact hexponent) hrest
  -- The digits before the point are what is read.
  have hwhole : cs.takeWhile (isDigitIn 10) ≠ [] ∧
      m = numeral 10 (cs.takeWhile (isDigitIn 10)) := by
    rw [← List.takeWhile_append_dropWhile (p := isDigitIn 10) (l := cs), List.append_assoc] at hm
    by_cases hnil : cs.takeWhile (isDigitIn 10) = []
    · rw [hnil, List.nil_append, readUnsigned_of_stops hstops] at hm
      cases hm
    · rw [readUnsigned_append hnil (fun c hc => List.mem_takeWhile_imp hc) hstops] at hm
      exact ⟨hnil, (Option.some.inj hm).symm⟩
  rw [hwhole.2]
  by_contra hpos
  -- Otherwise the number is positive, so that there is no exponent, and it is at least one.
  have hone : 1 ≤ numeral 10 (cs.takeWhile (isDigitIn 10)) := Nat.one_le_iff_ne_zero.mpr hpos
  have hlarge : (10 : ℚ) ^ fraction.length ≤
      numeral 10 (cs.takeWhile (isDigitIn 10) ++ fraction) := by
    rw [numeral_append]
    exact_mod_cast le_add_of_le_left (Nat.le_mul_of_pos_left _ hone)
  have hpositive : (0 : ℚ) < numeral 10 (cs.takeWhile (isDigitIn 10) ++ fraction) *
      (10 : ℚ) ^ (exponent - (fraction.length : ℤ)) :=
    mul_pos ((by positivity : (0 : ℚ) < 10 ^ fraction.length).trans_le hlarge) (by positivity)
  cases tail with
  | nil =>
      obtain rfl : 0 = exponent := Option.some.inj hexponent
      have hge : (1 : ℚ) ≤ numeral 10 (cs.takeWhile (isDigitIn 10) ++ fraction) *
          (10 : ℚ) ^ (0 - (fraction.length : ℤ)) := by
        rw [zero_sub, zpow_neg, zpow_natCast, ← div_eq_mul_inv, one_le_div (by positivity)]
        exact hlarge
      exact absurd hbelow (not_lt.mpr hge)
  | cons c cs' =>
      have hmem : c ∈ cs := by
        refine (List.dropWhile_sublist (isDigitIn 10)).mem (mem_of_mem_readFraction ?_)
        rw [hfraction]
        exact List.mem_cons_self
      refine hplain hpositive ?_
      rcases letter_of_readExponent hexponent with rfl | rfl
      · exact Or.inl hmem
      · exact Or.inr hmem

/-- The text that is trimmed, and the white space after it. -/
theorem dropWhile_eq_trimSpaces_append (cs : List Char) :
    ∃ rest, cs.dropWhile isJsSpace = trimSpaces cs ++ rest ∧ ∀ c ∈ rest, isJsSpace c = true := by
  refine ⟨((cs.dropWhile isJsSpace).reverse.takeWhile isJsSpace).reverse, ?_, ?_⟩
  · rw [trimSpaces, List.rdropWhile, ← List.reverse_append, List.takeWhile_append_dropWhile,
      List.reverse_reverse]
  · intro c hc
    exact List.mem_takeWhile_imp (List.mem_reverse.mp hc)

theorem mem_of_mem_trimSpaces {c : Char} {cs : List Char} (h : c ∈ trimSpaces cs) : c ∈ cs := by
  obtain ⟨rest, hsplit, -⟩ := dropWhile_eq_trimSpaces_append cs
  refine (List.dropWhile_sublist isJsSpace).mem ?_
  rw [hsplit]
  exact List.mem_append_left rest h

/-- Digits after an announced radix are not read, or read as they are. -/
theorem readUnsigned_of_announced {cs digits rest : List Char} {radix m : ℕ}
    (hradix : announcedRadix cs = some (radix, digits))
    (hdigits : ∀ c ∈ digits, isDigitIn radix c = true)
    (hrest : ∀ c ∈ rest, isJsSpace c = true) (hm : readUnsigned (cs ++ rest) = some m) :
    m = 0 ∨ m = numeral radix digits := by
  unfold announcedRadix at hradix
  split at hradix
  swap
  · cases hradix
  next c cs' =>
  -- After another letter than `x` only the zero is read.
  have hzero : c ≠ 'x' → c ≠ 'X' → isDigitIn 10 c = false → m = 0 := by
    intro hx hX hc
    have hread : readUnsigned (['0'] ++ (c :: (cs' ++ rest))) = some (numeral 10 ['0']) := by
      refine readUnsigned_append (List.cons_ne_nil _ _)
        (List.forall_mem_singleton.mpr isDigitIn_zero) fun c' hc' => ?_
      obtain rfl : c = c' := Option.some.inj hc'
      exact ⟨hc, hx, hX⟩
    exact Option.some.inj (hm.symm.trans hread)
  split_ifs at hradix with hx ho hb
  · obtain ⟨rfl, rfl⟩ := Prod.mk.inj (Option.some.inj hradix)
    refine Or.inr ?_
    have hnone : rest.takeWhile (isDigitIn 16) = [] := by
      cases rest with
      | nil => rfl
      | cons c' rest =>
          have hvalue := digitValue_of_isJsSpace (hrest c' List.mem_cons_self)
          rw [List.takeWhile_cons_of_neg (by simp [isDigitIn, hvalue])]
    have hread := numeral_of_readUnsigned hm
    have hhex : readRadix ('0' :: c :: cs' ++ rest) = (16, cs' ++ rest) := by
      rcases hx with rfl | rfl <;> rfl
    rw [hhex] at hread
    rw [hread, List.takeWhile_append_of_pos hdigits, hnone, List.append_nil]
  · refine Or.inl ?_
    rcases ho with rfl | rfl
    · exact hzero (by decide) (by decide) (by decide)
    · exact hzero (by decide) (by decide) (by decide)
  · refine Or.inl ?_
    rcases hb with rfl | rfl
    · exact hzero (by decide) (by decide) (by decide)
    · exact hzero (by decide) (by decide) (by decide)

theorem readSign_of_announced {cs digits : List Char} {radix : ℕ}
    (hradix : announcedRadix cs = some (radix, digits)) : readSign cs = (false, cs) := by
  unfold announcedRadix at hradix
  split at hradix
  · rfl
  · cases hradix

/-- What follows no sign or a plus. -/
theorem eq_of_readSign_eq_false {cs rest : List Char} (h : readSign cs = (false, rest)) :
    cs = rest ∨ cs = '+' :: rest := by
  unfold readSign at h
  split at h
  · cases h
  · exact Or.inr (congrArg _ (Prod.mk.inj h).2)
  · exact Or.inl (Prod.mk.inj h).2

/-- **A literal below one** does not read as a positive integer, if it has no exponent. -/
theorem readUnsigned_of_literal {cs rest digits : List Char} {m : ℕ}
    (hsign : readSign cs = (false, digits)) (hbelow : (readLiteral cs).IsBelow 1)
    (hplain : ∀ q, readLiteral cs = .finite q → 0 < q → ¬ HasExponent cs)
    (hrest : ∀ c ∈ rest, isJsSpace c = true) (hm : readUnsigned (digits ++ rest) = some m) :
    m = 0 := by
  unfold readLiteral at hbelow hplain
  rw [hsign] at hbelow hplain
  dsimp only at hbelow hplain
  split at hbelow
  · cases hbelow
  · next hfinite =>
      cases hdecimal : readDecimal digits with
      | none =>
          rw [hdecimal] at hbelow
          exact hbelow.elim
      | some q =>
          rw [hdecimal] at hbelow hplain
          refine readUnsigned_of_decimal hdecimal hbelow (fun hq hexponent => ?_) hrest hm
          have hsub : ∀ c ∈ digits, c ∈ cs := by
            intro c hc
            rcases eq_of_readSign_eq_false hsign with rfl | rfl
            · exact hc
            · exact List.mem_cons_of_mem _ hc
          exact hplain q (if_neg hfinite) hq (hexponent.imp (hsub _) (hsub _))

/-- The number of a text that is not empty. -/
theorem stringToNumber_of_ne_nil {text : String} (hne : trimSpaces text.toList ≠ []) :
    stringToNumber text =
      match announcedRadix (trimSpaces text.toList) with
      | none => readLiteral (trimSpaces text.toList)
      | some (radix, digits) =>
          if digits ≠ [] ∧ digits.all (isDigitIn radix) = true then .finite (numeral radix digits)
          else .nan := by
  unfold stringToNumber
  split
  · next hnil => exact absurd hnil hne
  · rfl

/-- **A text below one** does not read as a positive integer, unless it has an exponent. -/
theorem parseInt_of_below_one {text : String} (hbelow : (stringToNumber text).IsBelow 1)
    (hplain : ∀ q, stringToNumber text = .finite q → 0 < q → ¬ HasExponent text.toList)
    {n : ℤ} (hn : parseInt text = some n) : n ≤ 0 := by
  obtain ⟨rest, hsplit, hrest⟩ := dropWhile_eq_trimSpaces_append text.toList
  cases hsign : readSign (trimSpaces text.toList ++ rest) with
  | mk negative cs =>
  unfold parseInt at hn
  rw [hsplit, hsign] at hn
  obtain ⟨m, hm, rfl⟩ := Option.map_eq_some_iff.mp hn
  cases negative with
  | true => simp
  | false =>
  suffices hzero : m = 0 by simp [hzero]
  by_cases hne : trimSpaces text.toList = []
  · -- There is nothing but white space.
    rw [hne, List.nil_append] at hsign
    rcases eq_of_readSign_eq_false hsign with rfl | rfl
    · rw [readUnsigned_of_stops (stops_of_spaces hrest)] at hm
      cases hm
    · exact absurd (hrest '+' List.mem_cons_self) (by decide)
  · cases hread : readSign (trimSpaces text.toList) with
    | mk negative digits =>
    rw [readSign_append hne, hread] at hsign
    obtain ⟨rfl, rfl⟩ := Prod.mk.inj hsign
    rw [stringToNumber_of_ne_nil hne] at hbelow hplain
    cases hradix : announcedRadix (trimSpaces text.toList) with
    | none =>
        rw [hradix] at hbelow hplain
        refine readUnsigned_of_literal hread hbelow (fun q hvalue hq hexponent => ?_) hrest hm
        exact hplain q hvalue hq (hexponent.imp mem_of_mem_trimSpaces mem_of_mem_trimSpaces)
    | some announced =>
        obtain ⟨radix, announcedDigits⟩ := announced
        rw [hradix] at hbelow
        obtain ⟨-, rfl⟩ := Prod.mk.inj (hread.symm.trans (readSign_of_announced hradix))
        dsimp only at hbelow
        split at hbelow
        · next hdigits =>
            rw [JsNumber.IsBelow] at hbelow
            have hnone : numeral radix announcedDigits < 1 := by exact_mod_cast hbelow
            rcases readUnsigned_of_announced hradix (List.all_eq_true.mp hdigits.2) hrest hm with
              hzero | hvalue
            · exact hzero
            · exact hvalue.trans (Nat.lt_one_iff.mp hnone)
        · exact hbelow.elim

/-! ## Printed numbers -/

/-- **Digits at the beginning** of a text are its integer. -/
theorem parseInt_of_digits {text : String} {digits rest : List Char}
    (htext : text.toList = digits ++ rest) (hne : digits ≠ [])
    (hdigits : ∀ c ∈ digits, isDigitIn 10 c = true) (hrest : Stops rest) :
    parseInt text = some (numeral 10 digits : ℤ) := by
  have hread := readUnsigned_append hne hdigits hrest
  obtain ⟨c, cs, rfl⟩ := List.exists_cons_of_ne_nil hne
  have hc := hdigits c List.mem_cons_self
  -- A digit is neither white space nor a sign.
  have hspace : isJsSpace c = false := by
    by_contra hspace
    rw [isDigitIn, digitValue_of_isJsSpace (Bool.of_not_eq_false hspace)] at hc
    exact absurd hc (by decide)
  have hsign : readSign (c :: (cs ++ rest)) = (false, c :: (cs ++ rest)) := by
    refine readSign_cons_of_ne ?_ ?_
    · rintro rfl
      exact absurd hc (by decide)
    · rintro rfl
      exact absurd hc (by decide)
  rw [List.cons_append] at htext hread
  unfold parseInt
  rw [htext, List.dropWhile_cons_of_neg (by simp [hspace]), hsign]
  simp only [hread]
  rfl

theorem isDigitIn_of_mem_toDigits {n : ℕ} {c : Char} (hc : c ∈ Nat.toDigits 10 n) :
    isDigitIn 10 c = true := by
  rw [isDigitIn_ten]
  exact Nat.isDigit_of_mem_toDigits (by decide) (by decide) hc

theorem stops_nil : Stops [] := by
  intro c hc
  cases hc

/-- A natural number is read back from its text. -/
theorem parseInt_toString (n : ℕ) : parseInt (toString n) = some (n : ℤ) := by
  have htext : (toString n).toList = Nat.toDigits 10 n ++ [] := by
    rw [Nat.toString_eq_repr, Nat.toList_repr, List.append_nil]
  rw [parseInt_of_digits htext Nat.toDigits_ne_nil (fun c => isDigitIn_of_mem_toDigits) stops_nil,
    numeral_toDigits]

/-- A text with a minus is no positive integer. -/
theorem parseInt_of_minus {text : String} {cs : List Char} (htext : text.toList = '-' :: cs)
    {n : ℤ} (hn : parseInt text = some n) : n ≤ 0 := by
  have hspace : isJsSpace '-' = false := by decide
  have hsign : readSign ('-' :: cs) = (true, cs) := rfl
  unfold parseInt at hn
  rw [htext, List.dropWhile_cons_of_neg (by simp [hspace]), hsign] at hn
  obtain ⟨m, -, rfl⟩ := Option.map_eq_some_iff.mp hn
  simp

namespace PrintedDecimal

variable (d : PrintedDecimal)

theorem digits_pos : 0 < d.digits := by
  have hmod := d.digits_mod
  omega

theorem length_digitChars_pos : 0 < d.digitChars.length :=
  Nat.length_toDigits_pos

/-- The digits are no more than their number needs. -/
theorem pow_length_le_digits : 10 ^ (d.digitChars.length - 1) ≤ d.digits := by
  rcases Nat.lt_or_ge 1 d.digitChars.length with hlong | hshort
  · by_contra hlt
    have hle := (Nat.length_toDigits_le_iff (b := 10) (n := d.digits) (by decide)
      (Nat.sub_pos_of_lt hlong)).mpr (not_le.mp hlt)
    rw [digitChars] at hlong hle
    omega
  · have hone : d.digitChars.length - 1 = 0 := by omega
    rw [hone]
    exact d.digits_pos

/-- The first digit stands where the point says. -/
theorem le_magnitude : (10 : ℚ) ^ (d.point - 1) ≤ d.magnitude := by
  have hlength := d.length_digitChars_pos
  have hdigits : (10 : ℚ) ^ ((d.digitChars.length : ℤ) - 1) ≤ d.digits := by
    have hcast : ((d.digitChars.length : ℤ) - 1) = ((d.digitChars.length - 1 : ℕ) : ℤ) := by omega
    rw [hcast, zpow_natCast]
    exact_mod_cast d.pow_length_le_digits
  calc (10 : ℚ) ^ (d.point - 1)
      = 10 ^ ((d.digitChars.length : ℤ) - 1) * 10 ^ (d.point - (d.digitChars.length : ℤ)) := by
        rw [← zpow_add₀ (by norm_num)]
        congr 1
        ring
    _ ≤ d.digits * 10 ^ (d.point - (d.digitChars.length : ℤ)) := by
        gcongr

theorem magnitude_pos : 0 < d.magnitude :=
  (by positivity : (0 : ℚ) < 10 ^ (d.point - 1)).trans_le d.le_magnitude

/-- A number below a power of ten has its point before it. -/
theorem point_le_of_magnitude_lt {k : ℤ} (h : d.magnitude < (10 : ℚ) ^ k) : d.point ≤ k := by
  have hlt := (zpow_lt_zpow_iff_right₀ (by norm_num : (1 : ℚ) < 10)).mp (d.le_magnitude.trans_lt h)
  omega

/-- An integer has its point after the digits. -/
theorem length_le_point {k : ℕ} (h : d.magnitude = k) : (d.digitChars.length : ℤ) ≤ d.point := by
  by_contra hlt
  -- Otherwise the digits end with a zero.
  obtain ⟨j, hj⟩ := Int.eq_ofNat_of_zero_le (sub_nonneg.mpr (not_le.mp hlt).le)
  have hpos : 0 < j := by omega
  have hpoint : d.point - (d.digitChars.length : ℤ) = -(j : ℤ) := by omega
  rw [magnitude, hpoint, zpow_neg, zpow_natCast, ← div_eq_mul_inv,
    div_eq_iff (by positivity)] at h
  have hdigits : d.digits = k * 10 ^ j := by exact_mod_cast h
  refine d.digits_mod ?_
  rw [hdigits]
  exact Nat.mod_eq_zero_of_dvd (Dvd.dvd.mul_left (dvd_pow_self 10 hpos.ne') k)

/-- **The text of an integer** of at most 21 places: the digits and zeros. -/
theorem unsignedText_of_integer {k : ℕ} (h : d.magnitude = k) (hlt : k < 10 ^ 21) :
    ∃ j : ℕ, d.unsignedText = d.digitChars ++ List.replicate j '0' ∧ d.digits * 10 ^ j = k := by
  have hlength := d.length_le_point h
  have hpoint : d.point ≤ 21 := by
    refine d.point_le_of_magnitude_lt ?_
    rw [h]
    exact_mod_cast hlt
  obtain ⟨j, hj⟩ := Int.eq_ofNat_of_zero_le (sub_nonneg.mpr hlength)
  refine ⟨j, ?_, ?_⟩
  · rw [unsignedText, if_pos ⟨hlength, hpoint⟩, hj, Int.toNat_natCast]
  · rw [magnitude, hj, zpow_natCast] at h
    exact_mod_cast h

end PrintedDecimal

/-- **Integers are written out** up to 21 places, and read back. -/
theorem PrintedNumber.parseInt_toText {x : PrintedNumber} {k : ℕ}
    (hk : x.toNumber = .finite k) (hlt : k < 10 ^ 21) : parseInt x.toText = some (k : ℤ) := by
  cases x with
  | zero =>
      obtain rfl : k = 0 := by exact_mod_cast (JsNumber.finite.inj hk).symm
      decide
  | infinite negative => cases hk
  | nan => cases hk
  | decimal d =>
      have hvalue := JsNumber.finite.inj hk
      have hsign : d.negative = false := by
        by_contra hnegative
        rw [if_pos (Bool.of_not_eq_false hnegative)] at hvalue
        have hpos := d.magnitude_pos
        have hk0 : (0 : ℚ) ≤ k := Nat.cast_nonneg k
        linarith
      rw [if_neg (by simp [hsign])] at hvalue
      obtain ⟨j, hunsigned, hproduct⟩ := d.unsignedText_of_integer hvalue hlt
      have htext : (PrintedNumber.decimal d).toText.toList =
          (d.digitChars ++ List.replicate j '0') ++ [] := by
        rw [toText, String.toList_ofList, if_neg (by simp [hsign]), hunsigned, List.append_nil]
      have hdigits : ∀ c ∈ d.digitChars ++ List.replicate j '0', isDigitIn 10 c = true := by
        intro c hc
        rcases List.mem_append.mp hc with hc | hc
        · exact isDigitIn_of_mem_toDigits hc
        · rw [List.eq_of_mem_replicate hc]
          exact isDigitIn_zero
      have hne : d.digitChars ++ List.replicate j '0' ≠ [] :=
        List.append_ne_nil_of_left_ne_nil Nat.toDigits_ne_nil _
      have hnumeral : numeral 10 (d.digitChars ++ List.replicate j '0') = k := by
        rw [numeral_append, numeral_replicate_zero, List.length_replicate,
          PrintedDecimal.digitChars, numeral_toDigits, add_zero, hproduct]
      rw [parseInt_of_digits htext hne hdigits stops_nil, hnumeral]

/-- **A number below one** does not read as a positive integer, unless it is printed with an
exponent. -/
theorem PrintedNumber.parseInt_of_below_one {x : PrintedNumber} (hbelow : x.toNumber.IsBelow 1)
    (hplain : ∀ q, x.toNumber = .finite q → 0 < q → ¬ HasExponent x.toText.toList) {n : ℤ}
    (hn : parseInt x.toText = some n) : n ≤ 0 := by
  cases x with
  | zero =>
      obtain rfl : (0 : ℤ) = n := Option.some.inj hn
      exact le_rfl
  | nan => exact hbelow.elim
  | infinite negative =>
      obtain rfl : negative = true := hbelow
      exact parseInt_of_minus rfl hn
  | decimal d =>
      cases hsign : d.negative with
      | true =>
          have htext : (PrintedNumber.decimal d).toText.toList = '-' :: d.unsignedText := by
            rw [toText, String.toList_ofList, if_pos hsign]
          exact parseInt_of_minus htext hn
      | false =>
          have htext : (PrintedNumber.decimal d).toText.toList = d.unsignedText := by
            rw [toText, String.toList_ofList, if_neg (by simp [hsign])]
          have hvalue : (PrintedNumber.decimal d).toNumber = .finite d.magnitude := by
            rw [toNumber, if_neg (by simp [hsign])]
          rw [hvalue] at hbelow
          have hpoint : d.point ≤ 0 := d.point_le_of_magnitude_lt (by rw [zpow_zero]; exact hbelow)
          have hlength := d.length_digitChars_pos
          rw [PrintedDecimal.unsignedText, if_neg (by omega), if_neg (by omega)] at htext
          split at htext
          · -- The text begins with `0.`
            have hstops : Stops ('.' :: (List.replicate (-d.point).toNat '0' ++ d.digitChars)) := by
              intro c hc
              obtain rfl : '.' = c := Option.some.inj hc
              decide
            have hzero : parseInt (PrintedNumber.decimal d).toText = some (numeral 10 ['0'] : ℤ) :=
              parseInt_of_digits htext (List.cons_ne_nil _ _)
                (List.forall_mem_singleton.mpr isDigitIn_zero) hstops
            obtain rfl : ((numeral 10 ['0'] : ℕ) : ℤ) = n := Option.some.inj (hzero.symm.trans hn)
            decide
          · refine absurd (Or.inl ?_) (hplain _ hvalue d.magnitude_pos)
            rw [htext]
            simp

end StayRide.Lib
