import StayRide.Lib.JsText

/-!
# Literals of JSON

The literals of a JSON text, as `JSON.stringify` writes them and `JSON.parse` reads them.
A string is escaped character by character; a number is printed as `String` prints it.
What is written is read back, whatever follows (`readString_escape`, `jsonNumber_jsonText`).

A text is a list of Unicode characters here.  An escaped surrogate without its other half
makes no such text, and is not read.
-/

namespace StayRide.Lib

/-! ## Strings -/

/-- A character between the quotes of a JSON string. -/
def escapeChar (c : Char) : List Char :=
  if c = '"' then ['\\', '"']
  else if c = '\\' then ['\\', '\\']
  else if c.toNat = 8 then ['\\', 'b']
  else if c.toNat = 9 then ['\\', 't']
  else if c.toNat = 10 then ['\\', 'n']
  else if c.toNat = 12 then ['\\', 'f']
  else if c.toNat = 13 then ['\\', 'r']
  else if c.toNat < 32 then
    ['\\', 'u', '0', '0', Nat.digitChar (c.toNat / 16), Nat.digitChar (c.toNat % 16)]
  else [c]

/-- The character after a backslash stands for this one. -/
def unescaped : Char → Option Char
  | '"' => some '"'
  | '\\' => some '\\'
  | '/' => some '/'
  | 'b' => some (Char.ofNat 8)
  | 'f' => some (Char.ofNat 12)
  | 'n' => some (Char.ofNat 10)
  | 'r' => some (Char.ofNat 13)
  | 't' => some (Char.ofNat 9)
  | _ => none

/-- Four hexadecimal digits. -/
def hexUnit (a b c d : Char) : Option ℕ :=
  if [a, b, c, d].all (isDigitIn 16) then some (numeral 16 [a, b, c, d]) else none

/-- The rest of a string after its first quote, and what follows the last one. -/
def readString : List Char → Option (List Char × List Char)
  | [] => none
  | '"' :: cs => some ([], cs)
  | '\\' :: 'u' :: a :: b :: c :: d :: cs =>
      match hexUnit a b c d with
      | none => none
      | some unit =>
          if 0xD800 ≤ unit ∧ unit < 0xDC00 then
            match cs with
            | '\\' :: 'u' :: a' :: b' :: c' :: d' :: cs' =>
                match hexUnit a' b' c' d' with
                | none => none
                | some low =>
                    if 0xDC00 ≤ low ∧ low < 0xE000 then
                      (readString cs').map fun read =>
                        (Char.ofNat (0x10000 + (unit - 0xD800) * 0x400 + (low - 0xDC00)) :: read.1,
                          read.2)
                    else none
            | _ => none
          else if 0xDC00 ≤ unit ∧ unit < 0xE000 then none
          else (readString cs).map fun read => (Char.ofNat unit :: read.1, read.2)
  | '\\' :: e :: cs =>
      match unescaped e with
      | none => none
      | some c => (readString cs).map fun read => (c :: read.1, read.2)
  | c :: cs =>
      if c.toNat < 32 ∨ c = '\\' then none
      else (readString cs).map fun read => (c :: read.1, read.2)

example : readString "h\\u00e9\\ud83d\\ude00\\n\" rest".toList =
    some ("hé😀\n".toList, " rest".toList) := by
  decide +kernel

/-- Two hexadecimal digits of a character below 32 are read back. -/
theorem hexUnit_digitChar {n : ℕ} (h : n < 32) :
    hexUnit '0' '0' (Nat.digitChar (n / 16)) (Nat.digitChar (n % 16)) = some n := by
  have hall : ∀ n < 32, hexUnit '0' '0' (Nat.digitChar (n / 16)) (Nat.digitChar (n % 16)) =
      some n := by
    decide +kernel
  exact hall n h

theorem readString_escapeChar (c : Char) (rest : List Char) :
    readString (escapeChar c ++ rest) =
      (readString rest).map fun read => (c :: read.1, read.2) := by
  have hchar : ∀ n, c.toNat = n → c = Char.ofNat n := fun n h => by rw [← h, Char.ofNat_toNat]
  unfold escapeChar
  split_ifs with hquote hslash hb ht hn hf hr hcontrol
  · subst hquote
    rfl
  · subst hslash
    rfl
  · rw [hchar 8 hb]
    rfl
  · rw [hchar 9 ht]
    rfl
  · rw [hchar 10 hn]
    rfl
  · rw [hchar 12 hf]
    rfl
  · rw [hchar 13 hr]
    rfl
  · have hunit := hexUnit_digitChar hcontrol
    simp only [List.cons_append, List.nil_append, readString, hunit]
    rw [if_neg (by omega), if_neg (by omega), Char.ofNat_toNat]
  · simp only [List.cons_append, List.nil_append]
    rw [readString.eq_def]
    split
    · next h => cases h
    · next h => exact absurd (List.cons.inj h).1 hquote
    · next h => exact absurd (List.cons.inj h).1 hslash
    · next h => exact absurd (List.cons.inj h).1 hslash
    · next h =>
        obtain ⟨rfl, rfl⟩ := List.cons.inj h
        rw [if_neg (by simp [hcontrol, hslash])]

/-- **A string is read back**, whatever follows it. -/
theorem readString_escape (cs rest : List Char) :
    readString (cs.flatMap escapeChar ++ '"' :: rest) = some (cs, rest) := by
  induction cs with
  | nil => rfl
  | cons c cs ih =>
      rw [List.flatMap_cons, List.append_assoc, readString_escapeChar, ih]
      rfl

/-! ## Numbers -/

/-- A number of JSON has no zero before its first digit, and digits after its point. -/
def IsJsonNumeral (cs : List Char) : Prop :=
  (cs.takeWhile (isDigitIn 10) = ['0'] ∨
    cs.takeWhile (isDigitIn 10) ≠ [] ∧ cs.head? ≠ some '0') ∧
  ((cs.dropWhile (isDigitIn 10)).head? = some '.' →
    (readFraction (cs.dropWhile (isDigitIn 10))).1 ≠ [])

instance (cs : List Char) : Decidable (IsJsonNumeral cs) :=
  inferInstanceAs (Decidable (_ ∧ _))

def jsonNumberUnsigned (cs : List Char) : Option ℚ :=
  if IsJsonNumeral cs then readDecimal cs else none

/-- The number that is written by a whole list of characters. -/
def jsonNumber : List Char → Option ℚ
  | '-' :: cs => (jsonNumberUnsigned cs).map fun q => -q
  | cs => jsonNumberUnsigned cs

/-- The characters that a number can be written with. -/
def isNumberChar (c : Char) : Bool :=
  isDigitIn 10 c || c = '-' || c = '+' || c = '.' || c = 'e' || c = 'E'

/-- Digits, a fraction and an exponent. -/
def numberText (whole fraction exponent : List Char) : List Char :=
  whole ++ ((if fraction = [] then [] else '.' :: fraction) ++ exponent)

/-- Digits before and after the point, with an exponent that can be read. -/
structure NumberParts (whole fraction exponent : List Char) (e : ℤ) : Prop where
  whole_digits : ∀ c ∈ whole, isDigitIn 10 c = true
  whole_ne_nil : whole ≠ []
  fraction_digits : ∀ c ∈ fraction, isDigitIn 10 c = true
  readExponent : Lib.readExponent exponent = some e

namespace NumberParts

variable {whole fraction exponent : List Char} {e : ℤ}

/-- An exponent is no digit and no point. -/
theorem head_exponent (h : NumberParts whole fraction exponent e) {c : Char}
    (hc : c ∈ exponent.head?) : isDigitIn 10 c = false ∧ c ≠ '.' := by
  cases exponent with
  | nil => cases hc
  | cons c' cs =>
      obtain rfl : c' = c := Option.some.inj hc
      rcases letter_of_readExponent h.readExponent with rfl | rfl <;> decide

theorem takeWhile_eq {digits rest : List Char} (hdigits : ∀ c ∈ digits, isDigitIn 10 c = true)
    (hrest : ∀ c ∈ rest.head?, isDigitIn 10 c = false) :
    (digits ++ rest).takeWhile (isDigitIn 10) = digits := by
  have hnone : rest.takeWhile (isDigitIn 10) = [] := by
    cases rest with
    | nil => rfl
    | cons c cs => rw [List.takeWhile_cons_of_neg (by simp [hrest c rfl])]
  rw [List.takeWhile_append_of_pos hdigits, hnone, List.append_nil]

theorem dropWhile_eq {digits rest : List Char} (hdigits : ∀ c ∈ digits, isDigitIn 10 c = true)
    (hrest : ∀ c ∈ rest.head?, isDigitIn 10 c = false) :
    (digits ++ rest).dropWhile (isDigitIn 10) = rest := by
  have hsplit := List.takeWhile_append_dropWhile (p := isDigitIn 10) (l := digits ++ rest)
  rw [takeWhile_eq hdigits hrest] at hsplit
  exact List.append_cancel_left hsplit

theorem head_rest (h : NumberParts whole fraction exponent e) {c : Char}
    (hc : c ∈ ((if fraction = [] then [] else '.' :: fraction) ++ exponent).head?) :
    isDigitIn 10 c = false := by
  by_cases hfraction : fraction = []
  · rw [if_pos hfraction, List.nil_append] at hc
    exact (h.head_exponent hc).1
  · rw [if_neg hfraction] at hc
    obtain rfl : '.' = c := Option.some.inj hc
    decide

theorem takeWhile_numberText (h : NumberParts whole fraction exponent e) :
    (numberText whole fraction exponent).takeWhile (isDigitIn 10) = whole :=
  takeWhile_eq h.whole_digits fun _ => h.head_rest

theorem dropWhile_numberText (h : NumberParts whole fraction exponent e) :
    (numberText whole fraction exponent).dropWhile (isDigitIn 10) =
      (if fraction = [] then [] else '.' :: fraction) ++ exponent :=
  dropWhile_eq h.whole_digits fun _ => h.head_rest

theorem readFraction_rest (h : NumberParts whole fraction exponent e) :
    readFraction ((if fraction = [] then [] else '.' :: fraction) ++ exponent) =
      (fraction, exponent) := by
  by_cases hfraction : fraction = []
  · rw [if_pos hfraction, List.nil_append, hfraction]
    unfold readFraction
    split
    · exact absurd rfl (h.head_exponent rfl).2
    · rfl
  · rw [if_neg hfraction, List.cons_append, readFraction,
      takeWhile_eq h.fraction_digits fun _ hc => (h.head_exponent hc).1,
      dropWhile_eq h.fraction_digits fun _ hc => (h.head_exponent hc).1]

/-- **The parts of a number are read.** -/
theorem readDecimal_numberText (h : NumberParts whole fraction exponent e) :
    readDecimal (numberText whole fraction exponent) =
      some (numeral 10 (whole ++ fraction) * (10 : ℚ) ^ (e - (fraction.length : ℤ))) := by
  unfold readDecimal
  simp only [h.takeWhile_numberText, h.dropWhile_numberText, h.readFraction_rest]
  rw [if_neg fun hnil => h.whole_ne_nil hnil.1, h.readExponent]
  rfl

theorem isJsonNumeral (h : NumberParts whole fraction exponent e)
    (hzero : whole = ['0'] ∨ whole.head? ≠ some '0') :
    IsJsonNumeral (numberText whole fraction exponent) := by
  rw [IsJsonNumeral, h.takeWhile_numberText, h.dropWhile_numberText, h.readFraction_rest]
  refine ⟨hzero.imp_right fun hhead => ⟨h.whole_ne_nil, ?_⟩, fun hpoint hnil => ?_⟩
  · rw [numberText, List.head?_append_of_ne_nil _ h.whole_ne_nil]
    exact hhead
  · rw [if_pos (show fraction = [] from hnil), List.nil_append] at hpoint
    exact (h.head_exponent hpoint).2 rfl

end NumberParts

/-- The text is a number of JSON that is worth `q`. -/
def Writes (text : List Char) (q : ℚ) : Prop :=
  ∃ whole fraction exponent e, NumberParts whole fraction exponent e ∧
    (whole = ['0'] ∨ whole.head? ≠ some '0') ∧ text = numberText whole fraction exponent ∧
    q = numeral 10 (whole ++ fraction) * (10 : ℚ) ^ (e - (fraction.length : ℤ))

theorem Writes.jsonNumberUnsigned {text : List Char} {q : ℚ} (h : Writes text q) :
    jsonNumberUnsigned text = some q := by
  obtain ⟨whole, fraction, exponent, e, hparts, hzero, rfl, rfl⟩ := h
  rw [Lib.jsonNumberUnsigned, if_pos (hparts.isJsonNumeral hzero), hparts.readDecimal_numberText]

theorem isNumberChar_of_digit {c : Char} (h : isDigitIn 10 c = true) : isNumberChar c = true := by
  simp [isNumberChar, h]

theorem isNumberChar_of_readExponent {cs : List Char} {e : ℤ} (h : readExponent cs = some e) :
    ∀ c ∈ cs, isNumberChar c = true := by
  cases cs with
  | nil =>
      intro c hc
      cases hc
  | cons letter cs =>
      cases hsign : readSign cs with
      | mk negative digits =>
          rw [readExponent, hsign] at h
          dsimp only at h
          split at h
          swap
          · cases h
          next hexponent =>
          have hdigits : ∀ c ∈ digits, isNumberChar c = true := fun c hc =>
            isNumberChar_of_digit (List.all_eq_true.mp hexponent.2.2 c hc)
          have hcs : ∀ c ∈ cs, isNumberChar c = true := by
            unfold readSign at hsign
            split at hsign
            · obtain ⟨-, rfl⟩ := Prod.mk.inj hsign
              exact List.forall_mem_cons.mpr ⟨by decide, hdigits⟩
            · obtain ⟨-, rfl⟩ := Prod.mk.inj hsign
              exact List.forall_mem_cons.mpr ⟨by decide, hdigits⟩
            · obtain ⟨-, rfl⟩ := Prod.mk.inj hsign
              exact hdigits
          refine List.forall_mem_cons.mpr ⟨?_, hcs⟩
          rcases hexponent.1 with rfl | rfl <;> decide

theorem Writes.isNumberChar {text : List Char} {q : ℚ} (h : Writes text q) :
    ∀ c ∈ text, isNumberChar c = true := by
  obtain ⟨whole, fraction, exponent, e, hparts, -, rfl, -⟩ := h
  intro c hc
  rcases List.mem_append.mp hc with hwhole | hrest
  · exact isNumberChar_of_digit (hparts.whole_digits c hwhole)
  · rcases List.mem_append.mp hrest with hfraction | hexponent
    · split_ifs at hfraction
      · cases hfraction
      · rcases List.mem_cons.mp hfraction with rfl | hdigit
        · decide
        · exact isNumberChar_of_digit (hparts.fraction_digits c hdigit)
    · exact isNumberChar_of_readExponent hparts.readExponent c hexponent

/-- A number without sign begins with a digit. -/
theorem Writes.head {text : List Char} {q : ℚ} (h : Writes text q) :
    ∃ c cs, text = c :: cs ∧ isDigitIn 10 c = true := by
  obtain ⟨whole, fraction, exponent, e, hparts, -, rfl, -⟩ := h
  obtain ⟨c, cs, rfl⟩ := List.exists_cons_of_ne_nil hparts.whole_ne_nil
  exact ⟨c, _, rfl, hparts.whole_digits c List.mem_cons_self⟩

theorem numeral_lt_pow {digits : List Char} (h : ∀ c ∈ digits, isDigitIn 10 c = true) :
    numeral 10 digits < 10 ^ digits.length := by
  induction digits using List.reverseRecOn with
  | nil => decide
  | append_singleton digits c ih =>
      have hdigits := ih fun c' hc' => h c' (List.mem_append_left _ hc')
      have hc : digitValue c < 10 :=
        of_decide_eq_true (h c (List.mem_append_right _ (List.mem_singleton_self c)))
      have hlast : numeral 10 [c] = digitValue c := by
        rw [numeral, List.foldl_cons, List.foldl_nil, Nat.mul_zero, Nat.zero_add]
      rw [numeral_append, hlast, List.length_append, List.length_singleton, pow_one,
        pow_succ]
      omega

namespace PrintedDecimal

variable (d : PrintedDecimal)

theorem digitChars_digits : ∀ c ∈ d.digitChars, isDigitIn 10 c = true :=
  fun _ => isDigitIn_of_mem_toDigits

theorem digitChars_ne_nil : d.digitChars ≠ [] :=
  List.length_pos_iff.mp d.length_digitChars_pos

theorem numeral_digitChars : numeral 10 d.digitChars = d.digits :=
  numeral_toDigits d.digits

/-- The first digit is no zero. -/
theorem head_digitChars : d.digitChars.head? ≠ some '0' := by
  intro hhead
  obtain ⟨cs, hcs⟩ := List.head?_eq_some_iff.mp hhead
  have hsmall : numeral 10 cs < 10 ^ cs.length :=
    numeral_lt_pow fun c hc => d.digitChars_digits c (hcs ▸ List.mem_cons_of_mem _ hc)
  have hvalue : numeral 10 cs = d.digits := by
    rw [← d.numeral_digitChars, hcs, ← List.singleton_append, numeral_append]
    show _ = 0 * 10 ^ cs.length + _
    rw [Nat.zero_mul, Nat.zero_add]
  have hlarge := d.pow_length_le_digits
  rw [hcs, List.length_cons, Nat.add_sub_cancel] at hlarge
  omega

theorem writes_integer (h : (d.digitChars.length : ℤ) ≤ d.point) :
    Writes (d.digitChars ++ List.replicate (d.point - d.digitChars.length).toNat '0')
      d.magnitude := by
  refine ⟨d.digitChars ++ List.replicate (d.point - d.digitChars.length).toNat '0', [], [], 0,
    ⟨?_, ?_, ?_, rfl⟩, .inr ?_, ?_, ?_⟩
  · intro c hc
    rcases List.mem_append.mp hc with hc | hc
    · exact d.digitChars_digits c hc
    · rw [List.eq_of_mem_replicate hc]
      exact isDigitIn_zero
  · exact List.append_ne_nil_of_left_ne_nil d.digitChars_ne_nil _
  · intro c hc
    cases hc
  · rw [List.head?_append_of_ne_nil _ d.digitChars_ne_nil]
    exact d.head_digitChars
  · rw [numberText, if_pos rfl, List.append_nil, List.append_nil]
  · have hzeros : d.point - (d.digitChars.length : ℤ) =
        ((d.point - d.digitChars.length).toNat : ℤ) := by omega
    rw [magnitude, hzeros, List.append_nil, numeral_append, numeral_replicate_zero,
      numeral_digitChars, List.length_replicate, zpow_natCast]
    push_cast
    simp

theorem writes_point (h : 0 < d.point) (hlt : d.point < d.digitChars.length) :
    Writes (d.digitChars.take d.point.toNat ++ '.' :: d.digitChars.drop d.point.toNat)
      d.magnitude := by
  have hnat : (d.point.toNat : ℤ) = d.point := Int.toNat_of_nonneg h.le
  have hne : d.digitChars.drop d.point.toNat ≠ [] := by
    rw [Ne, List.drop_eq_nil_iff]
    omega
  refine ⟨d.digitChars.take d.point.toNat, d.digitChars.drop d.point.toNat, [], 0,
    ⟨?_, ?_, ?_, rfl⟩, .inr ?_, ?_, ?_⟩
  · exact fun c hc => d.digitChars_digits c (List.mem_of_mem_take hc)
  · rw [Ne, List.take_eq_nil_iff]
    exact not_or.mpr ⟨by omega, d.digitChars_ne_nil⟩
  · exact fun c hc => d.digitChars_digits c (List.mem_of_mem_drop hc)
  · rw [List.head?_take, if_neg (by omega)]
    exact d.head_digitChars
  · rw [numberText, if_neg hne, List.append_nil]
  · have hexp : d.point - (d.digitChars.length : ℤ) =
        0 - ((d.digitChars.drop d.point.toNat).length : ℤ) := by
      rw [List.length_drop]
      omega
    rw [magnitude, List.take_append_drop, numeral_digitChars, hexp]

theorem writes_small (h : d.point ≤ 0) :
    Writes ('0' :: '.' :: (List.replicate (-d.point).toNat '0' ++ d.digitChars)) d.magnitude := by
  have hne : List.replicate (-d.point).toNat '0' ++ d.digitChars ≠ [] :=
    List.append_ne_nil_of_right_ne_nil _ d.digitChars_ne_nil
  refine ⟨['0'], List.replicate (-d.point).toNat '0' ++ d.digitChars, [], 0,
    ⟨?_, List.cons_ne_nil _ _, ?_, rfl⟩, .inl rfl, ?_, ?_⟩
  · exact List.forall_mem_singleton.mpr isDigitIn_zero
  · intro c hc
    rcases List.mem_append.mp hc with hc | hc
    · rw [List.eq_of_mem_replicate hc]
      exact isDigitIn_zero
    · exact d.digitChars_digits c hc
  · rw [numberText, if_neg hne, List.append_nil]
    rfl
  · have hexp : d.point - (d.digitChars.length : ℤ) =
        0 - ((List.replicate (-d.point).toNat '0' ++ d.digitChars).length : ℤ) := by
      rw [List.length_append, List.length_replicate]
      omega
    have hvalue : numeral 10 (['0'] ++ (List.replicate (-d.point).toNat '0' ++ d.digitChars)) =
        d.digits := by
      have hzeros : ['0'] ++ List.replicate (-d.point).toNat '0' =
          List.replicate ((-d.point).toNat + 1) '0' := rfl
      rw [← List.append_assoc, hzeros, numeral_append, numeral_replicate_zero,
        numeral_digitChars, Nat.zero_mul, Nat.zero_add]
    rw [magnitude, hvalue, hexp]

/-- The exponent that is printed. -/
theorem readExponent_point (point : ℤ) :
    readExponent ('e' :: (if 0 < point - 1 then '+' else '-') ::
      Nat.toDigits 10 (point - 1).natAbs) = some (point - 1) := by
  have hdigits : (Nat.toDigits 10 (point - 1).natAbs).all (isDigitIn 10) = true :=
    List.all_eq_true.mpr fun c => isDigitIn_of_mem_toDigits
  by_cases hpos : 0 < point - 1
  · rw [if_pos hpos]
    unfold readExponent
    simp only [readSign]
    rw [if_pos ⟨.inl trivial, Nat.toDigits_ne_nil, hdigits⟩, numeral_toDigits]
    simp only [Bool.false_eq_true, if_false, Option.some.injEq]
    omega
  · rw [if_neg hpos]
    unfold readExponent
    simp only [readSign]
    rw [if_pos ⟨.inl trivial, Nat.toDigits_ne_nil, hdigits⟩, numeral_toDigits]
    simp only [if_true, Option.some.injEq]
    omega

theorem writes_exponent :
    Writes (d.digitChars.take 1 ++
      (if d.digitChars.length = 1 then [] else '.' :: d.digitChars.drop 1) ++
        'e' :: (if 0 < d.point - 1 then '+' else '-') :: Nat.toDigits 10 (d.point - 1).natAbs)
      d.magnitude := by
  have hlength := d.length_digitChars_pos
  refine ⟨d.digitChars.take 1, d.digitChars.drop 1, _, d.point - 1,
    ⟨?_, ?_, ?_, readExponent_point d.point⟩, .inr ?_, ?_, ?_⟩
  · exact fun c hc => d.digitChars_digits c (List.mem_of_mem_take hc)
  · rw [Ne, List.take_eq_nil_iff]
    exact not_or.mpr ⟨by omega, d.digitChars_ne_nil⟩
  · exact fun c hc => d.digitChars_digits c (List.mem_of_mem_drop hc)
  · rw [List.head?_take, if_neg (by omega)]
    exact d.head_digitChars
  · have hone : d.digitChars.length = 1 ↔ d.digitChars.drop 1 = [] := by
      rw [List.drop_eq_nil_iff]
      omega
    rw [numberText, List.append_assoc]
    simp only [hone]
  · have hexp : d.point - (d.digitChars.length : ℤ) =
        d.point - 1 - ((d.digitChars.drop 1).length : ℤ) := by
      rw [List.length_drop]
      omega
    rw [magnitude, List.take_append_drop, numeral_digitChars, hexp]

/-- **A printed number is a number of JSON.** -/
theorem writes_unsignedText : Writes d.unsignedText d.magnitude := by
  unfold unsignedText
  by_cases hinteger : d.digitChars.length ≤ d.point ∧ d.point ≤ 21
  · rw [if_pos hinteger]
    exact d.writes_integer hinteger.1
  · rw [if_neg hinteger]
    by_cases hpoint : 0 < d.point ∧ d.point ≤ 21
    · rw [if_pos hpoint]
      exact d.writes_point hpoint.1 (by omega)
    · rw [if_neg hpoint]
      by_cases hsmall : -6 < d.point ∧ d.point ≤ 0
      · rw [if_pos hsmall]
        exact d.writes_small hsmall.2
      · rw [if_neg hsmall]
        exact d.writes_exponent

end PrintedDecimal

namespace PrintedNumber

/-- The text of a number in JSON: `null` where there is no number. -/
def jsonText : PrintedNumber → List Char
  | .zero => ['0']
  | .decimal d => if d.negative then '-' :: d.unsignedText else d.unsignedText
  | .infinite _ | .nan => "null".toList

/-- The value of a finite number. -/
def finiteValue : PrintedNumber → Option ℚ
  | .zero => some 0
  | .decimal d => some (if d.negative then -d.magnitude else d.magnitude)
  | .infinite _ | .nan => none

/-- **A number is read back.** -/
theorem jsonNumber_jsonText {n : PrintedNumber} {q : ℚ} (h : n.finiteValue = some q) :
    jsonNumber n.jsonText = some q := by
  cases n with
  | zero =>
      obtain rfl := Option.some.inj h
      decide +kernel
  | decimal d =>
      obtain rfl := Option.some.inj h
      have hread := d.writes_unsignedText.jsonNumberUnsigned
      rw [jsonText]
      split_ifs with hnegative
      · rw [jsonNumber, hread]
        rfl
      · obtain ⟨c, cs, htext, hc⟩ := d.writes_unsignedText.head
        rw [← hread]
        unfold jsonNumber
        split
        · next hminus =>
            rw [htext] at hminus
            rw [(List.cons.inj hminus).1] at hc
            exact absurd hc (by decide)
        · rfl
  | infinite | nan => cases h

theorem isNumberChar_jsonText {n : PrintedNumber} {q : ℚ} (h : n.finiteValue = some q) :
    ∀ c ∈ n.jsonText, isNumberChar c = true := by
  cases n with
  | zero => exact List.forall_mem_singleton.mpr (by decide)
  | decimal d =>
      have hchars := d.writes_unsignedText.isNumberChar
      rw [jsonText]
      split_ifs
      · exact List.forall_mem_cons.mpr ⟨by decide, hchars⟩
      · exact hchars
  | infinite | nan => cases h

/-- A number begins with a digit or a minus. -/
theorem head_jsonText {n : PrintedNumber} {q : ℚ} (h : n.finiteValue = some q) :
    ∃ c cs, n.jsonText = c :: cs ∧ (isDigitIn 10 c = true ∨ c = '-') := by
  cases n with
  | zero => exact ⟨'0', [], rfl, .inl (by decide)⟩
  | decimal d =>
      rw [jsonText]
      split_ifs
      · exact ⟨'-', _, rfl, .inr rfl⟩
      · obtain ⟨c, cs, htext, hc⟩ := d.writes_unsignedText.head
        exact ⟨c, cs, htext, .inl hc⟩
  | infinite | nan => cases h

end PrintedNumber

end StayRide.Lib
