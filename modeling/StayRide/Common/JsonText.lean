import StayRide.Common.Json
import StayRide.Lib.JsonText

/-!
# Texts of JSON values

`PrintedJson` is a value that is about to be written: its numbers come with the digits that
`String` prints.  `stringify` writes it as `JSON.stringify` does, and `parse` reads a text as
`JSON.parse` does, with white space where it is allowed.  The properties of an object are
assigned one after the other as they are read.

What is written is read back (`parse_stringify`).
-/

namespace StayRide

open Lib

/-- A value with its numbers as they are printed.  Properties that are `undefined` are
left out; a number that is not finite is written as `null`. -/
inductive PrintedJson
  | null
  | bool (b : Bool)
  | num (n : PrintedNumber)
  | str (s : String)
  | arr (items : List PrintedJson)
  | obj (props : List (String × PrintedJson))

namespace PrintedJson

/-! ## Writing -/

/-- A string in its quotes. -/
def quoted (s : String) : List Char :=
  '"' :: (s.toList.flatMap escapeChar ++ ['"'])

mutual

def text : PrintedJson → List Char
  | .null => "null".toList
  | .bool true => "true".toList
  | .bool false => "false".toList
  | .num n => n.jsonText
  | .str s => quoted s
  | .arr [] => ['[', ']']
  | .arr (v :: items) => '[' :: (v.text ++ moreItems items)
  | .obj [] => ['{', '}']
  | .obj ((name, v) :: props) => '{' :: (quoted name ++ ':' :: (v.text ++ moreProps props))

/-- The items after the first one. -/
def moreItems : List PrintedJson → List Char
  | [] => [']']
  | v :: items => ',' :: (v.text ++ moreItems items)

/-- The properties after the first one. -/
def moreProps : List (String × PrintedJson) → List Char
  | [] => ['}']
  | (name, v) :: props => ',' :: (quoted name ++ ':' :: (v.text ++ moreProps props))

end

/-- `JSON.stringify(value)` -/
def stringify (v : PrintedJson) : String :=
  String.ofList v.text

/-- The number that is read back. -/
def numberValue (n : PrintedNumber) : Json :=
  n.finiteValue.elim .null .num

mutual

/-- The JSON value that is written. -/
def value : PrintedJson → Json
  | .null => .null
  | .bool b => .bool b
  | .num n => numberValue n
  | .str s => .str s
  | .arr items => .arr (itemValues items)
  | .obj props => .obj (Dict.assignAll [] (propValues props))

def itemValues : List PrintedJson → List Json
  | [] => []
  | v :: items => v.value :: itemValues items

def propValues : List (String × PrintedJson) → List (String × Json)
  | [] => []
  | (name, v) :: props => (name, v.value) :: propValues props

end

end PrintedJson

/-! ## Reading -/

namespace Json

/-- White space between the parts of a JSON text. -/
def isSpace (c : Char) : Bool :=
  [9, 10, 13, 32].contains c.toNat

def skipSpace (cs : List Char) : List Char :=
  cs.dropWhile isSpace

/-- A number, as far as its characters go. -/
def readNumber (cs : List Char) : Option (Json × List Char) :=
  (jsonNumber (cs.takeWhile isNumberChar)).map fun q => (.num q, cs.dropWhile isNumberChar)

mutual

/-- A value at the beginning, and what follows it. -/
def readValue : ℕ → List Char → Option (Json × List Char)
  | 0, _ => none
  | fuel + 1, cs =>
      match skipSpace cs with
      | 'n' :: 'u' :: 'l' :: 'l' :: cs => some (.null, cs)
      | 't' :: 'r' :: 'u' :: 'e' :: cs => some (.bool true, cs)
      | 'f' :: 'a' :: 'l' :: 's' :: 'e' :: cs => some (.bool false, cs)
      | '"' :: cs => (readString cs).map fun read => (.str (String.ofList read.1), read.2)
      | '[' :: cs =>
          match skipSpace cs with
          | ']' :: cs => some (.arr [], cs)
          | cs => (readItems fuel cs).map fun read => (.arr read.1, read.2)
      | '{' :: cs =>
          match skipSpace cs with
          | '}' :: cs => some (.obj [], cs)
          | cs => (readProps fuel cs).map fun read => (.obj (Dict.assignAll [] read.1), read.2)
      | cs => readNumber cs

/-- The items of an array, up to its end. -/
def readItems : ℕ → List Char → Option (List Json × List Char)
  | 0, _ => none
  | fuel + 1, cs =>
      match readValue fuel cs with
      | none => none
      | some (v, cs) =>
          match skipSpace cs with
          | ']' :: cs => some ([v], cs)
          | ',' :: cs => (readItems fuel cs).map fun read => (v :: read.1, read.2)
          | _ => none

/-- The properties of an object, up to its end. -/
def readProps : ℕ → List Char → Option (List (String × Json) × List Char)
  | 0, _ => none
  | fuel + 1, cs =>
      match skipSpace cs with
      | '"' :: cs =>
          match readString cs with
          | none => none
          | some (name, cs) =>
              match skipSpace cs with
              | ':' :: cs =>
                  match readValue fuel cs with
                  | none => none
                  | some (v, cs) =>
                      match skipSpace cs with
                      | '}' :: cs => some ([(String.ofList name, v)], cs)
                      | ',' :: cs =>
                          (readProps fuel cs).map fun read =>
                            ((String.ofList name, v) :: read.1, read.2)
                      | _ => none
              | _ => none
      | _ => none

end

/-- `JSON.parse(text)`; `none` where it throws. -/
def parse (text : String) : Option Json :=
  match readValue text.toList.length text.toList with
  | none => none
  | some (v, rest) => if skipSpace rest = [] then some v else none

example : parse " \x7b \"lat\" : 4.05 , \"tags\":[ ] , \"lat\": -1e2 \x7d " =
    some (.obj [("lat", .num (-100)), ("tags", .arr [])]) ∧ parse "[1,]" = none ∧
      parse "01" = none := by
  decide +kernel

/-! ## The round trip -/

/-- What may follow a value: nothing that would prolong a number. -/
def Ends (rest : List Char) : Prop :=
  ∀ c ∈ rest.head?, isNumberChar c = false

theorem ends_nil : Ends [] := fun c hc => by cases hc

theorem ends_cons {c : Char} {cs : List Char} (h : isNumberChar c = false) : Ends (c :: cs) := by
  intro c' hc'
  obtain rfl : c = c' := Option.some.inj hc'
  exact h

theorem skipSpace_cons {c : Char} (h : isSpace c = false) (cs : List Char) :
    skipSpace (c :: cs) = c :: cs :=
  List.dropWhile_cons_of_neg (by simp [h])

theorem isSpace_of_number {c : Char} (h : isDigitIn 10 c = true ∨ c = '-') :
    isSpace c = false := by
  rcases h with hdigit | rfl
  · have hcode : 48 ≤ c.toNat ∧ c.toNat ≤ 57 := by
      rw [isDigitIn_ten] at hdigit
      exact Char.isDigit_iff_toNat.mp hdigit
    have hne : c.toNat ∉ [9, 10, 13, 32] := by
      simp only [List.mem_cons, List.not_mem_nil, or_false]
      omega
    rw [isSpace]
    simpa using hne
  · decide

/-- **A number is read back**, whatever ends it. -/
theorem readNumber_jsonText {n : PrintedNumber} {q : ℚ} (h : n.finiteValue = some q)
    {rest : List Char} (hrest : Ends rest) :
    readNumber (n.jsonText ++ rest) = some (.num q, rest) := by
  have hchars := PrintedNumber.isNumberChar_jsonText h
  have hnone : rest.takeWhile isNumberChar = [] := by
    cases rest with
    | nil => rfl
    | cons c cs => rw [List.takeWhile_cons_of_neg (by simp [hrest c rfl])]
  have htake : (n.jsonText ++ rest).takeWhile isNumberChar = n.jsonText := by
    rw [List.takeWhile_append_of_pos hchars, hnone, List.append_nil]
  have hdrop : (n.jsonText ++ rest).dropWhile isNumberChar = rest := by
    have hsplit := List.takeWhile_append_dropWhile (p := isNumberChar) (l := n.jsonText ++ rest)
    rw [htake] at hsplit
    exact List.append_cancel_left hsplit
  rw [readNumber, htake, hdrop, PrintedNumber.jsonNumber_jsonText h]
  rfl

/-- What begins like a number is read as one. -/
theorem readValue_of_number {fuel : ℕ} {c : Char} {cs : List Char}
    (h : isDigitIn 10 c = true ∨ c = '-') :
    readValue (fuel + 1) (c :: cs) = readNumber (c :: cs) := by
  have hne : ∀ c' : Char, isDigitIn 10 c' = false → c' ≠ '-' → c ≠ c' := by
    rintro c' hdigit hminus rfl
    rcases h with h | h
    · rw [h] at hdigit
      cases hdigit
    · exact hminus h
  rw [readValue, skipSpace_cons (isSpace_of_number h)]
  split
  · next heq => exact absurd (List.cons.inj heq).1 (hne 'n' (by decide) (by decide))
  · next heq => exact absurd (List.cons.inj heq).1 (hne 't' (by decide) (by decide))
  · next heq => exact absurd (List.cons.inj heq).1 (hne 'f' (by decide) (by decide))
  · next heq => exact absurd (List.cons.inj heq).1 (hne '"' (by decide) (by decide))
  · next heq => exact absurd (List.cons.inj heq).1 (hne '[' (by decide) (by decide))
  · next heq => exact absurd (List.cons.inj heq).1 (hne '{' (by decide) (by decide))
  · rfl

/-- An array with an item. -/
theorem readValue_of_item {fuel : ℕ} {c : Char} {cs : List Char} (hspace : isSpace c = false)
    (hbracket : c ≠ ']') :
    readValue (fuel + 1) ('[' :: c :: cs) =
      (readItems fuel (c :: cs)).map fun read => (.arr read.1, read.2) := by
  rw [readValue, skipSpace_cons (by decide)]
  simp only [skipSpace_cons hspace]
  split
  · next heq => exact absurd (List.cons.inj heq).1 hbracket
  · rfl

/-- An object with a property. -/
theorem readValue_of_prop {fuel : ℕ} {cs : List Char} :
    readValue (fuel + 1) ('{' :: '"' :: cs) =
      (readProps fuel ('"' :: cs)).map fun read =>
        (.obj (Dict.assignAll [] read.1), read.2) := by
  rw [readValue, skipSpace_cons (by decide)]
  simp only [skipSpace_cons (c := '"') rfl]
  rfl

end Json

namespace PrintedJson

open Json

theorem readString_quoted (s : String) (rest : List Char) :
    readString (s.toList.flatMap escapeChar ++ '"' :: rest) = some (s.toList, rest) :=
  readString_escape s.toList rest

theorem ends_moreItems (items : List PrintedJson) (rest : List Char) :
    Ends (moreItems items ++ rest) := by
  cases items <;> exact ends_cons (by decide)

theorem ends_moreProps (props : List (String × PrintedJson)) (rest : List Char) :
    Ends (moreProps props ++ rest) := by
  cases props with
  | nil => exact ends_cons (by decide)
  | cons prop props => exact ends_cons (by decide)

/-- A value begins with a character that is no space and no closing bracket. -/
theorem head_text (v : PrintedJson) :
    ∃ c cs, v.text = c :: cs ∧ isSpace c = false ∧ c ≠ ']' := by
  cases v with
  | null => exact ⟨'n', _, rfl, by decide, by decide⟩
  | bool b => cases b <;> exact ⟨_, _, rfl, by decide, by decide⟩
  | num n =>
      cases hvalue : n.finiteValue with
      | some q =>
          obtain ⟨c, cs, htext, hc⟩ := PrintedNumber.head_jsonText hvalue
          refine ⟨c, cs, htext, isSpace_of_number hc, ?_⟩
          rintro rfl
          exact absurd hc (by decide)
      | none =>
          cases n with
          | zero | decimal => cases hvalue
          | infinite | nan => exact ⟨'n', _, rfl, by decide, by decide⟩
  | str s => exact ⟨'"', _, rfl, by decide, by decide⟩
  | arr items => cases items <;> exact ⟨'[', _, rfl, by decide, by decide⟩
  | obj props =>
      cases props with
      | nil => exact ⟨'{', _, rfl, by decide, by decide⟩
      | cons prop props => exact ⟨'{', _, rfl, by decide, by decide⟩

theorem length_text_pos (v : PrintedJson) : 0 < v.text.length := by
  obtain ⟨c, cs, htext, -⟩ := v.head_text
  rw [htext, List.length_cons]
  exact Nat.succ_pos _

theorem length_moreItems_pos (items : List PrintedJson) : 0 < (moreItems items).length := by
  cases items <;> exact Nat.succ_pos _

theorem length_moreProps_pos (props : List (String × PrintedJson)) :
    0 < (moreProps props).length := by
  cases props with
  | nil => exact Nat.succ_pos _
  | cons prop props => exact Nat.succ_pos _

theorem length_quoted (s : String) : 2 ≤ (quoted s).length := by
  rw [quoted, List.length_cons, List.length_append, List.length_singleton]
  omega

/-- The first property and what follows it. -/
theorem readProps_quoted {fuel : ℕ} (name : String) {cs : List Char} {w : Json}
    {rest : List Char} (h : readValue fuel cs = some (w, rest)) :
    readProps (fuel + 1) (quoted name ++ ':' :: cs) =
      match skipSpace rest with
      | '}' :: cs => some ([(name, w)], cs)
      | ',' :: cs => (readProps fuel cs).map fun read => ((name, w) :: read.1, read.2)
      | _ => none := by
  have hquote : skipSpace (quoted name ++ ':' :: cs) =
      '"' :: (name.toList.flatMap escapeChar ++ '"' :: ':' :: cs) := by
    rw [quoted, List.cons_append, List.append_assoc]
    exact skipSpace_cons (by decide) _
  have hcolon : skipSpace (':' :: cs) = ':' :: cs := skipSpace_cons (by decide) _
  rw [readProps, hquote]
  simp only [readString_quoted, hcolon, h, String.ofList_toList]

mutual

/-- **A value is read back**, whatever ends it. -/
theorem readValue_text : ∀ (v : PrintedJson) (fuel : ℕ) (rest : List Char),
    v.text.length ≤ fuel → Ends rest → readValue fuel (v.text ++ rest) = some (v.value, rest)
  | v, 0, rest, hfuel, _ => by
      have hpos := v.length_text_pos
      omega
  | .null, fuel + 1, rest, _, _ => rfl
  | .bool true, fuel + 1, rest, _, _ => rfl
  | .bool false, fuel + 1, rest, _, _ => rfl
  | .num n, fuel + 1, rest, _, hrest => by
      cases hvalue : n.finiteValue with
      | some q =>
          obtain ⟨c, cs, htext, hc⟩ := PrintedNumber.head_jsonText hvalue
          have hread := readNumber_jsonText hvalue hrest
          rw [htext, List.cons_append] at hread
          rw [text, htext, List.cons_append, readValue_of_number hc, hread, value, numberValue,
            hvalue]
          rfl
      | none =>
          cases n with
          | zero | decimal => cases hvalue
          | infinite | nan => rfl
  | .str s, fuel + 1, rest, _, _ => by
      rw [text, quoted, List.cons_append, List.append_assoc, readValue,
        skipSpace_cons (by decide)]
      simp only [List.singleton_append, readString_quoted, Option.map_some, String.ofList_toList,
        value]
  | .arr [], fuel + 1, rest, _, _ => rfl
  | .arr (v :: items), fuel + 1, rest, hfuel, _ => by
      have hmore := length_moreItems_pos items
      rw [text, List.length_cons, List.length_append] at hfuel
      obtain ⟨fuel, rfl⟩ : ∃ f, fuel = f + 1 := ⟨fuel - 1, by omega⟩
      have hfirst := readValue_text v fuel (moreItems items ++ rest) (by omega)
        (ends_moreItems items rest)
      have hitems := readItems_moreItems items fuel v.value _ rest hfirst (by omega)
      obtain ⟨c, cs, htext, hspace, hbracket⟩ := v.head_text
      rw [htext, List.cons_append] at hitems
      rw [text, htext, List.cons_append, List.cons_append, List.cons_append, List.append_assoc,
        readValue_of_item hspace hbracket, hitems]
      rfl
  | .obj [], fuel + 1, rest, _, _ => rfl
  | .obj ((name, v) :: props), fuel + 1, rest, hfuel, _ => by
      have hmore := length_moreProps_pos props
      have hquoted := length_quoted name
      rw [text, List.length_cons, List.length_append, List.length_cons,
        List.length_append] at hfuel
      obtain ⟨fuel, rfl⟩ : ∃ f, fuel = f + 1 := ⟨fuel - 1, by omega⟩
      have hfirst := readValue_text v fuel (moreProps props ++ rest) (by omega)
        (ends_moreProps props rest)
      have hprops := readProps_moreProps props fuel name v.value _ rest hfirst (by omega)
      have htext : (PrintedJson.obj ((name, v) :: props)).text ++ rest =
          '{' :: (quoted name ++ ':' :: (v.text ++ (moreProps props ++ rest))) := by
        rw [text, List.cons_append, List.append_assoc, List.cons_append, List.append_assoc]
      rw [htext, quoted, List.cons_append, readValue_of_prop]
      rw [quoted, List.cons_append] at hprops
      rw [hprops]
      rfl

/-- The items after the first one, which has been read. -/
theorem readItems_moreItems : ∀ (items : List PrintedJson) (fuel : ℕ) (w : Json)
    (cs rest : List Char), readValue fuel cs = some (w, moreItems items ++ rest) →
    (moreItems items).length ≤ fuel + 1 →
    readItems (fuel + 1) cs = some (w :: itemValues items, rest)
  | [], fuel, w, cs, rest, hread, _ => by
      rw [readItems, hread]
      rfl
  | v :: items, fuel, w, cs, rest, hread, hfuel => by
      have hmore := length_moreItems_pos items
      have htext := v.length_text_pos
      rw [moreItems, List.length_cons, List.length_append] at hfuel
      obtain ⟨fuel, rfl⟩ : ∃ f, fuel = f + 1 := ⟨fuel - 1, by omega⟩
      have hfirst := readValue_text v fuel (moreItems items ++ rest) (by omega)
        (ends_moreItems items rest)
      have hitems := readItems_moreItems items fuel v.value _ rest hfirst (by omega)
      rw [readItems, hread]
      simp only [moreItems, List.cons_append, List.append_assoc, skipSpace_cons (c := ',') rfl,
        hitems]
      rfl

/-- The properties after the first one, which has been read. -/
theorem readProps_moreProps : ∀ (props : List (String × PrintedJson)) (fuel : ℕ) (name : String)
    (w : Json) (cs rest : List Char), readValue fuel cs = some (w, moreProps props ++ rest) →
    (moreProps props).length ≤ fuel + 1 →
    readProps (fuel + 1) (quoted name ++ ':' :: cs) = some ((name, w) :: propValues props, rest)
  | [], fuel, name, w, cs, rest, hread, _ => by
      rw [readProps_quoted name hread]
      rfl
  | (name', v) :: props, fuel, name, w, cs, rest, hread, hfuel => by
      have hmore := length_moreProps_pos props
      have htext := v.length_text_pos
      have hquoted := length_quoted name'
      rw [moreProps, List.length_cons, List.length_append, List.length_cons,
        List.length_append] at hfuel
      obtain ⟨fuel, rfl⟩ : ∃ f, fuel = f + 1 := ⟨fuel - 1, by omega⟩
      have hfirst := readValue_text v fuel (moreProps props ++ rest) (by omega)
        (ends_moreProps props rest)
      have hprops := readProps_moreProps props fuel name' v.value _ rest hfirst (by omega)
      rw [readProps_quoted name hread]
      simp only [moreProps, List.cons_append, List.append_assoc, skipSpace_cons (c := ',') rfl,
        hprops]
      rfl

end

/-- **The round trip.**  `JSON.parse` reads what `JSON.stringify` has written. -/
theorem parse_stringify (v : PrintedJson) : Json.parse v.stringify = some v.value := by
  have hread := v.readValue_text v.text.length [] (Nat.le_refl _) ends_nil
  rw [List.append_nil] at hread
  rw [Json.parse, stringify, String.toList_ofList, hread]
  rfl

/-- A text is never empty. -/
theorem stringify_ne_empty (v : PrintedJson) : v.stringify ≠ "" := by
  intro h
  have hnil : v.text = [] := String.ofList_injective h
  exact absurd (congrArg List.length hnil) v.length_text_pos.ne'

end PrintedJson

end StayRide
