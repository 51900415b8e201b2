import Mathlib

/-!
# Patterns and groups of SQL

`LIKE` compares a text with a pattern in which `%` stands for any sequence of characters and
`_` for any character; a backslash takes the character after it as it is.  The pattern is read
into tokens first.  A backslash at its end is an error.

`likeMatch_append` puts matches together.  A text without backslashes matches itself as a
pattern (`likeMatch_self`), although its `%` and `_` match more.

`groupCount` is `GROUP BY` with `COUNT(*)`, the largest groups first.  The rows of some groups
are counted by `sum_filter_groupCount`.

`replaceByKey` is an update of the row with a certain key.  It keeps the keys, and another
column stays without duplicates if the new value of it is free (`nodup_map_replaceByKey`).
-/

namespace StayRide.Lib

/-! ## Patterns -/

inductive LikeToken
  | anySequence
  | anyChar
  | char (c : Char)
  deriving DecidableEq

/-- What a character of a pattern stands for, if no backslash is before it. -/
def likeToken (c : Char) : LikeToken :=
  if c = '%' then .anySequence else if c = '_' then .anyChar else .char c

/-- A pattern, or `none` if it ends with a backslash that escapes nothing. -/
def likeTokens : List Char → Option (List LikeToken)
  | [] => some []
  | c :: cs =>
      if c = '\\' then
        match cs with
        | [] => none
        | d :: rest => (likeTokens rest).map (.char d :: ·)
      else (likeTokens cs).map (likeToken c :: ·)

def likeMatch : List LikeToken → List Char → Bool
  | [], text => text.isEmpty
  | .anySequence :: tokens, text => text.tails.any (likeMatch tokens)
  | .anyChar :: tokens, text =>
      match text with
      | [] => false
      | _ :: rest => likeMatch tokens rest
  | .char c :: tokens, text =>
      match text with
      | [] => false
      | d :: rest => c = d && likeMatch tokens rest

/-! ### Reading -/

theorem likeTokens_cons {c : Char} (hc : c ≠ '\\') (cs : List Char) :
    likeTokens (c :: cs) = (likeTokens cs).map (likeToken c :: ·) := by
  rw [likeTokens.eq_def]
  exact if_neg hc

/-- Without backslashes every character is a token. -/
theorem likeTokens_append {cs : List Char} (h : '\\' ∉ cs) (ds : List Char) :
    likeTokens (cs ++ ds) = (likeTokens ds).map (cs.map likeToken ++ ·) := by
  induction cs with
  | nil => simp
  | cons c cs ih =>
      obtain ⟨hc, hcs⟩ := not_or.mp (List.mem_cons.not.mp h)
      rw [List.cons_append, likeTokens_cons (Ne.symm hc), ih hcs, Option.map_map]
      rfl

/-! ### Matching -/

theorem likeMatch_anySequence {tokens : List LikeToken} {text : List Char} :
    likeMatch (.anySequence :: tokens) text = true ↔
      ∃ skipped rest, text = skipped ++ rest ∧ likeMatch tokens rest = true := by
  rw [likeMatch, List.any_eq_true]
  constructor
  · rintro ⟨rest, hrest, hmatch⟩
    obtain ⟨skipped, rfl⟩ := (List.mem_tails _ _).mp hrest
    exact ⟨skipped, rest, rfl, hmatch⟩
  · rintro ⟨skipped, rest, rfl, hmatch⟩
    exact ⟨rest, (List.mem_tails _ _).mpr (List.suffix_append _ _), hmatch⟩

/-- Patterns one after the other match texts one after the other. -/
theorem likeMatch_append {tokens tokens' : List LikeToken} {text text' : List Char}
    (h : likeMatch tokens text = true) (h' : likeMatch tokens' text' = true) :
    likeMatch (tokens ++ tokens') (text ++ text') = true := by
  induction tokens generalizing text with
  | nil =>
      obtain rfl := List.isEmpty_iff.mp h
      exact h'
  | cons token tokens ih =>
      cases token with
      | anySequence =>
          obtain ⟨skipped, rest, rfl, hrest⟩ := likeMatch_anySequence.mp h
          rw [List.cons_append, List.append_assoc]
          exact likeMatch_anySequence.mpr ⟨skipped, _, rfl, ih hrest⟩
      | anyChar =>
          cases text with
          | nil => cases h
          | cons d text => exact ih h
      | char c =>
          cases text with
          | nil => cases h
          | cons d text =>
              obtain ⟨hc, hrest⟩ := (Bool.and_eq_true _ _).mp h
              exact (Bool.and_eq_true _ _).mpr ⟨hc, ih hrest⟩

theorem likeMatch_likeToken (c : Char) : likeMatch [likeToken c] [c] = true := by
  unfold likeToken
  split
  · exact likeMatch_anySequence.mpr ⟨[c], [], rfl, rfl⟩
  · split
    · rfl
    · simp [likeMatch]

/-- A text matches itself. -/
theorem likeMatch_self (cs : List Char) : likeMatch (cs.map likeToken) cs = true := by
  induction cs with
  | nil => rfl
  | cons c cs ih => exact likeMatch_append (likeMatch_likeToken c) ih

/-- A text matches itself between two signs for any sequence. -/
theorem likeMatch_around_self (cs : List Char) :
    likeMatch (.anySequence :: (cs.map likeToken ++ [.anySequence])) cs = true := by
  have hany : likeMatch [.anySequence] [] = true := rfl
  have hself := likeMatch_append (likeMatch_self cs) hany
  rw [List.append_nil] at hself
  exact likeMatch_append hany hself

/-! ## Groups -/

section Groups

variable {α : Type*} [DecidableEq α]

/-- `SELECT key, COUNT(*) AS count … GROUP BY key ORDER BY count DESC`; the order of groups of
the same size is open. -/
def groupCount (keys : List α) : List (α × ℕ) :=
  (keys.dedup.map fun key => (key, keys.count key)).insertionSort fun a b => b.2 ≤ a.2

theorem perm_groupCount (keys : List α) :
    (groupCount keys).Perm (keys.dedup.map fun key => (key, keys.count key)) :=
  List.perm_insertionSort _ _

/-- A group is not empty, and counts the rows with its key. -/
theorem mem_groupCount {keys : List α} {group : α × ℕ} (h : group ∈ groupCount keys) :
    1 ≤ group.2 ∧ group.2 = keys.countP fun key => key = group.1 := by
  obtain ⟨key, hkey, rfl⟩ := List.mem_map.mp ((perm_groupCount keys).mem_iff.mp h)
  exact ⟨List.one_le_count_iff.mpr (List.mem_dedup.mp hkey), rfl⟩

theorem nodup_groupCount (keys : List α) : ((groupCount keys).map Prod.fst).Nodup := by
  rw [((perm_groupCount keys).map Prod.fst).nodup_iff, List.map_map]
  exact (List.map_id' keys.dedup).symm ▸ List.nodup_dedup keys

/-- The groups of some keys have as many rows as there are with such a key. -/
theorem sum_filter_groupCount (p : α → Bool) (keys : List α) :
    (((groupCount keys).filter fun group => p group.1).map Prod.snd).sum = keys.countP p := by
  rw [(((perm_groupCount keys).filter _).map Prod.snd).sum_eq, List.filter_map, List.map_map]
  exact List.sum_map_count_dedup_filter_eq_countP p keys

theorem sum_groupCount (keys : List α) : ((groupCount keys).map Prod.snd).sum = keys.length := by
  have hall := sum_filter_groupCount (fun _ => true) keys
  rwa [List.filter_true, List.countP_true] at hall

end Groups

/-! ## Keys -/

section Keys

variable {α κ : Type*} [DecidableEq κ] (key : α → κ)

/-- The row with the key of `row` becomes `row`. -/
def replaceByKey (rows : List α) (row : α) : List α :=
  rows.map fun other => if key other = key row then row else other

variable {key} {rows : List α} {row : α}

theorem map_key_replaceByKey : (replaceByKey key rows row).map key = rows.map key := by
  rw [replaceByKey, List.map_map]
  refine List.map_congr_left fun other _ => ?_
  show key (if key other = key row then row else other) = key other
  split
  · next h => exact h.symm
  · rfl

theorem mem_of_mem_replaceByKey {a : α} (h : a ∈ replaceByKey key rows row) :
    a = row ∨ a ∈ rows := by
  obtain ⟨other, hother, rfl⟩ := List.mem_map.mp h
  split
  · exact .inl rfl
  · exact .inr hother

theorem mem_replaceByKey_self (h : key row ∈ rows.map key) : row ∈ replaceByKey key rows row := by
  obtain ⟨other, hother, hkey⟩ := List.mem_map.mp h
  exact List.mem_map.mpr ⟨other, hother, if_pos hkey⟩

/-- A unique column stays unique, if no other row has the new value. -/
theorem nodup_map_replaceByKey {β : Type*} {column : α → β} (hkeys : (rows.map key).Nodup)
    (hcolumn : (rows.map column).Nodup)
    (hfree : ∀ other ∈ rows, key other ≠ key row → column other ≠ column row) :
    ((replaceByKey key rows row).map column).Nodup := by
  rw [replaceByKey, List.map_map]
  refine (List.Nodup.of_map _ hkeys).map_on fun a ha b hb heq => ?_
  simp only [Function.comp_apply] at heq
  split at heq
  · next hka =>
      split at heq
      · next hkb => exact List.inj_on_of_nodup_map hkeys ha hb (hka.trans hkb.symm)
      · next hkb => exact absurd heq.symm (hfree b hb hkb)
  · next hka =>
      split at heq
      · exact absurd heq (hfree a ha hka)
      · exact List.inj_on_of_nodup_map hcolumn ha hb heq

/-- A row is found under its key. -/
theorem find?_of_nodup_map (hkeys : (rows.map key).Nodup) (hrow : row ∈ rows) :
    rows.find? (fun other => key other = key row) = some row := by
  cases hfound : rows.find? fun other => key other = key row with
  | none => exact absurd (decide_eq_true rfl) (List.find?_eq_none.mp hfound row hrow)
  | some other =>
      have hkey := List.find?_some hfound
      rw [decide_eq_true_eq] at hkey
      exact congrArg some
        (List.inj_on_of_nodup_map hkeys (List.mem_of_find?_eq_some hfound) hrow hkey)

end Keys

end StayRide.Lib
