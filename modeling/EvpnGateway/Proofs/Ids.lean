import EvpnGateway.Proofs.Written.Numerals
import EvpnGateway.Resource.Validation
import Mathlib.Tactic
/-!
# Ids

The ids that owners may choose, and the ids that are drawn for resources whose owners chose none.

* `exists_of_foreignChar?`: the character that an id is refused for, and its position;
* `IsId`: the grammar of ids; **`checkId_eq_ok_iff`**: the ids that pass are those of the grammar;
* `isHexDigit`, `length_hex`, `IsUuidText`: the digits of random identifiers and their written form;
* **`isId_newId`**, **`isUuidText_newId`**: drawn ids can name an interface where they have to, and
  are random identifiers elsewhere.
-/

namespace EvpnGateway

/-! ## Characters of ids -/

theorem isIdChar_iff {c : Char} :
    isIdChar c = true ↔ (isLetter c = true ∨ c.isDigit = true) ∨ c = '-' := by
  simp [isIdChar]

theorem toNat_of_isLetter {c : Char} (h : isLetter c = true) : 97 ≤ c.toNat ∧ c.toNat ≤ 122 := by
  simp only [isLetter, Bool.and_eq_true, decide_eq_true_eq] at h
  exact h

theorem toNat_of_isIdChar {c : Char} (h : isIdChar c = true) : 45 ≤ c.toNat ∧ c.toNat ≤ 122 := by
  rcases isIdChar_iff.mp h with (h | h) | rfl
  · have := toNat_of_isLetter h
    omega
  · have := Digits.isDigit_iff.mp h
    omega
  · decide

theorem ne_slash_of_isIdChar {c : Char} (h : isIdChar c = true) : c ≠ '/' := by
  rintro rfl
  exact absurd h (by decide)

theorem not_isBlank_of_isIdChar {c : Char} (h : isIdChar c = true) : isBlank c = false := by
  have hrange := toNat_of_isIdChar h
  simp only [isBlank, Bool.or_eq_false_iff, Bool.and_eq_false_iff, decide_eq_false_iff_not,
    beq_eq_false_iff_ne]
  omega

theorem utf8Size_of_isIdChar {c : Char} (h : isIdChar c = true) : c.utf8Size = 1 := by
  have hrange : c.val.toNat ≤ 122 := (toNat_of_isIdChar h).2
  rw [Char.utf8Size_eq_one_iff, UInt32.le_iff_toNat_le]
  exact le_trans hrange (by decide)

theorem size_ofList_cons (c : Char) (rest : List Char) :
    Utf8.size (String.ofList (c :: rest)) = c.utf8Size + Utf8.size (String.ofList rest) := by
  rw [Utf8.size, ← List.singleton_append, String.ofList_append, String.utf8ByteSize_append]
  simp [Utf8.size]

theorem size_eq_length {text : String} (h : ∀ c ∈ text.toList, isIdChar c = true) :
    Utf8.size text = text.length := by
  have hlist : ∀ chars : List Char, (∀ c ∈ chars, isIdChar c = true) →
      Utf8.size (String.ofList chars) = chars.length := by
    intro chars hchars
    induction chars with
    | nil => rfl
    | cons c rest ih =>
      rw [size_ofList_cons, utf8Size_of_isIdChar (hchars c List.mem_cons_self),
        ih fun d hd => hchars d (List.mem_cons_of_mem _ hd), List.length_cons, Nat.add_comm]
  have h := hlist text.toList h
  rwa [String.ofList_toList, String.length_toList] at h

theorem foreignChar?_eq_none_iff {position : Nat} {text : List Char} :
    foreignChar? position text = none ↔ ∀ c ∈ text, isIdChar c = true := by
  induction text generalizing position with
  | nil => simp [foreignChar?]
  | cons c rest ih =>
    unfold foreignChar?
    by_cases h : isIdChar c = true
    · rw [if_pos h, ih]; simp [h]
    · rw [if_neg h]; simp [h]

/-- The ids that owners may choose: 4 to 63 lower-case ASCII letters, digits and hyphens, with a
letter in front and a letter or a digit at the end. -/
structure IsId (id : String) : Prop where
  length : 4 ≤ id.length ∧ id.length ≤ 63
  first : ∃ c, id.toList.head? = some c ∧ isLetter c = true
  last : ∃ c, id.toList.getLast? = some c ∧ (isLetter c = true ∨ c.isDigit = true)
  chars : ∀ c ∈ id.toList, isIdChar c = true

/-- **The ids that pass are those of the grammar.** -/
theorem checkId_eq_ok_iff {id : String} : checkId id = .ok () ↔ IsId id := by
  unfold checkId
  constructor
  · intro h
    by_cases hlength : Utf8.size id < 4 ∨ 63 < Utf8.size id
    · rw [if_pos hlength] at h
      exact absurd h (refuse_ne_ok _ _)
    rw [if_neg hlength] at h
    by_cases hfirst : id.toList.head?.any isLetter = true
    swap
    · rw [if_pos hfirst] at h
      exact absurd h (refuse_ne_ok _ _)
    rw [if_neg (not_not_intro hfirst)] at h
    by_cases hlast : id.toList.getLast? = some '-'
    · rw [if_pos hlast] at h
      exact absurd h (refuse_ne_ok _ _)
    rw [if_neg hlast] at h
    cases hforeign : foreignChar? 0 id.toList with
    | some found =>
      rw [hforeign] at h
      exact absurd h (refuse_ne_ok _ _)
    | none =>
      have hchars := foreignChar?_eq_none_iff.mp hforeign
      rw [size_eq_length hchars] at hlength
      obtain ⟨first, hhead, hletter⟩ := (Option.any_eq_true _ _).mp hfirst
      have hne : id.toList ≠ [] := by
        rintro hnil
        simp [hnil] at hhead
      have hgetLast := List.getLast?_eq_some_getLast hne
      refine ⟨by omega, ⟨first, hhead, hletter⟩, ⟨_, hgetLast, ?_⟩, hchars⟩
      rcases isIdChar_iff.mp (hchars _ (List.getLast_mem hne)) with hend | hend
      · exact hend
      · exact absurd (hend ▸ hgetLast) hlast
  · rintro ⟨hlength, ⟨first, hhead, hletter⟩, ⟨last, hlast, hend⟩, hchars⟩
    rw [size_eq_length hchars, if_neg (by omega), if_neg (by simp [hhead, hletter]), if_neg,
      foreignChar?_eq_none_iff.mpr hchars]
    rw [hlast]
    rintro ⟨⟩
    exact absurd hend (by decide)

theorem IsId.ne_empty {id : String} (h : IsId id) : id ≠ "" := by
  rintro rfl
  exact absurd h.length.1 (by decide)

/-! ## Digits of random identifiers -/

/-- A lower-case hexadecimal digit. -/
def isHexDigit (c : Char) : Bool := c.isDigit || ('a' ≤ c && c ≤ 'f')

theorem isLetter_or_isDigit_of_isHexDigit {c : Char} (h : isHexDigit c = true) :
    isLetter c = true ∨ c.isDigit = true := by
  simp only [isHexDigit, Bool.or_eq_true, Bool.and_eq_true, decide_eq_true_eq] at h
  rcases h with h | ⟨h₁, h₂⟩
  · exact .inr h
  · refine .inl ?_
    simp only [isLetter, Bool.and_eq_true, decide_eq_true_eq]
    exact ⟨h₁, Char.le_trans h₂ (by decide)⟩

theorem isIdChar_of_isHexDigit {c : Char} (h : isHexDigit c = true) : isIdChar c = true :=
  isIdChar_iff.mpr (.inl (isLetter_or_isDigit_of_isHexDigit h))

theorem isHexDigit_digitChar {d : Nat} (h : d < 16) : isHexDigit (Nat.digitChar d) = true := by
  interval_cases d <;> decide

theorem isHexDigit_of_mem_numeral {n : Nat} : ∀ c ∈ Digits.numeral 16 n, isHexDigit c = true := by
  intro c hc
  obtain ⟨d, hd, rfl⟩ := Digits.exists_digitChar_of_mem_numeral (by decide) c hc
  exact isHexDigit_digitChar hd

theorem isHexDigit_of_mem_hex (uuid : Uuid) : ∀ c ∈ uuid.hex, isHexDigit c = true := by
  intro c hc
  simp only [Uuid.hex, Digits.padded, List.mem_append, List.mem_replicate] at hc
  rcases hc with (⟨_, rfl⟩ | hc) | ⟨_, rfl⟩ | hc
  · decide
  · exact isHexDigit_of_mem_numeral c hc
  · decide
  · exact isHexDigit_of_mem_numeral c hc

theorem length_hex (uuid : Uuid) : uuid.hex.length = 32 := by
  have hword : ∀ word : UInt64, (Digits.padded 16 16 word.toNat).length = 16 := fun word =>
    Digits.length_padded (by decide) (by decide) (lt_of_lt_of_le word.toNat_lt (by decide))
  rw [Uuid.hex, List.length_append, hword, hword]

/-! ## Ids that are drawn -/

/-- The written form of a random identifier: thirty-two lower-case hexadecimal digits in groups of
8, 4, 4, 4 and 12 with hyphens between them. -/
def IsUuidText (text : String) : Prop :=
  ∃ groups : List (List Char), text.toList = ['-'].intercalate groups ∧
    groups.map List.length = [8, 4, 4, 4, 12] ∧ ∀ c ∈ groups.flatten, isHexDigit c = true

theorem IsUuidText.isIdChar {text : String} (h : IsUuidText text) :
    ∀ c ∈ text.toList, isIdChar c = true := by
  obtain ⟨groups, htext, -, hdigits⟩ := h
  intro c hc
  rw [htext] at hc
  rcases mem_intercalate_iff.mp hc with ⟨rfl, -⟩ | ⟨group, hgroup, hc⟩
  · decide
  · exact isIdChar_of_isHexDigit (hdigits c (List.mem_flatten_of_mem hgroup hc))

theorem IsUuidText.ne_empty {text : String} (h : IsUuidText text) : text ≠ "" := by
  rintro rfl
  obtain ⟨groups, htext, hlength, -⟩ := h
  cases groups with
  | nil => simp at hlength
  | cons group rest =>
    cases rest with
    | nil => simp at hlength
    | cons next rest => simp [List.intercalate_cons_cons] at htext

theorem isUuidText_text (uuid : Uuid) : IsUuidText uuid.text := by
  have hlength := length_hex uuid
  refine ⟨_, String.toList_ofList, by simp [hlength], fun c hc =>
    isHexDigit_of_mem_hex uuid c ?_⟩
  simp only [List.flatten_cons, List.flatten_nil, List.append_nil, List.mem_append] at hc
  rcases hc with hc | hc | hc | hc | hc
  · exact List.mem_of_mem_take hc
  · exact List.mem_of_mem_drop (List.mem_of_mem_take hc)
  · exact List.mem_of_mem_drop (List.mem_of_mem_take hc)
  · exact List.mem_of_mem_drop (List.mem_of_mem_take hc)
  · exact List.mem_of_mem_drop hc

variable {collection : String}

/-- **Drawn ids that name an interface** are ids like chosen ones, and short enough. -/
theorem isId_newId (h : namesInterface collection = true) (uuid : Uuid) :
    IsId (newId collection uuid) ∧ (newId collection uuid).length = 13 := by
  have htext : (newId collection uuid).toList = 'r' :: uuid.hex.take 12 := by
    rw [newId, if_pos h, String.toList_ofList]
  have hlength : (newId collection uuid).length = 13 := by
    rw [← String.length_toList, htext, List.length_cons, List.length_take, length_hex]
    rfl
  have hne : uuid.hex.take 12 ≠ [] := List.ne_nil_of_length_pos (by simp [length_hex])
  have hdigit : ∀ c ∈ uuid.hex.take 12, isHexDigit c = true :=
    fun c hc => isHexDigit_of_mem_hex uuid c (List.mem_of_mem_take hc)
  refine ⟨⟨by omega, ⟨'r', by rw [htext]; rfl, by decide⟩, ⟨_, ?_,
    isLetter_or_isDigit_of_isHexDigit (hdigit _ (List.getLast_mem hne))⟩, fun c hc => ?_⟩, hlength⟩
  · rw [htext, List.getLast?_cons, List.getLast?_eq_some_getLast hne]
    rfl
  · rw [htext] at hc
    rcases List.mem_cons.mp hc with rfl | hc
    · decide
    · exact isIdChar_of_isHexDigit (hdigit c hc)

/-- **Other drawn ids** are random identifiers as they are written. -/
theorem isUuidText_newId (h : namesInterface collection = false) (uuid : Uuid) :
    IsUuidText (newId collection uuid) := by
  rw [newId, if_neg (by simp [h])]
  exact isUuidText_text uuid

theorem isIdChar_of_mem_newId {uuid : Uuid} :
    ∀ c ∈ (newId collection uuid).toList, isIdChar c = true := by
  cases h : namesInterface collection with
  | true => exact (isId_newId h uuid).1.chars
  | false => exact (isUuidText_newId h uuid).isIdChar

theorem newId_ne_empty {uuid : Uuid} : newId collection uuid ≠ "" := by
  cases h : namesInterface collection with
  | true => exact (isId_newId h uuid).1.ne_empty
  | false => exact (isUuidText_newId h uuid).ne_empty

end EvpnGateway
