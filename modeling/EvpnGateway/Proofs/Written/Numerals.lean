import EvpnGateway.Net.IpAddress
import Mathlib.Tactic
/-!
# Numerals read back

* `exists_digitChar_of_mem_numeral`: the digits of a numeral; `length_padded`: how many there are;
* `read?_numeral`, `read?_padded`, `readBelow?_padded`: their value;
* **`scanNumber?_numeral`**: a numeral at the front of a text, where no further digit follows.
-/

namespace EvpnGateway.Digits

variable {base n d width limit : Nat}

/-! ## Digits -/

theorem isDigit_iff {c : Char} : c.isDigit = true ↔ 48 ≤ c.toNat ∧ c.toNat ≤ 57 := by
  rw [Char.isDigit, Bool.and_eq_true, decide_eq_true_eq, decide_eq_true_eq]
  exact Iff.rfl

theorem digit?_digitChar (hbase : base ≤ 16) (h : d < base) :
    digit? base (Nat.digitChar d) = some d := by
  have hd : d < 16 := by omega
  interval_cases d <;> exact if_pos h

theorem digit?_zero (hbase : 0 < base) : digit? base '0' = some 0 := if_pos hbase

theorem numeral_ne_nil : numeral base n ≠ [] := List.ne_nil_of_length_pos Nat.length_toDigits_pos

theorem numeral_eq (hbase : 1 < base) : numeral base n =
    if n < base then [Nat.digitChar n] else numeral base (n / base) ++ [Nat.digitChar (n % base)] :=
  Nat.toDigits_eq_if hbase

theorem exists_digitChar_of_mem_numeral (hbase : 1 < base) :
    ∀ c ∈ numeral base n, ∃ d < base, c = Nat.digitChar d := by
  induction n using Nat.strong_induction_on with
  | _ n ih =>
    rw [numeral_eq hbase]
    intro c hc
    split_ifs at hc with h
    · exact ⟨n, h, List.mem_singleton.mp hc⟩
    rcases List.mem_append.mp hc with hc | hc
    · exact ih _ (Nat.div_lt_self (by omega) hbase) c hc
    · exact ⟨n % base, Nat.mod_lt _ (by omega), List.mem_singleton.mp hc⟩

theorem isDigit_of_mem_numeral : ∀ c ∈ numeral 10 n, c.isDigit = true :=
  fun _ => Nat.isDigit_of_mem_toDigits (by decide) (by decide)

theorem length_numeral_le (hbase : 1 < base) (hwidth : 0 < width) (h : n < base ^ width) :
    (numeral base n).length ≤ width :=
  (Nat.length_toDigits_le_iff hbase hwidth).mpr h

theorem length_padded (hbase : 1 < base) (hwidth : 0 < width) (h : n < base ^ width) :
    (padded width base n).length = width := by
  have hle := length_numeral_le hbase hwidth h
  simp only [padded, List.length_append, List.length_replicate]
  omega

theorem head?_numeral (hbase : 1 < base) (hle : base ≤ 16) (h : n ≠ 0) :
    (numeral base n).head? ≠ some '0' := by
  induction n using Nat.strong_induction_on with
  | _ n ih =>
    rw [numeral_eq hbase]
    split_ifs with hlt
    · have hn : n < 16 := by omega
      interval_cases n <;> first | exact absurd rfl h | decide
    · rw [List.head?_append_of_ne_nil _ numeral_ne_nil]
      exact ih _ (Nat.div_lt_self (by omega) hbase) (Nat.div_pos (by omega) (by omega)).ne'

theorem isSome_digit?_of_mem_numeral (hbase : 1 < base) (hle : base ≤ 16) :
    ∀ c ∈ numeral base n, (digit? base c).isSome = true := by
  intro c hc
  obtain ⟨d, hd, rfl⟩ := exists_digitChar_of_mem_numeral hbase c hc
  rw [digit?_digitChar hle hd, Option.isSome_some]

/-! ## Values -/

theorem readFrom?_append (chars more : List Char) :
    readFrom? base n (chars ++ more) =
      (readFrom? base n chars).bind fun m => readFrom? base m more := by
  induction chars generalizing n with
  | nil => rfl
  | cons c chars ih =>
    simp only [List.cons_append, readFrom?]
    cases digit? base c <;> simp [ih]

theorem readFrom?_numeral (hbase : 1 < base) (hle : base ≤ 16) :
    readFrom? base 0 (numeral base n) = some n := by
  induction n using Nat.strong_induction_on with
  | _ n ih =>
    rw [numeral_eq hbase]
    split_ifs with h
    · simp [readFrom?, digit?_digitChar hle h]
    · rw [readFrom?_append, ih _ (Nat.div_lt_self (by omega) hbase)]
      simp [readFrom?, digit?_digitChar hle (Nat.mod_lt n (by omega : 0 < base)),
        Nat.div_add_mod']

theorem read?_of_ne_nil {chars : List Char} (h : chars ≠ []) :
    read? base chars = readFrom? base 0 chars := by
  cases chars with
  | nil => exact absurd rfl h
  | cons c rest => rfl

theorem read?_numeral (hbase : 1 < base) (hle : base ≤ 16) :
    read? base (numeral base n) = some n := by
  rw [read?_of_ne_nil numeral_ne_nil, readFrom?_numeral hbase hle]

theorem readFrom?_replicate (hbase : 0 < base) (chars : List Char) :
    readFrom? base 0 (List.replicate width '0' ++ chars) = readFrom? base 0 chars := by
  induction width with
  | zero => rfl
  | succ width ih =>
    rw [List.replicate_succ, List.cons_append, readFrom?, digit?_zero hbase]
    simpa using ih

theorem read?_padded (hbase : 1 < base) (hle : base ≤ 16) :
    read? base (padded width base n) = some n := by
  have hne : padded width base n ≠ [] := List.append_ne_nil_of_right_ne_nil _ numeral_ne_nil
  rw [read?_of_ne_nil hne, padded, readFrom?_replicate (by omega), readFrom?_numeral hbase hle]

theorem dropPlus_digits {chars : List Char} (h : ∀ c ∈ chars, (digit? base c).isSome = true) :
    dropPlus chars = chars := by
  unfold dropPlus
  split
  · exact absurd (h '+' List.mem_cons_self) (by simp [digit?])
  · rfl

theorem readBelow?_numeral (hbase : 1 < base) (hle : base ≤ 16) (h : n < limit) :
    readBelow? base limit (numeral base n) = some n := by
  rw [readBelow?, dropPlus_digits (isSome_digit?_of_mem_numeral hbase hle),
    read?_numeral hbase hle, Option.filter_some, if_pos (by simpa using h)]

theorem isSome_digit?_of_mem_padded (hbase : 1 < base) (hle : base ≤ 16) :
    ∀ c ∈ padded width base n, (digit? base c).isSome = true := by
  intro c hc
  rcases List.mem_append.mp hc with hc | hc
  · rw [(List.mem_replicate.mp hc).2, digit?_zero (by omega), Option.isSome_some]
  · exact isSome_digit?_of_mem_numeral hbase hle c hc

theorem readBelow?_padded (hbase : 1 < base) (hle : base ≤ 16) (h : n < limit) :
    readBelow? base limit (padded width base n) = some n := by
  rw [readBelow?, dropPlus_digits (isSome_digit?_of_mem_padded hbase hle),
    read?_padded hbase hle, Option.filter_some, if_pos (by simpa using h)]

/-! ## Numerals at the front -/

variable {most : Nat} {zeros : Bool} {chars rest : List Char}

theorem takeWhile_dropWhile_append {isDigit : Char → Bool} (h : ∀ c ∈ chars, isDigit c = true)
    (hrest : ∀ c ∈ rest.head?, isDigit c = false) :
    (chars ++ rest).takeWhile isDigit = chars ∧ (chars ++ rest).dropWhile isDigit = rest := by
  rw [List.takeWhile_append_of_pos h, List.dropWhile_append_of_pos h]
  cases rest with
  | nil => simp
  | cons c rest => simp [hrest c rfl]

/-- **A numeral is read off a text** if it is within bounds and no digit follows. -/
theorem scanNumber?_numeral (hbase : 1 < base) (hle : base ≤ 16) (hwidth : 0 < most)
    (hmost : n < base ^ most) (hlimit : n < limit)
    (hrest : ∀ c ∈ rest.head?, digit? base c = none) :
    scanNumber? base most limit zeros (numeral base n ++ rest) = some (n, rest) := by
  have hdigits := @isSome_digit?_of_mem_numeral base n hbase hle
  have hbehind : ∀ c ∈ rest.head?, (digit? base c).isSome = false := fun c hc =>
    Option.isSome_eq_false_iff.mpr (Option.isNone_iff_eq_none.mpr (hrest c hc))
  obtain ⟨htake, hdrop⟩ := takeWhile_dropWhile_append hdigits hbehind
  have hlength := length_numeral_le hbase hwidth hmost
  have hzeros : ¬(1 < (numeral base n).length ∧ (numeral base n).head? = some '0') := by
    rintro ⟨hlong, hzero⟩
    -- the numeral of zero has the leading zero, but is not long
    refine head?_numeral hbase hle ?_ hzero
    rintro rfl
    rw [numeral_eq hbase, if_pos (by omega)] at hlong
    exact absurd hlong (by simp)
  simp only [scanNumber?, htake, hdrop, read?_numeral hbase hle, if_pos hlimit]
  rw [if_neg]
  rintro (hlong | ⟨-, hzero⟩)
  · omega
  · exact hzeros hzero

end EvpnGateway.Digits
