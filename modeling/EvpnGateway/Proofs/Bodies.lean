import EvpnGateway.Http.Message
import EvpnGateway.Json.Reader
import EvpnGateway.Proofs.ByteOrder
/-!
# Bodies

A body is read as the text that its bytes write. Where they write none, a reader of JSON passes over
them in a string that it skips, and refuses a string that it reads.

* `Utf8.unit_codes`, `Utf8.units_flatMap`: the bytes of characters are cut into these characters;
* **`Http.Body.source_coe`**: a text is read as it is;
* `Json.Reader.skipChars_flatMap`, `Json.Reader.stringChars_eq_ok_iff`: bytes in a string that is
  skipped, and in one that is read.
-/

namespace EvpnGateway

namespace Utf8

/-! ## Characters and their bytes -/

section Follow

variable {low high : UInt8} {more bits m : Nat} {rest : List UInt8}

theorem follow_zero : follow low high 0 bits rest = (some (Char.ofNat bits), rest) := by
  cases rest <;> rfl

theorem follow_succ (hlow : low.toNat ≤ m % 64 + 0x80) (hhigh : m % 64 + 0x80 ≤ high.toNat) :
    follow low high (more + 1) bits (UInt8.ofNat (m % 64 + 0x80) :: rest) =
      follow 0x80 0xbf more (bits * 64 + m % 64) rest := by
  have hm : (UInt8.ofNat (m % 64 + 0x80)).toNat = m % 64 + 0x80 :=
    UInt8.toNat_ofNat_of_lt' (Nat.lt_of_le_of_lt hhigh high.toNat_lt)
  have hbits : (m % 64 + 0x80) % 64 = m % 64 := by omega
  rw [follow, if_pos, hm, hbits]
  rw [UInt8.le_iff_toNat_le, UInt8.le_iff_toNat_le, hm]
  exact ⟨hlow, hhigh⟩

theorem follow_mark :
    follow 0x80 0xbf (more + 1) bits (UInt8.ofNat (m % 64 + 0x80) :: rest) =
      follow 0x80 0xbf more (bits * 64 + m % 64) rest := by
  refine follow_succ (Nat.le_add_left ..) ?_
  change m % 64 + 0x80 ≤ 0xbf
  omega

end Follow

section Unit

variable {n : Nat} {rest : List UInt8}

theorem unit_ofNat (h : n < 256) : unit (UInt8.ofNat n) rest =
    if n < 0x80 then (some (Char.ofNat n), rest)
    else if n < 0xc2 then (none, rest)
    else if n < 0xe0 then follow 0x80 0xbf 1 (n % 32) rest
    else if n = 0xe0 then follow 0xa0 0xbf 2 (n % 16) rest
    else if n = 0xed then follow 0x80 0x9f 2 (n % 16) rest
    else if n < 0xf0 then follow 0x80 0xbf 2 (n % 16) rest
    else if n = 0xf0 then follow 0x90 0xbf 3 (n % 8) rest
    else if n < 0xf4 then follow 0x80 0xbf 3 (n % 8) rest
    else if n = 0xf4 then follow 0x80 0x8f 3 (n % 8) rest
    else (none, rest) := by
  dsimp only [unit]
  rw [UInt8.toNat_ofNat_of_lt' h]

theorem unit_two (hlow : 0x7f < n) (hhigh : n ≤ 0x7ff) :
    unit (UInt8.ofNat (n / 64 + 0xc0)) (UInt8.ofNat (n % 64 + 0x80) :: rest) =
      (some (Char.ofNat n), rest) := by
  have hbits : (n / 64 + 0xc0) % 32 * 64 + n % 64 = n := by omega
  rw [unit_ofNat (by omega), if_neg (by omega), if_neg (by omega), if_pos (by omega), follow_mark,
    follow_zero, hbits]

theorem unit_three (hlow : 0x7ff < n) (hhigh : n ≤ 0xffff) (hvalid : n < 0xd800 ∨ 0xdfff < n) :
    unit (UInt8.ofNat (n / 4096 + 0xe0))
        (UInt8.ofNat (n / 64 % 64 + 0x80) :: UInt8.ofNat (n % 64 + 0x80) :: rest) =
      (some (Char.ofNat n), rest) := by
  have hbits : ((n / 4096 + 0xe0) % 16 * 64 + n / 64 % 64) * 64 + n % 64 = n := by omega
  rw [unit_ofNat (by omega), if_neg (by omega), if_neg (by omega), if_neg (by omega)]
  -- behind the first lead the second byte is not too small, behind 0xed it is below the surrogates
  split_ifs
  · rw [follow_succ (by change 0xa0 ≤ _; omega) (by change _ ≤ 0xbf; omega), follow_mark,
      follow_zero, hbits]
  · rw [follow_succ (by change 0x80 ≤ _; omega) (by change _ ≤ 0x9f; omega), follow_mark,
      follow_zero, hbits]
  · rw [follow_succ (by change 0x80 ≤ _; omega) (by change _ ≤ 0xbf; omega), follow_mark,
      follow_zero, hbits]
  all_goals omega

theorem unit_four (hlow : 0xffff < n) (hhigh : n < 0x110000) :
    unit (UInt8.ofNat (n / 262144 + 0xf0)) (UInt8.ofNat (n / 4096 % 64 + 0x80) ::
        UInt8.ofNat (n / 64 % 64 + 0x80) :: UInt8.ofNat (n % 64 + 0x80) :: rest) =
      (some (Char.ofNat n), rest) := by
  have hbits : (((n / 262144 + 0xf0) % 8 * 64 + n / 4096 % 64) * 64 + n / 64 % 64) * 64 +
      n % 64 = n := by omega
  rw [unit_ofNat (by omega), if_neg (by omega), if_neg (by omega), if_neg (by omega),
    if_neg (by omega), if_neg (by omega), if_neg (by omega)]
  -- the least and the largest lead leave less room for the second byte
  split_ifs
  · rw [follow_succ (by change 0x90 ≤ _; omega) (by change _ ≤ 0xbf; omega), follow_mark,
      follow_mark, follow_zero, hbits]
  · rw [follow_succ (by change 0x80 ≤ _; omega) (by change _ ≤ 0xbf; omega), follow_mark,
      follow_mark, follow_zero, hbits]
  · rw [follow_succ (by change 0x80 ≤ _; omega) (by change _ ≤ 0x8f; omega), follow_mark,
      follow_mark, follow_zero, hbits]
  all_goals omega

end Unit

/-- The bytes of a code point are cut off as one character. -/
theorem unit_codes {n : Nat} (hvalid : n.isValidChar) (rest : List UInt8) :
    ∃ byte more, (codes n).map UInt8.ofNat ++ rest = byte :: more ∧
      unit byte more = (some (Char.ofNat n), rest) := by
  have hrange : n < 0xd800 ∨ 0xdfff < n ∧ n < 0x110000 := hvalid
  unfold codes
  split_ifs with hone htwo hthree
  · exact ⟨_, _, rfl, by rw [unit_ofNat (by omega), if_pos (by omega)]; rfl⟩
  · exact ⟨_, _, rfl, unit_two (by omega) htwo⟩
  · exact ⟨_, _, rfl, unit_three (by omega) hthree (hrange.imp_right And.left)⟩
  · exact ⟨_, _, rfl, unit_four (by omega) (by omega)⟩

theorem units_flatMap (chars : List Char) :
    units (chars.flatMap String.utf8EncodeChar) = chars.map some := by
  induction chars with
  | nil => exact units.eq_1
  | cons c chars ih =>
    obtain ⟨byte, more, hbytes, hunit⟩ :=
      unit_codes c.valid (chars.flatMap String.utf8EncodeChar)
    rw [List.flatMap_cons, utf8EncodeChar_eq, Char.toNat, hbytes, units, hunit, List.map_cons, ih]
    exact congrArg (some · :: _) (Char.ofNat_toNat c)

end Utf8

/-! ## Bodies of texts -/

/-- **A text is read as it is.** -/
theorem Http.Body.source_coe (text : String) : Body.source text = text := by
  have hunits : Utf8.units (Utf8.encode text) = text.toList.map some := Utf8.units_flatMap _
  have hshown : (text.toList.map some).flatMap shown = text.toList := by
    rw [List.flatMap_map]
    exact List.flatMap_singleton' _
  rw [source, hunits, hshown, String.ofList_toList]

/-! ## Other bytes in strings -/

namespace Json.Reader

open Http

/-- The character stands for itself in a string. -/
def Plain (c : Char) : Prop := c ≠ '"' ∧ c ≠ '\\' ∧ 0x20 ≤ c.toNat

section Shown

variable {c : Char} (rest : List Char)

theorem skipChars_plain (h : Plain c) : skipChars (c :: rest) = skipChars rest := by
  simp [skipChars, h.1, h.2.1, h.2.2]

theorem stringChars_plain (h : Plain c) :
    stringChars (c :: rest) = prepend c (stringChars rest) := by
  simp [stringChars, h.1, h.2.1, h.2.2]

theorem prepend_eq_ok_iff {result : Except Failure (List Char × List Char)}
    {chars after : List Char} :
    prepend c result = .ok (chars, after) ↔
      ∃ more, chars = c :: more ∧ result = .ok (more, after) := by
  cases result with
  | error failure => simp [prepend, Except.map]
  | ok found =>
    obtain ⟨more, tail⟩ := found
    simp [prepend, Except.map, eq_comm]

theorem stray_append :
    Body.stray ++ rest = 'x' :: '\\' :: 'u' :: 'd' :: 'f' :: 'f' :: 'f' :: rest := rfl

theorem hexNumber?_stray : hexNumber? 'd' 'f' 'f' 'f' = some 0xdfff := by decide

theorem skipChars_stray : skipChars (Body.stray ++ rest) = skipChars rest := by
  rw [stray_append]
  simp [skipChars, hexNumber?_stray]

theorem stringChars_stray :
    stringChars (Body.stray ++ rest) = prepend 'x' (failHere .loneSurrogate rest) := by
  rw [stray_append]
  simp [stringChars, hexNumber?_stray]

end Shown

variable {units : List (Option Char)} (h : ∀ c, some c ∈ units → Plain c) (rest : List Char)

include h

/-- A string is skipped whatever its bytes write. -/
theorem skipChars_flatMap :
    skipChars (units.flatMap Body.shown ++ '"' :: rest) = .ok ((), rest) := by
  induction units with
  | nil => simp [skipChars]
  | cons unit units ih =>
    have hrest := ih fun c hc => h c (List.mem_cons_of_mem _ hc)
    rw [List.flatMap_cons, List.append_assoc]
    cases unit with
    | some c => exact (skipChars_plain _ (h c List.mem_cons_self)).trans hrest
    | none => exact (skipChars_stray _).trans hrest

/-- **A string is read exactly if its bytes write a text**, and then as this text. -/
theorem stringChars_eq_ok_iff {chars after : List Char} :
    stringChars (units.flatMap Body.shown ++ '"' :: rest) = .ok (chars, after) ↔
      units = chars.map some ∧ rest = after := by
  induction units generalizing chars with
  | nil =>
    have hclosed : stringChars ('"' :: rest) = .ok ([], rest) := by simp [stringChars]
    rw [List.flatMap_nil, List.nil_append, hclosed]
    cases chars <;> simp
  | cons unit units ih =>
    rw [List.flatMap_cons, List.append_assoc]
    cases unit with
    | none =>
      rw [Body.shown, stringChars_stray, prepend_eq_ok_iff]
      cases chars <;> simp [failHere]
    | some c =>
      rw [Body.shown, List.singleton_append, stringChars_plain _ (h c List.mem_cons_self),
        prepend_eq_ok_iff]
      simp only [ih fun d hd => h d (List.mem_cons_of_mem _ hd)]
      cases chars <;> simp [and_assoc, @eq_comm _ c]

end Json.Reader

end EvpnGateway
