import EvpnGateway.Text.Utf8
import Mathlib.Tactic
/-!
# Texts in the order of their bytes

Texts are compared character by character, and characters by their code points. Their bytes give the
same order.

* `utf8EncodeChar_append_lt`: the bytes of characters differ in the direction of the characters,
  before the shorter end;
* **`Utf8.encode_lt_encode_iff`**.
-/

namespace EvpnGateway.Utf8

/-- The bytes of a code point as numbers: the lead carries a mark that tells how many bytes there
are, and each further byte six bits of the code point. -/
def codes (n : Nat) : List Nat :=
  if n ≤ 0x7f then [n]
  else if n ≤ 0x7ff then [n / 64 + 0xc0, n % 64 + 0x80]
  else if n ≤ 0xffff then [n / 4096 + 0xe0, n / 64 % 64 + 0x80, n % 64 + 0x80]
  else [n / 262144 + 0xf0, n / 4096 % 64 + 0x80, n / 64 % 64 + 0x80, n % 64 + 0x80]

theorem toNat_lt (c : Char) : c.toNat < 0x110000 :=
  c.valid.elim (fun h => Nat.lt_trans h (by decide)) And.right

theorem utf8EncodeChar_eq (c : Char) :
    String.utf8EncodeChar c = (codes c.toNat).map UInt8.ofNat := by
  have hc : c.val.toNat < 0x110000 := toNat_lt c
  simp only [String.utf8EncodeChar, codes, Char.toNat]
  generalize c.val.toNat = n at hc
  split_ifs
  · rfl
  · rw [Nat.mod_eq_of_lt (by omega : n / 64 < 32)]
    rfl
  · rw [Nat.mod_eq_of_lt (by omega : n / 4096 < 16)]
    rfl
  · rw [Nat.mod_eq_of_lt (by omega : n / 262144 < 8)]
    rfl

theorem cons_ofNat_lt_iff {m n : Nat} {rest more : List UInt8} (hm : m < 256) (hn : n < 256) :
    UInt8.ofNat m :: rest < UInt8.ofNat n :: more ↔ m < n ∨ m = n ∧ rest < more := by
  rw [List.cons_lt_cons_iff, UInt8.lt_iff_toNat_lt, ← UInt8.toNat_inj,
    UInt8.toNat_ofNat_of_lt' hm, UInt8.toNat_ofNat_of_lt' hn]

theorem codes_append_lt {m n : Nat} (h : m < n) (hn : n < 0x110000) (rest more : List UInt8) :
    (codes m).map UInt8.ofNat ++ rest < (codes n).map UInt8.ofNat ++ more := by
  -- as many bytes: place by place to the base 64, the highest first; fewer bytes: a smaller lead
  have htwo : m / 64 < n / 64 ∨ m / 64 = n / 64 ∧ m % 64 < n % 64 := by omega
  have hthree : m / 4096 < n / 4096 ∨ m / 4096 = n / 4096 ∧ (m / 64 % 64 < n / 64 % 64 ∨
      m / 64 % 64 = n / 64 % 64 ∧ m % 64 < n % 64) := by omega
  have hfour : m / 262144 < n / 262144 ∨ m / 262144 = n / 262144 ∧
      (m / 4096 % 64 < n / 4096 % 64 ∨ m / 4096 % 64 = n / 4096 % 64 ∧
        (m / 64 % 64 < n / 64 % 64 ∨ m / 64 % 64 = n / 64 % 64 ∧ m % 64 < n % 64)) := by omega
  unfold codes
  split_ifs <;> simp (disch := omega) only [List.map_cons, List.map_nil, List.cons_append,
    List.nil_append, cons_ofNat_lt_iff] <;> omega

theorem utf8EncodeChar_append_lt {c d : Char} (h : c < d) (rest more : List UInt8) :
    String.utf8EncodeChar c ++ rest < String.utf8EncodeChar d ++ more := by
  rw [utf8EncodeChar_eq, utf8EncodeChar_eq]
  exact codes_append_lt h (toNat_lt d) rest more

theorem flatMap_utf8EncodeChar_lt {one other : List Char} (h : one < other) :
    one.flatMap String.utf8EncodeChar < other.flatMap String.utf8EncodeChar := by
  induction one generalizing other with
  | nil =>
    cases other with
    | nil => exact absurd h (List.lt_irrefl [])
    | cons d other =>
      -- a proper beginning comes first
      obtain ⟨byte, bytes, hbytes⟩ :=
        List.exists_cons_of_ne_nil (String.utf8EncodeChar_ne_nil (c := d))
      rw [List.flatMap_nil, List.flatMap_cons, hbytes]
      exact List.nil_lt_cons ..
  | cons c one ih =>
    cases other with
    | nil => exact absurd h (List.not_lt_nil _)
    | cons d other =>
      rw [List.flatMap_cons, List.flatMap_cons]
      rcases List.cons_lt_cons_iff.mp h with hless | ⟨rfl, hless⟩
      · exact utf8EncodeChar_append_lt hless _ _
      · exact List.append_left_lt (ih hless)

/-- **Texts compare like their bytes.** -/
theorem encode_lt_encode_iff {one other : String} : encode one < encode other ↔ one < other := by
  refine ⟨fun h => ?_, fun h => flatMap_utf8EncodeChar_lt (String.lt_iff.mp h)⟩
  by_contra hless
  have hle : other ≤ one := String.not_lt.mp hless
  by_cases hmore : other < one
  · exact List.lt_asymm h (flatMap_utf8EncodeChar_lt (String.lt_iff.mp hmore))
  · obtain rfl := String.le_antisymm hle (String.not_lt.mp hmore)
    exact List.lt_irrefl _ h

end EvpnGateway.Utf8
