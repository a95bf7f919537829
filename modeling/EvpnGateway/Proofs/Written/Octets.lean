import EvpnGateway.Proofs.Written.Addresses
/-!
# Texts that are MAC addresses

* `HexDigit`, `digit?_eq_some_iff`: hexadecimal digits and their values;
* `HexPair`, `SignedDigit`: two digits for an octet, or a plus sign and one digit;
  **`readOctet?_eq_some_iff`**: these are read as an octet;
* `MacAddress.Written`: six groups with colons or hyphens between them;
* **`MacAddress.read?_eq_some_iff`**: the texts that are read, and their octets;
* **`MacAddress.parse_written`**; `parse_signed`: a plus sign is taken for a digit.
-/

namespace EvpnGateway

/-! ## Digits -/

/-- The character is the hexadecimal digit of a value, in either case. -/
def HexDigit (c : Char) (value : Nat) : Prop :=
  "0123456789abcdef".toList[value]? = some c ∨ "0123456789ABCDEF".toList[value]? = some c

theorem HexDigit.lt {c : Char} {value : Nat} (h : HexDigit c value) : value < 16 := by
  rcases h with h | h <;> exact (List.getElem?_eq_some_iff.mp h).1

theorem toNat_of_digit? {c : Char} {value : Nat} (h : Digits.digit? 16 c = some value) :
    (48 ≤ c.toNat ∧ c.toNat ≤ 57) ∨ (65 ≤ c.toNat ∧ c.toNat ≤ 70) ∨
      (97 ≤ c.toNat ∧ c.toNat ≤ 102) := by
  have hsmall : 'a' ≤ c ↔ 97 ≤ c.toNat := Iff.rfl
  have hcapital : 'A' ≤ c ↔ 65 ≤ c.toNat := Iff.rfl
  have ha : 'a'.toNat = 97 := rfl
  have hA : 'A'.toNat = 65 := rfl
  simp only [Digits.digit?, Digits.isDigit_iff, hsmall, hcapital, ha, hA] at h
  split_ifs at h <;> omega

/-- **The digits that are read are the hexadecimal ones.** -/
theorem digit?_eq_some_iff {c : Char} {value : Nat} :
    Digits.digit? 16 c = some value ↔ HexDigit c value := by
  constructor
  · intro h
    have hrange := toNat_of_digit? h
    rw [← c.ofNat_toNat] at h ⊢
    generalize c.toNat = n at h hrange
    rcases hrange with ⟨hlow, hhigh⟩ | ⟨hlow, hhigh⟩ | ⟨hlow, hhigh⟩
    · interval_cases n <;> cases h <;> exact .inl rfl
    · interval_cases n <;> cases h <;> exact .inr rfl
    · interval_cases n <;> cases h <;> exact .inl rfl
  · intro h
    have hlt := h.lt
    rcases h with h | h <;> interval_cases value <;> cases h <;> decide

theorem not_hexDigit {c : Char} {value : Nat} (h : Digits.digit? 16 c = none) :
    ¬ HexDigit c value := fun hdigit =>
  nomatch h.symm.trans (digit?_eq_some_iff.mpr hdigit)

/-! ## Octets -/

/-- Two hexadecimal digits that make up an octet. -/
def HexPair (part : List Char) (octet : UInt8) : Prop :=
  ∃ c d high low, part = [c, d] ∧ HexDigit c high ∧ HexDigit d low ∧ octet.toNat = 16 * high + low

/-- A plus sign and the hexadecimal digit of an octet. -/
def SignedDigit (part : List Char) (octet : UInt8) : Prop :=
  ∃ c, part = ['+', c] ∧ HexDigit c octet.toNat

theorem HexPair.isHex {part : List Char} {octet : UInt8} (h : HexPair part octet) :
    ∀ c ∈ part, ∃ value, HexDigit c value := by
  obtain ⟨c, d, high, low, rfl, hc, hd, -⟩ := h
  simp only [List.forall_mem_cons, List.not_mem_nil, false_implies, implies_true, and_true]
  exact ⟨⟨high, hc⟩, low, hd⟩

theorem SignedDigit.isHex {part : List Char} {octet : UInt8} (h : SignedDigit part octet) :
    ∀ c ∈ part, c = '+' ∨ ∃ value, HexDigit c value := by
  obtain ⟨c, rfl, hc⟩ := h
  simp only [List.forall_mem_cons, List.not_mem_nil, false_implies, implies_true, and_true,
    true_or, true_and]
  exact .inr ⟨_, hc⟩

theorem read?_two {c d : Char} {n : Nat} : Digits.read? 16 [c, d] = some n ↔
    ∃ high low, HexDigit c high ∧ HexDigit d low ∧ n = 16 * high + low := by
  simp only [Digits.read?, Digits.readFrom?, Option.bind_eq_some_iff, digit?_eq_some_iff,
    Option.some.injEq, Nat.mul_comm _ 16, Nat.mul_zero, Nat.zero_add]
  constructor
  · rintro ⟨high, hhigh, low, hlow, rfl⟩
    exact ⟨high, low, hhigh, hlow, rfl⟩
  · rintro ⟨high, low, hhigh, hlow, rfl⟩
    exact ⟨high, hhigh, low, hlow, rfl⟩

theorem read?_one {c : Char} {n : Nat} : Digits.read? 16 [c] = some n ↔ HexDigit c n := by
  simp [Digits.read?, Digits.readFrom?, digit?_eq_some_iff]

theorem mapM_eq_some_iff {α β : Type} {f : α → Option β} {items : List α} {results : List β} :
    items.mapM f = some results ↔
      List.Forall₂ (fun item result => f item = some result) items results := by
  induction items generalizing results with
  | nil => simp [eq_comm]
  | cons item items ih =>
    simp only [List.mapM_cons, Option.bind_eq_bind, Option.bind_eq_some_iff, ih, Option.pure_def,
      Option.some.injEq, List.forall₂_cons_left_iff]
    constructor
    · rintro ⟨result, hresult, results, hrest, rfl⟩
      exact ⟨result, results, hresult, hrest, rfl⟩
    · rintro ⟨result, results, hresult, hrest, rfl⟩
      exact ⟨result, hresult, results, hrest, rfl⟩

namespace MacAddress

variable {part text : List Char} {octet : UInt8} {mac : MacAddress}

theorem readOctet?_two {c d : Char} : readOctet? [c, d] = some octet ↔
    Digits.read? 16 (Digits.dropPlus [c, d]) = some octet.toNat := by
  have hlt : octet.toNat < 256 := octet.toNat_lt
  simp only [readOctet?, List.length_cons, List.length_nil, Nat.reduceAdd, if_true,
    Digits.readBelow?, Option.map_eq_some_iff, Option.filter_eq_some_iff, decide_eq_true_eq]
  constructor
  · rintro ⟨n, ⟨hread, hn⟩, rfl⟩
    rwa [UInt8.toNat_ofNat_of_lt' hn]
  · intro hread
    exact ⟨octet.toNat, ⟨hread, hlt⟩, UInt8.ofNat_toNat⟩

/-- **Octets are read from two digits, or from one behind a plus sign.** -/
theorem readOctet?_eq_some_iff :
    readOctet? part = some octet ↔ HexPair part octet ∨ SignedDigit part octet := by
  by_cases hlength : part.length = 2
  · obtain ⟨c, d, rfl⟩ := List.length_eq_two.mp hlength
    rw [readOctet?_two]
    by_cases hplus : c = '+'
    · subst hplus
      rw [Digits.dropPlus, read?_one]
      constructor
      · exact fun h => .inr ⟨d, rfl, h⟩
      · rintro (⟨c, d', high, low, ⟨⟩, hc, -⟩ | ⟨d', ⟨⟩, hd⟩)
        · exact absurd hc (not_hexDigit rfl)
        · exact hd
    · have hdrop : Digits.dropPlus [c, d] = [c, d] := by simp [Digits.dropPlus, hplus]
      rw [hdrop, read?_two]
      constructor
      · rintro ⟨high, low, hc, hd, hoctet⟩
        exact .inl ⟨c, d, high, low, rfl, hc, hd, hoctet⟩
      · rintro (⟨c', d', high, low, ⟨⟩, hc, hd, hoctet⟩ | ⟨d', ⟨⟩, -⟩)
        · exact ⟨high, low, hc, hd, hoctet⟩
        · exact absurd rfl hplus
  · rw [readOctet?, if_neg hlength]
    constructor
    · intro h
      cases h
    · rintro (⟨c, d, high, low, rfl, -⟩ | ⟨c, rfl, -⟩) <;> exact absurd rfl hlength

/-! ## Addresses -/

/-- The text of an address: six groups for its octets, all joined by colons or all by hyphens. -/
def Written (Group : List Char → UInt8 → Prop) (text : List Char) (mac : MacAddress) : Prop :=
  ∃ separator groups, (separator = ':' ∨ separator = '-') ∧
    text = [separator].intercalate groups ∧ List.Forall₂ Group groups mac.octets

theorem isHex_of_forall₂ {groups : List (List Char)} {octets : List UInt8}
    (h : List.Forall₂ (fun part octet => HexPair part octet ∨ SignedDigit part octet) groups
      octets) : ∀ group ∈ groups, ∀ c ∈ group, c = '+' ∨ ∃ value, HexDigit c value := by
  refine ((List.forall₂_and_left ..).mp (h.imp fun part octet hpart => ⟨?_, hpart⟩)).1
  rcases hpart with hpair | hsigned
  · exact fun c hc => .inr (hpair.isHex c hc)
  · exact hsigned.isHex

/-- **The texts that are read as an address.** -/
theorem read?_eq_some_iff : read? text = some mac ↔
    Written (fun part octet => HexPair part octet ∨ SignedDigit part octet) text mac := by
  constructor
  · intro h
    unfold read? at h
    generalize hseparator : (if text.contains ':' then ':' else '-') = separator at h
    dsimp only at h
    split at h
    · next a b c d e f hparts =>
      obtain rfl := Option.some.inj h
      refine ⟨separator, split separator text, ?_, (intercalate_split separator text).symm,
        (mapM_eq_some_iff.mp hparts).imp fun part octet => readOctet?_eq_some_iff.mp⟩
      rw [← hseparator]
      split_ifs
      · exact .inl rfl
      · exact .inr rfl
    · cases h
  · rintro ⟨separator, groups, hseparator, rfl, hgroups⟩
    have hhex := isHex_of_forall₂ hgroups
    have hlength : groups.length = 6 := hgroups.length_eq
    -- no mark is a digit or a plus sign
    have hfree : ∀ mark, mark = ':' ∨ mark = '-' → ∀ group ∈ groups, mark ∉ group := by
      intro mark hmark group hgroup hmem
      rcases hhex group hgroup mark hmem with rfl | ⟨value, hvalue⟩
      · exact absurd hmark (by decide)
      · rcases hmark with rfl | rfl <;> exact not_hexDigit rfl hvalue
    have hchosen : (if ([separator].intercalate groups).contains ':' then ':' else '-') =
        separator := by
      rcases hseparator with rfl | rfl
      · exact if_pos (List.contains_iff_mem.mpr (mem_intercalate_iff.mpr (.inl ⟨rfl, by omega⟩)))
      · refine if_neg fun hcolon => ?_
        rcases mem_intercalate_iff.mp (List.contains_iff_mem.mp hcolon) with
          ⟨hsame, -⟩ | ⟨group, hgroup, hmem⟩
        · exact absurd hsame (by decide)
        · exact hfree ':' (.inl rfl) group hgroup hmem
    have hsplit : split separator ([separator].intercalate groups) = groups := by
      refine split_intercalate ?_ (hfree separator hseparator)
      rintro rfl
      exact absurd hlength (by decide)
    have hoctets := mapM_eq_some_iff.mpr
      (hgroups.imp fun part octet => readOctet?_eq_some_iff.mpr)
    simp only [read?, hchosen, hsplit, hoctets]
    rfl

theorem written_hexPair_iff : Written HexPair text mac ↔
    Written (fun part octet => HexPair part octet ∨ SignedDigit part octet) text mac ∧
      '+' ∉ text := by
  constructor
  · rintro ⟨separator, groups, hseparator, rfl, hgroups⟩
    refine ⟨⟨separator, groups, hseparator, rfl, hgroups.imp fun _ _ => .inl⟩, fun hplus => ?_⟩
    rcases mem_intercalate_iff.mp hplus with ⟨rfl, -⟩ | ⟨group, hgroup, hmem⟩
    · exact absurd hseparator (by decide)
    · have hhex := ((List.forall₂_and_left ..).mp (hgroups.imp fun part octet hpair =>
        ⟨hpair.isHex, hpair⟩)).1
      obtain ⟨value, hvalue⟩ := hhex group hgroup '+' hmem
      exact not_hexDigit rfl hvalue
  · rintro ⟨⟨separator, groups, hseparator, rfl, hgroups⟩, hplus⟩
    refine ⟨separator, groups, hseparator, rfl, ?_⟩
    have hfree : ∀ group ∈ groups, '+' ∉ group := fun group hgroup hmem =>
      hplus (mem_intercalate_iff.mpr (.inr ⟨group, hgroup, hmem⟩))
    refine ((List.forall₂_and_left ..).mpr ⟨hfree, hgroups⟩).imp fun part octet hpart => ?_
    rcases hpart with ⟨hnone, hpair | ⟨c, rfl, -⟩⟩
    · exact hpair
    · exact absurd List.mem_cons_self hnone

theorem parse_eq_ok_iff {source : String} :
    parse source = .ok mac ↔ read? source.toList = some mac := by
  unfold parse
  cases read? source.toList <;> simp

/-- **The texts that are MAC addresses.** A text is read as an address exactly when it is made of
six groups for the octets in order, joined by colons or by hyphens, where a group is two hexadecimal
digits or a plus sign and one digit. So the texts with two digits in each group are those that are
read and hold no plus sign. Any other text is refused with an error that carries it. -/
theorem parse_written (source : String) :
    (∀ mac, parse source = .ok mac ↔
      Written (fun part octet => HexPair part octet ∨ SignedDigit part octet) source.toList mac) ∧
    (∀ mac, Written HexPair source.toList mac ↔ parse source = .ok mac ∧ '+' ∉ source.toList) ∧
    ((∀ mac, parse source ≠ .ok mac) → parse source = .error (.macAddress source)) := by
  refine ⟨fun mac => parse_eq_ok_iff.trans read?_eq_some_iff, fun mac => ?_, fun hnone => ?_⟩
  · rw [written_hexPair_iff, parse_eq_ok_iff, read?_eq_some_iff]
  · cases hread : read? source.toList with
    | some mac => exact absurd (parse_eq_ok_iff.mpr hread) (hnone mac)
    | none => simp [parse, hread]

/-- A text of five groups is refused. -/
theorem parse_written_five :
    (∀ mac, parse "00:11:22:33:44" ≠ .ok mac) ∧
      parse "00:11:22:33:44" = .error (.macAddress "00:11:22:33:44") := by
  have hnone : ∀ mac, parse "00:11:22:33:44" ≠ .ok mac := by
    have hread : parse "00:11:22:33:44" = .error (.macAddress "00:11:22:33:44") := by
      decide +kernel
    simp [hread]
  exact ⟨hnone, (parse_written _).2.2 hnone⟩

/-- **A plus sign is taken for a digit.** The first group has one digit only, and yet the text is
read as an address. -/
theorem parse_signed :
    parse "+0:11:22:33:44:55" = .ok ⟨0, 0x11, 0x22, 0x33, 0x44, 0x55⟩ ∧
      ∀ mac, ¬ Written HexPair "+0:11:22:33:44:55".toList mac := by
  refine ⟨by decide +kernel, fun mac hwritten => ?_⟩
  exact (written_hexPair_iff.mp hwritten).2 (by decide)

end MacAddress

end EvpnGateway
