import EvpnGateway.Net.IpPrefix
import EvpnGateway.Net.Mac
import EvpnGateway.Proofs.Written.Numerals
/-!
# Addresses read back

* **`MacAddress.parse_text`**: the written form of a MAC address is read as that address;
* `Ipv4Address.scan?_chars`, `Ipv6Address.scan?_chars`: and that of an IP address, also where two
  colons stand for zeros (`Ipv6Address.exists_longestZeros`) or an address of the other family is
  carried inside;
* **`IpPrefix.parse_text`**: prefixes, host bits included; `IpPrefix.make_eq_ok_iff`,
  `IpPrefix.parse_eq_ok_iff`: what makes a prefix, and which texts are read as one;
  **`IpPrefix.text_round_trips`**.
-/

namespace EvpnGateway

/-! ## MAC addresses -/

namespace MacAddress

theorem readOctet?_padded (octet : UInt8) :
    readOctet? (Digits.padded 2 16 octet.toNat) = some octet := by
  have hlt : octet.toNat < 256 := octet.toNat_lt
  rw [readOctet?, if_pos (Digits.length_padded (by decide) (by decide) hlt),
    Digits.readBelow?_padded (by decide) (by decide) hlt, Option.map_some, UInt8.ofNat_toNat]

theorem split_chars (mac : MacAddress) :
    split ':' mac.chars = mac.octets.map fun octet => Digits.padded 2 16 octet.toNat := by
  refine split_intercalate (by simp [octets]) fun part hpart hmem => ?_
  obtain ⟨octet, -, rfl⟩ := List.mem_map.mp hpart
  exact absurd (Digits.isSome_digit?_of_mem_padded (by decide) (by decide) _ hmem) (by decide)

theorem colon_mem_chars (mac : MacAddress) : ':' ∈ mac.chars := by
  simp [chars, octets, List.intercalate_cons_cons]

/-- **The written form of an address is read as that address.** -/
theorem parse_text (mac : MacAddress) : parse mac.text = .ok mac := by
  have hcolon : mac.chars.contains ':' = true := List.contains_iff_mem.mpr mac.colon_mem_chars
  have hread : read? mac.chars = some mac := by
    simp only [read?, hcolon, if_true, split_chars, octets, List.map_cons, List.map_nil,
      List.mapM_cons, List.mapM_nil, readOctet?_padded]
    rfl
  rw [parse, text, String.toList_ofList, hread]

end MacAddress

/-! ## IPv4 addresses -/

section Marks

variable {mark : Char} {text : List Char}

theorem scanMark?_due : scanMark? mark true (mark :: text) = some text := by
  simp [scanMark?]

theorem scanMark?_not_due : scanMark? mark false text = some text := by
  cases text <;> rfl

theorem scanNumber?_eq_none {base most limit : Nat} {zeros : Bool}
    (h : ∀ c ∈ text.head?, Digits.digit? base c = none) :
    scanNumber? base most limit zeros text = none := by
  have hnone : text.takeWhile (fun c => (Digits.digit? base c).isSome) = [] := by
    cases text with
    | nil => rfl
    | cons c rest => simp [h c rfl]
  simp [scanNumber?, hnone, Digits.read?]

theorem eq_dropWhile_of_scanNumber? {base most limit n : Nat} {zeros : Bool} {after : List Char}
    (h : scanNumber? base most limit zeros text = some (n, after)) :
    after = text.dropWhile fun c => (Digits.digit? base c).isSome := by
  simp only [scanNumber?] at h
  split_ifs at h
  split at h
  · split_ifs at h
    exact (congrArg Prod.snd (Option.some.inj h)).symm
  · cases h

end Marks

namespace Ipv4Address

variable {rest : List Char}

theorem scanOctet?_first (octet : UInt8) (h : ∀ c ∈ rest.head?, Digits.digit? 10 c = none) :
    scanOctet? false (Digits.numeral 10 octet.toNat ++ rest) = some (octet, rest) := by
  have hlt : octet.toNat < 256 := octet.toNat_lt
  simp [scanOctet?, scanMark?_not_due, Digits.scanNumber?_numeral (by decide) (by decide)
    (by decide) (lt_of_lt_of_le hlt (by decide) : octet.toNat < 10 ^ 3) hlt h]

theorem scanOctet?_next (octet : UInt8) (h : ∀ c ∈ rest.head?, Digits.digit? 10 c = none) :
    scanOctet? true ('.' :: (Digits.numeral 10 octet.toNat ++ rest)) = some (octet, rest) := by
  have hlt : octet.toNat < 256 := octet.toNat_lt
  simp [scanOctet?, scanMark?_due, Digits.scanNumber?_numeral (by decide) (by decide)
    (by decide) (lt_of_lt_of_le hlt (by decide) : octet.toNat < 10 ^ 3) hlt h]

/-- **The written form of an address at the front of a text is read as that address.** -/
theorem scan?_chars (address : Ipv4Address) (h : ∀ c ∈ rest.head?, Digits.digit? 10 c = none) :
    scan? (address.chars ++ rest) = some (address, rest) := by
  have hdot : ∀ {more : List Char}, ∀ c ∈ ('.' :: more).head?, Digits.digit? 10 c = none := by
    rintro more c ⟨⟩
    decide
  simp only [chars, List.map_cons, List.map_nil, List.intercalate_cons_cons,
    List.intercalate_singleton, List.append_assoc, List.nil_append, List.cons_append, scan?,
    scanOctet?_first _ hdot, scanOctet?_next _ hdot, scanOctet?_next _ h, Option.bind_eq_bind,
    Option.bind_some, pure]

theorem scan?_eq_none {text : List Char} (h : ∀ c ∈ text.head?, Digits.digit? 10 c = none) :
    scan? text = none := by
  simp [scan?, scanOctet?, scanMark?_not_due, scanNumber?_eq_none h]

theorem scan?_eq_none_of_dropWhile {text : List Char}
    (h : (text.dropWhile fun c => (Digits.digit? 10 c).isSome).head? ≠ some '.') :
    scan? text = none := by
  have hmark : scanMark? '.' true (text.dropWhile fun c => (Digits.digit? 10 c).isSome) = none := by
    cases hafter : text.dropWhile fun c => (Digits.digit? 10 c).isSome with
    | nil => rfl
    | cons c more =>
      rw [hafter] at h
      simp [scanMark?, show c ≠ '.' by simpa using h]
  cases hfirst : scanNumber? 10 3 256 false text with
  | none => simp [scan?, scanOctet?, scanMark?_not_due, hfirst]
  | some found =>
    obtain ⟨n, after⟩ := found
    rw [← eq_dropWhile_of_scanNumber? hfirst] at hmark
    simp [scan?, scanOctet?, scanMark?_not_due, hfirst, hmark]

end Ipv4Address

/-! ## IPv6 addresses -/

namespace Ipv6Address

theorem exists_longestZeros (groups : List UInt16) :
    ∃ before after, groups = before ++ List.replicate (longestZeros groups).2 0 ++ after ∧
      before.length = (longestZeros groups).1 := by
  induction groups with
  | nil => exact ⟨[], [], rfl, rfl⟩
  | cons group rest ih =>
    obtain ⟨before, after, hrest, hlength⟩ := ih
    simp only [longestZeros]
    split_ifs with h
    · have hzeros : (group :: rest).takeWhile (· == 0) =
          List.replicate (zeroRun (group :: rest)) 0 :=
        List.eq_replicate_iff.mpr ⟨rfl, fun zero hzero => by
          simpa using List.all_eq_true.mp List.all_takeWhile zero hzero⟩
      refine ⟨[], (group :: rest).dropWhile (· == 0), ?_, rfl⟩
      rw [List.nil_append, ← hzeros, List.takeWhile_append_dropWhile]
    · refine ⟨group :: before, after, ?_, ?_⟩
      · rw [List.cons_append, List.cons_append, ← hrest]
      · rw [List.length_cons, hlength]

/-- The written form of an address: with an address of the other family, with two colons for
zeros, or all of its groups. -/
theorem chars_cases (address : Ipv6Address) :
    (∃ inner, address.mapped? = some inner ∧ address.chars = "::ffff:".toList ++ inner.chars) ∨
      (∃ before zeros after, address.groups = before ++ List.replicate zeros 0 ++ after ∧
        1 < zeros ∧ address.chars = groupChars before ++ ':' :: ':' :: groupChars after) ∨
      address.chars = groupChars address.groups := by
  unfold chars
  split
  · next inner hmapped => exact .inl ⟨inner, hmapped, rfl⟩
  · obtain ⟨before, after, hgroups, hbefore⟩ := exists_longestZeros address.groups
    generalize longestZeros address.groups = run at hgroups hbefore ⊢
    obtain ⟨start, zeros⟩ := run
    obtain rfl : before.length = start := hbefore
    dsimp only at hgroups ⊢
    split_ifs with h
    · refine .inr (.inl ⟨before, zeros, after, hgroups, h, ?_⟩)
      have hdrop : address.groups.drop (before.length + zeros) = after := by
        rw [hgroups]
        exact List.drop_left' (by simp)
      have htake : address.groups.take before.length = before := by
        rw [hgroups, List.append_assoc, List.take_left]
      rw [hdrop, htake, List.append_assoc]
      rfl
    · exact .inr (.inr rfl)

variable {slots : Nat} {due : Bool} {group : UInt16} {groups tail : List UInt16}
  {start rest : List Char}

theorem scan?_group_eq_none (hrest : ∀ c ∈ rest.head?, c = ':') :
    Ipv4Address.scan? (Digits.numeral 16 group.toNat ++ rest) = none := by
  refine Ipv4Address.scan?_eq_none_of_dropWhile fun hdot => ?_
  rw [List.dropWhile_append] at hdot
  split_ifs at hdot with hempty
  · cases rest with
    | nil => simp at hdot
    | cons c more =>
      obtain rfl := hrest c rfl
      exact absurd hdot (by simp [Digits.digit?])
  · have hmem : '.' ∈ Digits.numeral 16 group.toNat := by
      rw [List.head?_append_of_ne_nil _ (by simpa using hempty)] at hdot
      exact (List.dropWhile_sublist _).subset (List.mem_of_mem_head? hdot)
    exact absurd (Digits.isSome_digit?_of_mem_numeral (by decide) (by decide) _ hmem) (by decide)

theorem scanGroups_group
    (hmark : scanMark? ':' due start = some (Digits.numeral 16 group.toNat ++ rest))
    (hrest : ∀ c ∈ rest.head?, c = ':') :
    scanGroups (slots + 1) due start =
      (group :: (scanGroups slots true rest).1, (scanGroups slots true rest).2) := by
  have hdigit : ∀ c ∈ rest.head?, Digits.digit? 16 c = none := by
    rintro c hc
    rw [hrest c hc]
    decide
  have hlt : group.toNat < 0x10000 := group.toNat_lt
  have hnumber : scanNumber? 16 4 0x10000 true (Digits.numeral 16 group.toNat ++ rest) =
      some (group.toNat, rest) :=
    Digits.scanNumber?_numeral (by decide) (by decide) (by decide) hlt hlt hdigit
  simp only [scanGroups, hmark, Option.bind_some, scan?_group_eq_none hrest, ite_self, hnumber,
    UInt16.ofNat_toNat]

theorem scanGroups_eq_nil
    (h : ∀ text, scanMark? ':' due start = some text → ∀ c ∈ text.head?, c = ':') :
    scanGroups slots due start = ([], false, start) := by
  cases slots with
  | zero => rfl
  | succ slots =>
    cases hmark : scanMark? ':' due start with
    | none => simp [scanGroups, hmark]
    | some text =>
      have hdigit : ∀ base c, c ∈ text.head? → Digits.digit? base c = none := by
        intro base c hc
        rw [h text hmark c hc]
        simp [Digits.digit?]
      simp [scanGroups, hmark, Ipv4Address.scan?_eq_none (hdigit 10),
        scanNumber?_eq_none (hdigit 16)]

theorem scanGroups_end : scanGroups slots due [] = ([], false, []) := by
  refine scanGroups_eq_nil ?_
  cases due with
  | false => rintro text ⟨⟩ c ⟨⟩
  | true => exact nofun

theorem scanGroups_colons : scanGroups slots due (':' :: ':' :: rest) =
    ([], false, ':' :: ':' :: rest) := by
  refine scanGroups_eq_nil ?_
  cases due <;> rintro text ⟨⟩ c ⟨⟩ <;> rfl

/-- Further groups, each behind a colon. -/
def tailChars (groups : List UInt16) : List Char :=
  groups.flatMap fun group => ':' :: Digits.numeral 16 group.toNat

theorem groupChars_cons :
    groupChars (group :: groups) = Digits.numeral 16 group.toNat ++ tailChars groups := by
  induction groups generalizing group with
  | nil => simp [groupChars, tailChars]
  | cons next groups ih =>
    have hrest : [':'].intercalate (Digits.numeral 16 next.toNat ::
        groups.map fun group => Digits.numeral 16 group.toNat) =
          Digits.numeral 16 next.toNat ++ tailChars groups := ih
    rw [groupChars, List.map_cons, List.map_cons, List.intercalate_cons_cons, hrest]
    simp [tailChars]

theorem head?_tailChars_append (hrest : ∀ c ∈ rest.head?, c = ':') :
    ∀ c ∈ (tailChars groups ++ rest).head?, c = ':' := by
  cases groups with
  | nil => exact hrest
  | cons group groups =>
    rintro c ⟨⟩
    rfl

theorem scanGroups_tailChars (hrest : ∀ c ∈ rest.head?, c = ':')
    (hstop : scanGroups slots true rest = ([], false, rest)) :
    scanGroups (groups.length + slots) true (tailChars groups ++ rest) =
      (groups, false, rest) := by
  induction groups with
  | nil => simpa [tailChars] using hstop
  | cons group groups ih =>
    have hmark : scanMark? ':' true (tailChars (group :: groups) ++ rest) =
        some (Digits.numeral 16 group.toNat ++ (tailChars groups ++ rest)) := by
      simp [tailChars, scanMark?]
    rw [List.length_cons, Nat.add_right_comm,
      scanGroups_group hmark (head?_tailChars_append hrest), ih]

/-- **Groups are read up to where they end.** -/
theorem scanGroups_groupChars (hrest : ∀ c ∈ rest.head?, c = ':')
    (hstop : ∀ due, scanGroups slots due rest = ([], false, rest)) :
    scanGroups (groups.length + slots) false (groupChars groups ++ rest) =
      (groups, false, rest) := by
  cases groups with
  | nil => simpa [groupChars] using hstop false
  | cons group groups =>
    have hmark : scanMark? ':' false (groupChars (group :: groups) ++ rest) =
        some (Digits.numeral 16 group.toNat ++ (tailChars groups ++ rest)) := by
      rw [scanMark?_not_due, groupChars_cons, List.append_assoc]
    rw [List.length_cons, Nat.add_right_comm,
      scanGroups_group hmark (head?_tailChars_append hrest),
      scanGroups_tailChars hrest (hstop true)]

theorem ofGroups?_groups (address : Ipv6Address) : ofGroups? address.groups = some address :=
  dif_pos address.length_eq

theorem scan?_groupChars (address : Ipv6Address) :
    scan? (groupChars address.groups) = some (address, []) := by
  have hgroups : scanGroups 8 false (groupChars address.groups) = (address.groups, false, []) := by
    have h := @scanGroups_groupChars 0 address.groups [] nofun fun _ => rfl
    rwa [address.length_eq, List.append_nil] at h
  simp [scan?, hgroups, address.length_eq, ofGroups?_groups]

theorem scan?_colons {address : Ipv6Address} {before after : List UInt16} {zeros : Nat}
    (hgroups : address.groups = before ++ List.replicate zeros 0 ++ after) (hzeros : 0 < zeros) :
    scan? (groupChars before ++ ':' :: ':' :: groupChars after) = some (address, []) := by
  have hlength : before.length + (zeros + after.length) = 8 := by
    simpa [hgroups] using address.length_eq
  -- in front of the colons all eight groups may be read, behind them one fewer than are left
  have hbefore : scanGroups 8 false (groupChars before ++ ':' :: ':' :: groupChars after) =
      (before, false, ':' :: ':' :: groupChars after) := by
    have h := @scanGroups_groupChars (8 - before.length) before (':' :: ':' :: groupChars after)
      (by rintro c ⟨⟩; rfl) fun _ => scanGroups_colons
    rwa [show before.length + (8 - before.length) = 8 by omega] at h
  have hafter : scanGroups (7 - before.length) false (groupChars after) = (after, false, []) := by
    have h := @scanGroups_groupChars (7 - before.length - after.length) after [] nofun
      fun _ => scanGroups_end
    rwa [List.append_nil,
      show after.length + (7 - before.length - after.length) = 7 - before.length by omega] at h
  have hne : before.length ≠ 8 := by omega
  have hcount : 8 - before.length - after.length = zeros := by omega
  simp [scan?, hbefore, hafter, hne, hcount, ← hgroups, ofGroups?_groups]

theorem join_octets (group : UInt16) :
    (group >>> 8).toUInt8.toUInt16 <<< 8 ||| group.toUInt8.toUInt16 = group := by
  have hlt : group.toNat < 65536 := group.toNat_lt
  have hhigh : group.toNat / 2 ^ 8 < 2 ^ 8 := by omega
  have hshift : (group.toNat / 2 ^ 8) <<< 8 < 2 ^ 16 := by
    rw [Nat.shiftLeft_eq]
    omega
  apply UInt16.toNat_inj.mp
  simp only [UInt16.toNat_or, UInt16.toNat_shiftLeft, UInt8.toNat_toUInt16, UInt16.toNat_toUInt8,
    UInt16.toNat_shiftRight, show (8 : UInt16).toNat % 16 = 8 from rfl]
  rw [Nat.shiftRight_eq_div_pow, Nat.mod_eq_of_lt hhigh, Nat.mod_eq_of_lt hshift,
    ← Nat.shiftLeft_add_eq_or_of_lt (Nat.mod_lt _ (by decide)), Nat.shiftLeft_eq]
  omega

theorem groups_of_mapped? {address : Ipv6Address} {inner : Ipv4Address}
    (h : address.mapped? = some inner) :
    address.groups = [0, 0, 0, 0, 0, 0xffff] ++ inner.toGroups := by
  unfold mapped? at h
  split at h
  · next high low hgroups =>
    obtain rfl := Option.some.inj h
    rw [hgroups, Ipv4Address.toGroups, join_octets, join_octets]
    rfl
  · cases h

theorem scanGroups_inner (inner : Ipv4Address) :
    scanGroups (slots + 2) true (':' :: inner.chars) = (inner.toGroups, true, []) := by
  have hinner : Ipv4Address.scan? inner.chars = some (inner, []) := by
    simpa using @Ipv4Address.scan?_chars [] inner nofun
  simp [scanGroups, scanMark?_due, hinner]

theorem scan?_mapped {address : Ipv6Address} {inner : Ipv4Address}
    (h : address.mapped? = some inner) :
    scan? ("::ffff:".toList ++ inner.chars) = some (address, []) := by
  have htail : scanGroups 7 false ('f' :: 'f' :: 'f' :: 'f' :: ':' :: inner.chars) =
      (0xffff :: inner.toGroups, true, []) := by
    have hmark : scanMark? ':' false ('f' :: 'f' :: 'f' :: 'f' :: ':' :: inner.chars) =
        some (Digits.numeral 16 (0xffff : UInt16).toNat ++ ':' :: inner.chars) := rfl
    rw [scanGroups_group hmark (by rintro c ⟨⟩; rfl), scanGroups_inner]
  have hgroups : ofGroups? (0 :: 0 :: 0 :: 0 :: 0 :: 0xffff :: inner.toGroups) = some address := by
    rw [← ofGroups?_groups address, groups_of_mapped? h]
    rfl
  have hcount : inner.toGroups.length = 2 := rfl
  simp [scan?, scanGroups_colons, htail, hcount, hgroups]

/-- **The written form of an address is read as that address.** -/
theorem scan?_chars (address : Ipv6Address) : scan? address.chars = some (address, []) := by
  rcases address.chars_cases with ⟨inner, hmapped, hchars⟩ |
    ⟨before, zeros, after, hgroups, hzeros, hchars⟩ | hchars <;> rw [hchars]
  · exact scan?_mapped hmapped
  · exact scan?_colons hgroups (by omega)
  · exact scan?_groupChars address

theorem ipv4_scan?_groupChars (hrest : ∀ c ∈ rest.head?, c = ':') :
    Ipv4Address.scan? (groupChars groups ++ rest) = none := by
  cases groups with
  | nil =>
    refine Ipv4Address.scan?_eq_none fun c hc => ?_
    rw [hrest c hc]
    decide
  | cons group groups =>
    rw [groupChars_cons, List.append_assoc]
    exact scan?_group_eq_none (head?_tailChars_append hrest)

/-- No address is written like one of the other family. -/
theorem ipv4_scan?_chars (address : Ipv6Address) : Ipv4Address.scan? address.chars = none := by
  rcases address.chars_cases with ⟨inner, -, hchars⟩ | ⟨before, zeros, after, -, -, hchars⟩ |
    hchars <;> rw [hchars]
  · exact Ipv4Address.scan?_eq_none (by rintro c ⟨⟩; decide)
  · exact ipv4_scan?_groupChars (by rintro c ⟨⟩; rfl)
  · rw [← List.append_nil (groupChars _)]
    exact ipv4_scan?_groupChars nofun

end Ipv6Address

/-! ## Addresses and prefixes -/

theorem IpAddress.read?_chars (address : IpAddress) : read? address.chars = some address := by
  cases address with
  | v4 address =>
    have hscan : Ipv4Address.scan? address.chars = some (address, []) := by
      simpa using @Ipv4Address.scan?_chars [] address nofun
    simp [read?, scan?, chars, hscan]
  | v6 address => simp [read?, scan?, chars, address.ipv4_scan?_chars, address.scan?_chars]

namespace IpPrefix

theorem length_lt (value : IpPrefix) : value.length < 256 := by
  have hbits : value.address.bits ≤ 128 := by
    cases value.address <;> simp [IpAddress.bits]
  have := value.length_le
  omega

/-- **The written form of a prefix is read as that prefix**, host bits included. -/
theorem parse_text (value : IpPrefix) : parse value.text = .ok value := by
  have hslash : '/' ∉ Digits.numeral 10 value.length := fun hmem =>
    absurd (Digits.isSome_digit?_of_mem_numeral (by decide) (by decide) _ hmem) (by decide)
  simp only [parse, text, String.toList_ofList, chars, splitLast?_append hslash,
    IpAddress.read?_chars,
    Digits.readBelow?_numeral (by decide : 1 < 10) (by decide) value.length_lt]
  exact dif_pos value.length_le

/-- The mask fits the address: at most 32 bits in the one family, 128 in the other. -/
def Fits : IpAddress → Nat → Prop
  | .v4 _, length => length ≤ 32
  | .v6 _, length => length ≤ 128

/-- The text is that of an address and, behind the last slash, of a number of eight bits. -/
def Spells (source : String) (address : IpAddress) (length : Nat) : Prop :=
  ∃ front back, source.toList = front ++ '/' :: back ∧ '/' ∉ back ∧
    IpAddress.read? front = some address ∧ Digits.readBelow? 10 256 back = some length

variable {source : String} {address : IpAddress} {length : Nat} {value : IpPrefix}

theorem fits_iff : Fits address length ↔ length ≤ address.bits := by
  cases address <;> rfl

theorem make_eq_ok_iff :
    make address length = .ok value ↔ value.address = address ∧ value.length = length := by
  obtain ⟨inner, bits, hbits⟩ := value
  unfold make
  split_ifs with h
  · simp only [Except.ok.injEq, mk.injEq]
    exact and_congr eq_comm eq_comm
  · refine ⟨nofun, ?_⟩
    rintro ⟨rfl, rfl⟩
    exact absurd hbits h

theorem exists_make_eq_ok_iff : (∃ value, make address length = .ok value) ↔
    Fits address length := by
  simp only [make_eq_ok_iff, fits_iff]
  constructor
  · rintro ⟨value, rfl, rfl⟩
    exact value.length_le
  · exact fun h => ⟨⟨address, length, h⟩, rfl, rfl⟩

theorem Spells.parse_eq (h : Spells source address length) :
    parse source = make address length := by
  obtain ⟨front, back, hsource, hback, haddress, hlength⟩ := h
  simp only [parse, hsource, splitLast?_append hback, haddress, hlength]

/-- **The texts that are read as a prefix** are those that spell its two parts. -/
theorem parse_eq_ok_iff :
    parse source = .ok value ↔ Spells source value.address value.length := by
  constructor
  · intro h
    unfold parse at h
    split at h
    · cases h
    · next front back hsides =>
      obtain ⟨hsource, hback⟩ := splitLast?_eq_some_iff.mp hsides
      split at h
      · cases h
      · next address haddress =>
        split at h
        · cases h
        · next length hlength =>
          obtain ⟨rfl, rfl⟩ := make_eq_ok_iff.mp h
          exact ⟨front, back, hsource, hback, haddress, hlength⟩
  · intro h
    rw [h.parse_eq, make_eq_ok_iff]
    exact ⟨rfl, rfl⟩

/-- **Prefixes and their texts.** An address and a length make a prefix, which has these two parts,
exactly if the length fits the address. A prefix is read back from its text. A text that spells an
address and a length is read as the prefix that they make, and refused if they make none. So what
is read from any text has a length that fits, and its own text is read as the same again. -/
theorem text_round_trips :
    (∀ address length, (∃ value, make address length = .ok value) ↔ Fits address length) ∧
    (∀ address length value, make address length = .ok value ↔
      value.address = address ∧ value.length = length) ∧
    (∀ value, parse value.text = .ok value) ∧
    (∀ source address length, Spells source address length → parse source = make address length) ∧
    ∀ source value, parse source = .ok value → Spells source value.address value.length ∧
      Fits value.address value.length ∧ parse value.text = .ok value :=
  ⟨fun _ _ => exists_make_eq_ok_iff, fun _ _ _ => make_eq_ok_iff, parse_text,
    fun _ _ _ => Spells.parse_eq, fun _ value hparse =>
      ⟨parse_eq_ok_iff.mp hparse, fits_iff.mpr value.length_le, value.parse_text⟩⟩

/-- A prefix is read from a text that is not its own, and from its own, which holds an address of
the other family. -/
theorem text_round_trips_mapped :
    ∃ value, parse "::FFFF:A00:1/+96" = .ok value ∧ value.text = "::ffff:10.0.0.1/96" ∧
      Fits value.address value.length ∧ parse value.text = .ok value := by
  let value : IpPrefix := ⟨.v6 ⟨[0, 0, 0, 0, 0, 0xffff, 0xa00, 1], rfl⟩, 96, by decide⟩
  have hparse : parse "::FFFF:A00:1/+96" = .ok value := by decide +kernel
  obtain ⟨-, -, -, -, hread⟩ := text_round_trips
  exact ⟨value, hparse, by decide +kernel, (hread _ value hparse).2⟩

end IpPrefix

end EvpnGateway
