import EvpnGateway.Json.Reader
import EvpnGateway.Json.Value
import EvpnGateway.Proofs.Written.Numerals
/-!
# JSON read back

What readers make of the text of a JSON value.

* `Json.Reads`: a reader takes the text of a JSON value off the front of any longer text and yields
  a given value; `Reads.text`, `Reads.natural`, `Reads.map`, `Reads.refine`, `Reads.optional`,
  `Reads.alternative`, **`Reads.listOf`**: readers for types that do;
* `Reader.stringChars_escape`: each character of a string is read as it was, escaped or not;
* **`decode_render`**: then the text of the JSON value is decoded to the value.
-/

namespace EvpnGateway.Json

variable {α β : Type}

/-! ## Readers step by step -/

namespace Reader

variable {read : Reader α} {next : α → Reader β} {value : α} {start rest : List Char} {c : Char}

theorem bind_ok (h : read start = .ok (value, rest)) :
    (read >>= next) start = next value rest := by
  simp only [bind, StateT.bind, h]
  rfl

theorem map_ok {f : α → β} (h : read start = .ok (value, rest)) :
    (f <$> read) start = .ok (f value, rest) :=
  @bind_ok _ _ read (fun value => pure (f value)) _ _ _ h

theorem peek_cons (h : isSpace c = false) : peek (c :: rest) = .ok (some c, c :: rest) := by
  simp [peek, h]

theorem pure_ok (value : α) (rest : List Char) :
    (pure value : Reader α) rest = .ok (value, rest) := rfl

theorem eat_cons : eat (c :: rest) = .ok ((), rest) := rfl

theorem get_eq : (get : Reader (List Char)) rest = .ok (rest, rest) := rfl

end Reader

/-! ## Texts of values -/

/-- What may follow a value inside a list or an object, or nothing. -/
def Delimited (rest : List Char) : Prop :=
  ∀ c ∈ rest.head?, c = ',' ∨ c = ']' ∨ c = '\x7d'

/-- A reader takes the text of a JSON value off the front and yields a value. -/
def Reads (read : Reader α) (json : Json) (value : α) : Prop :=
  ∀ rest, Delimited rest → read (json.chars ++ rest) = .ok (value, rest)

/-- **A reader decodes the texts that it takes off the front of others.** -/
theorem decode_render {read : Reader α} {json : Json} {value : α} (h : Reads read json value) :
    decode read json.render = .ok value := by
  have hread : read json.chars = .ok (value, []) := by simpa using h [] nofun
  rw [decode, render, String.toList_ofList, hread]
  rfl

/-! ## Strings -/

namespace Reader

theorem hexNumber?_padded {a b c d : Char} {n : Nat} (h : Digits.padded 4 16 n = [a, b, c, d]) :
    hexNumber? a b c d = some n := by
  have hread : Digits.read? 16 (Digits.padded 4 16 n) = some n :=
    Digits.read?_padded (by decide) (by decide)
  rwa [h] at hread

theorem stringChars_control {c : Char} (hcontrol : c.toNat < 0x20) (rest : List Char) :
    stringChars ('\\' :: 'u' :: (Digits.padded 4 16 c.toNat ++ rest)) =
      prepend c (stringChars rest) := by
  have hlength : (Digits.padded 4 16 c.toNat).length = 4 :=
    Digits.length_padded (by decide) (by decide) (lt_of_lt_of_le hcontrol (by decide))
  obtain ⟨a, b, d, e, hdigits⟩ := List.length_eq_four.mp hlength
  have hnumber := hexNumber?_padded hdigits
  rw [hdigits]
  simp only [List.cons_append, List.nil_append, stringChars, hnumber]
  rw [if_neg (by omega), if_neg (by omega), Char.ofNat_toNat]

theorem stringChars_short {letter c : Char} (h : shortEscape? letter = some c) (hu : letter ≠ 'u')
    (rest : List Char) :
    stringChars ('\\' :: letter :: rest) = prepend c (stringChars rest) := by
  simp [stringChars, h, hu]

/-- **A character of a string is read as it was**, escaped or not. -/
theorem stringChars_escape (c : Char) (rest : List Char) :
    stringChars (escape c ++ rest) = prepend c (stringChars rest) := by
  have hcode : ∀ {n : Nat}, c.toNat = n → some (Char.ofNat n) = some c := by
    rintro n rfl
    rw [Char.ofNat_toNat]
  unfold escape
  split_ifs with hquote hback h8 h12 hn hr ht hcontrol
  · subst hquote
    exact stringChars_short rfl (by decide) rest
  · subst hback
    exact stringChars_short rfl (by decide) rest
  · exact @stringChars_short 'b' c (hcode h8) (by decide) rest
  · exact @stringChars_short 'f' c (hcode h12) (by decide) rest
  · subst hn
    exact stringChars_short rfl (by decide) rest
  · subst hr
    exact stringChars_short rfl (by decide) rest
  · subst ht
    exact stringChars_short rfl (by decide) rest
  · exact stringChars_control hcontrol rest
  · simp [stringChars, hback, hcontrol]

theorem stringChars_flatMap (chars rest : List Char) :
    stringChars (chars.flatMap escape ++ '"' :: rest) = .ok (chars, rest) := by
  induction chars with
  | nil => simp [stringChars]
  | cons c chars ih =>
    rw [List.flatMap_cons, List.append_assoc, stringChars_escape, ih]
    rfl

theorem stringRest_flatMap (value : String) (rest : List Char) :
    stringRest (value.toList.flatMap escape ++ '"' :: rest) = .ok (value, rest) := by
  rw [stringRest, stringChars_flatMap]
  simp [Except.map]

end Reader

/-! ## Numbers -/

namespace Reader

variable {n bits : Nat} {rest : List Char}

theorem isSpace_of_isDigit {c : Char} (h : c.isDigit = true) : isSpace c = false := by
  have hne : ∀ {mark : Char}, mark.isDigit = false → c ≠ mark := by
    rintro mark hmark rfl
    simp [h] at hmark
  simp (disch := decide) [isSpace, hne]

theorem exists_numeral_eq_cons (n : Nat) :
    ∃ c digits, Digits.numeral 10 n = c :: digits ∧ c.isDigit = true := by
  obtain ⟨c, digits, hnumeral⟩ := List.exists_cons_of_ne_nil (@Digits.numeral_ne_nil 10 n)
  exact ⟨c, digits, hnumeral, Digits.isDigit_of_mem_numeral c (hnumeral ▸ List.mem_cons_self)⟩

theorem decimalValue_numeral : decimalValue (Digits.numeral 10 n) = n := by
  rw [decimalValue, Digits.read?_numeral (by decide) (by decide), Option.getD_some]

theorem head?_isDigit (hrest : Delimited rest) : ∀ c ∈ rest.head?, c.isDigit = false := by
  intro c hc
  rcases hrest c hc with rfl | rfl | rfl <;> rfl

theorem numberRest_delimited (h : n < 0x10000000000000000) {digits : List Char}
    (hdigits : decimalValue digits = n) (hrest : Delimited rest) :
    numberRest false digits rest = .ok (.natural n, rest) := by
  have hintegral : numberRest.integral false digits "" n rest = .ok (.natural n, rest) := by
    simp [numberRest.integral, h, pure_ok]
  unfold numberRest
  rw [bind_ok get_eq, hdigits]
  cases rest with
  | nil => exact hintegral
  | cons c rest =>
    rcases hrest c rfl with rfl | rfl | rfl <;> exact hintegral

/-- **A numeral of 64 bits is read as its number.** -/
theorem numberTail_numeral (h : n < 0x10000000000000000) (hrest : Delimited rest) :
    numberTail false (Digits.numeral 10 n ++ rest) = .ok (.natural n, rest) := by
  have hread := numberRest_delimited h decimalValue_numeral hrest
  obtain ⟨htake, hdrop⟩ := Digits.takeWhile_dropWhile_append (@Digits.isDigit_of_mem_numeral n)
    (head?_isDigit hrest)
  -- a number that starts with a zero ends there
  by_cases hzero : n = 0
  · subst hzero
    have hnumeral : Digits.numeral 10 0 = ['0'] := rfl
    have hdigit : rest.head?.any Char.isDigit = false := by
      cases rest with
      | nil => rfl
      | cons c rest => exact head?_isDigit hrest c rfl
    rw [hnumeral, List.singleton_append, numberTail, hdigit]
    exact hread
  · obtain ⟨c, digits, hnumeral, hdigit⟩ := exists_numeral_eq_cons n
    have hc : c ≠ '0' := by
      rintro rfl
      exact Digits.head?_numeral (by decide) (by decide) hzero (congrArg List.head? hnumeral)
    rw [hnumeral] at hread htake hdrop ⊢
    rw [List.cons_append] at htake hdrop ⊢
    simpa only [numberTail, hdigit, if_true, htake, hdrop] using hread

end Reader

/-! ## Readers for types -/

theorem stringChars_append (name : String) (rest : List Char) :
    stringChars name ++ rest = '"' :: (name.toList.flatMap escape ++ '"' :: rest) := by
  simp [stringChars]

theorem chars_string_append (value : String) (rest : List Char) :
    (Json.string value).chars ++ rest = '"' :: (value.toList.flatMap escape ++ '"' :: rest) :=
  stringChars_append value rest

/-- How the text of a value starts: not with space, not with the end of a list, and with the first
letter of null only if it is that. -/
theorem exists_chars_eq_cons (json : Json) : ∃ c more, json.chars = c :: more ∧
    Reader.isSpace c = false ∧ c ≠ ']' ∧ (c = 'n' → json = .null) := by
  cases json with
  | null => exact ⟨'n', _, rfl, rfl, by decide, fun _ => rfl⟩
  | bool value => cases value <;> exact ⟨_, _, rfl, rfl, by decide, nofun⟩
  | string value => exact ⟨'"', _, rfl, rfl, by decide, nofun⟩
  | array items => exact ⟨'[', _, rfl, rfl, by decide, nofun⟩
  | object members => exact ⟨'\x7b', _, rfl, rfl, by decide, nofun⟩
  | number value =>
    cases value with
    | negSucc n => exact ⟨'-', _, rfl, rfl, by decide, nofun⟩
    | ofNat n =>
      obtain ⟨c, digits, hnumeral, hdigit⟩ := Reader.exists_numeral_eq_cons n
      refine ⟨c, digits, hnumeral, Reader.isSpace_of_isDigit hdigit, ?_, ?_⟩ <;> rintro rfl <;>
        cases hdigit

namespace Reads

open Reader

variable {read : Reader α} {json : Json} {value : α}

theorem text (value : String) : Reads Reader.text (.string value) value := by
  rintro rest -
  rw [chars_string_append, Reader.text, bind_ok (peek_cons rfl)]
  change (eat >>= fun _ => stringRest) _ = _
  rw [bind_ok eat_cons, stringRest_flatMap]

theorem natural {n bits : Nat} (h : n < 2 ^ bits) (hbits : bits ≤ 64) :
    Reads (.natural bits) (.number n) n := by
  intro rest hrest
  have hlt : n < 0x10000000000000000 :=
    lt_of_lt_of_le h (Nat.pow_le_pow_right (by decide) hbits : 2 ^ bits ≤ 2 ^ 64)
  have htail := numberTail_numeral hlt hrest
  obtain ⟨c, digits, hnumeral, hdigit⟩ := exists_numeral_eq_cons n
  have hminus : c ≠ '-' := by
    rintro rfl
    cases hdigit
  have hchars : (Json.number n).chars = c :: digits := hnumeral
  rw [hnumeral, List.cons_append] at htail
  rw [hchars, List.cons_append, Reader.natural, Reader.number,
    bind_ok (peek_cons (isSpace_of_isDigit hdigit))]
  simp only [hminus, if_false, hdigit, if_true]
  rw [bind_ok htail]
  have hpick : 0 ≤ (n : Int) ∧ (n : Int) < Int.pow 2 bits := by
    refine ⟨by omega, ?_⟩
    change (n : Int) < 2 ^ bits
    exact_mod_cast h
  simp only [if_pos hpick, Int.toNat_natCast]
  rfl

theorem map (f : α → β) (h : Reads read json value) : Reads (f <$> read) json (f value) :=
  fun rest hrest => map_ok (h rest hrest)

theorem refine {make : α → Except ValueError β} {result : β} (h : Reads read json value)
    (hmake : make value = .ok result) : Reads (.refine read make) json result := by
  intro rest hrest
  rw [Reader.refine, bind_ok (h rest hrest), hmake]
  rfl

theorem optional (h : Reads read json value) (hnull : json ≠ .null) :
    Reads (.optional read) json (some value) := by
  intro rest hrest
  obtain ⟨c, more, hchars, hspace, -, hn⟩ := json.exists_chars_eq_cons
  have hread := h.map some rest hrest
  rw [hchars, List.cons_append] at hread ⊢
  rw [Reader.optional, bind_ok (peek_cons hspace)]
  simpa [mt hn hnull] using hread

theorem alternative {names : List (String × α)} {name : String}
    (h : names.lookup name = some value) : Reads (.alternative names) (.string name) value := by
  rintro rest -
  rw [chars_string_append, Reader.alternative, bind_ok (peek_cons rfl)]
  refine (bind_ok eat_cons).trans ?_
  rw [bind_ok (stringRest_flatMap name rest)]
  dsimp only
  rw [h]
  rfl

end Reads

/-! ## Lists -/

/-- Further items, each behind a comma. -/
def behindChars (items : List Json) : List Char := items.flatMap fun item => ',' :: item.chars

theorem itemChars_cons (item : Json) (items : List Json) :
    itemChars (item :: items) = item.chars ++ behindChars items := by
  induction items generalizing item with
  | nil => simp [itemChars, behindChars]
  | cons next items ih =>
    rw [itemChars, ih]
    · simp [behindChars]
    · exact nofun

theorem length_le_length_behindChars (items : List Json) :
    items.length ≤ (behindChars items).length := by
  induction items with
  | nil => exact Nat.zero_le _
  | cons item items ih =>
    simp only [behindChars, List.flatMap_cons, List.length_append, List.length_cons] at ih ⊢
    omega

namespace Reader

variable {read : Reader α} {items : List Json} {values : List α} {rest : List Char}

theorem enclosed_ok {body : Reader α} {close : Reader Unit} {value : α} {start middle : List Char}
    (hbody : body start = .ok (value, middle)) (hclose : close middle = .ok ((), rest)) :
    enclosed body close start = .ok (value, rest) := by
  simp [enclosed, hbody, hclose, Except.map]

theorem delimited_behindChars {c : Char} (hc : c = ']' ∨ c = '\x7d') :
    Delimited (behindChars items ++ c :: rest) := by
  cases items with
  | nil =>
    rintro d ⟨⟩
    exact .inr hc
  | cons item items =>
    rintro d ⟨⟩
    exact .inl rfl

theorem nextElement_end (first : Bool) :
    nextElement first (']' :: rest) = .ok (false, ']' :: rest) := rfl

theorem nextElement_first (json : Json) (rest : List Char) :
    nextElement true (json.chars ++ rest) = .ok (true, json.chars ++ rest) := by
  obtain ⟨c, more, hchars, hspace, hend, -⟩ := json.exists_chars_eq_cons
  rw [hchars, List.cons_append, nextElement, bind_ok (peek_cons hspace)]
  simp [pure_ok]

theorem nextElement_next (json : Json) (rest : List Char) :
    nextElement false (',' :: (json.chars ++ rest)) = .ok (true, json.chars ++ rest) := by
  obtain ⟨c, more, hchars, hspace, hend, -⟩ := json.exists_chars_eq_cons
  rw [hchars, List.cons_append, nextElement, bind_ok (peek_cons rfl)]
  refine (bind_ok eat_cons).trans ((bind_ok (peek_cons hspace)).trans ?_)
  simp [pure_ok]

theorem elements_behindChars (h : List.Forall₂ (Reads read) items values) {fuel : Nat}
    (hfuel : items.length < fuel) :
    elements read fuel false (behindChars items ++ ']' :: rest) = .ok (values, ']' :: rest) := by
  induction h generalizing fuel with
  | nil =>
    cases fuel with
    | zero => exact absurd hfuel (Nat.not_lt_zero _)
    | succ fuel =>
      rw [behindChars, List.flatMap_nil, List.nil_append, elements,
        bind_ok (nextElement_end false)]
      rfl
  | @cons item value items values hread hreads ih =>
    cases fuel with
    | zero => exact absurd hfuel (Nat.not_lt_zero _)
    | succ fuel =>
      have hrest := ih (Nat.lt_of_succ_lt_succ hfuel)
      have hchars : behindChars (item :: items) ++ ']' :: rest =
          ',' :: (item.chars ++ (behindChars items ++ ']' :: rest)) := by
        simp [behindChars]
      rw [hchars, elements, bind_ok (nextElement_next item _), if_pos rfl,
        bind_ok (hread _ (delimited_behindChars (.inl rfl))), bind_ok hrest]
      rfl

theorem elements_itemChars (h : List.Forall₂ (Reads read) items values) {fuel : Nat}
    (hfuel : items.length < fuel) :
    elements read fuel true (itemChars items ++ ']' :: rest) = .ok (values, ']' :: rest) := by
  cases fuel with
  | zero => exact absurd hfuel (Nat.not_lt_zero _)
  | succ fuel =>
    cases h with
    | nil =>
      rw [itemChars, List.nil_append, elements, bind_ok (nextElement_end true)]
      rfl
    | @cons item value items values hread hreads =>
      rw [itemChars_cons, List.append_assoc, elements, bind_ok (nextElement_first item _),
        if_pos rfl, bind_ok (hread _ (delimited_behindChars (.inl rfl))),
        bind_ok (elements_behindChars hreads (Nat.lt_of_succ_lt_succ hfuel))]
      rfl

end Reader

theorem length_le_length_itemChars (items : List Json) :
    items.length ≤ (itemChars items).length + 1 := by
  cases items with
  | nil => exact Nat.zero_le _
  | cons item items =>
    have hbehind := length_le_length_behindChars items
    rw [itemChars_cons, List.length_append, List.length_cons]
    omega

/-- **A list of values is read as the list of what its items are read as.** -/
theorem Reads.listOf {read : Reader α} {items : List Json} {values : List α}
    (h : List.Forall₂ (Reads read) items values) : Reads (.listOf read) (.array items) values := by
  rintro rest -
  have hchars : (Json.array items).chars ++ rest = '[' :: (itemChars items ++ ']' :: rest) := by
    simp [chars]
  have hfuel : items.length < (itemChars items ++ ']' :: rest).length + 1 := by
    have hlength := length_le_length_itemChars items
    rw [List.length_append, List.length_cons]
    omega
  have hend : Reader.listEnd (']' :: rest) = .ok ((), rest) := rfl
  rw [hchars, Reader.listOf, Reader.bind_ok (Reader.peek_cons rfl)]
  exact (Reader.bind_ok Reader.eat_cons).trans
    (Reader.enclosed_ok (Reader.elements_itemChars h hfuel) hend)

end EvpnGateway.Json
