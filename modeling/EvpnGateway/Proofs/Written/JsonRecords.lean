import EvpnGateway.Json.Record
import EvpnGateway.Proofs.Written.JsonValues
/-!
# Records read back

An object whose members are the fields of a record in declaration order, those apart that may be
missing, is read as the values of the fields.

* `Fields.Due`: which members are still due while the slots fill; `Due.fill`, `Due.members`: one
  member, all of them; `Due.finish`: nothing is missing at the end;
* **`Reads.record`**.
-/

namespace EvpnGateway.Json

variable {α : Type} {αs : List Type}

/-! ## Members of objects -/

/-- A member as it is written. -/
def pairChars (member : String × Json) : List Char :=
  stringChars member.1 ++ ':' :: member.2.chars

/-- Further members, each behind a comma. -/
def behindMemberChars (members : List (String × Json)) : List Char :=
  members.flatMap fun member => ',' :: pairChars member

theorem memberChars_cons (member : String × Json) (members : List (String × Json)) :
    memberChars (member :: members) = pairChars member ++ behindMemberChars members := by
  induction members generalizing member with
  | nil => simp [memberChars, behindMemberChars, pairChars]
  | cons next members ih =>
    rw [memberChars, ih]
    · simp [behindMemberChars, pairChars]
    · exact nofun

theorem length_le_length_behindMemberChars (members : List (String × Json)) :
    members.length ≤ (behindMemberChars members).length := by
  induction members with
  | nil => exact Nat.zero_le _
  | cons member members ih =>
    simp only [behindMemberChars, List.flatMap_cons, List.length_append, List.length_cons] at ih ⊢
    omega

theorem length_le_length_memberChars (members : List (String × Json)) :
    members.length ≤ (memberChars members).length + 1 := by
  cases members with
  | nil => exact Nat.zero_le _
  | cons member members =>
    have hbehind := length_le_length_behindMemberChars members
    rw [memberChars_cons, List.length_append, List.length_cons]
    omega

namespace Fields

open Reader

/-- The names of the fields. -/
def names : {αs : List Type} → Fields αs → List String
  | _, .nil => []
  | _, .cons field rest => field.name :: rest.names

/-- The members that are due for the slots to hold the values in the end: for each field it was read
already, or it may be missing and has its default, or it is the next member and its reader takes
that. -/
inductive Due : {αs : List Type} → Fields αs → Slots αs → List (String × Json) → Values αs → Prop
  | nil : Due .nil () [] ()
  | filled {α : Type} {αs : List Type} {field : Field α} {rest : Fields αs} {slots : Slots αs}
      {members : List (String × Json)} {value : α} {values : Values αs} :
      Due rest slots members values →
        Due (.cons field rest) (some value, slots) members (value, values)
  | absent {α : Type} {αs : List Type} {field : Field α} {rest : Fields αs} {slots : Slots αs}
      {members : List (String × Json)} {value : α} {values : Values αs} :
      field.absent = some value → Due rest slots members values →
        Due (.cons field rest) (none, slots) members (value, values)
  | next {α : Type} {αs : List Type} {field : Field α} {rest : Fields αs} {slots : Slots αs}
      {json : Json} {members : List (String × Json)} {value : α} {values : Values αs} :
      Reads field.read json value → Due rest slots members values →
        Due (.cons field rest) (none, slots) ((field.name, json) :: members) (value, values)

namespace Due

variable {fields : Fields αs} {slots : Slots αs} {name : String} {json : Json}
  {member : String × Json} {members : List (String × Json)} {values : Values αs} {rest : List Char}

theorem mem_names (h : Due fields slots members values) :
    ∀ member ∈ members, member.1 ∈ fields.names := by
  induction h with
  | nil => exact nofun
  | filled _ ih | absent _ _ ih => exact fun member hmem => List.mem_cons_of_mem _ (ih member hmem)
  | next _ _ ih =>
    intro member hmem
    rcases List.mem_cons.mp hmem with rfl | hmem
    · exact List.mem_cons_self
    · exact List.mem_cons_of_mem _ (ih member hmem)

theorem finish (h : Due fields slots [] values) (rest : List Char) :
    fields.finish slots rest = .ok (values, rest) := by
  generalize hnone : [] = members at h
  induction h with
  | nil => rfl
  | filled _ ih => exact (bind_ok (ih hnone)).trans rfl
  | absent habsent _ ih =>
    simp only [Fields.finish, habsent]
    exact (bind_ok (ih hnone)).trans rfl
  | next => cases hnone

theorem fill_behind {α : Type} {field : Field α} {others : Fields αs} {slot : Option α}
    {slots slots' : Slots αs} {read : Reader (Slots αs)} {text : List Char}
    (hne : name ≠ field.name) (hfill : others.fill name slots = some read)
    (hread : ∀ rest, Delimited rest → read (text ++ rest) = .ok (slots', rest)) :
    ∃ read', (Fields.cons field others).fill name (slot, slots) = some read' ∧
      ∀ rest, Delimited rest → read' (text ++ rest) = .ok ((slot, slots'), rest) := by
  refine ⟨do return (slot, ← read), ?_, fun rest hrest => (bind_ok (hread rest hrest)).trans rfl⟩
  rw [Fields.fill, if_neg hne, hfill]
  rfl

/-- **The next member fills its slot.** -/
theorem fill (h : Due fields slots (member :: members) values) (hnames : fields.names.Nodup) :
    ∃ read slots', fields.fill member.1 slots = some read ∧ Due fields slots' members values ∧
      ∀ rest, Delimited rest → read (':' :: member.2.chars ++ rest) = .ok (slots', rest) := by
  -- the fields in front of the one that is due have other names, so that they let the member pass
  generalize hdue : member :: members = due at h
  induction h with
  | nil => cases hdue
  | @filled α αs field others slots due value values hothers ih =>
    subst hdue
    obtain ⟨hfresh, hnodup⟩ := List.nodup_cons.mp hnames
    have hne : member.1 ≠ field.name := fun hsame =>
      hfresh (hsame ▸ hothers.mem_names _ List.mem_cons_self)
    obtain ⟨read, slots', hfill, hdue', hread⟩ := ih hnodup rfl
    obtain ⟨read', hfill', hread'⟩ := fill_behind hne hfill hread
    exact ⟨read', _, hfill', .filled hdue', hread'⟩
  | @absent α αs field others slots due value values habsent hothers ih =>
    subst hdue
    obtain ⟨hfresh, hnodup⟩ := List.nodup_cons.mp hnames
    have hne : member.1 ≠ field.name := fun hsame =>
      hfresh (hsame ▸ hothers.mem_names _ List.mem_cons_self)
    obtain ⟨read, slots', hfill, hdue', hread⟩ := ih hnodup rfl
    obtain ⟨read', hfill', hread'⟩ := fill_behind hne hfill hread
    exact ⟨read', _, hfill', .absent habsent hdue', hread'⟩
  | @next α αs field others slots json due value values hvalue hothers ih =>
    cases hdue
    refine ⟨_, (some value, slots), if_pos rfl, .filled hothers, fun rest hrest => ?_⟩
    exact (bind_ok (rfl : colon (':' :: (json.chars ++ rest)) = .ok ((), _))).trans
      ((bind_ok (hvalue rest hrest)).trans rfl)

end Due

/-! ## Objects -/

section Objects

variable {fields : Fields αs} {slots : Slots αs} {name : String} {member : String × Json}
  {members : List (String × Json)} {values : Values αs} {rest : List Char} {fuel : Nat}
  {first : Bool}

theorem nextName_end (first : Bool) :
    nextName first ('\x7d' :: rest) = .ok (none, '\x7d' :: rest) := rfl

theorem nextName_first (name : String) (rest : List Char) :
    nextName true (stringChars name ++ rest) = .ok (some name, rest) := by
  rw [stringChars_append, nextName, bind_ok (peek_cons rfl)]
  exact (bind_ok eat_cons).trans (map_ok (stringRest_flatMap name rest))

theorem nextName_next (name : String) (rest : List Char) :
    nextName false (',' :: (stringChars name ++ rest)) = .ok (some name, rest) := by
  rw [stringChars_append, nextName, bind_ok (peek_cons rfl)]
  exact (bind_ok eat_cons).trans ((bind_ok (peek_cons rfl)).trans
    ((bind_ok eat_cons).trans (map_ok (stringRest_flatMap name rest))))

theorem delimited_behindMemberChars (members : List (String × Json)) (rest : List Char) :
    Delimited (behindMemberChars members ++ '\x7d' :: rest) := by
  cases members with
  | nil =>
    rintro c ⟨⟩
    exact .inr (.inr rfl)
  | cons member members =>
    rintro c ⟨⟩
    exact .inl rfl

/-- One member is read where its name is next. -/
theorem members_step {start : List Char} (h : Due fields slots (member :: members) values)
    (hnames : fields.names.Nodup)
    (hname : nextName first start = .ok (some member.1, ':' :: member.2.chars ++ rest))
    (hrest : Delimited rest) : ∃ slots', Due fields slots' members values ∧
      fields.members (fuel + 1) first slots start = fields.members fuel false slots' rest := by
  obtain ⟨read, slots', hfill, hdue, hread⟩ := h.fill hnames
  refine ⟨slots', hdue, ?_⟩
  rw [Fields.members, bind_ok hname]
  simp only [hfill]
  exact bind_ok (hread rest hrest)

/-- **Members are read up to the end of the object.** -/
theorem members_behindMemberChars (h : Due fields slots members values)
    (hnames : fields.names.Nodup) (hfuel : members.length < fuel) :
    ∃ slots', Due fields slots' [] values ∧
      fields.members fuel false slots (behindMemberChars members ++ '\x7d' :: rest) =
        .ok (slots', '\x7d' :: rest) := by
  induction members generalizing slots fuel with
  | nil =>
    obtain ⟨fuel, rfl⟩ := Nat.exists_eq_succ_of_ne_zero (Nat.ne_zero_of_lt hfuel)
    refine ⟨slots, h, ?_⟩
    rw [behindMemberChars, List.flatMap_nil, List.nil_append, Fields.members,
      bind_ok (nextName_end false)]
    rfl
  | cons member members ih =>
    obtain ⟨fuel, rfl⟩ := Nat.exists_eq_succ_of_ne_zero (Nat.ne_zero_of_lt hfuel)
    have hname : nextName false (behindMemberChars (member :: members) ++ '\x7d' :: rest) =
        .ok (some member.1, ':' :: member.2.chars ++
          (behindMemberChars members ++ '\x7d' :: rest)) := by
      rw [← nextName_next]
      simp [behindMemberChars, pairChars]
    obtain ⟨slots', hdue, hstep⟩ := members_step h hnames hname (delimited_behindMemberChars _ _)
    obtain ⟨last, hlast, hread⟩ := ih hdue (Nat.lt_of_succ_lt_succ hfuel)
    exact ⟨last, hlast, hstep.trans hread⟩

theorem members_memberChars (h : Due fields slots members values)
    (hnames : fields.names.Nodup) (hfuel : members.length < fuel) :
    ∃ slots', Due fields slots' [] values ∧
      fields.members fuel true slots (memberChars members ++ '\x7d' :: rest) =
        .ok (slots', '\x7d' :: rest) := by
  obtain ⟨fuel, rfl⟩ := Nat.exists_eq_succ_of_ne_zero (Nat.ne_zero_of_lt hfuel)
  cases members with
  | nil =>
    refine ⟨slots, h, ?_⟩
    rw [memberChars, List.nil_append, Fields.members, bind_ok (nextName_end true)]
    rfl
  | cons member members =>
    have hname : nextName true (memberChars (member :: members) ++ '\x7d' :: rest) =
        .ok (some member.1, ':' :: member.2.chars ++
          (behindMemberChars members ++ '\x7d' :: rest)) := by
      rw [← nextName_first, memberChars_cons]
      simp [pairChars]
    obtain ⟨slots', hdue, hstep⟩ := members_step h hnames hname (delimited_behindMemberChars _ _)
    obtain ⟨last, hlast, hread⟩ :=
      members_behindMemberChars hdue hnames (Nat.lt_of_succ_lt_succ hfuel)
    exact ⟨last, hlast, hstep.trans hread⟩

end Objects

end Fields

/-- **An object whose members are due is read as the record of their values.** -/
theorem Reads.record {title : String} {fields : Fields αs} {build : Values αs → α} {value : α}
    {members : List (String × Json)} (values : Values αs) (hbuild : build values = value)
    (hnames : fields.names.Nodup) (h : fields.Due fields.blank members values) :
    Reads (.record title fields build) (.object members) value := by
  rintro rest -
  subst hbuild
  have hchars : (Json.object members).chars ++ rest =
      '\x7b' :: (memberChars members ++ '\x7d' :: rest) := by
    simp [chars]
  have hfuel : members.length < (memberChars members ++ '\x7d' :: rest).length + 1 := by
    have hlength := length_le_length_memberChars members
    rw [List.length_append, List.length_cons]
    omega
  obtain ⟨slots, hdue, hread⟩ := @Fields.members_memberChars _ _ _ _ _ rest _ h hnames hfuel
  have hend : Fields.objectEnd ('\x7d' :: rest) = .ok ((), rest) := rfl
  rw [hchars, Reader.record, Reader.bind_ok (Reader.peek_cons rfl)]
  refine (Reader.bind_ok Reader.eat_cons).trans (Reader.map_ok (Reader.enclosed_ok ?_ hend))
  dsimp only
  rw [hread]
  exact hdue.finish _

end EvpnGateway.Json
