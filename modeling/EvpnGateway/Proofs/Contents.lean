import EvpnGateway.Proofs.ByteOrder
import EvpnGateway.Proofs.Stores
/-!
# Contents of stores

What a store holds after insertions and erasures in any order.

* `Write`, `Write.apply`: an insertion or an erasure, with the entry that it yields;
  `Store.after`: a store after a row of them;
* `Live`: entries that were inserted, with no later write under their name;
* `get?_apply`: a write changes one name; **`get?_after_eq_some_iff`**: what is stored under a name
  is what is live under it, or what was there before if the name was not written;
* `sorted_bytes`: listings are in the order of the bytes of names;
* **`Store.after_contents`**.
-/

namespace EvpnGateway

variable {α : Type}

/-! ## Writes -/

/-- An operation that writes to a store. -/
inductive Write (α : Type) where
  /-- An entry is stored under its own name. -/
  | insert (entry : α)
  /-- The entry of a name is taken out. -/
  | erase (name : String)

section Writes

variable [Named α]

namespace Write

/-- The name that is written. -/
def name : Write α → String
  | insert entry => Named.name entry
  | erase name => name

/-- What a write leaves under its name. -/
def value? : Write α → Option α
  | insert entry => some entry
  | erase _ => none

/-- What a write yields, and the store after it. -/
def apply (store : Store α) : Write α → Option α × Store α
  | insert entry => store.getThenInsert? entry
  | erase name => store.getThenErase? name

end Write

/-- An entry that was inserted, with no later write under its name. -/
def Live (writes : List (Write α)) (entry : α) : Prop :=
  ∃ before after, writes = before ++ .insert entry :: after ∧
    ∀ write ∈ after, write.name ≠ Named.name entry

variable {store : Store α} {write : Write α} {writes : List (Write α)} {entry : α} {name : String}

theorem not_live_nil : ¬ Live [] entry := by
  rintro ⟨before, after, hwrites, -⟩
  exact absurd hwrites.symm (by simp)

theorem live_cons_iff : Live (write :: writes) entry ↔ Live writes entry ∨
    write = .insert entry ∧ ∀ other ∈ writes, other.name ≠ Named.name entry := by
  constructor
  · rintro ⟨before, after, hwrites, hafter⟩
    cases before with
    | nil =>
      obtain ⟨rfl, rfl⟩ := List.cons.inj hwrites
      exact .inr ⟨rfl, hafter⟩
    | cons first before =>
      obtain ⟨rfl, rfl⟩ := List.cons.inj hwrites
      exact .inl ⟨before, after, rfl, hafter⟩
  · rintro (⟨before, after, rfl, hafter⟩ | ⟨rfl, hlater⟩)
    · exact ⟨write :: before, after, rfl, hafter⟩
    · exact ⟨[], writes, rfl, hlater⟩

/-! ## Stores after writes -/

namespace Store

/-- The store after a row of writes. -/
def after (store : Store α) (writes : List (Write α)) : Store α :=
  writes.foldl (fun store write => (write.apply store).2) store

theorem fst_apply : (write.apply store).1 = store.get? write.name := by
  cases write <;> rfl

/-- **A write changes the entry of one name.** -/
theorem get?_apply : (write.apply store).2.get? name =
    if write.name = name then write.value? else store.get? name := by
  cases write with
  | insert entry => exact get?_insert store entry name
  | erase erased => exact get?_erase store erased name

theorem value?_eq_some_iff :
    write.value? = some entry ∧ write.name = name ↔
      write = .insert entry ∧ Named.name entry = name := by
  cases write with
  | insert inserted =>
    simp only [Write.value?, Write.name, Option.some.injEq, Write.insert.injEq]
    exact and_congr_right fun hsame => hsame ▸ Iff.rfl
  | erase erased => simp [Write.value?]

/-- **What is stored under a name is what is live under it**, or what was stored there before if no
write has the name. -/
theorem get?_after_eq_some_iff : (store.after writes).get? name = some entry ↔
    Live writes entry ∧ Named.name entry = name ∨
      store.get? name = some entry ∧ ∀ write ∈ writes, write.name ≠ name := by
  induction writes generalizing store with
  | nil => simp [after, not_live_nil]
  | cons write writes ih =>
    have hafter : store.after (write :: writes) = (write.apply store).2.after writes := rfl
    rw [hafter, ih, get?_apply, live_cons_iff, List.forall_mem_cons]
    have hleft := @value?_eq_some_iff _ _ write entry name
    split_ifs with hname
    · constructor
      · rintro (⟨hlive, hentry⟩ | ⟨hvalue, hlater⟩)
        · exact .inl ⟨.inl hlive, hentry⟩
        · obtain ⟨hinsert, hentry⟩ := hleft.mp ⟨hvalue, hname⟩
          exact .inl ⟨.inr ⟨hinsert, hentry ▸ hlater⟩, hentry⟩
      · rintro (⟨hlive | ⟨hinsert, hlater⟩, hentry⟩ | ⟨-, hother, -⟩)
        · exact .inl ⟨hlive, hentry⟩
        · exact .inr ⟨(hleft.mpr ⟨hinsert, hentry⟩).1, hentry ▸ hlater⟩
        · exact absurd hname hother
    · constructor
      · rintro (⟨hlive, hentry⟩ | ⟨hfound, hlater⟩)
        · exact .inl ⟨.inl hlive, hentry⟩
        · exact .inr ⟨hfound, hname, hlater⟩
      · rintro (⟨hlive | ⟨hinsert, -⟩, hentry⟩ | ⟨hfound, -, hlater⟩)
        · exact .inl ⟨hlive, hentry⟩
        · exact absurd (hleft.mpr ⟨hinsert, hentry⟩).2 hname
        · exact .inr ⟨hfound, hlater⟩

theorem get?_after_empty :
    ((∅ : Store α).after writes).get? name = some entry ↔
      Live writes entry ∧ Named.name entry = name :=
  get?_after_eq_some_iff.trans (or_iff_left fun h => nomatch h.1)

theorem mem_after_empty : entry ∈ ((∅ : Store α).after writes).toList ↔ Live writes entry := by
  rw [mem_iff_get?, get?_after_empty, and_iff_left rfl]

/-- Listings are in the order of the bytes of names. -/
theorem sorted_bytes (store : Store α) : store.toList.Pairwise fun one other =>
    Utf8.encode (Named.name one) < Utf8.encode (Named.name other) :=
  store.sorted.imp Utf8.encode_lt_encode_iff.mpr

/-- **The last write under a name decides what a store holds under it.** The entry of a name is the
one that was inserted last under it and not erased since, and a write yields the entry that it
replaces or erases. The search for an entry with a property finds a live one if there is any. The
listing goes through the live entries, each once, in the order of their names, by code points as by
bytes, so it depends on what is live and not on the way there. -/
theorem after_contents (writes : List (Write α)) :
    let store := (∅ : Store α).after writes
    (∀ name entry, store.get? name = some entry ↔ Live writes entry ∧ Named.name entry = name) ∧
    (∀ (write : Write α) entry, (write.apply store).1 = some entry ↔
      Live writes entry ∧ Named.name entry = write.name) ∧
    (∀ property : α → Bool,
      ((store.find? property).isSome ↔ ∃ entry, Live writes entry ∧ property entry) ∧
      ∀ entry, store.find? property = some entry → Live writes entry ∧ property entry) ∧
    (∀ entry, entry ∈ store.toList ↔ Live writes entry) ∧ store.toList.Nodup ∧
    (store.toList.Pairwise fun one other => (Named.name one).toList < (Named.name other).toList ∧
      Utf8.encode (Named.name one) < Utf8.encode (Named.name other)) ∧
    ∀ others, (∀ entry, Live writes entry ↔ Live others entry) →
      store.toList = ((∅ : Store α).after others).toList := by
  intro store
  refine ⟨fun name entry => get?_after_empty, fun write entry => ?_,
    fun property => ⟨?_, fun entry hfound => ?_⟩, fun entry => mem_after_empty, store.nodup, ?_,
    fun others hsame => ?_⟩
  · rw [fst_apply, get?_after_empty]
  · simp only [find?, List.find?_isSome, store, mem_after_empty]
  · exact ⟨mem_after_empty.mp (List.mem_of_find?_eq_some hfound), List.find?_some hfound⟩
  · exact store.sorted.and store.sorted_bytes
  · have hstore : store = (∅ : Store α).after others := by
      refine ext_get? fun name => Option.ext fun entry => ?_
      rw [get?_after_empty, get?_after_empty, hsame]
    rw [hstore]

/-- A VRF that was replaced and one that was not, stored in either order. -/
theorem after_contents_red :
    let blue : Vrf := { name := "vrfs/blue" }
    let red : Vrf := { name := "vrfs/red1", spec := { vni := some ⟨100, by decide⟩ } }
    let writes : List (Write Vrf) := [.insert { red with spec := {} }, .insert blue, .insert red]
    let others : List (Write Vrf) := [.insert red, .insert blue]
    let store := (∅ : Store Vrf).after writes
    store.find? (·.spec.vni.isSome) = some red ∧ Live writes red ∧
      (∀ entry, Live writes entry ↔ Live others entry) ∧
      store.toList = ((∅ : Store Vrf).after others).toList := by
  intro blue red writes others store
  have hfound : store.find? (·.spec.vni.isSome) = some red := by decide +kernel
  have hsame : ∀ entry, Live writes entry ↔ Live others entry := by
    intro entry
    simp only [writes, others, live_cons_iff, not_live_nil, false_or, List.forall_mem_cons,
      List.not_mem_nil, false_implies, implies_true, and_true, Write.name]
    constructor
    · rintro ((hred | ⟨hblue, -⟩) | ⟨hreplaced, -, hother⟩)
      · obtain rfl := Write.insert.inj hred
        exact .inr ⟨rfl, by decide⟩
      · exact .inl hblue
      · obtain rfl := Write.insert.inj hreplaced
        exact absurd rfl hother
    · rintro (hblue | ⟨hred, -⟩)
      · obtain rfl := Write.insert.inj hblue
        exact .inl (.inr ⟨rfl, by decide⟩)
      · exact .inl (.inl hred)
  obtain ⟨-, -, hfind, -, -, -, hlist⟩ := after_contents writes
  exact ⟨hfound, ((hfind (·.spec.vni.isSome)).2 red hfound).1, hsame, hlist others hsame⟩

end Store

end Writes

end EvpnGateway
