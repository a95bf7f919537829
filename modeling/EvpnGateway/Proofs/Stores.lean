import EvpnGateway.Store
import Mathlib.Data.List.Nodup
/-!
# Laws of stores

A store is a map from names to entries that carry their names.

* `Store.get?_eq_some_iff`: the entry of a name is the one entry with the name;
* `Store.get?_insert`, `Store.get?_erase`: one name changes, all others keep their entry;
* `Store.perm_insert`, `Store.perm_erase`: a new entry joins the others, an erased one leaves them;
* **`Store.ext_get?`**: stores with the same entries under the same names are equal.
-/

namespace EvpnGateway.Store

variable {α : Type} [Named α] {store other : Store α} {entry : α} {name : String}

/-! ## Entries and their names -/

theorem nodup_names (store : Store α) : (store.toList.map Named.name).Nodup :=
  List.pairwise_map.mpr (store.sorted.imp fun less same => by
    rw [same] at less
    exact String.lt_irrefl _ less)

theorem nodup (store : Store α) : store.toList.Nodup := store.nodup_names.of_map _

theorem eq_of_name_eq {one two : α} (h₁ : one ∈ store.toList) (h₂ : two ∈ store.toList)
    (h : Named.name one = Named.name two) : one = two :=
  List.inj_on_of_nodup_map store.nodup_names h₁ h₂ h

theorem get?_eq_some_iff :
    store.get? name = some entry ↔ entry ∈ store.toList ∧ Named.name entry = name := by
  unfold get?
  constructor
  · intro h
    exact ⟨List.mem_of_find?_eq_some h, by simpa using List.find?_some h⟩
  · rintro ⟨hmem, rfl⟩
    obtain ⟨found, hfound⟩ := Option.isSome_iff_exists.mp
      (List.find?_isSome.mpr ⟨entry, hmem, by simp⟩ : (store.toList.find? fun x =>
        Named.name x == Named.name entry).isSome)
    have hname : Named.name found = Named.name entry := by simpa using List.find?_some hfound
    rw [hfound, eq_of_name_eq (List.mem_of_find?_eq_some hfound) hmem hname]

theorem get?_eq_none_iff :
    store.get? name = none ↔ ∀ entry ∈ store.toList, Named.name entry ≠ name := by
  simp [get?]

theorem name_of_get? (h : store.get? name = some entry) : Named.name entry = name :=
  (get?_eq_some_iff.mp h).2

theorem mem_iff_get? : entry ∈ store.toList ↔ store.get? (Named.name entry) = some entry := by
  rw [get?_eq_some_iff]; simp

/-- **A store is determined by the entries under its names.** -/
theorem ext_get? (h : ∀ name, store.get? name = other.get? name) : store = other := by
  have hmem : ∀ entry, entry ∈ store.toList ↔ entry ∈ other.toList := fun entry => by
    rw [mem_iff_get?, mem_iff_get?, h]
  have hlist : store.toList = other.toList :=
    List.Perm.eq_of_pairwise (fun _ _ _ _ h₁ h₂ => absurd (String.lt_trans h₁ h₂)
        (String.lt_irrefl _)) store.sorted other.sorted
      ((List.perm_ext_iff_of_nodup store.nodup other.nodup).mpr hmem)
  obtain ⟨_, _⟩ := store
  obtain ⟨_, _⟩ := other
  simpa using hlist

/-! ## Insertion -/

theorem find?_insertSorted (entry : α) (entries : List α) (name : String) :
    (insertSorted entry entries).find? (fun x => Named.name x == name) =
      if Named.name entry = name then some entry
      else entries.find? fun x => Named.name x == name := by
  induction entries with
  | nil => by_cases h : Named.name entry = name <;> simp [insertSorted, h]
  | cons first rest ih =>
    unfold insertSorted
    by_cases hless : Named.name entry < Named.name first
    · rw [if_pos hless]
      by_cases h : Named.name entry = name <;> simp [List.find?_cons, h]
    rw [if_neg hless]
    by_cases hsame : Named.name entry = Named.name first
    · rw [if_pos hsame]
      by_cases h : Named.name entry = name
      · simp [h]
      · have : ¬ Named.name first = name := fun e => h (hsame.trans e)
        simp [h, this]
    · rw [if_neg hsame]
      by_cases h : Named.name first = name
      · have : ¬ Named.name entry = name := fun e => hsame (e.trans h.symm)
        simp [h, this]
      · have hskip : (Named.name first == name) = false := by simpa using h
        simp only [List.find?_cons, hskip, ih]

/-- **Insertion changes the entry of one name.** -/
theorem get?_insert (store : Store α) (entry : α) (name : String) :
    (store.insert entry).get? name =
      if Named.name entry = name then some entry else store.get? name :=
  find?_insertSorted entry store.toList name

theorem insert_of_get? (h : store.get? (Named.name entry) = some entry) :
    store.insert entry = store := by
  apply ext_get?
  intro name
  rw [get?_insert]
  split_ifs with hname
  · rw [← hname, h]
  · rfl

theorem insert_comm (store : Store α) {one two : α} (h : Named.name one ≠ Named.name two) :
    (store.insert one).insert two = (store.insert two).insert one := by
  apply ext_get?
  intro name
  simp only [get?_insert]
  split_ifs with htwo hone
  · exact absurd (hone.trans htwo.symm) h
  · rfl
  · rfl
  · rfl

theorem perm_insertSorted {entries : List α}
    (h : ∀ x ∈ entries, Named.name x ≠ Named.name entry) :
    (insertSorted entry entries).Perm (entry :: entries) := by
  induction entries with
  | nil => exact .refl _
  | cons first rest ih =>
    unfold insertSorted
    by_cases hless : Named.name entry < Named.name first
    · rw [if_pos hless]
    · rw [if_neg hless, if_neg (Ne.symm (h first List.mem_cons_self))]
      exact ((ih fun x hx => h x (List.mem_cons_of_mem _ hx)).cons first).trans (.swap _ _ _)

/-- **An entry under a fresh name joins the others.** -/
theorem perm_insert (h : store.get? (Named.name entry) = none) :
    (store.insert entry).toList.Perm (entry :: store.toList) :=
  perm_insertSorted (get?_eq_none_iff.mp h)

/-! ## Erasure -/

/-- **Erasure changes the entry of one name.** -/
theorem get?_erase (store : Store α) (erased name : String) :
    (store.erase erased).get? name = if erased = name then none else store.get? name := by
  split_ifs with h
  · subst h
    rw [get?_eq_none_iff]
    intro entry hmem
    simpa using (List.mem_filter.mp hmem).2
  · refine Option.ext fun entry => ?_
    simp only [get?_eq_some_iff, erase, List.mem_filter, bne_iff_ne]
    constructor
    · rintro ⟨⟨hmem, _⟩, hname⟩
      exact ⟨hmem, hname⟩
    · rintro ⟨hmem, hname⟩
      exact ⟨⟨hmem, fun e => h (e.symm.trans hname)⟩, hname⟩

/-- **An erased entry leaves the others behind.** -/
theorem perm_erase (h : store.get? name = some entry) :
    store.toList.Perm (entry :: (store.erase name).toList) := by
  obtain ⟨hmem, hname⟩ := get?_eq_some_iff.mp h
  have hrest : store.toList.filter (fun x => !(Named.name x != name)) = [entry] := by
    refine List.perm_singleton.mp
      ((List.perm_ext_iff_of_nodup (store.nodup.filter _) (List.nodup_singleton _)).mpr fun x => ?_)
    simp only [List.mem_filter, List.mem_singleton, Bool.not_eq_true', bne_eq_false_iff_eq]
    constructor
    · rintro ⟨hx, hxname⟩
      exact eq_of_name_eq hx hmem (hxname.trans hname.symm)
    · rintro rfl
      exact ⟨hmem, hname⟩
  have hsplit := List.filter_append_perm (fun x => !(Named.name x != name)) store.toList
  rw [hrest] at hsplit
  simpa [erase] using hsplit.symm

end EvpnGateway.Store
