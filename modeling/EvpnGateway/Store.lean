import EvpnGateway.Resource.Types
/-!
# Stores

The resources of one kind under their names, in the order of their names.

* `Store.get?`, `Store.insert`, `Store.erase`: one entry by its name; `getThenInsert?`,
  `getThenErase?`: the same, and the entry that made way;
* `Store.find?`: an entry with a property; `Store.toList`: all entries, sorted by name.
-/

namespace EvpnGateway

/-- Resources under their names, strictly sorted by name. -/
structure Store (α : Type) [Named α] where
  toList : List α
  sorted : toList.Pairwise fun one other => Named.name one < Named.name other

namespace Store

variable {α : Type} [Named α]

/-- The store without entries. -/
def empty : Store α := ⟨[], .nil⟩

instance : EmptyCollection (Store α) := ⟨empty⟩
instance : Inhabited (Store α) := ⟨empty⟩

/-- The entry of a name. -/
def get? (store : Store α) (name : String) : Option α :=
  store.toList.find? fun entry => Named.name entry == name

/-- The first entry with a property. -/
def find? (store : Store α) (property : α → Bool) : Option α := store.toList.find? property

/-- Puts an entry in its place, instead of one of the same name. -/
def insertSorted (entry : α) : List α → List α
  | [] => [entry]
  | first :: rest =>
    if Named.name entry < Named.name first then entry :: first :: rest
    else if Named.name entry = Named.name first then entry :: rest
    else first :: insertSorted entry rest

theorem mem_insertSorted {entry other : α} {entries : List α}
    (h : other ∈ insertSorted entry entries) : other = entry ∨ other ∈ entries := by
  induction entries with
  | nil => simpa [insertSorted] using h
  | cons first rest ih =>
    simp only [insertSorted] at h
    split at h
    · simpa using h
    · split at h
      · rcases List.mem_cons.1 h with h | h
        · exact .inl h
        · exact .inr (List.mem_cons_of_mem _ h)
      · rcases List.mem_cons.1 h with h | h
        · exact .inr (h ▸ List.mem_cons_self)
        · exact (ih h).imp_right (List.mem_cons_of_mem _)

theorem lt_of_not_lt_of_ne {one other : String} (h : ¬ one < other) (ne : one ≠ other) :
    other < one :=
  Decidable.byContradiction fun h' =>
    ne (String.le_antisymm (String.not_lt.1 h') (String.not_lt.1 h))

theorem sorted_insertSorted {entry : α} {entries : List α}
    (h : entries.Pairwise fun one other => Named.name one < Named.name other) :
    (insertSorted entry entries).Pairwise fun one other => Named.name one < Named.name other := by
  induction entries with
  | nil => simp [insertSorted]
  | cons first rest ih =>
    obtain ⟨below, h⟩ := List.pairwise_cons.1 h
    simp only [insertSorted]
    split
    · rename_i less
      refine .cons (fun other mem => ?_) (.cons below h)
      rcases List.mem_cons.1 mem with rfl | mem
      · exact less
      · exact String.lt_trans less (below _ mem)
    · split
      · rename_i same
        exact .cons (fun other mem => same ▸ below _ mem) h
      · rename_i less ne
        refine .cons (fun other mem => ?_) (ih h)
        rcases mem_insertSorted mem with rfl | mem
        · exact lt_of_not_lt_of_ne less ne
        · exact below _ mem

/-- Stores an entry under its own name, instead of the one that was there. -/
def insert (store : Store α) (entry : α) : Store α :=
  ⟨insertSorted entry store.toList, sorted_insertSorted store.sorted⟩

/-- The store without the entry of a name. -/
def erase (store : Store α) (name : String) : Store α :=
  ⟨store.toList.filter fun entry => Named.name entry != name, store.sorted.filter _⟩

/-- Stores an entry under its own name, and yields the one that was there. -/
def getThenInsert? (store : Store α) (entry : α) : Option α × Store α :=
  (store.get? (Named.name entry), store.insert entry)

/-- Takes the entry of a name out of the store, and yields it. -/
def getThenErase? (store : Store α) (name : String) : Option α × Store α :=
  (store.get? name, store.erase name)

end Store

end EvpnGateway
