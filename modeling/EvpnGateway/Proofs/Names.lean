import EvpnGateway.Proofs.Ids
/-!
# Names of resources

Whatever the owner chose and whatever was drawn, the name of a new resource is well formed.

* `IsName`, **`checkName_eq_ok_iff`**: the names that pass, as a grammar; `IsSegment`: the ids in
  them; `shortId_fullName`, `IsName.fullName_shortId`: from the id to the name and back;
* `checkOptionalId_eq_ok_iff`, **`checkInterfaceId_eq_ok_iff`**: the ids that requests may choose;
* `checkPort_eq_ok`: what a request for a port went through that passes; `checkPort_eq_bind`: its id
  comes last;
* **`checkName_assignName`**, `shortId_assignName`: the name of a new resource passes, and its id;
* `Kind.AllowsId`, `interfaceId_assignName`, `bridgeId_assignName`: the ids of new resources.
-/

namespace EvpnGateway

/-! ## Names -/

/-- The names in a collection: the collection, a slash and an id without slashes and blanks. -/
def IsName (collection name : String) : Prop :=
  ∃ id : String, name = fullName collection id ∧ id ≠ "" ∧ '/' ∉ id.toList ∧
    ∀ c ∈ id.toList, isBlank c = false

/-- **The names that pass are those in the collection.** -/
theorem checkName_eq_ok_iff {collection name : String} :
    checkName collection name = .ok () ↔ IsName collection name := by
  unfold checkName IsName fullName
  constructor
  · intro h
    split_ifs at h with hempty
    · exact absurd h (refuse_ne_ok _ _)
    split at h
    · exact absurd h (refuse_ne_ok _ _)
    · next id hafter =>
      split_ifs at h with hid
      · exact absurd h (refuse_ne_ok _ _)
      simp only [not_or] at hid
      refine ⟨String.ofList id, ?_, ?_, ?_, ?_⟩
      · rw [← String.toList_inj, after?_eq_some_iff.mp hafter]
        simp
      · intro hnil
        have := congrArg String.toList hnil
        simp_all
      · simpa using hid.2.1
      · simpa using hid.2.2
  · rintro ⟨id, rfl, hne, hslash, hblank⟩
    have hlist : id.toList ≠ [] := fun h => hne (by rw [← String.toList_inj, h]; rfl)
    have hafter : after? (collection.toList ++ ['/']) (collection ++ "/" ++ id).toList =
        some id.toList := after?_eq_some_iff.mpr (by simp)
    have hfull : (collection ++ "/" ++ id).isEmpty = false := by
      rw [← Bool.not_eq_true, String.isEmpty_iff]
      intro h
      have := congrArg String.toList h
      simp_all
    rw [if_neg (by simp [hfull]), hafter]
    simp only
    rw [if_neg]
    simp_all

/-- The ids that names can hold: not empty, without slashes and without white space. -/
structure IsSegment (id : String) : Prop where
  ne_empty : id ≠ ""
  slash : '/' ∉ id.toList
  blank : ∀ c ∈ id.toList, isBlank c = false

theorem isSegment_of_isIdChar {id : String} (hne : id ≠ "")
    (hchars : ∀ c ∈ id.toList, isIdChar c = true) : IsSegment id :=
  ⟨hne, fun hmem => ne_slash_of_isIdChar (hchars _ hmem) rfl,
    fun c hc => not_isBlank_of_isIdChar (hchars c hc)⟩

theorem isName_iff {collection name : String} :
    IsName collection name ↔ ∃ id, name = fullName collection id ∧ IsSegment id :=
  exists_congr fun _ => and_congr_right fun _ =>
    ⟨fun ⟨hne, hslash, hblank⟩ => ⟨hne, hslash, hblank⟩,
      fun hid => ⟨hid.ne_empty, hid.slash, hid.blank⟩⟩

theorem isName_fullName_iff {collection id : String} :
    IsName collection (fullName collection id) ↔ IsSegment id := by
  rw [isName_iff]
  constructor
  · rintro ⟨other, hname, hother⟩
    obtain rfl : id = other := (String.append_right_inj (collection ++ "/")).mp hname
    exact hother
  · exact fun hid => ⟨id, rfl, hid⟩

theorem checkName_fullName_iff {collection id : String} :
    checkName collection (fullName collection id) = .ok () ↔ IsSegment id :=
  checkName_eq_ok_iff.trans isName_fullName_iff

theorem shortId_fullName {collection id : String} (h : '/' ∉ id.toList) :
    shortId (fullName collection id) = id := by
  have hlist : (fullName collection id).toList = collection.toList ++ '/' :: id.toList := by
    simp [fullName]
  rw [shortId, shortIdChars, hlist, splitLast?_append h]
  exact String.ofList_toList

theorem IsName.fullName_shortId {collection name : String} (h : IsName collection name) :
    fullName collection (shortId name) = name := by
  obtain ⟨id, rfl, hid⟩ := isName_iff.mp h
  rw [shortId_fullName hid.slash]

/-! ## Requests to create -/

theorem checkOptionalId_eq_ok_iff {id : String} :
    checkOptionalId id = .ok () ↔ id = "" ∨ IsId id := by
  unfold checkOptionalId
  split_ifs with hempty
  · exact ⟨fun _ => .inl (String.isEmpty_iff.mp hempty), fun _ => rfl⟩
  · rw [String.isEmpty_iff] at hempty
    rw [checkId_eq_ok_iff, or_iff_right hempty]

theorem size_le_of_checkInterfaceId {field id : String} (h : checkInterfaceId field id = .ok ()) :
    checkOptionalId id = .ok () ∧ Utf8.size id ≤ 15 := by
  obtain ⟨_, hoptional, hsize⟩ := ok_of_bind h
  refine ⟨hoptional, ?_⟩
  by_contra hlong
  rw [if_pos (not_le.mp hlong : interfaceNameLimit < Utf8.size id)] at hsize
  exact absurd hsize (refuse_ne_ok _ _)

theorem checkOptionalId_of_checkInterfaceId {field id : String}
    (h : checkInterfaceId field id = .ok ()) : checkOptionalId id = .ok () :=
  (size_le_of_checkInterfaceId h).1

theorem forM_check_eq_ok {α : Type} {check : α → Check} {items : List α}
    (h : items.forM check = .ok ()) : ∀ item ∈ items, check item = .ok () := by
  induction items with
  | nil => exact fun _ hmem => absurd hmem List.not_mem_nil
  | cons first rest ih =>
    have hchecks : ((check first).bind fun _ => rest.forM check) = .ok () := h
    obtain ⟨_, hfirst, hrest⟩ := ok_of_bind hchecks
    intro item hmem
    rcases List.mem_cons.mp hmem with rfl | hmem
    · exact hfirst
    · exact ih hrest item hmem

theorem checkPort_eq_ok {id : String} {spec : BridgePortSpec} (h : checkPort id spec = .ok ()) :
    spec.type ≠ .unspecified ∧ (spec.mac.isZero = false ∧ spec.mac.isMulticast = false) ∧
      (spec.type = .access → spec.bridges.length ≤ 1) ∧
      (∀ name ∈ spec.bridges, checkName Kind.bridge.collection name = .ok ()) ∧
      checkInterfaceId "bridge_port_id" id = .ok () := by
  unfold checkPort at h
  by_cases htype : spec.type = .unspecified
  · simp [htype, refuse, bind, Except.bind] at h
  by_cases hmac : spec.mac.isZero ∨ spec.mac.isMulticast
  · simp [htype, hmac, refuse, bind, Except.bind] at h
  by_cases haccess : spec.type = .access ∧ 1 < spec.bridges.length
  · simp [hmac, haccess, refuse, bind, Except.bind] at h
  rw [if_neg htype, if_neg hmac, if_neg haccess] at h
  obtain ⟨_, hbridges, hid⟩ := ok_of_bind h
  refine ⟨htype, by simpa using hmac, fun hkind => ?_, forM_check_eq_ok hbridges, hid⟩
  exact not_lt.mp fun hmany => haccess ⟨hkind, hmany⟩

section Assigned

variable {collection chosen : String} {uuid : Uuid}

theorem isSegment_assigned (h : checkOptionalId chosen = .ok ()) :
    IsSegment (if chosen.isEmpty then newId collection uuid else chosen) := by
  rcases checkOptionalId_eq_ok_iff.mp h with rfl | hid
  · rw [if_pos (String.isEmpty_iff.mpr rfl)]
    exact isSegment_of_isIdChar newId_ne_empty isIdChar_of_mem_newId
  · rw [if_neg (by simpa using hid.ne_empty)]
    exact isSegment_of_isIdChar hid.ne_empty hid.chars

/-- **The name of a new resource is well formed.** -/
theorem checkName_assignName (h : checkOptionalId chosen = .ok ()) :
    checkName collection (assignName collection chosen uuid) = .ok () :=
  checkName_fullName_iff.mpr (isSegment_assigned h)

theorem shortId_assignName (h : checkOptionalId chosen = .ok ()) :
    shortId (assignName collection chosen uuid) =
      if chosen.isEmpty then newId collection uuid else chosen :=
  shortId_fullName (isSegment_assigned h).slash

end Assigned

/-- The ids in names of stored resources: ids that owners may choose, of at most fifteen bytes
where they name an interface; for bridges also random identifiers. -/
def Kind.AllowsId (id : String) : Kind → Prop
  | vrf | port => IsId id ∧ Utf8.size id ≤ 15
  | bridge => IsId id ∨ IsUuidText id

theorem Kind.AllowsId.isIdChar {kind : Kind} {id : String} (h : kind.AllowsId id) :
    ∀ c ∈ id.toList, isIdChar c = true := by
  cases kind with
  | vrf | port => exact h.1.chars
  | bridge => exact h.elim IsId.chars IsUuidText.isIdChar

theorem Kind.AllowsId.ne_empty {kind : Kind} {id : String} (h : kind.AllowsId id) : id ≠ "" := by
  cases kind with
  | vrf | port => exact h.1.ne_empty
  | bridge => exact h.elim IsId.ne_empty IsUuidText.ne_empty

theorem interfaceId_assignName {collection chosen field : String} (uuid : Uuid)
    (hinterface : namesInterface collection = true) (h : checkInterfaceId field chosen = .ok ()) :
    ∃ id, assignName collection chosen uuid = fullName collection id ∧ IsId id ∧
      Utf8.size id ≤ 15 := by
  refine ⟨_, rfl, ?_⟩
  obtain ⟨hoptional, hsize⟩ := size_le_of_checkInterfaceId h
  rcases checkOptionalId_eq_ok_iff.mp hoptional with rfl | hid
  · rw [if_pos (String.isEmpty_iff.mpr rfl)]
    obtain ⟨hid, hlength⟩ := isId_newId hinterface uuid
    exact ⟨hid, by rw [size_eq_length hid.chars, hlength]; decide⟩
  · rw [if_neg (by simpa using hid.ne_empty)]
    exact ⟨hid, hsize⟩

theorem bridgeId_assignName {chosen : String} (uuid : Uuid) (h : checkOptionalId chosen = .ok ()) :
    ∃ id, assignName Kind.bridge.collection chosen uuid = fullName Kind.bridge.collection id ∧
      (IsId id ∨ IsUuidText id) := by
  refine ⟨_, rfl, ?_⟩
  rcases checkOptionalId_eq_ok_iff.mp h with rfl | hid
  · rw [if_pos (String.isEmpty_iff.mpr rfl)]
    exact .inr (isUuidText_newId (by decide) uuid)
  · rw [if_neg (by simpa using hid.ne_empty)]
    exact .inl hid

end EvpnGateway
