import EvpnGateway.Json.Reader
/-!
# Records in JSON

A record is an object of its fields or an array of them in their order. Members with other names
are passed over, a field must not come twice, and a missing field takes its default if it has one.

* `Field`, `Fields`: the fields of a record type, in declaration order;
* `Reader.record`: reads a record and builds a value of its fields.
-/

namespace EvpnGateway.Json

/-- A field of a record: its name, how its value is read, and its value where it is missing. -/
structure Field (α : Type) where
  name : String
  read : Reader α
  absent : Option α

/-- The fields of a record in declaration order. -/
inductive Fields : List Type → Type 1 where
  | nil : Fields []
  | cons {α : Type} {αs : List Type} (field : Field α) (rest : Fields αs) : Fields (α :: αs)

/-- The values of all fields. -/
def Values : List Type → Type
  | [] => Unit
  | α :: αs => α × Values αs

/-- The values of those fields that were read so far. -/
def Slots : List Type → Type
  | [] => Unit
  | α :: αs => Option α × Slots αs

namespace Fields

/-- No field was read so far. -/
def blank : {αs : List Type} → Fields αs → Slots αs
  | _, .nil => ()
  | _, .cons _ rest => (none, rest.blank)

/-- The number of fields. -/
def count : {αs : List Type} → Fields αs → Nat
  | _, .nil => 0
  | _, .cons _ rest => rest.count + 1

/-- The colon between a name and its value. -/
def colon : Reader Unit := do
  match ← Reader.peek with
  | some ':' => Reader.eat
  | some _ => Reader.failAhead .expectedColon
  | none => Reader.failAhead .endInObject

/-- Reads the value of the field called `name`; none if there is no such field. -/
def fill (name : String) : {αs : List Type} → Fields αs → Slots αs → Option (Reader (Slots αs))
  | _, .nil, _ => none
  | _, .cons field rest, (slot, slots) =>
    if name = field.name then
      some do
        if slot.isSome then Reader.failPending (.duplicateField name)
        colon
        return (some (← field.read), slots)
    else (rest.fill name slots).map fun read => do return (slot, ← read)

/-- The values of all fields; a field that was neither read nor has a default is missing. -/
def finish : {αs : List Type} → Fields αs → Slots αs → Reader (Values αs)
  | _, .nil, _ => pure ()
  | _, .cons field rest, (slot, slots) => do
    match slot <|> field.absent with
    | some value => return (value, ← rest.finish slots)
    | none => Reader.failPending (.missingField field.name)

/-- The name of the next member of an object, or none at its end. -/
def nextName (first : Bool) : Reader (Option String) := do
  match ← Reader.peek with
  | none => Reader.failAhead .endInObject
  | some '\x7d' => pure none
  | some c =>
    if first then
      if c = '"' then do Reader.eat; some <$> Reader.stringRest
      else Reader.failAhead .keyMustBeString
    else if c = ',' then do
      Reader.eat
      match ← Reader.peek with
      | some '"' => do Reader.eat; some <$> Reader.stringRest
      | some '\x7d' => Reader.failAhead .trailingComma
      | some _ => Reader.failAhead .keyMustBeString
      | none => Reader.failAhead .endInValue
    else Reader.failAhead .expectedObjectEnd

/-- Reads the members of an object into the slots. -/
def members {αs : List Type} (fields : Fields αs) :
    (fuel : Nat) → (first : Bool) → Slots αs → Reader (Slots αs)
  | 0, _, _ => Reader.failAhead .endInObject
  | fuel + 1, first, slots => do
    match ← nextName first with
    | none => return slots
    | some name =>
      match fields.fill name slots with
      | some read => fields.members fuel false (← read)
      | none => do
        colon
        Reader.skipValue
        fields.members fuel false slots

/-- The closing brace of an object. -/
def objectEnd : Reader Unit := do
  match ← Reader.peek with
  | some '\x7d' => Reader.eat
  | some ',' => Reader.failAhead .trailingComma
  | some _ => Reader.failAhead .trailingCharacters
  | none => Reader.failAhead .endInObject

/-- The values of an array, one for each field; those missing at its end take their defaults. -/
def row (expected : String) : {αs : List Type} → Fields αs → (index : Nat) → Reader (Values αs)
  | _, .nil, _ => pure ()
  | _, .cons field rest, index => do
    if ← Reader.nextElement (index == 0) then
      let value ← field.read
      return (value, ← rest.row expected (index + 1))
    else match field.absent with
      | some value => return (value, ← rest.row expected (index + 1))
      | none => Reader.failPending (.length index expected)

end Fields

/-- Reads a record; `title` names its type in mismatches. -/
def Reader.record {α : Type} {αs : List Type} (title : String) (fields : Fields αs)
    (build : Values αs → α) : Reader α := do
  match ← peek with
  | none => failAhead .endInValue
  | some '[' => do
    eat
    let plural := if fields.count = 1 then " element" else " elements"
    let expected := title ++ " with " ++ toString fields.count ++ plural
    build <$> enclosed (fields.row expected 0) listEnd
  | some '\x7b' => do
    eat
    let body : Reader (Values αs) := fun rest => do
      let (slots, rest) ← fields.members (rest.length + 1) true fields.blank rest
      fields.finish slots rest
    build <$> enclosed body Fields.objectEnd
  | some c => wrongSort title c

end EvpnGateway.Json
