/-!
# TOML values

* `Toml.Value`: what a document is made of; `Toml.Origin`: how a table came to be, which decides
  whether it may grow;
* `Toml.Fault`: why a text is no document, with its wording;
* `Toml.declare`, `declareItem`, `assign`: what headers and keys do to the tables of a document.
-/

namespace EvpnGateway.Toml

/-- How a table came to be. -/
inductive Origin where
  /-- By a header of its own. -/
  | header
  /-- By the header of a table inside it. -/
  | implied
  /-- By a dotted key. -/
  | dotted
  /-- As a value in braces. -/
  | inline
  deriving DecidableEq, Repr

/-- A value; of floating-point numbers and of dates only the sort is kept. -/
inductive Value where
  | string (text : String)
  | integer (value : Int)
  | float
  | boolean (value : Bool)
  | date
  | array (items : List Value)
  | table (origin : Origin) (entries : List (String × Value))
  /-- The tables of all double headers of one name. -/
  | tables (items : List (List (String × Value)))
  deriving Repr, Inhabited

/-- The entries of a table in the order of their first mention. -/
abbrev Entries := List (String × Value)

/-- Why a text is no document, or not the document that is wanted. -/
inductive Fault where
  | expected (what : String)
  | badEscape
  | badCharacter (c : Char)
  | badValue (text : String)
  | tooDeep
  | duplicateKey (key : String)
  /-- The value of the key cannot take entries. -/
  | closed (key : String)
  /-- The value of the key is of another type. -/
  | mismatch (key wanted : String)
  deriving DecidableEq, Repr

/-- The wording of a fault. -/
def Fault.message : Fault → String
  | expected what => "expected " ++ what
  | badEscape => "invalid escape sequence"
  | badCharacter c => "invalid character U+" ++ String.ofList (Nat.toDigits 16 c.toNat)
  | badValue text => "invalid value " ++ text
  | tooDeep => "values are nested too deep"
  | duplicateKey key => "duplicate key " ++ key
  | closed key => "cannot extend the value of " ++ key
  | mismatch key wanted => key ++ ": expected " ++ wanted

namespace Entries

/-- The entries with a value put under a key, in the place of the one that was there. -/
def put (key : String) (value : Value) : Entries → Entries
  | [] => [(key, value)]
  | entry :: entries =>
    if entry.1 = key then (key, value) :: entries else entry :: put key value entries

/-- Changes the table at the end of a path. Tables that are missing on the way come to be, with the
origin `fresh`; a dotted key does not enter tables that have a header. -/
def change (fresh : Origin) (f : Origin → Entries → Except Fault Entries) :
    (path : List String) → Origin → Entries → Except Fault Entries
  | [], origin, entries => f origin entries
  | key :: path, _, entries =>
    match entries.lookup key with
    | none => do
      return put key (.table fresh (← change fresh f path fresh [])) entries
    | some (.table .inline _) => .error (.closed key)
    | some (.table origin inner) => do
      if fresh = .dotted ∧ origin = .header then throw (.duplicateKey key)
      return put key (.table origin (← change fresh f path origin inner)) entries
    | some (.tables items) => do
      let last ← change fresh f path .header (items.getLast?.getD [])
      return put key (.tables (items.dropLast ++ [last])) entries
    | some _ => .error (.closed key)

end Entries

/-- Splits a path into the tables on the way and the last key. -/
def splitPath (path : List String) : List String × String :=
  (path.dropLast, path.getLast?.getD "")

/-- Opens the table of a header. Only a table that was implied so far may have one. -/
def declare (path : List String) : Entries → Except Fault Entries :=
  let (way, key) := splitPath path
  Entries.change .implied (fun _ entries =>
    match entries.lookup key with
    | none => .ok (entries.put key (.table .header []))
    | some (.table .implied inner) => .ok (entries.put key (.table .header inner))
    | some _ => .error (.duplicateKey key)) way .header

/-- Opens another table of a double header. -/
def declareItem (path : List String) : Entries → Except Fault Entries :=
  let (way, key) := splitPath path
  Entries.change .implied (fun _ entries =>
    match entries.lookup key with
    | none => .ok (entries.put key (.tables [[]]))
    | some (.tables items) => .ok (entries.put key (.tables (items ++ [[]])))
    | some _ => .error (.duplicateKey key)) way .header

/-- Gives a key its value in a table; the key must be new, and a dotted key must end in a table that
dotted keys made. -/
def assign (path : List String) (value : Value) : Entries → Except Fault Entries :=
  let (way, key) := splitPath path
  Entries.change .dotted (fun origin entries =>
    if way ≠ [] ∧ origin ≠ .dotted then .error (.duplicateKey key)
    else match entries.lookup key with
      | none => .ok (entries.put key value)
      | some _ => .error (.duplicateKey key)) way .header

/-- Gives a key its value in the table that a header opened. -/
def assignIn (current path : List String) (value : Value) : Entries → Except Fault Entries :=
  Entries.change .implied (fun _ entries => assign path value entries) current .header

end EvpnGateway.Toml
