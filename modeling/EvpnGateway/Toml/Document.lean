import EvpnGateway.Toml.Reader
/-!
# TOML documents

* `Toml.parse`: the entries of a document.
-/

namespace EvpnGateway.Toml

/-- The entries read so far, and the path of the header that they are under. -/
structure Progress where
  entries : Entries := []
  current : List String := []

/-- A header, up to the end of its line. -/
def header (progress : Progress) : Reader Progress := do
  expect '['
  let several := (← peek) = some '['
  if several then expect '['
  let path ← key
  expect ']'
  if several then expect ']'
  lineEnd
  let entries ← (if several then declareItem path else declare path) progress.entries
  return { entries, current := path }

/-- A key and its value, up to the end of their line. -/
def assignment (progress : Progress) : Reader Progress := do
  let path ← key
  expect '='
  blanks
  let value ← value
  lineEnd
  return { progress with entries := ← assignIn progress.current path value progress.entries }

/-- The statements of a document up to its end. -/
def statements : (fuel : Nat) → Progress → Reader Progress
  | 0, progress => pure progress
  | fuel + 1, progress => do
    skipLines
    match ← peek with
    | none => return progress
    | some '[' => do statements fuel (← header progress)
    | some _ => do statements fuel (← assignment progress)

/-- The entries of a document; a byte order mark in front of it does not count. -/
def parse (source : String) : Except Fault Entries := do
  let text := match source.toList with
    | '\uFEFF' :: rest => rest
    | text => text
  let (progress, _) ← statements (text.length + 1) {} text
  return progress.entries

end EvpnGateway.Toml
