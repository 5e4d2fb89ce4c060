import ManagementPlane.Lib.Json

/-!
# Reading rows with database/sql

`SELECT` hands a row over as a list of column values, and `Scan` stores them one
by one into the destinations it is given. It refuses the row when the numbers
differ, and when a destination cannot hold a value. The destinations are those
of `database/sql`: plain Go variables, the nullable wrappers, and byte slices
that the caller decodes as JSON afterwards.
-/

namespace Sql

open GoJson

inductive Value where
  | null
  | text (value : String)
  | int (value : Int)
  | bool (value : Bool)
  | json (document : Json)

/-- How the database reads and writes the text of a JSONB value, and its error for a
text that is not JSON. -/
structure Jsonb where
  parse : String → Option Json
  render : Json → String
  invalid : String

abbrev Dest (R : Type) := Value → R → Option R

variable {R : Type}

def stringDest (set : String → R → R) : Dest R
  | .text value, record => some (set value record)
  | _, _ => none

def intDest (set : Int → R → R) : Dest R
  | .int value, record => some (set value record)
  | _, _ => none

def boolDest (set : Bool → R → R) : Dest R
  | .bool value, record => some (set value record)
  | _, _ => none

/-- An `sql.NullString` whose value is taken over when valid. -/
def nullStringDest (set : String → R → R) : Dest R
  | .text value, record => some (set value record)
  | .null, record => some record
  | _, _ => none

/-- An `sql.NullInt32`: a value out of its range is an error. -/
def nullInt32Dest (set : Int → R → R) : Dest R
  | .int value, record =>
    if -2 ^ 31 ≤ value ∧ value < 2 ^ 31 then some (set value record) else none
  | .null, record => some record
  | _, _ => none

/-- A byte slice that is then decoded into a `[]string`, errors ignored. -/
def stringsDest (set : Option (List String) → R → R) : Dest R
  | .json document, record => some (set (unmarshalStrings document) record)
  | .null, record => some (set none record)
  | _, _ => none

/-- A byte slice that is kept as a raw message, an empty one as nil. -/
def rawDest (jsonb : Jsonb) (set : Option String → R → R) : Dest R
  | .json document, record => some (set ((some (jsonb.render document)).filter (· ≠ "")) record)
  | .null, record => some (set none record)
  | _, _ => none

def store : List (Dest R) → List Value → R → Option R
  | dest :: dests, value :: values, record => (dest value record).bind (store dests values)
  | _, _, record => some record

def scan (dests : List (Dest R)) (row : List Value) (record : R) : Option R :=
  if row.length = dests.length then store dests row record else none

end Sql
