import ManagementPlane.Lib.Json

/-!
# Decoding past errors

`json.Unmarshal` does not stop at a value of the wrong type: it leaves the variable as it
is, goes on, and reports the first such error at the end. A caller that ignores the error
gets what was decoded. A `Slot` decodes a document into a variable and says whether there
was an error.

A map takes every entry, also one whose value could not be decoded. The name of a struct
field may differ in case, and a field that comes again is decoded again, on top of what is
there.
-/

namespace GoJson

abbrev Slot (σ : Type) := Json → σ → σ × Bool

def boolSlot : Slot Bool
  | .bool value, _ => (value, false)
  | .null, current => (current, false)
  | _, current => (current, true)

def textSlot : Slot String
  | .str value, _ => (value, false)
  | .null, current => (current, false)
  | _, current => (current, true)

/-- The literal is too large for a `float64`. No more digits of an exponent are read once it has
reached 10000. -/
def overflows (literal : String) : Bool :=
  let (mantissa, exponent) := literal.toList.span fun c => c ≠ 'e' ∧ c ≠ 'E'
  let fraction := ((mantissa.dropWhile (· ≠ '.')).drop 1).length
  let m := (mantissa.filter Char.isDigit).foldl (fun n c => 10 * n + (c.toNat - 48)) 0
  let e := (exponent.filter Char.isDigit).foldl
    (fun n c => if n < 10000 then 10 * n + (c.toNat - 48) else n) 0
  -- from here on the nearest value would be infinite
  let limit := 2 ^ 1024 - 2 ^ 970
  if '-' ∈ exponent then limit * 10 ^ (fraction + e) ≤ m else limit * 10 ^ fraction ≤ m * 10 ^ e

mutual

/-- Into an `interface{}` any document can be decoded, but for numbers that are too large. -/
def decodeAny : Json → Json × Bool
  | .num literal => if overflows literal then (.null, true) else (.num literal, false)
  | .arr items => ((decodeItems items).map Json.arr id)
  | .obj fields => ((decodeFields fields).map Json.obj id)
  | document => (document, false)

def decodeItems : List Json → List Json × Bool
  | [] => ([], false)
  | item :: rest =>
    ((decodeAny item).1 :: (decodeItems rest).1, (decodeAny item).2 || (decodeItems rest).2)

def decodeFields : List (String × Json) → List (String × Json) × Bool
  | [] => ([], false)
  | (name, value) :: rest =>
    ((name, (decodeAny value).1) :: (decodeFields rest).1,
      (decodeAny value).2 || (decodeFields rest).2)

end

def anySlot : Slot Json := fun document _ => decodeAny document

variable {σ β : Type}

/-- A map that is nil and one that is empty are the same to a reader. -/
abbrev GoMap (β : Type) := String → Option β

def mapEntry (zero : β) (element : Slot β) (decoded : GoMap β × Bool) (entry : String × Json) :
    GoMap β × Bool :=
  let value := element entry.2 zero
  (Function.update decoded.1 entry.1 (some value.1), decoded.2 || value.2)

def mapSlot (zero : β) (element : Slot β) : Slot (GoMap β)
  | .obj entries, current => entries.foldl (mapEntry zero element) (current, false)
  | .null, _ => (fun _ => none, false)
  | _, current => (current, true)

/-- A part of a variable. -/
def partSlot (get : σ → β) (set : β → σ → σ) (slot : Slot β) : Slot σ := fun document current =>
  (set (slot document (get current)).1 current, (slot document (get current)).2)

def fieldSlot (fields : List (String × Slot σ)) (name : String) : Slot σ :=
  match fields.find? fun field => GoStrings.equalFold name field.1 with
  | none => fun _ current => (current, false)
  | some field => field.2

def structEntry (fields : List (String × Slot σ)) (decoded : σ × Bool) (entry : String × Json) :
    σ × Bool :=
  let value := fieldSlot fields entry.1 entry.2 decoded.1
  (value.1, decoded.2 || value.2)

def structSlot (fields : List (String × Slot σ)) : Slot σ
  | .obj entries, current => entries.foldl (structEntry fields) (current, false)
  | .null, current => (current, false)
  | _, current => (current, true)

/-- Decoding into a struct does to one part what decoding that field alone would do, when
no other field touches the part. -/
theorem structSlot_part (fields : List (String × Slot σ)) (get : σ → β) (name : String)
    (slot : Slot β)
    (touches : ∀ key document current, get (fieldSlot fields key document current).1 =
      (fieldSlot [(name, slot)] key document (get current)).1) (document : Json) (current : σ) :
    get (structSlot fields document current).1 =
      (structSlot [(name, slot)] document (get current)).1 := by
  have fold : ∀ (entries : List (String × Json)) (decoded : σ × Bool) (part : β × Bool),
      get decoded.1 = part.1 →
      get (entries.foldl (structEntry fields) decoded).1 =
        (entries.foldl (structEntry [(name, slot)]) part).1 := by
    intro entries
    induction entries with
    | nil => exact fun _ _ same => same
    | cons entry rest ih =>
      intro decoded part same
      rw [List.foldl_cons, List.foldl_cons]
      apply ih
      rw [structEntry, structEntry, touches, same]
  cases document with
  | obj entries => exact fold entries (current, false) (get current, false) rfl
  | _ => rfl

end GoJson
