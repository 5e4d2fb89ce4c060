import ManagementPlane.Directory.Store

/-!
# The address store

`internal/db/address_store.go` over the table `address_objects` of `002_security_policies.sql`:
the destinations that policies list by id. An organization has a name once, and the table carries
the constraint.

An object is created for a host under a name derived from it. An object that has the name already
gets the new value instead, and keeps its type.
-/

namespace ManagementPlane.Db

open GoStrings Tables
open Directory (tooLong uniqueViolation)

/-- The case mappings of Go and of the database. -/
structure Text where
  toLower : String → String
  toUpper : String → String
  sqlLower : String → String

inductive ObjectType where
  | ipv4
  | ipv6
  | ipRange
  | fqdn
  | domain
  | subnet
  | geography
  | url
  deriving DecidableEq

def ObjectType.named : ObjectType → Bool
  | .fqdn => true
  | .domain => true
  | .url => true
  | _ => false

structure AddressRow where
  orgID : String
  name : String
  objectType : ObjectType
  value : String
  description : String := ""

structure AddressObject extends AddressRow where
  id : String

/-- `UNIQUE (org_id, name)` -/
structure AddressTable where
  rows : Table String AddressRow
  names : ∀ first second row other, rows.lookup first = some row →
    rows.lookup second = some other → row.orgID = other.orgID → row.name = other.name →
    first = second

section
variable (text : Text)

def normalizeHost (s : String) : String :=
  let s := trimSpace (text.toLower s)
  let s := trimPrefix s "https://"
  let s := trimPrefix s "http://"
  let s := beforeAny s ['/', '?', '#']
  let s := beforeLast s ':'
  trimSuffix s "."

def hostMatchesValue (host value : String) : Bool :=
  let v := normalizeHost text value
  if v = "" then false else host = v || hasSuffix host ("." ++ v)

end

/-- What the database decides: which of several rows a `LIMIT 1` returns, the id of a new row, and
which statements fail. -/
structure AddressChoice where
  order : MapOrder (String × AddressRow) := .asStored
  newID : String := ""
  findFailure : Option String := none
  insertFailure : Option String := none

namespace AddressTable

variable (text : Text) (table : AddressTable)

def entries : List (String × AddressRow) := table.rows.entries.map fun entry => (entry.1, entry.2)

theorem mem_entries_iff (id : String) (row : AddressRow) :
    (id, row) ∈ table.entries ↔ table.rows.lookup id = some row := by
  rw [lookup_eq_some_iff, entries, List.mem_map]
  simp

/-- `SELECT … WHERE org_id = $1 AND lower(value) = lower($2) LIMIT 1` -/
def findByValue (order : MapOrder (String × AddressRow)) (orgID value : String) :
    Option (String × AddressRow) :=
  (order.visit table.entries).find? fun entry =>
    entry.2.orgID = orgID ∧ text.sqlLower entry.2.value = text.sqlLower value

def findByName (orgID name : String) : Option (String × AddressRow) :=
  findRow (fun row => row.orgID = orgID ∧ row.name = name) table.rows

def add (id : String) (row : AddressRow) (absent : table.findByName row.orgID row.name = none) :
    AddressTable where
  rows := table.rows.insert id row
  names := by
    intro first second a b foundA foundB sameOrg sameName
    exact unique_insert (R := fun x y => x.orgID = y.orgID ∧ x.name = y.name)
      (fun _ _ same => ⟨same.1.symm, same.2.symm⟩)
      (fun _ _ _ _ found other same => table.names _ _ _ _ found other same.1 same.2)
      (fun other found _ present =>
        of_decide_eq_false ((findRow_eq_none_iff _ _).mp absent other found present))
      first second a b foundA foundB ⟨sameOrg, sameName⟩

/-- `DO UPDATE SET value = excluded.value` -/
def setValue (id value : String) : AddressTable where
  rows := updateRow id (fun row => { row with value := value }) table.rows
  names := by
    intro first second row other found foundOther sameOrg sameName
    exact unique_updateRow (R := fun x y => x.orgID = y.orgID ∧ x.name = y.name)
      (fun _ _ same => ⟨same.1.symm, same.2.symm⟩)
      (f := fun row => { row with value := value }) (fun _ _ same => same)
      (fun _ _ _ _ found other same => table.names _ _ _ _ found other same.1 same.2)
      first second row other found foundOther ⟨sameOrg, sameName⟩

def createdByAssistant : String := "Created by Apex assistant"

/-- `INSERT … ON CONFLICT (org_id, name) DO UPDATE …  RETURNING id` -/
def insertFQDN (newID orgID name value : String) : Except String (String × AddressTable) :=
  if 255 < name.length then .error tooLong
  else
    match found : table.findByName orgID name with
    | some (id, _) => .ok (id, table.setValue id value)
    | none =>
      if (table.rows.lookup newID).isSome then .error uniqueViolation
      else .ok (newID, table.add newID ⟨orgID, name, .fqdn, value, createdByAssistant⟩ found)

def upsertFQDN (choice : AddressChoice) (orgID name value : String) :
    Except String (AddressObject × AddressTable) :=
  let value := normalizeHost text value
  if value = "" then .error "empty address value"
  else
    match choice.findFailure with
    | some err => .error ("find address by value: " ++ err)
    | none =>
      match table.findByValue text choice.order orgID value with
      | some (id, row) => .ok ({ row with id := id }, table)
      | none =>
        let name := if trimSpace name = "" then value else name
        match choice.insertFailure with
        | some err => .error ("insert address object: " ++ err)
        | none =>
          match table.insertFQDN choice.newID orgID name value with
          | .error err => .error ("insert address object: " ++ err)
          | .ok (id, after) =>
            .ok ({ id := id, orgID := orgID, name := name, objectType := .fqdn,
                   value := value }, after)

theorem insertFQDN_ok (newID orgID name value id : String) (after : AddressTable)
    (inserted : table.insertFQDN newID orgID name value = .ok (id, after)) :
    (∃ row, table.findByName orgID name = some (id, row) ∧ ∀ other, after.rows.lookup other =
        if other = id then some { row with value := value } else table.rows.lookup other) ∨
      (table.findByName orgID name = none ∧ id = newID ∧ table.rows.lookup newID = none ∧
        ∀ other, after.rows.lookup other =
          if other = newID then some ⟨orgID, name, .fqdn, value, createdByAssistant⟩
          else table.rows.lookup other) := by
  unfold insertFQDN at inserted
  by_cases long : 255 < name.length
  · rw [if_pos long] at inserted
    cases inserted
  rw [if_neg long] at inserted
  split at inserted
  next key row found =>
      cases inserted
      left
      refine ⟨row, found, ?_⟩
      intro other
      have present := (findRow_some found).1
      rw [setValue, lookup_updateRow]
      split_ifs with here
      · rw [here, present, Option.map_some]
      · rfl
  next found =>
      split_ifs at inserted with taken
      cases inserted
      right
      refine ⟨found, rfl, Option.not_isSome_iff_eq_none.mp taken, ?_⟩
      intro other
      rw [add, lookup_insert_if]

theorem upsertFQDN_ok (choice : AddressChoice) (orgID name value : String) (addr : AddressObject)
    (after : AddressTable)
    (upserted : table.upsertFQDN text choice orgID name value = .ok (addr, after)) :
    (∃ row, table.findByValue text choice.order orgID (normalizeHost text value) =
        some (addr.id, row) ∧ after = table) ∨
      (table.findByValue text choice.order orgID (normalizeHost text value) = none ∧
        table.insertFQDN choice.newID orgID
          (if trimSpace name = "" then normalizeHost text value else name)
          (normalizeHost text value) = .ok (addr.id, after)) := by
  unfold upsertFQDN at upserted
  dsimp only at upserted
  by_cases empty : normalizeHost text value = ""
  · rw [if_pos empty] at upserted
    cases upserted
  · rw [if_neg empty] at upserted
    cases failed : choice.findFailure with
    | some err =>
      rw [failed] at upserted
      cases upserted
    | none =>
      rw [failed] at upserted
      cases byValue : table.findByValue text choice.order orgID (normalizeHost text value) with
      | some found =>
        grind
      | none =>
        rw [byValue] at upserted
        cases insertFailed : choice.insertFailure with
        | some err =>
          rw [insertFailed] at upserted
          cases upserted
        | none =>
          grind

variable (order : MapOrder (String × AddressRow))

theorem findByValue_some (orgID value id : String)
    (row : AddressRow) (found : table.findByValue text order orgID value = some (id, row)) :
    table.rows.lookup id = some row := by
  have member := List.mem_of_find?_eq_some found
  exact (table.mem_entries_iff id row).mp ((order.perm _).mem_iff.mp member)

theorem findByName_some (orgID name id : String) (row : AddressRow)
    (found : table.findByName orgID name = some (id, row)) :
    table.rows.lookup id = some row ∧ row.orgID = orgID ∧ row.name = name := by
  obtain ⟨present, named⟩ := findRow_some found
  exact ⟨present, of_decide_eq_true named⟩

def findMatching (orgID host : String) : List AddressObject :=
  let host := normalizeHost text host
  (table.entries.filter fun entry => entry.2.orgID = orgID && entry.2.objectType.named &&
    hostMatchesValue text host entry.2.value).map fun entry => { entry.2 with id := entry.1 }

section
variable (orgID host : String)

/-- The contract of `FindMatching`: the normalised value is the host, or of a domain object a
parent domain of it. -/
def Covers (row : AddressRow) : Prop :=
  normalizeHost text row.value = normalizeHost text host ∨
    (row.objectType = .domain ∧ normalizeHost text row.value ≠ "" ∧
      hasSuffix (normalizeHost text host) ("." ++ normalizeHost text row.value) = true)

/-- Not both names are empty, and only of a domain object the host is a proper subdomain. -/
def Plain (row : AddressRow) : Prop :=
  (normalizeHost text row.value = "" → normalizeHost text host ≠ "") ∧
    (normalizeHost text row.value = "" ∨ row.objectType = .domain ∨
      normalizeHost text row.value = normalizeHost text host ∨
      hasSuffix (normalizeHost text host) ("." ++ normalizeHost text row.value) = false)

theorem mem_findMatching (obj : AddressObject) :
    obj ∈ table.findMatching text orgID host ↔
      table.rows.lookup obj.id = some obj.toAddressRow ∧ obj.orgID = orgID ∧
        obj.objectType.named = true ∧
        hostMatchesValue text (normalizeHost text host) obj.value = true := by
  simp [findMatching, mem_entries_iff]
  constructor
  · rintro ⟨id, row, ⟨found, ⟨org, named⟩, matched⟩, rfl⟩
    exact ⟨found, org, named, matched⟩
  · rintro ⟨found, org, named, matched⟩
    exact ⟨obj.id, obj.toAddressRow, ⟨found, ⟨org, named⟩, matched⟩, rfl⟩

theorem id_mem_findMatching {id : String} {row : AddressRow}
    (found : table.rows.lookup id = some row) (org : row.orgID = orgID) :
    (∃ obj ∈ table.findMatching text orgID host, obj.id = id) ↔ row.objectType.named = true ∧
      hostMatchesValue text (normalizeHost text host) row.value = true := by
  constructor
  · rintro ⟨obj, member, rfl⟩
    obtain ⟨present, -, matched⟩ := (table.mem_findMatching text orgID host obj).mp member
    cases found.symm.trans present
    exact matched
  · intro matched
    exact ⟨{ row with id := id },
      (table.mem_findMatching text orgID host _).mpr ⟨found, org, matched⟩, rfl⟩

theorem matches_iff_covers (row : AddressRow) :
    (hostMatchesValue text (normalizeHost text host) row.value = true ↔ Covers text host row) ↔
      Plain text host row := by
  simp only [hostMatchesValue, Covers, Plain]
  by_cases empty : normalizeHost text row.value = ""
  · simp [empty, @eq_comm _ ""]
  · by_cases same : normalizeHost text host = normalizeHost text row.value
    · simp [empty, same]
    · by_cases below : hasSuffix (normalizeHost text host)
          ("." ++ normalizeHost text row.value) = true
      · simp [empty, same, Ne.symm same, below]
      · simp [empty, same, Ne.symm same, below]

/-- `FindMatching` keeps its contract as long as the host is below no fqdn or url object. What
`UpsertFQDN` returns is found again when the row it takes up has a named type and its value,
which was normalised before, matches after it is normalised once more. -/
theorem findMatching_iff :
    ((∀ obj : AddressObject, obj ∈ table.findMatching text orgID host ↔
        table.rows.lookup obj.id = some obj.toAddressRow ∧ obj.orgID = orgID ∧
          obj.objectType.named = true ∧ Covers text host obj.toAddressRow) ↔
      ∀ obj : AddressObject, table.rows.lookup obj.id = some obj.toAddressRow →
        obj.orgID = orgID → obj.objectType.named = true → Plain text host obj.toAddressRow) ∧
    ∀ choice name addr after,
      table.upsertFQDN text choice orgID name host = .ok (addr, after) →
      ((∃ obj ∈ after.findMatching text orgID host, obj.id = addr.id) ↔
        match table.findByValue text choice.order orgID (normalizeHost text host) with
        | some (_, row) => row.objectType.named = true ∧
            hostMatchesValue text (normalizeHost text host) row.value = true
        | none => (∀ entry ∈ table.findByName orgID
              (if trimSpace name = "" then normalizeHost text host else name),
              entry.2.objectType.named = true) ∧
            hostMatchesValue text (normalizeHost text host) (normalizeHost text host) = true) := by
  constructor
  · constructor
    · intro contract obj found org named
      have listed := contract obj
      rw [mem_findMatching] at listed
      simp [found, org, named] at listed
      exact (matches_iff_covers text host obj.toAddressRow).mp listed
    · intro plain obj
      rw [mem_findMatching]
      refine and_congr_right fun found => and_congr_right fun org => and_congr_right fun named => ?_
      exact (matches_iff_covers text host obj.toAddressRow).mpr (plain obj found org named)
  · intro choice name addr after upserted
    obtain ⟨row, byValue, rfl⟩ | ⟨byValue, inserted⟩ :=
      table.upsertFQDN_ok text choice orgID name host addr after upserted
    · have found := after.findByValue_some text choice.order orgID _ _ row byValue
      have selected := List.find?_some byValue
      have org := (of_decide_eq_true selected).1
      rw [byValue]
      exact after.id_mem_findMatching text orgID host found org
    · rw [byValue]
      obtain ⟨row, byName, lookups⟩ | ⟨byName, fresh, -, lookups⟩ :=
        table.insertFQDN_ok _ _ _ _ _ _ inserted
      · have org := (table.findByName_some orgID _ _ row byName).2.1
        have found := lookups addr.id
        rw [if_pos rfl] at found
        rw [after.id_mem_findMatching text orgID host found org, byName]
        simp
      · have found := lookups addr.id
        rw [if_pos fresh] at found
        rw [after.id_mem_findMatching text orgID host found rfl, byName]
        simp [ObjectType.named]

/-- The host www.example.com finds the fqdn object example.com; the object of 2001:db8::1 is
stored with the value 2001:db8: and not found again. -/
theorem ipv6_not_found :
    let text : Text := ⟨id, id, id⟩
    let empty : AddressTable := ⟨∅, by simp⟩
    (∃ addr after, empty.upsertFQDN text { newID := "1" } "org" "site" "example.com" =
        .ok (addr, after) ∧ (after.findMatching text "org" "www.example.com").map (·.id) = ["1"] ∧
        ¬ Covers text "www.example.com" addr.toAddressRow) ∧
      ∃ addr after, empty.upsertFQDN text { newID := "1" } "org" "host" "2001:db8::1" =
        .ok (addr, after) ∧ after.findMatching text "org" "2001:db8::1" = [] := by
  refine ⟨⟨_, _, rfl, by decide +kernel, ?_⟩, ⟨_, _, rfl, ?_⟩⟩
  · simp only [Covers]
    decide +kernel
  · decide +kernel

end

end AddressTable

end ManagementPlane.Db
