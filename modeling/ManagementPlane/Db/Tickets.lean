import ManagementPlane.Lib.Tables

/-!
# Updates of service tickets

`UpdateTicket` of `internal/db/itsm_store.go`, over the table of `042_itsm_tickets.sql`. It numbers
the parameters of its statement while it walks over the fields, and counts the three of the
condition back from the last one. Only two of them were added after the fields: the first one
compares the tenant with the time of the update.
-/

namespace ManagementPlane.Db.Tickets

open Tables List Option

inductive ColumnType where
  | text
  | int
  | time
  deriving DecidableEq

inductive Value where
  | null
  | text (value : String)
  | int (value : Int)
  | time (value : Int)
  deriving DecidableEq

def Value.fits : Value → ColumnType → Bool
  | .null, _ | .text _, .text | .int _, .int | .time _, .time => true
  | _, _ => false

/-- A row by its columns; the id is the key of the table. -/
abbrev Ticket := String → Value

def columnType (column : String) : ColumnType :=
  if column = "ai_score" then .int
  else if column = "rbi_expiry" ∨ column = "updated_at" then .time
  else .text

/-- `WHERE tenant_id = … AND (id::text = … OR ticket_key = …)` -/
def selects (tenant id key : Value) (rowID : String) (row : Ticket) : Bool :=
  row "tenant_id" = tenant && (.text rowID = id || row "ticket_key" = key)

/-- The statement `UPDATE … SET column = $n, …`, with the numbers in its condition. -/
structure Statement where
  sets : List (String × Nat)
  tenant : Nat
  id : Nat
  key : Nat

def Statement.params (s : Statement) : List (ColumnType × Nat) :=
  s.sets.map (fun set => (columnType set.1, set.2)) ++
    [(.text, s.tenant), (.text, s.id), (.text, s.key)]

variable (tickets : Table String Ticket)

/-- A parameter has one type, and its argument is a value of it. -/
def Statement.query (s : Statement) (args : List Value) :
    Except String (List Ticket × Table String Ticket) :=
  let arg (n : Nat) := args.getD (n - 1) .null
  let chosen := selects (arg s.tenant) (arg s.id) (arg s.key)
  let write (row : Ticket) : Ticket := fun column =>
    ((s.sets.lookup column).map arg).getD (row column)
  if ∃ param ∈ s.params, ∃ other ∈ s.params, param.2 = other.2 ∧ param.1 ≠ other.1 then
    .error "inconsistent types deduced for parameter"
  else if ∃ param ∈ s.params, (arg param.2).fits param.1 = false then .error "invalid input"
  else
    .ok ((tickets.entries.filter fun entry => chosen entry.1 entry.2).map fun e => write e.2,
      updateAll (fun id row => some (if chosen id row then write row else row)) tickets)

def getTicket (tenantID idOrKey : String) : Except String Ticket :=
  match tickets.entries.find? fun entry =>
      selects (.text tenantID) (.text idOrKey) (.text idOrKey) entry.1 entry.2 with
  | some entry => .ok entry.2
  | none => .error "get itsm ticket: sql: no rows in result set"

def allowed : List String :=
  ["status", "assignee", "priority", "description", "ai_decision", "ai_score", "rbi_session_url",
    "rbi_expiry", "rejection_reason", "summary"]

structure Clauses where
  setClauses : List (String × Nat) := []
  args : List Value := []
  argN : Nat := 0

def Clauses.add (c : Clauses) (column : String) (value : Value) : Clauses :=
  ⟨c.setClauses ++ [(column, c.argN + 1)], c.args ++ [value], c.argN + 1⟩

def Clauses.visit (c : Clauses) (update : String × Value) : Clauses :=
  if update.1 ∈ allowed then c.add update.1 update.2 else c

variable (order : MapOrder (String × Value)) (now : Int) (tenantID id : String)
  (updates : Table String Value)

def visited : List (String × Value) := order.visit (updates.entries.map fun e => (e.1, e.2))

def updateTicket : Except String Ticket × Table String Ticket :=
  let c := (visited order updates).foldl Clauses.visit {}
  if c.setClauses = [] then (getTicket tickets tenantID id, tickets)
  else
    let c := c.add "updated_at" (.time now)
    let argN := c.argN + 2
    match Statement.query tickets ⟨c.setClauses, argN - 2, argN - 1, argN⟩
        (c.args ++ [.text tenantID, .text id]) with
    | .error err => (.error ("update itsm ticket: " ++ err), tickets)
    | .ok ([], after) => (.error "update itsm ticket: sql: no rows in result set", after)
    | .ok (row :: _, after) => (.ok row, after)

theorem setClauses_foldl {c : Clauses} (list : List (String × Value)) (some : c.setClauses ≠ []) :
    (list.foldl Clauses.visit c).setClauses ≠ [] := by
  induction list generalizing c with
  | nil => exact some
  | cons update list ih =>
    apply ih
    by_cases known : update.1 ∈ allowed
    · simp [Clauses.visit, Clauses.add, known]
    · simpa [Clauses.visit, known] using some

theorem setClauses_ne_nil (nonempty : updates.entries ≠ [])
    (fields : ∀ column ∈ updates.keys, column ∈ allowed) :
    ((visited order updates).foldl Clauses.visit {}).setClauses ≠ [] := by
  have perm : (visited order updates).Perm _ := order.perm _
  cases list : visited order updates with
  | nil =>
    rw [list, nil_perm, map_eq_nil_iff] at perm
    exact absurd perm nonempty
  | cons update rest =>
    rw [list] at perm
    obtain ⟨entry, present, rfl⟩ := List.mem_map.mp (perm.mem_iff.mp mem_cons_self)
    have known := fields entry.1 (List.mem_map_of_mem present)
    rw [foldl_cons]
    apply setClauses_foldl
    simp [Clauses.visit, Clauses.add, known]

theorem query_error {c : Clauses} (last : ("updated_at", c.argN) ∈ c.setClauses)
    (args : List Value) :
    Statement.query tickets ⟨c.setClauses, c.argN + 2 - 2, c.argN + 2 - 1, c.argN + 2⟩ args =
      .error "inconsistent types deduced for parameter" := by
  have time : columnType "updated_at" = .time := by decide
  refine if_pos ⟨(.time, c.argN), ?_, (.text, c.argN), ?_, rfl, by simp⟩
  · rw [← time]
    exact mem_append_left _ (List.mem_map_of_mem last)
  · simp [Statement.params]

/-- The ticket with the update. -/
def updated (row : Ticket) : Ticket := fun column =>
  if column = "updated_at" then .time now else (updates.lookup column).getD (row column)

/-- No update is ever written: the tickets are as they should be only when the selected one was so
before. -/
theorem updateTicket_iff (nonempty : updates.entries ≠ [])
    (fields : ∀ column ∈ updates.keys, column ∈ allowed) :
    (∀ key, (updateTicket tickets order now tenantID id updates).2.lookup key =
      (tickets.lookup key).map fun row =>
        if selects (.text tenantID) (.text id) (.text id) key row then updated now updates row
        else row) ↔
    ∀ key row, tickets.lookup key = some row →
      selects (.text tenantID) (.text id) (.text id) key row = true →
      updated now updates row = row := by
  have kept : (updateTicket tickets order now tenantID id updates).2 = tickets := by
    unfold updateTicket
    rw [if_neg (setClauses_ne_nil order updates nonempty fields)]
    dsimp only
    rw [query_error tickets (by simp [Clauses.add])]
  rw [kept]
  constructor
  · intro written key row found selected
    have same := written key
    rw [found, map_some, if_pos selected] at same
    exact (some_injective _ same).symm
  · intro same key
    cases found : tickets.lookup key with
    | none => rfl
    | some row =>
      by_cases selected : selects (.text tenantID) (.text id) (.text id) key row = true
      · rw [map_some, if_pos selected, same key row found selected]
      · rw [map_some, if_neg selected]

/-- A ticket as it is inserted; columns without a value are null. -/
def insertedTicket (tenantID : String) : Ticket := fun column =>
  ([("tenant_id", Value.text tenantID), ("ticket_key", .text "SR-84920"),
    ("provider", .text "internal"), ("ticket_type", .text "service_request"),
    ("status", .text "pending_ai_review"), ("priority", .text "medium"),
    ("summary", .text "Access"), ("created_at", .time 0),
    ("updated_at", .time 0)].lookup column).getD .null

def ticketID : String := "5d1f3c1e-0b0a-4a52-9c55-8f2f6d1c7a10"

def oneTicket (tenantID : String) : Table String Ticket :=
  AList.singleton ticketID (insertedTicket tenantID)

def approve : Table String Value := AList.singleton "status" (.text "approved")

/-- An approved ticket stays pending. -/
theorem approval_lost :
    (updateTicket (oneTicket "t") .asStored 1 "t" "SR-84920" approve).2 = oneTicket "t" ∧
      updated 1 approve (insertedTicket "t") "status" ≠ insertedTicket "t" "status" :=
  ⟨rfl, by decide⟩

/-- An update for one tenant leaves the ticket of another alone. -/
theorem other_tenant_not_updated :
    (updateTicket (oneTicket "u") .asStored 1 "t" "SR-84920" approve).2.lookup ticketID =
      some (insertedTicket "u") := by
  refine (updateTicket_iff (oneTicket "u") .asStored 1 "t" "SR-84920" approve (by decide)
    (by decide)).mpr ?_ ticketID
  intro key row found selected
  have isTicket := AList.mem_lookup_iff.mp found
  simp [oneTicket] at isTicket
  obtain ⟨rfl, same⟩ := isTicket
  cases same
  exact absurd selected (by decide)

end ManagementPlane.Db.Tickets
