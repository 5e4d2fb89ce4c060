import ManagementPlane.Db.PolicyStore
import ManagementPlane.Middleware.Guards

/-!
# The policy API and its tenants

The handlers of `internal/api/handlers/admin_handler.go` that write policies, over the
in-memory store and over the SQL store. The guards leave the organization of the caller
in the context; the handlers read only the user from it.

A body that `ShouldBindJSON` refuses is `none`; the eight random bytes of a new id come
with the request. The statements are taken without row-level security.
-/

namespace ManagementPlane.Api

open Policy Tables Option AList
open Middleware (Context)

/-- The three writing methods of the interface `policy.PolicyStore`. -/
structure PolicyStore (S : Type) where
  create : S → SecurityPolicy → String → (Int × String) × S
  update : S → SecurityPolicy → String → (Int × Bool × String) × S
  delete : S → String → String → (Int × Bool × String) × S

def inMemory (order : MapOrder SecurityPolicy) (now createdAt : Time) :
    PolicyStore Policy.Store where
  create s p author := Policy.create s p author order now createdAt
  update s p author := Policy.update s p author order now createdAt
  delete s id author := Policy.delete s id author order now createdAt

def inTable (jsonb : Sql.Jsonb) (answers : Db.Answers) (now createdAt : Time) :
    PolicyStore Db.PolicyStore where
  create s p author := Db.create jsonb s p author answers now createdAt
  update s p author := Db.update jsonb s p author answers now createdAt
  delete s id author := Db.delete jsonb s id author answers now createdAt

inductive Reply where
  | refused (status : Nat)
  | locked (message : String)
  | created (policyID : String) (version : Int)
  | updated (policyID : String) (version : Int)
  | deleted (version : Int)

def generatedID (random : List UInt8) : String :=
  "pol-" ++ String.ofList ((GoBinary.hexEncode random).map fun byte => Char.ofNat byte.toNat)

def identified (random : List UInt8) (p : SecurityPolicy) : SecurityPolicy :=
  if p.id = "" then { p with id := generatedID random } else p

section
variable {S : Type} (store : PolicyStore S) (context : Context) (s : S)

def createPolicy (random : List UInt8) (body : Option SecurityPolicy) : Reply × S :=
  match body with
  | none => (.refused 400, s)
  | some p =>
    let created := store.create s (identified random p) context.userID
    (if created.1.2 ≠ "" then .locked created.1.2
      else .created (identified random p).id created.1.1, created.2)

def updatePolicy (id : String) (body : Option SecurityPolicy) : Reply × S :=
  match body with
  | none => (.refused 400, s)
  | some p =>
    let updated := store.update s { p with id := id } context.userID
    (if updated.1.2.2 ≠ "" then .locked updated.1.2.2
      else if updated.1.2.1 = false then .refused 404
      else .updated id updated.1.1, updated.2)

def deletePolicy (id : String) : Reply × S :=
  let deleted := store.delete s id context.userID
  (if deleted.1.2.2 ≠ "" then .locked deleted.1.2.2
    else if deleted.1.2.1 = false then .refused 404
    else .deleted deleted.1.1, deleted.2)

end

inductive Request where
  | create (random : List UInt8) (body : Option SecurityPolicy)
  | update (id : String) (body : Option SecurityPolicy)
  | delete (id : String)

def handle {S : Type} (store : PolicyStore S) (context : Context) (s : S) : Request → Reply × S
  | .create random body => createPolicy store context s random body
  | .update id body => updatePolicy store context s id body
  | .delete id => deletePolicy store context s id

def Request.target : Request → Option String
  | .create random body => body.map fun p => (identified random p).id
  | .update id body => body.map fun _ => id
  | .delete _ => none

section
variable {R : Type} (org : R → String) (tenant : String)

/-- Policies of other tenants stay as they are, and the policy that was written, if a
version was committed, is the tenant's. -/
structure Isolated (before after : Versioned (Table String R)) (target : Option String) :
    Prop where
  others : ∀ id row, before.policies.lookup id = some row → org row ≠ tenant →
    after.policies.lookup id = some row
  written : ∀ id row, target = some id → after.version ≠ before.version →
    after.policies.lookup id = some row → org row = tenant

def Own (entry : Option R) : Prop := ∀ row, entry = some row → org row = tenant

variable {org tenant}

theorem own_none : Own org tenant none := nofun

theorem isolated_refl {s : Versioned (Table String R)} {target : Option String} :
    Isolated org tenant s s target :=
  ⟨fun _ _ found _ => found, fun _ _ _ changed => absurd rfl changed⟩

variable {before after : Versioned (Table String R)} {id : String}

theorem isolated_insert_iff {row : R} (commits : after.version = before.version + 1)
    (inserts : after.policies = before.policies.insert id row) :
    Isolated org tenant before after (some id) ↔
      org row = tenant ∧ Own org tenant (before.policies.lookup id) := by
  have stored : after.policies.lookup id = some row := by
    rw [inserts]
    exact lookup_insert _
  constructor
  · intro isolated
    have ours := isolated.written id row rfl (by omega) stored
    refine ⟨ours, ?_⟩
    intro old found
    by_contra foreign
    have kept := isolated.others id old found foreign
    rw [stored] at kept
    cases kept
    exact foreign ours
  · intro condition
    obtain ⟨ours, own⟩ := condition
    constructor
    · intro other old found foreign
      have different : other ≠ id := by
        rintro rfl
        exact foreign (own old found)
      grind [lookup_insert_ne]
    · grind

theorem isolated_erase_iff (erases : after.policies = before.policies.erase id) :
    Isolated org tenant before after none ↔ Own org tenant (before.policies.lookup id) := by
  constructor
  · intro isolated old found
    by_contra foreign
    have kept := isolated.others id old found foreign
    rw [erases, lookup_erase] at kept
    cases kept
  · intro own
    refine ⟨?_, fun _ _ absent => nomatch absent⟩
    intro other old found foreign
    have different : other ≠ id := by
      rintro rfl
      exact foreign (own old found)
    rw [erases, lookup_erase_ne different]
    exact found

end

section
variable (tenant : String) (s : Policy.Store) (author : String) (order : MapOrder SecurityPolicy)
variable (now createdAt : Time)

/-- The store turns the request down, or body and entry are the tenant's. -/
def OwnInMemory : Request → Prop
  | .create random body => ∀ p, body = some p → checkLock s author now = "" →
      p.orgID = tenant ∧
        Own SecurityPolicy.orgID tenant (s.policies.lookup (identified random p).id)
  | .update id body => ∀ p old, body = some p → checkLock s author now = "" →
      s.policies.lookup id = some old → p.orgID = tenant ∧ old.orgID = tenant
  | .delete id => checkLock s author now = "" →
      Own SecurityPolicy.orgID tenant (s.policies.lookup id)

theorem memory_create_iff (p : SecurityPolicy) :
    Isolated SecurityPolicy.orgID tenant s (Policy.create s p author order now createdAt).2
        (some p.id) ↔
      (checkLock s author now = "" →
        p.orgID = tenant ∧ Own SecurityPolicy.orgID tenant (s.policies.lookup p.id)) := by
  rw [Policy.create]
  by_cases free : checkLock s author now = ""
  · have assigned : (assignSequence s p).id = p.id ∧ (assignSequence s p).orgID = p.orgID := by
      rw [assignSequence]
      split_ifs <;> exact ⟨rfl, rfl⟩
    simp [free]
    rw [← assigned.1, ← assigned.2]
    exact isolated_insert_iff rfl rfl
  · grind [isolated_refl]

theorem memory_update_iff (p : SecurityPolicy) :
    Isolated SecurityPolicy.orgID tenant s (Policy.update s p author order now createdAt).2
        (some p.id) ↔
      (∀ old, checkLock s author now = "" → s.policies.lookup p.id = some old →
        p.orgID = tenant ∧ old.orgID = tenant) := by
  rw [Policy.update]
  by_cases free : checkLock s author now = ""
  · simp [free]
    cases found : s.policies.lookup p.id with
    | none => exact ⟨fun _ _ absent => (by cases absent), fun _ => isolated_refl⟩
    | some old =>
      refine (isolated_insert_iff rfl rfl).trans ?_
      grind [Own, some.injEq]
  · grind [isolated_refl]

theorem memory_delete_iff (id : String) :
    Isolated SecurityPolicy.orgID tenant s (Policy.delete s id author order now createdAt).2 none ↔
      (checkLock s author now = "" → Own SecurityPolicy.orgID tenant (s.policies.lookup id)) := by
  rw [Policy.delete]
  by_cases free : checkLock s author now = ""
  · simp [free]
    cases found : s.policies.lookup id with
    | none => exact ⟨fun _ => own_none, fun _ => isolated_refl⟩
    | some old =>
      refine (isolated_erase_iff rfl).trans ?_
      rw [found]
  · grind [isolated_refl]

theorem identified_orgID (random : List UInt8) (p : SecurityPolicy) :
    (identified random p).orgID = p.orgID := by
  rw [identified]
  split_ifs <;> rfl

theorem memory_isolated_iff (context : Context) (request : Request) :
    Isolated SecurityPolicy.orgID tenant s
        (handle (inMemory order now createdAt) context s request).2 request.target ↔
      OwnInMemory tenant s context.userID now request := by
  cases request with
  | create random body =>
    cases body with
    | none => exact ⟨fun _ _ => nofun, fun _ => isolated_refl⟩
    | some p =>
      refine (memory_create_iff tenant s context.userID order now createdAt _).trans ?_
      rw [identified_orgID]
      simp [OwnInMemory]
  | update id body =>
    cases body with
    | none => exact ⟨fun _ _ _ => nofun, fun _ => isolated_refl⟩
    | some p =>
      refine (memory_update_iff tenant s context.userID order now createdAt
        { p with id := id }).trans ?_
      simp [OwnInMemory]
      exact ⟨fun own q old same => same ▸ own old, fun own old => own p old rfl⟩
  | delete id => exact memory_delete_iff tenant s context.userID order now createdAt id

end

/-! ## In the table -/

section
variable (jsonb : Sql.Jsonb) (tenant : String) (s : Db.PolicyStore) (author : String)
variable (answers : Db.Answers) (now createdAt : Time)

def rawColumns (p : SecurityPolicy) : List (Option String) :=
  [p.sourceAddresses, p.destAddresses, p.destCloudApps, p.services, p.sslProfile, p.atpProfiles]

/-- The upsert goes through: the database reports no error and takes the raw columns for
JSON. -/
def Writes (p : SecurityPolicy) : Prop :=
  answers.writeError = none ∧ ∀ raw ∈ rawColumns p, (Db.jsonbColumn jsonb raw).isSome

/-- The store turns the request down, or the row is the tenant's: the one there is or, for
a new one, the one of the body. An existing row keeps its organization whatever the body
says. -/
def OwnInTable : Request → Prop
  | .create random body => ∀ p, body = some p → checkLock s author now = "" →
      Writes jsonb answers p →
        Own Db.PolicyRow.orgId tenant (s.policies.lookup (identified random p).id) ∧
          (s.policies.lookup (identified random p).id = none → p.orgID = tenant)
  | .update id body => ∀ p, body = some p → checkLock s author now = "" →
      answers.lookupFails = false → Writes jsonb answers p →
        Own Db.PolicyRow.orgId tenant (s.policies.lookup id)
  | .delete id => checkLock s author now = "" → answers.lookupFails = false →
      answers.writeError = none → Own Db.PolicyRow.orgId tenant (s.policies.lookup id)

def upserted (table : Table String Db.PolicyRow) (row : Db.PolicyRow) : Db.PolicyRow :=
  match table.lookup row.id with
  | none => row
  | some old => { row with orgId := old.orgId }

variable (table : Table String Db.PolicyRow)

theorem upsertRow_eq (row : Db.PolicyRow) :
    Db.upsertRow table row = table.insert row.id (upserted table row) := by
  rw [Db.upsertRow, upserted]
  cases table.lookup row.id <;> rfl

theorem upserted_orgId_iff (row : Db.PolicyRow) :
    ((upserted table row).orgId = tenant ∧ Own Db.PolicyRow.orgId tenant (table.lookup row.id)) ↔
      Own Db.PolicyRow.orgId tenant (table.lookup row.id) ∧
        (table.lookup row.id = none → row.orgId = tenant) := by
  rw [upserted]
  cases table.lookup row.id with
  | none | some old => simp [Own]

theorem rowOf_fields {p : SecurityPolicy} {row : Db.PolicyRow}
    (written : Db.rowOf jsonb p = some row) : row.id = p.id ∧ row.orgId = p.orgID := by
  simp [Db.rowOf, bind_eq_some_iff] at written
  grind

variable (p : SecurityPolicy)

theorem rowOf_isSome_iff :
    (Db.rowOf jsonb p).isSome ↔ ∀ raw ∈ rawColumns p, (Db.jsonbColumn jsonb raw).isSome := by
  simp [isSome_iff_exists, rawColumns]
  constructor
  · intro written
    obtain ⟨row, written⟩ := written
    simp [Db.rowOf, bind_eq_some_iff] at written
    obtain ⟨a, first, b, second, c, third, d, fourth, e, fifth, f, sixth, -⟩ := written
    exact ⟨⟨a, first⟩, ⟨b, second⟩, ⟨c, third⟩, ⟨d, fourth⟩, ⟨e, fifth⟩, ⟨f, sixth⟩⟩
  · intro columns
    obtain ⟨⟨a, first⟩, ⟨b, second⟩, ⟨c, third⟩, ⟨d, fourth⟩, ⟨e, fifth⟩, ⟨f, sixth⟩⟩ := columns
    simp [Db.rowOf, first, second, third, fourth, fifth, sixth]

/-- Two policies that the table keeps in the same row of the same tenant. -/
structure SameTarget (p q : SecurityPolicy) : Prop where
  id : p.id = q.id
  orgID : p.orgID = q.orgID
  raw : rawColumns p = rawColumns q

theorem sameTarget_defaultPosture : SameTarget (Db.defaultPosture p) p := by
  rw [Db.defaultPosture]
  split_ifs <;> exact ⟨rfl, rfl, rfl⟩

theorem sameTarget_assignSequence (fails : Bool) (p : SecurityPolicy) :
    SameTarget (Db.assignSequence s fails p) p := by
  rw [Db.assignSequence]
  split_ifs <;> exact ⟨rfl, rfl, rfl⟩

theorem raw_identified (random : List UInt8) (p : SecurityPolicy) :
    rawColumns (identified random p) = rawColumns p := by
  rw [identified]
  split_ifs <;> rfl

theorem upsertPolicy_cases (p : SecurityPolicy) :
    (¬ Writes jsonb answers p ∧ ∃ err, Db.upsertPolicy jsonb answers.writeError table p = .error err)
      ∨ ∃ row, Writes jsonb answers p ∧ row.id = p.id ∧ row.orgId = p.orgID ∧
        Db.upsertPolicy jsonb answers.writeError table p =
          .ok (table.insert row.id (upserted table row)) := by
  have target := sameTarget_defaultPosture p
  have columns := rowOf_isSome_iff jsonb (Db.defaultPosture p)
  rw [target.raw] at columns
  unfold Db.upsertPolicy Writes
  cases answers.writeError with
  | some err => exact .inl ⟨fun writes => (nomatch writes.1), err, rfl⟩
  | none =>
    rw [← columns]
    cases written : Db.rowOf jsonb (Db.defaultPosture p) with
    | none => exact .inl ⟨fun writes => (nomatch writes.2), jsonb.invalid, rfl⟩
    | some row =>
      have fields := rowOf_fields jsonb written
      refine .inr ⟨row, ⟨rfl, rfl⟩, fields.1.trans target.id, fields.2.trans target.orgID, ?_⟩
      rw [← upsertRow_eq]

theorem table_create_iff :
    Isolated Db.PolicyRow.orgId tenant s (Db.create jsonb s p author answers now createdAt).2
        (some p.id) ↔
      (checkLock s author now = "" → Writes jsonb answers p →
        Own Db.PolicyRow.orgId tenant (s.policies.lookup p.id) ∧
          (s.policies.lookup p.id = none → p.orgID = tenant)) := by
  have target := sameTarget_assignSequence s answers.maxFails p
  have writes : Writes jsonb answers p ↔
      Writes jsonb answers (Db.assignSequence s answers.maxFails p) := by
    rw [Writes, Writes, target.raw]
  rw [Db.create, writes, ← target.id, ← target.orgID]
  generalize Db.assignSequence s answers.maxFails p = stored
  by_cases free : checkLock s author now = ""
  · simp [free]
    obtain ⟨fails, err, refused⟩ | ⟨row, writes, id, orgId, done⟩ :=
      upsertPolicy_cases jsonb answers s.policies stored
    · grind [isolated_refl]
    · rw [done, ← id, ← orgId, ← upserted_orgId_iff]
      refine (isolated_insert_iff rfl rfl).trans ?_
      exact ⟨fun own _ => own, fun own => own writes⟩
  · grind [isolated_refl]

theorem table_update_iff :
    Isolated Db.PolicyRow.orgId tenant s (Db.update jsonb s p author answers now createdAt).2
        (some p.id) ↔
      (checkLock s author now = "" → answers.lookupFails = false → Writes jsonb answers p →
        Own Db.PolicyRow.orgId tenant (s.policies.lookup p.id)) := by
  rw [Db.update]
  by_cases free : checkLock s author now = ""
  · simp [free]
    cases answers.lookupFails with
    | true => exact ⟨fun _ fails => (by cases fails), fun _ => isolated_refl⟩
    | false =>
      cases found : s.policies.lookup p.id with
      | none => exact ⟨fun _ _ _ => own_none, fun _ => isolated_refl⟩
      | some old =>
        simp
        obtain ⟨fails, err, refused⟩ | ⟨row, writes, id, orgId, done⟩ :=
          upsertPolicy_cases jsonb answers s.policies p
        · grind [isolated_refl]
        · have kept := upserted_orgId_iff tenant s.policies row
          rw [id, found] at kept
          rw [done, ← id]
          refine (isolated_insert_iff rfl rfl).trans ?_
          rw [id, found, kept]
          simp [writes]
  · grind [isolated_refl]

theorem table_delete_iff (id : String) :
    Isolated Db.PolicyRow.orgId tenant s (Db.delete jsonb s id author answers now createdAt).2
        none ↔
      (checkLock s author now = "" → answers.lookupFails = false → answers.writeError = none →
        Own Db.PolicyRow.orgId tenant (s.policies.lookup id)) := by
  rw [Db.delete]
  by_cases free : checkLock s author now = ""
  · simp [free]
    cases answers.lookupFails with
    | true => exact ⟨fun _ fails => (by cases fails), fun _ => isolated_refl⟩
    | false =>
      simp
      cases found : s.policies.lookup id with
      | none => exact ⟨fun _ _ => own_none, fun _ => isolated_refl⟩
      | some old =>
        cases answers.writeError with
        | some err => exact ⟨fun _ fails => (by cases fails), fun _ => isolated_refl⟩
        | none =>
          refine (isolated_erase_iff rfl).trans ?_
          rw [found]
          simp
  · grind [isolated_refl]

theorem table_isolated_iff (context : Context) (request : Request) :
    Isolated Db.PolicyRow.orgId tenant s
        (handle (inTable jsonb answers now createdAt) context s request).2 request.target ↔
      OwnInTable jsonb tenant s context.userID answers now request := by
  cases request with
  | create random body =>
    cases body with
    | none => exact ⟨fun _ _ => nofun, fun _ => isolated_refl⟩
    | some p =>
      refine (table_create_iff jsonb tenant s context.userID answers now createdAt _).trans ?_
      simp [OwnInTable, Writes, raw_identified, identified_orgID]
  | update id body =>
    cases body with
    | none => exact ⟨fun _ _ => nofun, fun _ => isolated_refl⟩
    | some p =>
      refine (table_update_iff jsonb tenant s context.userID answers now createdAt
        { p with id := id }).trans ?_
      simp [OwnInTable, Writes, rawColumns]
  | delete id => exact table_delete_iff jsonb tenant s context.userID answers now createdAt id

end

/-- One tenant's request over either store: what it leaves alone, and whose the policy is
that it writes. -/
theorem policy_api_isolated_iff (context : Context) (request : Request) (now createdAt : Time) :
    (∀ (s : Policy.Store) (order : MapOrder SecurityPolicy),
      Isolated SecurityPolicy.orgID context.orgID s
          (handle (inMemory order now createdAt) context s request).2 request.target ↔
        OwnInMemory context.orgID s context.userID now request) ∧
    ∀ (jsonb : Sql.Jsonb) (s : Db.PolicyStore) (answers : Db.Answers),
      Isolated Db.PolicyRow.orgId context.orgID s
          (handle (inTable jsonb answers now createdAt) context s request).2 request.target ↔
        OwnInTable jsonb context.orgID s context.userID answers now request := by
  constructor
  · grind [memory_isolated_iff]
  · grind [table_isolated_iff]

def acme : Context := { userID := "alice", orgID := "acme", role := "org_admin" }

def globex : Context := { userID := "bob", orgID := "globex", role := "org_admin" }

def globexRule : SecurityPolicy :=
  { id := "pol-1", orgID := "globex", name := "Block", sequence := 10, action := "deny" }

def globexStore : Policy.Store :=
  (handle (inMemory .asStored 0 0) globex newStore (.create [] (some globexRule))).2

def globexTable : Db.PolicyStore :=
  (handle (inTable Db.textJsonb {} 0 0) globex (Db.newPolicyStore ∅)
    (.create [] (some globexRule))).2

/-- An administrator of one tenant deletes the policy of another, in either store. -/
theorem globex_rule_deleted :
    ¬ Isolated SecurityPolicy.orgID "acme" globexStore
        (handle (inMemory .asStored 0 0) acme globexStore (.delete "pol-1")).2 none ∧
      ¬ Isolated Db.PolicyRow.orgId "acme" globexTable
        (handle (inTable Db.textJsonb {} 0 0) acme globexTable (.delete "pol-1")).2 none := by
  constructor
  · intro isolated
    have kept := isolated.others "pol-1" globexRule rfl (by decide)
    cases kept
  · intro isolated
    have kept := isolated.others "pol-1" _ rfl (by decide)
    cases kept

end ManagementPlane.Api
