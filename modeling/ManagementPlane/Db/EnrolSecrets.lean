import ManagementPlane.Directory.Store
import ManagementPlane.Lib.Encoding
import ManagementPlane.Lib.OnceOnly

/-!
# Enrolment secrets

`internal/db/enrol_secret_store.go` over the table `org_enrol_secrets` of the migrations 029, 045
and 047. A secret is stored as the hash of its trimmed text. `Validate` looks an active secret up
and consumes it by a second statement that repeats the condition and counts the rows it changed.

The columns `id` and `org_id` are UUIDs while the program holds texts, so a statement reads the
texts it is given and may refuse them. A statement may fail without effect, and it may take effect
and fail all the same, its answer being lost on the way.
-/

namespace ManagementPlane.EnrolSecrets

open GoStrings Interleave Policy Runs Tables Option
open List hiding lookup_eq_some_iff
open Directory (tooLong uniqueViolation)

abbrev UUID := BitVec 128

inductive Status where
  | active
  | revoked
  | consumed
  deriving DecidableEq

structure SecretRow where
  orgID : UUID
  secretHash : String
  label : String
  displayPrefix : String
  status : Status := .active
  createdBy : Option UUID
  createdAt : Time
  lastUsedAt : Option Time := none
  revokedAt : Option Time := none
  consumedAt : Option Time := none

/-- `UNIQUE (org_id, secret_hash)` -/
structure SecretTable where
  rows : Table UUID SecretRow
  unique : ∀ first second row other, rows.lookup first = some row →
    rows.lookup second = some other → row.orgID = other.orgID →
    row.secretHash = other.secretHash → first = second

/-- SHA-256 in hexadecimal, and how the database reads and writes its UUIDs. -/
structure Env where
  sha256Hex : String → String
  parseUUID : String → Option UUID
  formatUUID : UUID → String
  parse_format : ∀ id, parseUUID (formatUUID id) = some id

/-- What the database and the random source decide at one step. -/
structure Choice where
  failure : Option String := none
  applied : Bool := false
  now : Time := 0
  newID : UUID
  random : Nat → UInt8 := fun _ => 0

structure EnrolSecret where
  id : String
  orgID : String
  label : String
  displayPrefix : String
  status : Status
  createdAt : Time
  deriving DecidableEq

section
variable (env : Env) (table : SecretTable)

def hashEnrolSecret (s : String) : String := env.sha256Hex (trimSpace s)

def invalidUUID : String := "could not parse string as uuid"

def readUUID (s : String) : Except String UUID :=
  match env.parseUUID s with
  | some id => .ok id
  | none => .error invalidUUID

/-- The row at a key gets a new status, and its organization and hash stay. -/
def SecretTable.amend (key : UUID) (f : SecretRow → SecretRow)
    (same : ∀ row, (f row).orgID = row.orgID ∧ (f row).secretHash = row.secretHash) :
    SecretTable where
  rows := updateRow key f table.rows
  unique := by
    intro first second row other found foundOther sameOrg sameHash
    exact unique_updateRow (R := fun x y => x.orgID = y.orgID ∧ x.secretHash = y.secretHash)
      (fun _ _ same => ⟨same.1.symm, same.2.symm⟩)
      (fun x _ equal => ⟨(same x).1.symm.trans equal.1, (same x).2.symm.trans equal.2⟩)
      (fun _ _ _ _ found other same => table.unique _ _ _ _ found other same.1 same.2)
      first second row other found foundOther ⟨sameOrg, sameHash⟩

def SecretTable.findByHash (orgID : UUID) (hash : String) : Option (UUID × SecretRow) :=
  findRow (fun row => row.orgID = orgID ∧ row.secretHash = hash) table.rows

def SecretTable.add (id : UUID) (row : SecretRow)
    (absent : table.findByHash row.orgID row.secretHash = none) : SecretTable where
  rows := table.rows.insert id row
  unique := by
    intro first second a b foundA foundB sameOrg sameHash
    exact unique_insert (R := fun x y => x.orgID = y.orgID ∧ x.secretHash = y.secretHash)
      (fun _ _ same => ⟨same.1.symm, same.2.symm⟩)
      (fun _ _ _ _ found other same => table.unique _ _ _ _ found other same.1 same.2)
      (fun other found _ present =>
        of_decide_eq_false ((findRow_eq_none_iff _ _).mp absent other found present))
      first second a b foundA foundB ⟨sameOrg, sameHash⟩

/-- `INSERT INTO org_enrol_secrets … RETURNING id::string, created_at`. That the organization and
the creator exist is left to the failures of a step. -/
def insertSecret (newID : UUID) (now : Time) (orgID hash label displayPrefix : String)
    (createdBy : Option String) : Except String ((String × Time) × SecretTable) := do
  let org ← readUUID env orgID
  let creator ← createdBy.mapM (readUUID env)
  if label.length > 100 ∨ displayPrefix.length > 16 then throw tooLong
  if (table.rows.lookup newID).isSome then throw uniqueViolation
  let row : SecretRow :=
    { orgID := org
      secretHash := hash
      label := label
      displayPrefix := displayPrefix
      createdBy := creator
      createdAt := now }
  if absent : table.findByHash row.orgID row.secretHash = none then
    return ((env.formatUUID newID, now), table.add newID row absent)
  else throw uniqueViolation

/-- `SELECT id::string … WHERE org_id = $1 AND secret_hash = $2 AND status = 'active' LIMIT 1` -/
def selectActive (orgID hash : String) : Except String (Option String) := do
  let org ← readUUID env orgID
  let found := findRow (fun row => row.orgID = org ∧ row.secretHash = hash ∧ row.status = .active)
    table.rows
  return found.map fun entry => env.formatUUID entry.1

/-- `UPDATE … WHERE id = $1 AND status = 'active'` and a further condition, with the number of
rows changed. -/
def SecretTable.finish (key : UUID) (mine : SecretRow → Bool) (f : SecretRow → SecretRow)
    (same : ∀ row, (f row).orgID = row.orgID ∧ (f row).secretHash = row.secretHash) :
    Nat × SecretTable :=
  match table.rows.lookup key with
  | some row =>
    if row.status = .active ∧ mine row = true then (1, table.amend key f same) else (0, table)
  | none => (0, table)

def consumeSecret (now : Time) (id : String) : Except String (Nat × SecretTable) := do
  let key ← readUUID env id
  return table.finish key (fun _ => true)
    (fun row => { row with status := .consumed, lastUsedAt := some now, consumedAt := some now })
    fun _ => ⟨rfl, rfl⟩

def revokeSecret (now : Time) (id orgID : String) : Except String (Nat × SecretTable) := do
  let key ← readUUID env id
  let org ← readUUID env orgID
  return table.finish key (fun row => row.orgID = org)
    (fun row => { row with status := .revoked, revokedAt := some now }) fun _ => ⟨rfl, rfl⟩

end

inductive Op where
  | readRandom
  | insertSecret (orgID hash label displayPrefix : String) (createdBy : Option String)
  | selectActive (orgID hash : String)
  | consumeSecret (id : String)
  | revokeSecret (id orgID : String)
  deriving DecidableEq

abbrev Op.Ans : Op → Type
  | .readRandom => Except String (List UInt8)
  | .insertSecret .. => Except String (String × Time)
  | .selectActive .. => Except String (Option String)
  | .consumeSecret _ => Except String Nat
  | .revokeSecret .. => Except String Nat

abbrev Event := Interleave.Event Op Op.Ans

/-- A statement fails by itself, or is made to fail with or without having taken effect. -/
def attempt {α : Type} (choice : Choice) (table : SecretTable)
    (outcome : Except String (α × SecretTable)) : Except String α × SecretTable :=
  match outcome, choice.failure with
  | .error err, _ => (.error err, table)
  | .ok (answer, after), none => (.ok answer, after)
  | .ok (_, after), some err => (.error err, if choice.applied then after else table)

def exec (env : Env) (choice : Choice) (table : SecretTable) :
    (op : Op) → op.Ans × SecretTable
  | .readRandom =>
    (match choice.failure with
      | some err => .error err
      | none => .ok ((List.range 24).map choice.random), table)
  | .insertSecret orgID hash label displayPrefix createdBy =>
    attempt choice table
      (insertSecret env table choice.newID choice.now orgID hash label displayPrefix createdBy)
  | .selectActive orgID hash =>
    attempt choice table ((selectActive env table orgID hash).map fun found => (found, table))
  | .consumeSecret id => attempt choice table (consumeSecret env table choice.now id)
  | .revokeSecret id orgID => attempt choice table (revokeSecret env table choice.now id orgID)

inductive Request where
  | generate (orgID label createdBy : String)
  | validate (orgID plaintext : String)
  | revoke (orgID id : String)
  deriving DecidableEq

inductive Reply where
  | generated (secret : String) (ref : EnrolSecret)
  | validated (valid : Bool)
  | revoked
  | error (err : String)
  deriving DecidableEq

abbrev Handled := Prog Op Op.Ans

abbrev readRandom : Handled (Except String (List UInt8)) := perform Op.readRandom

abbrev db.insertSecret (orgID hash label displayPrefix : String) (createdBy : Option String) :
    Handled (Except String (String × Time)) :=
  perform (Op.insertSecret orgID hash label displayPrefix createdBy)

abbrev db.selectActive (orgID hash : String) : Handled (Except String (Option String)) :=
  perform (Op.selectActive orgID hash)

abbrev db.consumeSecret (id : String) : Handled (Except String Nat) :=
  perform (Op.consumeSecret id)

abbrev db.revokeSecret (id orgID : String) : Handled (Except String Nat) :=
  perform (Op.revokeSecret id orgID)

def secretOf (raw : List UInt8) : String := "apx_" ++ GoEncoding.encodeToString raw

def displayPrefixOf (secret : String) : String :=
  if secret.length > 11 then String.ofList (secret.toList.take 11) ++ "…" else secret

section
variable (env : Env)

def generate (orgID label createdBy : String) : Handled Reply := do
  if trimSpace orgID = "" then return .error "org_id is required"
  match ← readRandom with
  | .error err => return .error err
  | .ok raw =>
    let secret := secretOf raw
    let label := if trimSpace label = "" then "Device enrolment" else label
    let displayPrefix := displayPrefixOf secret
    let createdByArg := if trimSpace createdBy = "" then none else some createdBy
    match ← db.insertSecret orgID (hashEnrolSecret env secret) label displayPrefix
        createdByArg with
    | .error err => return .error err
    | .ok (id, createdAt) =>
      return .generated secret
        { id := id
          orgID := orgID
          label := label
          displayPrefix := displayPrefix
          status := .active
          createdAt := createdAt }

def validate (orgID plaintext : String) : Handled Reply := do
  if trimSpace orgID = "" ∨ trimSpace plaintext = "" then return .validated false
  match ← db.selectActive orgID (hashEnrolSecret env plaintext) with
  | .error err => return .error err
  | .ok none => return .validated false
  | .ok (some id) =>
    match ← db.consumeSecret id with
    | .error err => return .error err
    | .ok n => return .validated (n ≠ 0)

def revoke (orgID id : String) : Handled Reply := do
  match ← db.revokeSecret id orgID with
  | .error err => return .error err
  | .ok n =>
    if n = 0 then return .error "secret not found or already revoked"
    return .revoked

def handle : Request → Handled Reply
  | .generate orgID label createdBy => generate env orgID label createdBy
  | .validate orgID plaintext => validate env orgID plaintext
  | .revoke orgID id => revoke orgID id

end

/-! ## What a statement does -/

section
variable {env : Env} {choice : Choice} {table : SecretTable} {key : UUID}

theorem readUUID_ok {s : String} (read : readUUID env s = .ok key) :
    env.parseUUID s = some key := by
  unfold readUUID at read
  grind

theorem attempt_cases {α : Type} (outcome : Except String (α × SecretTable)) :
    (attempt choice table outcome).2 = table ∨
      ∃ answer after, outcome = .ok (answer, after) ∧ (attempt choice table outcome).2 = after := by
  unfold attempt
  grind

theorem attempt_ok {α : Type} {outcome : Except String (α × SecretTable)} {answer : α}
    (answered : (attempt choice table outcome).1 = .ok answer) :
    outcome = .ok (answer, (attempt choice table outcome).2) := by
  unfold attempt at answered ⊢
  grind

/-- A row was active and is so no longer; its organization and its hash are the same. -/
structure Finished (before after : SecretTable) (key : UUID) : Prop where
  active : ∃ row, before.rows.lookup key = some row ∧ row.status = .active
  amended : ∃ f : SecretRow → SecretRow, Amended before.rows after.rows key f ∧
    ∀ row, (f row).orgID = row.orgID ∧ (f row).secretHash = row.secretHash ∧
      (f row).status ≠ .active

variable {after : SecretTable}

theorem finish_spec {mine : SecretRow → Bool} {f : SecretRow → SecretRow}
    {same : ∀ row, (f row).orgID = row.orgID ∧ (f row).secretHash = row.secretHash}
    (finishes : ∀ row, (f row).status ≠ .active) {n : Nat}
    (finished : table.finish key mine f same = (n, after)) :
    n = 0 ∧ after = table ∨ Finished table after key := by
  unfold SecretTable.finish at finished
  cases found : table.rows.lookup key with
  | none =>
    grind
  | some row =>
    rw [found] at finished
    dsimp only at finished
    split_ifs at finished with condition
    · cases finished
      refine .inr ⟨⟨row, found, condition.1⟩, f, lookup_updateRow key f table.rows, ?_⟩
      grind
    · cases finished
      exact .inl ⟨rfl, rfl⟩

def finishOf (env : Env) (choice : Choice) (table : SecretTable) :
    Op → Option (String × Except String (Nat × SecretTable))
  | .consumeSecret id => some (id, consumeSecret env table choice.now id)
  | .revokeSecret id orgID => some (id, revokeSecret env table choice.now id orgID)
  | _ => none

variable {id : String}

theorem finish_ok {op : Op} {outcome : Except String (Nat × SecretTable)} {n : Nat}
    (isFinish : finishOf env choice table op = some (id, outcome))
    (done : outcome = .ok (n, after)) :
    ∃ key, env.parseUUID id = some key ∧ (n = 0 ∧ after = table ∨ Finished table after key) := by
  cases op with
  | consumeSecret given =>
    cases isFinish
    obtain ⟨key, readKey, done⟩ := bind_ok done
    exact ⟨key, readUUID_ok readKey, finish_spec (fun _ => by simp) (Except.ok.inj done)⟩
  | revokeSecret given orgID =>
    cases isFinish
    obtain ⟨key, readKey, done⟩ := bind_ok done
    obtain ⟨org, _, done⟩ := bind_ok done
    exact ⟨key, readUUID_ok readKey, finish_spec (fun _ => by simp) (Except.ok.inj done)⟩
  | _ => cases isFinish

theorem insertSecret_ok {newID : UUID} {now : Time} {orgID hash label displayPrefix : String}
    {createdBy : Option String} {createdAt : Time}
    (inserted : insertSecret env table newID now orgID hash label displayPrefix createdBy =
      .ok ((id, createdAt), after)) :
    id = env.formatUUID newID ∧ ∃ row, env.parseUUID orgID = some row.orgID ∧
      row.secretHash = hash ∧ Inserted table.rows after.rows newID row := by
  obtain ⟨org, readOrg, inserted⟩ := bind_ok inserted
  obtain ⟨creator, _, inserted⟩ := bind_ok inserted
  simp [bind, Except.bind, pure, Except.pure, throw, throwThe, MonadExceptOf.throw] at inserted
  split_ifs at inserted with _ taken absent
  cases inserted
  refine ⟨rfl, _, readUUID_ok readOrg, rfl, ?_, fun other => lookup_insert_if ..⟩
  simpa using taken

theorem selectActive_ok {orgID hash : String}
    (selected : selectActive env table orgID hash = .ok (some id)) :
    ∃ key row, id = env.formatUUID key ∧ table.rows.lookup key = some row ∧
      env.parseUUID orgID = some row.orgID ∧ row.secretHash = hash := by
  obtain ⟨org, readOrg, selected⟩ := bind_ok selected
  obtain ⟨⟨key, row⟩, found, idEq⟩ := map_eq_some_iff.mp (Except.ok.inj selected)
  obtain ⟨held, condition⟩ := findRow_some found
  grind [readUUID_ok]

/-- A new row, a row that is no longer active, or no change. -/
inductive Change (env : Env) (op : Op) (before after : SecretTable) : Prop where
  | same (same : after = before)
  | inserted (orgID hash label displayPrefix : String) (createdBy : Option String) (id : UUID)
      (row : SecretRow) (called : op = .insertSecret orgID hash label displayPrefix createdBy)
      (owner : env.parseUUID orgID = some row.orgID) (hashed : row.secretHash = hash)
      (inserted : Inserted before.rows after.rows id row)
  | finished (key : UUID) (finished : Finished before after key)

theorem finish_change {op : Op} {outcome : Except String (Nat × SecretTable)}
    (isFinish : finishOf env choice table op = some (id, outcome)) :
    Change env op table (attempt choice table outcome).2 := by
  rcases attempt_cases outcome with same | ⟨n, after, done, result⟩
  · exact .same same
  · rw [result]
    obtain ⟨key, _, ⟨_, same⟩ | finished⟩ := finish_ok isFinish done
    · exact .same same
    · exact .finished key finished

theorem exec_change (env : Env) (choice : Choice) (table : SecretTable) (op : Op) :
    Change env op table (exec env choice table op).2 := by
  cases op with
  | readRandom => exact .same rfl
  | insertSecret orgID hash label displayPrefix createdBy =>
    rcases attempt_cases (insertSecret env table choice.newID choice.now orgID hash label
      displayPrefix createdBy) with same | ⟨⟨id, createdAt⟩, after, done, result⟩
    · exact .same same
    · obtain ⟨_, row, owner, hashed, inserted⟩ := insertSecret_ok done
      rw [← result] at inserted
      exact .inserted orgID hash label displayPrefix createdBy choice.newID row rfl owner hashed
        inserted
  | selectActive orgID hash =>
    rcases attempt_cases ((selectActive env table orgID hash).map fun found => (found, table)) with
      same | ⟨answer, after, done, result⟩
    · exact .same same
    · obtain ⟨_, _, ⟨⟩⟩ := map_ok done
      exact .same result
  | consumeSecret id | revokeSecret id orgID => exact finish_change rfl

/-- A row stays where it is, with its organization and its hash, and a finished one stays
finished. -/
theorem row_kept (choice : Choice) (op : Op) {row : SecretRow}
    (found : table.rows.lookup key = some row) :
    ∃ later, (exec env choice table op).2.rows.lookup key = some later ∧
      later.orgID = row.orgID ∧ later.secretHash = row.secretHash ∧
      (row.status ≠ .active → later.status ≠ .active) := by
  cases exec_change env choice table op with
  | same same =>
    rw [same]
    exact ⟨row, found, rfl, rfl, id⟩
  | inserted _ _ _ _ _ newID new _ _ _ inserted =>
    have other : key ≠ newID := by
      intro here
      rw [here, inserted.fresh] at found
      cases found
    refine ⟨row, ?_, rfl, rfl, id⟩
    rw [inserted.lookup, if_neg other, found]
  | finished changed finished =>
    obtain ⟨f, amended, keeps⟩ := finished.amended
    rw [amended]
    grind

theorem row_from {op : Op} {row : SecretRow}
    (found : (exec env choice table op).2.rows.lookup key = some row) :
    (∃ old, table.rows.lookup key = some old ∧ row.orgID = old.orgID ∧
        row.secretHash = old.secretHash) ∨
      ∃ orgID hash label displayPrefix createdBy,
        op = .insertSecret orgID hash label displayPrefix createdBy ∧
          env.parseUUID orgID = some row.orgID ∧ row.secretHash = hash := by
  cases exec_change env choice table op with
  | same same =>
    rw [same] at found
    exact .inl ⟨row, found, rfl, rfl⟩
  | inserted orgID hash label displayPrefix createdBy newID new called owner hashed inserted =>
    rw [inserted.lookup] at found
    grind
  | finished changed finished =>
    obtain ⟨f, amended, keeps⟩ := finished.amended
    rw [amended] at found
    grind [map_eq_some_iff]

end

section
variable (env : Env)

/-- A row is inserted for the organization of the request, with the hash of the secret drawn. -/
def Guard (request : Request) (past : List Event) : Op → Prop
  | .insertSecret orgID hash _ _ _ =>
    (∃ label createdBy, request = .generate orgID label createdBy) ∧
      ∃ raw, ⟨.readRandom, .ok raw⟩ ∈ past ∧ hash = hashEnrolSecret env (secretOf raw)
  | _ => True

def Post (request : Request) (past : List Event) : Reply → Prop
  | .generated secret ref =>
    ∃ orgID label createdBy raw shown display creator,
      request = .generate orgID label createdBy ∧ ⟨.readRandom, .ok raw⟩ ∈ past ∧
      secret = secretOf raw ∧
      ⟨.insertSecret orgID (hashEnrolSecret env secret) shown display creator,
        .ok (ref.id, ref.createdAt)⟩ ∈ past
  | .validated true =>
    ∃ orgID plaintext id n, request = .validate orgID plaintext ∧
      ⟨.selectActive orgID (hashEnrolSecret env plaintext), .ok (some id)⟩ ∈ past ∧
      ⟨.consumeSecret id, .ok n⟩ ∈ past ∧ n ≠ 0
  | .revoked => ∃ orgID id n, request = .revoke orgID id ∧
      ⟨.revokeSecret id orgID, .ok n⟩ ∈ past ∧ n ≠ 0
  | _ => True

theorem keeps_generate (orgID label createdBy : String) :
    Keeps (Guard env (.generate orgID label createdBy)) (Post env (.generate orgID label createdBy))
      (generate env orgID label createdBy) [] := by
  refine keeps_check trivial fun _ => ?_
  refine ⟨trivial, fun drawn => ?_⟩
  cases drawn with
  | error err => exact trivial
  | ok raw =>
    refine ⟨⟨⟨label, createdBy, rfl⟩, raw, by simp, rfl⟩, fun inserted => ?_⟩
    cases inserted with
    | error err => exact trivial
    | ok row =>
      obtain ⟨id, createdAt⟩ := row
      exact ⟨orgID, label, createdBy, raw, _, _, _, rfl, by simp, rfl,
        mem_append_right _ (mem_singleton_self _)⟩

theorem keeps_validate (orgID plaintext : String) :
    Keeps (Guard env (.validate orgID plaintext)) (Post env (.validate orgID plaintext))
      (validate env orgID plaintext) [] := by
  refine keeps_check trivial fun _ => ?_
  refine ⟨trivial, fun selected => ?_⟩
  cases selected with
  | error err => exact trivial
  | ok found =>
    cases found with
    | none => exact trivial
    | some id =>
      refine ⟨trivial, fun counted => ?_⟩
      cases counted with
      | error err => exact trivial
      | ok n =>
        by_cases changed : n = 0
        · subst changed
          exact trivial
        · have valid := decide_eq_true changed
          change Post env _ _ (.validated (decide (n ≠ 0)))
          rw [valid]
          exact ⟨orgID, plaintext, id, n, rfl, by simp, by simp, changed⟩

theorem keeps_revoke (orgID id : String) :
    Keeps (Guard env (.revoke orgID id)) (Post env (.revoke orgID id)) (revoke orgID id) [] := by
  refine ⟨trivial, fun counted => ?_⟩
  cases counted with
  | error err => exact trivial
  | ok n =>
    refine keeps_check trivial fun changed => ?_
    exact ⟨orgID, id, n, rfl, by simp, changed⟩

theorem keeps_handle (request : Request) :
    Keeps (Guard env request) (Post env request) (handle env request) [] := by
  cases request with
  | generate orgID label createdBy => exact keeps_generate env orgID label createdBy
  | validate orgID plaintext => exact keeps_validate env orgID plaintext
  | revoke orgID id => exact keeps_revoke env orgID id

end

abbrev Calls := Pool SecretTable Request Op Op.Ans Reply

abbrev Action := Input Request Choice

abbrev Entry := Nat × Event

def serve (env : Env) (calls : Calls) (action : Action) : Calls :=
  step (exec env) (handle env) calls action

def drawnSecret : Event → Option String
  | ⟨.readRandom, .ok raw⟩ => some (secretOf raw)
  | _ => none

/-- A secret that is drawn is new: no call has drawn it before, and no row has its hash. -/
def Fresh (env : Env) (table : SecretTable) (trace : List Entry) (choice : Choice) : Op → Prop
  | .readRandom =>
    let secret := secretOf ((List.range 24).map choice.random)
    (∀ entry ∈ trace, drawnSecret entry.2 ≠ some secret) ∧
      ∀ row ∈ values table.rows, row.secretHash ≠ hashEnrolSecret env secret
  | _ => True

def Distinct (env : Env) (calls : Calls) : Action → Prop
  | .spawn _ => True
  | .step i choice =>
    match calls.threads[i]? with
    | some ⟨_, .call op _⟩ => Fresh env calls.world calls.trace choice op
    | _ => True

instance (env : Env) (calls : Calls) (action : Action) : Decidable (Distinct env calls action) := by
  unfold Distinct Fresh
  split
  · infer_instance
  · split
    · split <;> infer_instance
    · infer_instance

section
variable {env : Env} {choice : Choice} {table : SecretTable} {op : Op}

/-- The call took the row at a key: its update found it active. -/
def takes (env : Env) (key : UUID) : Event → Prop
  | ⟨.consumeSecret id, .ok n⟩ => env.parseUUID id = some key ∧ n ≠ 0
  | ⟨.revokeSecret id _, .ok n⟩ => env.parseUUID id = some key ∧ n ≠ 0
  | _ => False

def Closed (key : UUID) (table : SecretTable) : Prop :=
  ∃ row, table.rows.lookup key = some row ∧ row.status ≠ .active

theorem Finished.closes {before after : SecretTable} {key : UUID}
    (finished : Finished before after key) : ¬ Closed key before ∧ Closed key after := by
  obtain ⟨row, found, active⟩ := finished.active
  obtain ⟨f, amended, keeps⟩ := finished.amended
  constructor
  · rintro ⟨other, foundOther, closed⟩
    grind
  · refine ⟨f row, ?_, (keeps row).2.2⟩
    rw [amended, if_pos rfl, found]
    rfl

theorem finish_finished (op : Op) {id : String} {outcome : Except String (Nat × SecretTable)} {key : UUID}
    {n : Nat} (isFinish : finishOf env choice table op = some (id, outcome))
    (answered : (attempt choice table outcome).1 = .ok n)
    (taken : env.parseUUID id = some key ∧ n ≠ 0) :
    Finished table (attempt choice table outcome).2 key := by
  obtain ⟨other, parsed, ⟨none, _⟩ | finished⟩ := finish_ok isFinish (attempt_ok answered)
  · exact absurd none taken.2
  · grind

theorem takes_finished {key : UUID} (taken : takes env key ⟨op, (exec env choice table op).1⟩) :
    Finished table (exec env choice table op).2 key := by
  cases op with
  | consumeSecret id =>
    cases answered : (exec env choice table (.consumeSecret id)).1 with
    | error err =>
      rw [answered] at taken
      exact taken.elim
    | ok n =>
      rw [answered] at taken
      exact finish_finished (.consumeSecret id) rfl answered taken
  | revokeSecret id orgID =>
    cases answered : (exec env choice table (.revokeSecret id orgID)).1 with
    | error err =>
      rw [answered] at taken
      exact taken.elim
    | ok n =>
      rw [answered] at taken
      exact finish_finished (.revokeSecret id orgID) rfl answered taken
  | _ => exact taken.elim

/-! ## Which row a secret has -/

/-- The organization, the hash and the id of a row that a call has seen or made. -/
def Event.named : Event → Option (String × String × String)
  | ⟨.selectActive orgID hash, .ok (some id)⟩ => some (orgID, hash, id)
  | ⟨.insertSecret orgID hash _ _ _, .ok (id, _)⟩ => some (orgID, hash, id)
  | _ => none

/-- The id is the one of a row of the organization with the hash. -/
def Holds (env : Env) (table : SecretTable) (orgID hash id : String) : Prop :=
  ∃ key row, env.parseUUID id = some key ∧ table.rows.lookup key = some row ∧
    env.parseUUID orgID = some row.orgID ∧ row.secretHash = hash

theorem holds_kept (choice : Choice) (op : Op) {orgID hash id : String}
    (holds : Holds env table orgID hash id) :
    Holds env (exec env choice table op).2 orgID hash id := by
  obtain ⟨key, row, parsed, found, owner, hashed⟩ := holds
  obtain ⟨later, foundLater, sameOrg, sameHash, _⟩ := row_kept choice op found
  exact ⟨key, later, parsed, foundLater, by rw [sameOrg, owner], by rw [sameHash, hashed]⟩

theorem named_holds {orgID hash id : String}
    (named : Event.named ⟨op, (exec env choice table op).1⟩ = some (orgID, hash, id)) :
    Holds env (exec env choice table op).2 orgID hash id := by
  cases op with
  | selectActive org digest =>
    cases answered : (exec env choice table (.selectActive org digest)).1 with
    | error err => simp [Event.named, answered] at named
    | ok found =>
      cases found with
      | none => simp [Event.named, answered] at named
      | some given =>
        simp [Event.named, answered] at named
        obtain ⟨rfl, rfl, rfl⟩ := named
        apply holds_kept
        obtain ⟨_, selected, same⟩ := map_ok (attempt_ok answered)
        rw [(Prod.mk.inj same).1] at selected
        obtain ⟨key, row, rfl, held, owner, hashed⟩ := selectActive_ok selected
        exact ⟨key, row, env.parse_format key, held, owner, hashed⟩
  | insertSecret org digest label displayPrefix createdBy =>
    cases answered : (exec env choice table
      (.insertSecret org digest label displayPrefix createdBy)).1 with
    | error err => simp [Event.named, answered] at named
    | ok given =>
      obtain ⟨given, createdAt⟩ := given
      simp [Event.named, answered] at named
      obtain ⟨rfl, rfl, rfl⟩ := named
      obtain ⟨rfl, row, owner, hashed, inserted⟩ := insertSecret_ok (attempt_ok answered)
      refine ⟨choice.newID, row, env.parse_format _, ?_, owner, hashed⟩
      exact (inserted.lookup choice.newID).trans (if_pos rfl)
  | _ => simp [Event.named] at named

theorem trimSpace_secretOf (raw : List UInt8) : trimSpace (secretOf raw) = secretOf raw := by
  have noSpaces : ("apx_".toList ++ GoEncoding.alphabet).all (!isSpace ·) = true := by decide
  simp only [List.all_eq_true, Bool.not_eq_true'] at noSpaces
  have solid : ∀ c ∈ (secretOf raw).toList, isSpace c = false := by
    intro c member
    rw [secretOf, String.toList_append, mem_append] at member
    refine noSpaces c (mem_append.mpr (member.imp_right fun encoded => ?_))
    rw [GoEncoding.encodeToString, String.toList_ofList] at encoded
    exact GoEncoding.rawURLEncode_subset_alphabet c encoded
  rw [trimSpace_eq_self_iff]
  exact ⟨fun c first => solid c (mem_of_head? first), fun c last => solid c (mem_of_getLast? last)⟩

theorem secretOf_eq (injective : Function.Injective env.sha256Hex) {raw other : List UInt8}
    (sameHash : hashEnrolSecret env (secretOf raw) = hashEnrolSecret env (secretOf other)) :
    secretOf raw = secretOf other := by
  have sameText := injective sameHash
  rwa [trimSpace_secretOf, trimSpace_secretOf] at sameText

theorem drawn_iff {secret : String} :
    drawnSecret ⟨op, (exec env choice table op).1⟩ = some secret ↔
      op = .readRandom ∧ choice.failure = none ∧
        secret = secretOf ((List.range 24).map choice.random) := by
  cases op with
  | readRandom => cases failed : choice.failure <;> simp [drawnSecret, exec, failed, eq_comm]
  | _ => simp [drawnSecret]

structure Ledger (env : Env) (asked : Nat → Option Request) (table : SecretTable)
    (trace : List Entry) : Prop where
  taken : Taken (takes env) Closed table trace
  drawn : (trace.filterMap fun entry => drawnSecret entry.2).Nodup
  owned : ∀ entry ∈ trace, ∀ raw orgID label createdBy, drawnSecret entry.2 = some (secretOf raw) →
    asked entry.1 = some (.generate orgID label createdBy) →
    ∀ row ∈ values table.rows, row.secretHash = hashEnrolSecret env (secretOf raw) →
      env.parseUUID orgID = some row.orgID
  held : ∀ entry ∈ trace, ∀ orgID hash id, Event.named entry.2 = some (orgID, hash, id) →
    Holds env table orgID hash id

section
variable {asked : Nat → Option Request} {trace : List Entry} {i : Nat} {request : Request}

section
variable (injective : Function.Injective env.sha256Hex) (calling : asked i = some request)
  (guarded : Guard env request (past trace i) op) (fresh : Fresh env table trace choice op)
  (ledger : Ledger env asked table trace)

include injective calling guarded fresh ledger

theorem owned_step {entry : Entry}
    (member : entry ∈ trace ++ [(i, ⟨op, (exec env choice table op).1⟩)]) {raw : List UInt8}
    {orgID label createdBy : String} (drew : drawnSecret entry.2 = some (secretOf raw))
    (isRequest : asked entry.1 = some (.generate orgID label createdBy)) {row : SecretRow}
    (stored : row ∈ values (exec env choice table op).2.rows)
    (hashed : row.secretHash = hashEnrolSecret env (secretOf raw)) :
    env.parseUUID orgID = some row.orgID := by
  obtain ⟨key, isRow⟩ := (mem_values_iff ..).mp stored
  have from' := row_from (lookup_eq_some_iff.mpr isRow)
  rcases mem_append.mp member with old | new
  · rcases from' with ⟨before, found, sameOrg, sameHash⟩ | ⟨org, hash, _, _, _, rfl, owner, hash_eq⟩
    · rw [sameOrg]
      exact ledger.owned entry old raw orgID label createdBy drew isRequest before
        ((mem_values_iff ..).mpr ⟨key, lookup_eq_some_iff.mp found⟩)
        (sameHash.symm.trans hashed)
    · -- the row is new: its secret was drawn by the call that inserts it
      obtain ⟨⟨label', createdBy', isGenerate⟩, mine, done, hashMine⟩ := guarded
      have sameSecret := secretOf_eq injective (hashed.symm.trans (hash_eq.trans hashMine))
      have sameCall := eq_of_nodup_filterMap ledger.drawn old (mem_past_iff.mp done) drew
          (congrArg some sameSecret.symm)
      rw [sameCall, calling, isGenerate] at isRequest
      cases isRequest
      exact owner
  · rw [mem_singleton.mp new] at drew
    obtain ⟨rfl, _, isSecret⟩ := drawn_iff.mp drew
    rw [isSecret] at hashed
    exact absurd hashed (fresh.2 row stored)

theorem ledger_step :
    Ledger env asked (exec env choice table op).2
      (trace ++ [(i, ⟨op, (exec env choice table op).1⟩)]) where
  taken := by
    apply ledger.taken.concat
    · exact fun key taken => (takes_finished taken).closes
    · rintro key ⟨row, found, finished⟩
      obtain ⟨later, foundLater, _, _, stays⟩ := row_kept choice op found
      exact ⟨later, foundLater, stays finished⟩
  drawn := by
    rw [filterMap_append, nodup_append]
    refine ⟨ledger.drawn, ?_, ?_⟩
    · cases drew : drawnSecret ⟨op, (exec env choice table op).1⟩ <;> simp [drew]
    · intro secret before other now same
      obtain ⟨entry, old, drewBefore⟩ := mem_filterMap.mp before
      have drew : drawnSecret ⟨op, (exec env choice table op).1⟩ = some other := by simpa using now
      obtain ⟨rfl, _, isSecret⟩ := drawn_iff.mp drew
      rw [same, isSecret] at drewBefore
      exact fresh.1 entry old drewBefore
  owned := by
    intro entry member raw orgID label createdBy drew isRequest row stored hashed
    exact owned_step injective calling guarded fresh ledger member drew isRequest stored hashed
  held := by
    intro entry member orgID hash id named
    rcases mem_append.mp member with old | new
    · exact holds_kept choice op (ledger.held entry old orgID hash id named)
    · rw [mem_singleton.mp new] at named
      exact named_holds named

end

end

theorem ledger_nil (env : Env) (table : SecretTable) : Ledger env (fun _ => none) table [] where
  taken := taken_nil
  drawn := nodup_nil
  owned := nofun
  held := nofun

theorem ledger_agree (env : Env) (asked other : Nat → Option Request) (table : SecretTable)
    (trace : List Entry) (agree : ∀ entry ∈ trace, other entry.1 = asked entry.1)
    (ledger : Ledger env asked table trace) : Ledger env other table trace where
  taken := ledger.taken
  drawn := ledger.drawn
  owned := by
    intro entry member raw orgID label createdBy drew isRequest
    rw [agree entry member] at isRequest
    exact ledger.owned entry member raw orgID label createdBy drew isRequest
  held := ledger.held

def Generated (calls : Calls) (i : Nat) (orgID secret id : String) : Prop :=
  ∃ label createdBy ref, calls.answerAt i =
    some (.generate orgID label createdBy, .generated secret ref) ∧ ref.id = id

def Validated (calls : Calls) (i : Nat) (orgID secret : String) : Prop :=
  ∃ plaintext, calls.answerAt i = some (.validate orgID plaintext, .validated true) ∧
    trimSpace plaintext = trimSpace secret

def Revoked (env : Env) (calls : Calls) (i : Nat) (id : String) : Prop :=
  ∃ orgID given, calls.answerAt i = some (.revoke orgID given, .revoked) ∧
    env.parseUUID given = env.parseUUID id

/-- At most one call validates the secret, it names the organization the secret was generated
for, and then no call revokes it. -/
structure SingleUse (env : Env) (calls : Calls) (orgID secret id : String) : Prop where
  once : ∀ i j org other, Validated calls i org secret → Validated calls j other secret → i = j
  owner : ∀ i org, Validated calls i org secret → env.parseUUID org = env.parseUUID orgID
  unrevoked : ∀ i org j, Validated calls i org secret → ¬ Revoked env calls j id

section
variable {calls : Calls} (kept : Kept (Guard env) (Post env) calls)
variable (ledger : Ledger env calls.requestAt calls.world calls.trace)

include kept ledger

variable {secret : String}

theorem validated_takes {i : Nat} {orgID : String} (validated : Validated calls i orgID secret) :
    ∃ key row id n, (i, ⟨.consumeSecret id, .ok n⟩) ∈ calls.trace ∧
      takes env key ⟨.consumeSecret id, .ok n⟩ ∧ calls.world.rows.lookup key = some row ∧
      env.parseUUID orgID = some row.orgID ∧ row.secretHash = hashEnrolSecret env secret := by
  obtain ⟨plaintext, answered, sameText⟩ := validated
  have found := (answerAt_eq_some_iff ..).mp answered
  obtain ⟨org, text, id, n, isValidate, selected, consumed, changed⟩ := kept.keeps i _ found
  cases isValidate
  obtain ⟨key, row, parsed, held, owner, hashed⟩ :=
    ledger.held _ (mem_past_iff.mp selected) _ _ id rfl
  rw [hashEnrolSecret, sameText] at hashed
  exact ⟨key, row, id, n, mem_past_iff.mp consumed, ⟨parsed, changed⟩, held, owner, hashed⟩

theorem generated_row {g : Nat} {orgID id : String}
    (generated : Generated calls g orgID secret id) :
    ∃ key owner, env.parseUUID id = some key ∧ env.parseUUID orgID = some owner ∧
      ∀ other row, calls.world.rows.lookup other = some row →
        row.secretHash = hashEnrolSecret env secret → other = key ∧ row.orgID = owner := by
  obtain ⟨label, createdBy, ref, answered, rfl⟩ := generated
  have found := (answerAt_eq_some_iff ..).mp answered
  obtain ⟨org, _, _, raw, _, _, _, isGenerate, drew, rfl, inserted⟩ := kept.keeps g _ found
  cases isGenerate
  obtain ⟨key, row, parsed, held, owner, hashed⟩ :=
    ledger.held _ (mem_past_iff.mp inserted) _ _ ref.id rfl
  refine ⟨key, row.orgID, parsed, owner, ?_⟩
  intro other another foundOther sameHash
  have asked : calls.requestAt g = some (.generate orgID label createdBy) := by
    rw [Pool.requestAt, found, map_some]
  have ownerOther := ledger.owned _ (mem_past_iff.mp drew) raw orgID label createdBy rfl
    asked another ((mem_values_iff ..).mpr ⟨other, lookup_eq_some_iff.mp foundOther⟩)
    sameHash
  rw [owner, some.injEq] at ownerOther
  exact ⟨calls.world.unique other key another row foundOther held ownerOther.symm
    (sameHash.trans hashed.symm), ownerOther.symm⟩

theorem singleUse_of_ledger {g : Nat} {orgID id : String}
    (generated : Generated calls g orgID secret id) : SingleUse env calls orgID secret id := by
  obtain ⟨key, owner, parsed, ownerParsed, only⟩ := generated_row kept ledger generated
  refine ⟨?_, ?_, ?_⟩
  · intro i j org other first second
    obtain ⟨keyI, rowI, _, _, doneI, takesI, heldI, _, hashedI⟩ := validated_takes kept ledger first
    obtain ⟨keyJ, rowJ, _, _, doneJ, takesJ, heldJ, _, hashedJ⟩ :=
      validated_takes kept ledger second
    rw [(only keyI rowI heldI hashedI).1] at takesI
    rw [(only keyJ rowJ heldJ hashedJ).1] at takesJ
    exact congrArg Prod.fst (ledger.taken.eq doneI doneJ takesI takesJ)
  · intro i org validated
    obtain ⟨other, row, _, _, _, _, held, ownerOther, hashed⟩ :=
      validated_takes kept ledger validated
    rw [ownerOther, (only other row held hashed).2, ownerParsed]
  · rintro i org j validated ⟨orgJ, given, answered, sameID⟩
    have found := (answerAt_eq_some_iff ..).mp answered
    obtain ⟨other, row, _, _, done, taken, held, _, hashed⟩ := validated_takes kept ledger validated
    rw [(only other row held hashed).1] at taken
    obtain ⟨_, _, n, isRevoke, revoked, changed⟩ := kept.keeps j _ found
    cases isRevoke
    have takesJ : takes env key ⟨.revokeSecret given orgJ, .ok n⟩ := ⟨sameID.trans parsed, changed⟩
    cases ledger.taken.eq done (mem_past_iff.mp revoked) taken takesJ

end

end

/-- In every interleaving of the statements of any calls, whichever of them fail, every secret
that has been generated is used at most once, by its organization and not after a revocation. -/
theorem enrol_secret_single_use (env : Env) (injective : Function.Injective env.sha256Hex)
    (table : SecretTable) (actions : List Action)
    (distinct : ∀ visit ∈ visits (serve env) (initial table) actions,
      Distinct env visit.1 visit.2) :
    ∀ reached ∈ states (serve env) (initial table) actions, ∀ i orgID secret id,
      Generated reached i orgID secret id → SingleUse env reached orgID secret id := by
  intro reached member i orgID secret id generated
  have invariant := history_invariant (exec env)
    (keeps_handle env) (Fresh env) (Ledger env) (ledger_agree env)
    (fun _ _ _ _ _ _ _ calling guarded fresh ledger =>
      ledger_step injective calling guarded fresh ledger)
    table (ledger_nil env table) actions ?_
  · obtain ⟨kept, ledger⟩ := invariant reached member
    exact singleUse_of_ledger kept ledger generated
  · intro visit isVisit j choice request op next isStep calling
    have allowed := distinct visit isVisit
    simpa [isStep, Distinct, calling] using allowed

def plainEnv : Env where
  sha256Hex := id
  parseUUID := fun s => some (BitVec.ofNat 128 s.length)
  formatUUID := fun id => String.ofList (List.replicate id.toNat '|')
  parse_format := by
    intro id
    simp

def emptyTable : SecretTable where
  rows := ∅
  unique := by
    intro first second row other found
    cases found

def zeroSecret : String := secretOf (List.replicate 24 0)

def steps (i count : Nat) : List Action := List.replicate count (.step i { newID := 2 })

/-- Two calls find the secret active before either consumes it. -/
def validateAtOnce : List Action :=
  .spawn (.generate "|" "" "") :: steps 0 2 ++
    [.spawn (.validate "|" zeroSecret), .spawn (.validate "|" zeroSecret)] ++
    steps 1 1 ++ steps 2 1 ++ steps 1 1 ++ steps 2 1

def served : Calls := run (serve plainEnv) (initial emptyTable) validateAtOnce

theorem concurrent_validation_once :
    (∀ visit ∈ visits (serve plainEnv) (initial emptyTable) validateAtOnce,
        Distinct plainEnv visit.1 visit.2) ∧
      Validated served 1 "|" zeroSecret ∧ SingleUse plainEnv served "|" zeroSecret "||" := by
  have distinct : ∀ visit ∈ visits (serve plainEnv) (initial emptyTable) validateAtOnce,
      Distinct plainEnv visit.1 visit.2 := by
    decide +kernel
  have generated : Generated served 0 "|" zeroSecret "||" :=
    ⟨"", "", ⟨"||", "|", "Device enrolment", displayPrefixOf zeroSecret, .active, 0⟩,
      by decide +kernel, rfl⟩
  refine ⟨distinct, ⟨zeroSecret, by decide +kernel, rfl⟩, ?_⟩
  exact enrol_secret_single_use plainEnv Function.injective_id emptyTable validateAtOnce distinct _
    run_mem_states 0 "|" zeroSecret "||" generated

end ManagementPlane.EnrolSecrets
