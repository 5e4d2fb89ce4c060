import ManagementPlane.Lib.Binary
import ManagementPlane.Lib.Interleave
import ManagementPlane.Lib.Jwt
import ManagementPlane.Lib.Tables
import ManagementPlane.Policy.Types

/-!
# The accounts behind single sign-on

Administrators (`system_mgmt.users`) and client users (`system_mgmt.client_users`) sit in
two tables of one shape: an organization, an e-mail address that no other account has,
and an optional link to a subject of an identity provider that no other account has
either. A table carries both constraints, so a statement that would break one fails.

Row level security lets a connection read and write the rows of some organizations only;
`sees` says which. A choice says whether an operation fails and what the clock, the random
source and the identity provider deliver.
-/

namespace ManagementPlane.Sso

open GoJson Interleave Jwt Policy Tables Option

/-! ## Accounts -/

structure Account (Details : Type) where
  orgID : String
  email : String
  name : String
  status : String
  oauthProvider : Option String
  oauthSubject : Option String
  lastLoginAt : Option Time
  details : Details

def Account.linkedTo {Details : Type} (provider subject : String) (row : Account Details) : Bool :=
  row.oauthProvider = some provider && row.oauthSubject = some subject

structure Accounts (Details : Type) where
  rows : Table String (Account Details)
  emails : ∀ id other row otherRow, rows.lookup id = some row → rows.lookup other = some otherRow →
    row.email = otherRow.email → id = other
  links : ∀ id other row otherRow provider subject, rows.lookup id = some row →
    rows.lookup other = some otherRow → row.linkedTo provider subject = true →
    otherRow.linkedTo provider subject = true → id = other

namespace Accounts

variable {Details : Type}

def empty : Accounts Details where
  rows := ∅
  emails := by
    intro id other row otherRow found
    cases found
  links := by
    intro id other row otherRow provider subject found
    cases found

def taken (accounts : Accounts Details) (id provider subject : String) : Bool :=
  accounts.rows.entries.any fun entry => entry.1 ≠ id && entry.2.linkedTo provider subject

theorem taken_iff (accounts : Accounts Details) (id provider subject : String) :
    accounts.taken id provider subject = true ↔ ∃ other row,
      accounts.rows.lookup other = some row ∧ other ≠ id ∧ row.linkedTo provider subject = true := by
  simp only [taken, List.any_eq_true, Bool.and_eq_true, decide_eq_true_eq, lookup_eq_some_iff]
  constructor
  · rintro ⟨entry, member, holds⟩
    exact ⟨entry.1, entry.2, member, holds⟩
  · rintro ⟨other, row, member, holds⟩
    exact ⟨⟨other, row⟩, member, holds⟩

/-- Change one row, keeping its e-mail address and giving it no link of another row. -/
def update (accounts : Accounts Details) (id : String) (f : Account Details → Account Details)
    (sameEmail : ∀ row, (f row).email = row.email)
    (ownLink : ∀ row other otherRow provider subject, accounts.rows.lookup id = some row →
      accounts.rows.lookup other = some otherRow → (f row).linkedTo provider subject = true →
      otherRow.linkedTo provider subject = true → id = other) : Accounts Details where
  rows := updateRow id f accounts.rows
  emails := by
    -- every row of the new table is a row of the old one, with its address
    have old : ∀ other row, (updateRow id f accounts.rows).lookup other = some row →
        ∃ before, accounts.rows.lookup other = some before ∧ row.email = before.email := by
      intro other row found
      rw [lookup_updateRow] at found
      split_ifs at found with here
      · obtain ⟨before, foundBefore, rfl⟩ := map_eq_some_iff.mp found
        exact ⟨before, foundBefore, sameEmail before⟩
      · exact ⟨row, found, rfl⟩
    intro first second firstRow secondRow foundFirst foundSecond same
    obtain ⟨before, foundBefore, beforeEmail⟩ := old first firstRow foundFirst
    obtain ⟨other, foundOther, otherEmail⟩ := old second secondRow foundSecond
    exact accounts.emails first second before other foundBefore foundOther
      (beforeEmail.symm.trans (same.trans otherEmail))
  links := by
    intro first second firstRow secondRow provider subject foundFirst foundSecond linked otherLinked
    rw [lookup_updateRow] at foundFirst foundSecond
    by_cases firstHere : first = id
    · by_cases secondHere : second = id
      · rw [firstHere, secondHere]
      · rw [if_pos firstHere, firstHere, map_eq_some_iff] at foundFirst
        rw [if_neg secondHere] at foundSecond
        obtain ⟨before, foundBefore, rfl⟩ := foundFirst
        exact firstHere.trans
          (ownLink before second secondRow provider subject foundBefore foundSecond linked otherLinked)
    · by_cases secondHere : second = id
      · rw [if_pos secondHere, secondHere, map_eq_some_iff] at foundSecond
        rw [if_neg firstHere] at foundFirst
        obtain ⟨before, foundBefore, rfl⟩ := foundSecond
        exact (secondHere.trans
          (ownLink before first firstRow provider subject foundBefore foundFirst otherLinked
            linked)).symm
      · rw [if_neg firstHere] at foundFirst
        rw [if_neg secondHere] at foundSecond
        exact accounts.links first second firstRow secondRow provider subject foundFirst foundSecond
          linked otherLinked

variable (sees : String → Bool) (accounts : Accounts Details)

/-- `UPDATE … SET last_login_at = now() WHERE id = $1` -/
def touch (id : String) (now : Time) : Except String (Accounts Details) :=
  match accounts.rows.lookup id with
  | none => .ok accounts
  | some row =>
    if !sees row.orgID then .ok accounts
    else .ok (accounts.update id (fun row => { row with lastLoginAt := some now })
      (fun _ => rfl) fun row other otherRow provider subject found foundOther linked otherLinked =>
        accounts.links id other row otherRow provider subject found foundOther linked otherLinked)

/-- `UPDATE … SET oauth_provider = $1, oauth_subject = $2, last_login_at = now() WHERE id = $3` -/
def link (id provider subject : String) (now : Time) : Except String (Accounts Details) :=
  match accounts.rows.lookup id with
  | none => .ok accounts
  | some row =>
    if !sees row.orgID then .ok accounts
    else if !(provider.length ≤ 30 && subject.length ≤ 255) then
      .error "value too long for type character varying"
    else if held : accounts.taken id provider subject = true then
      .error "duplicate key value violates unique constraint"
    else
      .ok (accounts.update id
        (fun row =>
          { row with
            oauthProvider := some provider
            oauthSubject := some subject
            lastLoginAt := some now })
        (fun _ => rfl)
        fun row other otherRow otherProvider otherSubject _ foundOther linked otherLinked => by
          simp [Account.linkedTo] at linked
          obtain ⟨rfl, rfl⟩ := linked
          by_contra another
          exact held ((accounts.taken_iff id provider subject).mpr
            ⟨other, otherRow, foundOther, fun same => another same.symm, otherLinked⟩))

def hasEmail (email : String) : Bool :=
  accounts.rows.entries.any fun entry => entry.2.email = email

theorem hasEmail_of_lookup (id : String) (row : Account Details)
    (found : accounts.rows.lookup id = some row) : accounts.hasEmail row.email = true := by
  rw [hasEmail, List.any_eq_true]
  exact ⟨⟨id, row⟩, lookup_eq_some_iff.mp found, decide_eq_true rfl⟩

/-- `INSERT INTO … VALUES ($1, …, 'active', now()) RETURNING id` of a linked account. -/
def register (id orgID email name provider subject : String) (details : Details) (now : Time) :
    Except String (Accounts Details) :=
  if !sees orgID then .error "new row violates row-level security policy"
  else if !(email.length ≤ 320 && name.length ≤ 255 && provider.length ≤ 30 &&
      subject.length ≤ 255) then
    .error "value too long for type character varying"
  else if used : (accounts.rows.lookup id).isSome = true ∨ accounts.hasEmail email = true ∨
      accounts.taken id provider subject = true then
    .error "duplicate key value violates unique constraint"
  else
    .ok
      { rows := accounts.rows.insert id
          { orgID := orgID
            email := email
            name := name
            status := "active"
            oauthProvider := some provider
            oauthSubject := some subject
            lastLoginAt := some now
            details := details }
        emails := by
          intro first second firstRow secondRow foundFirst foundSecond same
          refine unique_insert (fun _ _ => Eq.symm) accounts.emails ?_ first second firstRow
            secondRow foundFirst foundSecond same
          rintro other found - present rfl
          exact used (.inr (.inl (accounts.hasEmail_of_lookup other found present)))
        links := by
          have free : ∀ other otherRow p s, accounts.rows.lookup other = some otherRow →
              (decide (some provider = some p) && decide (some subject = some s)) = true →
              otherRow.linkedTo p s = true → False := by
            intro other otherRow p s found linked otherLinked
            simp at linked
            obtain ⟨rfl, rfl⟩ := linked
            have another : other ≠ id := by
              rintro rfl
              exact used (.inl (by rw [found]; rfl))
            exact used (.inr (.inr ((accounts.taken_iff id provider subject).mpr
              ⟨other, otherRow, found, another, otherLinked⟩)))
          intro first second firstRow secondRow p s foundFirst foundSecond linked otherLinked
          exact unique_insert (R := fun x y => x.linkedTo p s = true ∧ y.linkedTo p s = true)
            (fun _ _ => And.symm)
            (fun _ _ _ _ found other both => accounts.links _ _ _ _ p s found other both.1 both.2)
            (fun other found _ present both => free other found p s present both.2 both.1)
            first second firstRow secondRow foundFirst foundSecond ⟨linked, otherLinked⟩ }

end Accounts

structure AdminDetails where
  role : String
  mfaEnabled : Bool

structure ClientDetails where
  statusReason : String
  statusSource : String

structure AuthUser where
  id : String
  orgID : String
  email : String
  name : String
  role : String
  mfaEnabled : Bool := false
  status : String := ""

structure SCIMUser where
  id : String
  orgID : String
  email : String
  name : String
  oauthProvider : String
  oauthSubject : String
  status : String
  statusReason : String
  statusSource : String

structure IdPConfig where
  id : String
  orgID : String
  providerType : String
  enabled : Bool
  clientID : String
  issuerURL : String
  tokenEndpoint : String
  scimEnabled : Bool

structure PendingAuth where
  idpID : String
  redirectURI : String
  callbackURI : String
  audience : String
  createdAt : Time

structure Session where
  userID : String
  refreshToken : String
  ipAddress : String
  userAgent : String
  expiresAt : Time

/-- What the handler and its stores share: the pending authorizations, the broker's
identity providers and the tables. -/
structure World where
  pending : Table String PendingAuth
  idps : Table String IdPConfig
  organizations : List String
  users : Accounts AdminDetails
  clientUsers : Accounts ClientDetails
  loginSessions : List Session

structure Env where
  sees : String → Bool
  lower : String → String
  jwtSecret : String
  hasSCIM : Bool

structure Choice where
  failure : Option String := none
  now : Time := 0
  random : Nat → UInt8 := fun _ => 0
  newID : String := ""
  idToken : String := ""
  claims : MapClaims := fun _ => none

def authUser (id : String) (row : Account AdminDetails) : AuthUser where
  id := id
  orgID := row.orgID
  email := row.email
  name := row.name
  role := row.details.role
  mfaEnabled := row.details.mfaEnabled
  status := row.status

def scimUser (id : String) (row : Account ClientDetails) : SCIMUser where
  id := id
  orgID := row.orgID
  email := row.email
  name := row.name
  oauthProvider := row.oauthProvider.getD ""
  oauthSubject := row.oauthSubject.getD ""
  status := row.status
  statusReason := row.details.statusReason
  statusSource := row.details.statusSource

section
variable (env : Env) (world : World)

def findUser (matched : Account AdminDetails → Bool) : Except String AuthUser :=
  match findRow (fun row => env.sees row.orgID && matched row) world.users.rows with
  | some (id, row) => .ok (authUser id row)
  | none => .error "sql: no rows in result set"

/-- A row of the organization, one with the link before one with the address. -/
def findProvisionedClientUser (provider subject email orgID : String) : Option SCIMUser :=
  let inside := fun row : Account ClientDetails => env.sees row.orgID && row.orgID = orgID
  let linked := findRow (fun row => inside row && row.linkedTo provider subject)
    world.clientUsers.rows
  let named := findRow (fun row => inside row && env.lower row.email = env.lower email)
    world.clientUsers.rows
  (linked.or named).map fun found => scimUser found.1 found.2

def firstOrganization : Except String String :=
  match world.organizations.filter env.sees with
  | orgID :: _ => .ok orgID
  | [] => .error "sql: no rows in result set"

def insertUser (id orgID email name provider subject : String) (now : Time) :
    Except String World := do
  if orgID ∉ world.organizations then throw "insert violates foreign key constraint"
  let users ← world.users.register env.sees id orgID email name provider subject
    ⟨"read_only", false⟩ now
  return { world with users := users }

end

inductive Op where
  | takePending (state : String)
  | now
  | getIdP (id : String)
  | exchangeCode (idp : IdPConfig) (tokenEndpoint code redirectURI : String)
  | validateOIDCToken (idp : IdPConfig) (idToken : String)
  | findLinkedUser (provider subject : String)
  | findUserByEmail (email : String)
  | touchUser (id : String)
  | linkUser (id provider subject : String)
  | firstOrganization
  | insertUser (orgID email name provider subject : String)
  | findProvisionedClientUser (provider subject email orgID : String)
  | touchClientUser (id : String)
  | linkClientUser (id provider subject : String)
  | sign (claims : MapClaims)
  | generateToken
  | insertSession (session : Session)

abbrev Op.Ans : Op → Type
  | .takePending _ => Option PendingAuth
  | .now => Time
  | .getIdP _ => Option IdPConfig
  | .exchangeCode .. => Except String String
  | .validateOIDCToken .. => Except String MapClaims
  | .findLinkedUser .. => Except String AuthUser
  | .findUserByEmail _ => Except String AuthUser
  | .touchUser _ => Except String Unit
  | .linkUser .. => Except String Unit
  | .firstOrganization => Except String String
  | .insertUser .. => Except String String
  | .findProvisionedClientUser .. => Except String (Option SCIMUser)
  | .touchClientUser _ => Except String Unit
  | .linkClientUser .. => Except String Unit
  | .sign _ => Except String (Signed MapClaims)
  | .generateToken => Except String String
  | .insertSession _ => Except String Unit

def attempt {α : Type} (choice : Choice) (result : Except String α) : Except String α :=
  match choice.failure with
  | some err => .error err
  | none => result

def execute {α : Type} (choice : Choice) (world : World) (answer : α)
    (statement : Except String World) : Except String α × World :=
  match attempt choice statement with
  | .error err => (.error err, world)
  | .ok written => (.ok answer, written)

def writeUsers (world : World) (written : Except String (Accounts AdminDetails)) :
    Except String World :=
  written.map fun users => { world with users := users }

def writeClientUsers (world : World) (written : Except String (Accounts ClientDetails)) :
    Except String World :=
  written.map fun clientUsers => { world with clientUsers := clientUsers }

/-- The text of `hex.EncodeToString` of 32 random bytes. -/
def hexToken (choice : Choice) : String :=
  String.ofList ((GoBinary.hexEncode ((List.range 32).map choice.random)).map fun byte =>
    Char.ofNat byte.toNat)

def exec (env : Env) (choice : Choice) (world : World) : (op : Op) → op.Ans × World
  | .takePending state =>
    (world.pending.lookup state, { world with pending := world.pending.erase state })
  | .now => (choice.now, world)
  | .getIdP id => (world.idps.lookup id, world)
  | .exchangeCode .. => (attempt choice (.ok choice.idToken), world)
  | .validateOIDCToken .. => (attempt choice (.ok choice.claims), world)
  | .findLinkedUser provider subject =>
    (attempt choice (findUser env world fun row => row.linkedTo provider subject), world)
  | .findUserByEmail email =>
    (attempt choice (findUser env world fun row => row.email = email), world)
  | .touchUser id =>
    execute choice world () (writeUsers world (world.users.touch env.sees id choice.now))
  | .linkUser id provider subject =>
    execute choice world ()
      (writeUsers world (world.users.link env.sees id provider subject choice.now))
  | .firstOrganization => (attempt choice (Sso.firstOrganization env world), world)
  | .insertUser orgID email name provider subject =>
    execute choice world choice.newID
      (Sso.insertUser env world choice.newID orgID email name provider subject choice.now)
  | .findProvisionedClientUser provider subject email orgID =>
    (attempt choice (.ok (Sso.findProvisionedClientUser env world provider subject email orgID)),
      world)
  | .touchClientUser id =>
    execute choice world ()
      (writeClientUsers world (world.clientUsers.touch env.sees id choice.now))
  | .linkClientUser id provider subject =>
    execute choice world ()
      (writeClientUsers world (world.clientUsers.link env.sees id provider subject choice.now))
  | .sign claims => (attempt choice (.ok ⟨env.jwtSecret, claims⟩), world)
  | .generateToken => (attempt choice (.ok (hexToken choice)), world)
  | .insertSession session =>
    execute choice world ()
      (.ok { world with loginSessions := session :: world.loginSessions })

theorem attempt_ok {α : Type} {choice : Choice} {result : Except String α} {a : α}
    (answered : attempt choice result = .ok a) : result = .ok a := by
  unfold attempt at answered
  split at answered
  · cases answered
  · exact answered

theorem execute_cases {α : Type} (choice : Choice) (world : World) (answer : α)
    (statement : Except String World) :
    (∃ err, execute choice world answer statement = (.error err, world)) ∨
      ∃ written, statement = .ok written ∧
        execute choice world answer statement = (.ok answer, written) := by
  unfold execute
  cases tried : attempt choice statement with
  | error err => exact .inl ⟨err, rfl⟩
  | ok written => exact .inr ⟨written, attempt_ok tried, rfl⟩

theorem execute_keeps {α : Type} (choice : Choice) (world : World) (answer : α)
    (statement : Except String World) (Keeps : World → Prop) (before : Keeps world)
    (effect : ∀ written, statement = .ok written → Keeps written) :
    Keeps (execute choice world answer statement).2 := by
  rcases execute_cases choice world answer statement with
    ⟨err, failed⟩ | ⟨written, succeeded, done⟩
  · rwa [failed]
  · rw [done]
    exact effect written succeeded

theorem writeUsers_ok {world after : World} {written : Except String (Accounts AdminDetails)}
    (succeeded : writeUsers world written = .ok after) :
    ∃ users, written = .ok users ∧ after = { world with users := users } := by
  cases written with
  | error err => cases succeeded
  | ok users =>
    cases succeeded
    exact ⟨users, rfl, rfl⟩

theorem writeClientUsers_ok {world after : World} {written : Except String (Accounts ClientDetails)}
    (succeeded : writeClientUsers world written = .ok after) :
    ∃ clientUsers, written = .ok clientUsers ∧ after = { world with clientUsers := clientUsers } := by
  cases written with
  | error err => cases succeeded
  | ok clientUsers =>
    cases succeeded
    exact ⟨clientUsers, rfl, rfl⟩

end ManagementPlane.Sso
