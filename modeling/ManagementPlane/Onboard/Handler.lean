import ManagementPlane.Lib.Interleave
import ManagementPlane.Lib.Tables
import ManagementPlane.Policy.Types

/-!
# The onboarding passcodes

`internal/api/handlers/onboard_handler.go` over the table `onboard_otps` of `040_onboard_otps.sql`.
`RequestOTP` stores the hash of six random digits for four hours. `VerifyOTP` selects the newest
passcode of the address that is neither consumed nor expired nor guessed at five times, compares,
and counts the attempt or consumes the passcode by a second statement. Neither of these looks at
the row again.

`now` of the database is the time of its last operation. A statement may fail without effect, or
take effect and fail all the same.
-/

namespace ManagementPlane.Onboard

open GoStrings Interleave Policy Tables

structure PasscodeRow where
  email : String
  codeHash : String
  token : Option String := none
  expiresAt : Time
  consumedAt : Option Time := none
  attempts : Nat := 0
  createdAt : Time

structure Database where
  rows : Table String PasscodeRow
  now : Time := 0

structure Env where
  sha256Hex : String → String
  toLower : String → String
  sesConfigured : Bool

/-- What the database and the random source decide at one step. Of passcodes created at one time
any may come first. -/
structure Choice where
  failure : Option String := none
  applied : Bool := false
  now : Time := 0
  order : MapOrder (String × PasscodeRow) := .asStored
  newID : String := ""
  digits : List Nat := []
  token : String := ""

def onboardOTPTTL : Time := 4 * 60 * minute

def maxOTPAttempts : Nat := 5

def isRegexpSpace (c : Char) : Bool := c ∈ ['\t', '\n', '\x0c', '\r', ' ']

/-- `^[^@\s]+@[^@\s]+\.[^@\s]+$` -/
def onboardEmailRe (s : String) : Bool :=
  match s.toList.splitOn '@' with
  | [name, domain] =>
    !name.isEmpty && '.' ∈ domain.tail.dropLast && !(name ++ domain).any isRegexpSpace
  | _ => false

def entries (rows : Table String PasscodeRow) : List (String × PasscodeRow) :=
  rows.entries.map fun entry => (entry.1, entry.2)

theorem mem_entries_iff (rows : Table String PasscodeRow) (id : String) (row : PasscodeRow) :
    (id, row) ∈ entries rows ↔ rows.lookup id = some row := by
  rw [lookup_eq_some_iff, entries, List.mem_map]
  constructor
  · rintro ⟨entry, member, same⟩
    cases same
    exact member
  · intro member
    exact ⟨_, member, rfl⟩

/-- `email = $1 AND consumed_at IS NULL AND expires_at > now() AND attempts < $2` -/
def PasscodeRow.usable (row : PasscodeRow) (email : String) (now : Time) : Prop :=
  row.email = email ∧ row.consumedAt = none ∧ now < row.expiresAt ∧ row.attempts < maxOTPAttempts

instance (row : PasscodeRow) (email : String) (now : Time) : Decidable (row.usable email now) :=
  inferInstanceAs (Decidable (_ ∧ _ ∧ _ ∧ _))

/-- `SELECT id, code_hash … ORDER BY created_at DESC LIMIT 1` -/
def selectOTP (choice : Choice) (rows : Table String PasscodeRow) (email : String) :
    Except String (String × String) :=
  let usable := (entries rows).filter fun entry => entry.2.usable email choice.now
  match sortBy choice.order (fun entry => -entry.2.createdAt) usable with
  | [] => .error "sql: no rows in result set"
  | (id, row) :: _ => .ok (id, row.codeHash)

def insertOTP (choice : Choice) (rows : Table String PasscodeRow) (email codeHash : String)
    (expiresAt : Time) : Except String (Table String PasscodeRow) :=
  if (rows.lookup choice.newID).isSome then
    .error "duplicate key value violates unique constraint"
  else
    .ok (rows.insert choice.newID
      { email := email, codeHash := codeHash, expiresAt := expiresAt, createdAt := choice.now })

/-- `UPDATE onboard_otps SET attempts = attempts + 1 WHERE id = $1` -/
def addAttempt (rows : Table String PasscodeRow) (id : String) : Table String PasscodeRow :=
  updateRow id (fun row => { row with attempts := row.attempts + 1 }) rows

/-- `UPDATE onboard_otps SET consumed_at = now(), token = $1 WHERE id = $2` -/
def consumeOTP (now : Time) (rows : Table String PasscodeRow) (token id : String) :
    Table String PasscodeRow :=
  updateRow id (fun row => { row with consumedAt := some now, token := some token }) rows

inductive Op where
  | randomDigits (n : Nat)
  | randomToken
  | timeNow
  | insertOTP (email codeHash : String) (expiresAt : Time)
  | selectOTP (email : String)
  | addAttempt (id : String)
  | consumeOTP (token id : String)

abbrev Op.Ans : Op → Type
  | .randomDigits _ => String
  | .randomToken => String
  | .timeNow => Time
  | .insertOTP .. => Except String Unit
  | .selectOTP _ => Except String (String × String)
  | .addAttempt _ => Except String Unit
  | .consumeOTP .. => Except String Unit

abbrev Event := Interleave.Event Op Op.Ans

/-- The rows after a change, or the rows as they were if the statement fails before it. -/
def Choice.keep (choice : Choice) (before after : Table String PasscodeRow) :
    Table String PasscodeRow :=
  if choice.failure.isSome ∧ choice.applied = false then before else after

def Choice.outcome (choice : Choice) : Except String Unit :=
  match choice.failure with
  | some err => .error err
  | none => .ok ()

def digitsText (digits : List Nat) (n : Nat) : String :=
  String.ofList ((List.range n).map fun i => Nat.digitChar (digits.getD i 0 % 10))

def exec (choice : Choice) (db : Database) : (op : Op) → op.Ans × Database
  | .randomDigits n => (digitsText choice.digits n, { db with now := choice.now })
  | .randomToken => (choice.token, { db with now := choice.now })
  | .timeNow => (choice.now, { db with now := choice.now })
  | .insertOTP email codeHash expiresAt =>
    match insertOTP choice db.rows email codeHash expiresAt with
    | .error err => (.error err, { db with now := choice.now })
    | .ok rows => (choice.outcome, ⟨choice.keep db.rows rows, choice.now⟩)
  | .selectOTP email =>
    match choice.failure with
    | some err => (.error err, { db with now := choice.now })
    | none => (selectOTP choice db.rows email, { db with now := choice.now })
  | .addAttempt id => (choice.outcome, ⟨choice.keep db.rows (addAttempt db.rows id), choice.now⟩)
  | .consumeOTP token id =>
    (choice.outcome, ⟨choice.keep db.rows (consumeOTP choice.now db.rows token id), choice.now⟩)

/-- A body that is not a JSON object of the fields is `none`. -/
inductive Request where
  | requestOTP (email : Option String)
  | verifyOTP (emailAndCode : Option (String × String))
  deriving DecidableEq

inductive Reply where
  | issued (demoCode : Option String)
  | verified (token : String) (expiresAt : Time)
  | failed (status : Nat) (error : String)
  deriving DecidableEq

abbrev Handled := Prog Op Op.Ans

abbrev randomDigits (n : Nat) : Handled String := perform (Op.randomDigits n)
abbrev randomToken : Handled String := perform Op.randomToken
abbrev timeNow : Handled Time := perform Op.timeNow
abbrev db.insertOTP (email codeHash : String) (expiresAt : Time) : Handled (Except String Unit) :=
  perform (Op.insertOTP email codeHash expiresAt)
abbrev db.selectOTP (email : String) : Handled (Except String (String × String)) :=
  perform (Op.selectOTP email)
abbrev db.addAttempt (id : String) : Handled (Except String Unit) := perform (Op.addAttempt id)
abbrev db.consumeOTP (token id : String) : Handled (Except String Unit) :=
  perform (Op.consumeOTP token id)

variable (env : Env)

def handleRequestOTP (body : Option String) : Handled Reply := do
  let some given := body | return .failed 400 "invalid request"
  let email := env.toLower (trimSpace given)
  if !onboardEmailRe email then return .failed 400 "invalid email"
  let code ← randomDigits 6
  let now ← timeNow
  let .ok _ ← db.insertOTP email (env.sha256Hex code) (now + onboardOTPTTL)
    | return .failed 500 "could not issue passcode"
  return .issued (if env.sesConfigured then none else some code)

def handleVerifyOTP (body : Option (String × String)) : Handled Reply := do
  let some (givenEmail, givenCode) := body | return .failed 400 "invalid request"
  let email := env.toLower (trimSpace givenEmail)
  let code := trimSpace givenCode
  if !onboardEmailRe email || code.utf8ByteSize ≠ 6 then return .failed 400 "invalid request"
  let .ok (id, codeHash) ← db.selectOTP email
    | return .failed 400 "invalid or expired passcode"
  if env.sha256Hex code ≠ codeHash then
    let _ ← db.addAttempt id
    return .failed 400 "invalid or expired passcode"
  let token ← randomToken
  let now ← timeNow
  let .ok _ ← db.consumeOTP token id | return .failed 500 "could not complete verification"
  return .verified token (now + onboardOTPTTL)

def handle : Request → Handled Reply
  | .requestOTP email => handleRequestOTP env email
  | .verifyOTP emailAndCode => handleVerifyOTP env emailAndCode

end ManagementPlane.Onboard
