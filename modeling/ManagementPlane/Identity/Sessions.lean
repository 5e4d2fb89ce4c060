import ManagementPlane.Identity.KeySets
import ManagementPlane.Lib.Alone

/-!
# Brokered sessions

The sessions of `internal/identity/broker.go`. `ExchangeToken` promises 900 seconds; the readers of
the map do not look at the clock, so a session is there until it is revoked.
-/

namespace ManagementPlane.Identity

open Interleave Jwt Runs Tables
open Policy (Time minute)

structure BrokeredSession where
  sessionID : String
  timestamp : Time
  claims : MapClaims

structure SessionStore where
  broker : Broker
  sessions : Table String BrokeredSession

/-- An exchange comes with what its operations meet and the random bytes of its session's id. -/
inductive SessionCall where
  | exchangeToken (idpID token : String) (choices : Nat → Choice) (raw : GoBinary.Bytes)
  | revokeSession (id : String)
  | updateIdP (cfg : IdPConfig)
  | deleteIdP (id : String)
  | getSession (id : String)
  | listSessions (order : MapOrder BrokeredSession)

structure SessionInput where
  call : SessionCall
  now : Time

section
variable (env : Env) (s : SessionStore) (input : SessionInput)

/-- The session of a successful exchange, and the broker after the call. -/
def exchanged : Option BrokeredSession × Broker :=
  match input.call with
  | .exchangeToken idpID token choices raw =>
    match (exchangeToken idpID token).eval (exec env) choices s.broker with
    | (.validated claims, after) =>
      (some ⟨String.ofList ((GoBinary.hexEncode raw).map fun c => Char.ofNat c.toNat), input.now,
        claims⟩, after)
    | (_, after) => (none, after)
  | .updateIdP cfg => (none, (s.broker.updateIdP cfg).2)
  | .deleteIdP id => (none, (s.broker.deleteIdP id).2)
  | _ => (none, s.broker)

def sessionStep : SessionStore where
  broker := (exchanged env s input).2
  sessions :=
    match (exchanged env s input).1, input.call with
    | some session, _ => s.sessions.insert session.sessionID session
    | none, .revokeSession id => s.sessions.erase id
    | none, _ => s.sessions

/-- What `GetSession` and `ListSessions` give. -/
def SessionCall.reads : SessionCall → List BrokeredSession
  | .getSession id => (s.sessions.lookup id).toList
  | .listSessions order => order.visit (values s.sessions)
  | _ => []

/-- The session was made in a past, the latest call first, and not revoked or replaced since. -/
def Outstanding (session : BrokeredSession) : List (SessionStore × SessionInput) → Prop
  | [] => False
  | (s, input) :: earlier => (exchanged env s input).1 = some session ∨
      Outstanding session earlier ∧ input.call ≠ .revokeSession session.sessionID ∧
        ∀ new, (exchanged env s input).1 = some new → new.sessionID ≠ session.sessionID

def SessionCall.asks (session : BrokeredSession) : SessionCall → Prop
  | .getSession id => session.sessionID = id
  | .listSessions _ => True
  | _ => False

variable {env} (b : Broker) (inputs : List SessionInput)

def Live (env : Env) (session : BrokeredSession) : Prop :=
  Outstanding env session (visits (sessionStep env) ⟨b, ∅⟩ inputs).reverse

theorem lookup_step_iff (past : List (SessionStore × SessionInput))
    (known : ∀ id session, s.sessions.lookup id = some session ↔
      session.sessionID = id ∧ Outstanding env session past) (id : String)
    (session : BrokeredSession) : (sessionStep env s input).sessions.lookup id = some session ↔
      session.sessionID = id ∧ Outstanding env session ((s, input) :: past) := by
  simp only [sessionStep, Outstanding]
  cases made : (exchanged env s input).1 with
  | some new =>
    have other : input.call ≠ .revokeSession session.sessionID := by
      intro revokes
      simp [exchanged, revokes] at made
    simp [lookup_insert_if]
    grind
  | none =>
    cases called : input.call with
    | revokeSession gone =>
      simp only [lookup_erase_if]
      grind
    | _ => simp [known]

/-- After every run the map holds the outstanding sessions, whatever the time. -/
theorem lookup_run_iff (id : String) (session : BrokeredSession) :
    (run (sessionStep env) ⟨b, ∅⟩ inputs).sessions.lookup id = some session ↔
      session.sessionID = id ∧ Live b inputs env session := by
  induction inputs using List.reverseRecOn generalizing id session with
  | nil => simp [run, Live, visits, Outstanding]
  | append_singleton inputs last ih =>
    rw [run_concat, Live, visits_concat, List.reverse_append]
    exact lookup_step_iff _ _ _ ih id session

theorem sessions_end_iff (reader : SessionInput) :
    (∀ session ∈ reader.call.reads (run (sessionStep env) ⟨b, ∅⟩ inputs),
      Live b inputs env session ∧ reader.now - session.timestamp ≤ 15 * minute) ↔
    ∀ session, Live b inputs env session → reader.call.asks session →
      reader.now - session.timestamp ≤ 15 * minute := by
  have reads : ∀ session, session ∈ reader.call.reads (run (sessionStep env) ⟨b, ∅⟩ inputs) ↔
      Live b inputs env session ∧ reader.call.asks session := by
    intro session
    cases reader.call with
    | getSession id =>
      simp [SessionCall.reads, SessionCall.asks, lookup_run_iff, and_comm]
    | listSessions order =>
      simp [SessionCall.reads, SessionCall.asks, (order.perm _).mem_iff, mem_values_iff,
        ← lookup_eq_some_iff, lookup_run_iff]
    | _ => simp [SessionCall.reads, SessionCall.asks]
  simp only [reads]
  constructor
  · intro young session outstanding asked
    exact (young session ⟨outstanding, asked⟩).2
  · intro young session read
    exact ⟨read.1, young session read.1 read.2⟩

end

/-- A session nobody revokes. -/
def exchangedOnce : List SessionInput :=
  [⟨.exchangeToken "okta" "old" (fun _ => { fetched := .keys [rsaKey "old"] }) [1], 0⟩]

theorem session_outlives_promise :
    ¬ ∀ session ∈ (SessionCall.getSession "01").reads
        (run (sessionStep demoEnv) ⟨oktaBroker, ∅⟩ exchangedOnce),
      60 * minute - session.timestamp ≤ 15 * minute := by
  decide +kernel

end ManagementPlane.Identity
