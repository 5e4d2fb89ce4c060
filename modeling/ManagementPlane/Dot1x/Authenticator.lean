import ManagementPlane.Lib.HardwareAddr
import ManagementPlane.Radsec.Server

/-!
# The 802.1X authenticator

`internal/dot1x/authenticator.go`, and the RadSec adapter `cmd/server/radsec_pdp.go` that hands
verified certificates to it. Texts are byte strings: the identifiers of a RADIUS request need not
be UTF-8.

Sessions live under an id made of the switch, the port and the millisecond of the clock. Entries
for MAC authentication bypass live under the normalised address, those of all organizations in one
map. Without a user store a call that needs one panics; such a call has no answer.
-/

namespace ManagementPlane.Dot1x

open GoBinary Policy Tables

def text (s : String) : Bytes := s.toUTF8.data.toList

def normalizeMAC (mac : Bytes) : Bytes :=
  match GoNet.parseMAC mac with
  | some hw => GoNet.hardwareAddr hw
  | none => mac

inductive EAPMethod where
  | tls
  | ttls
  | peap
  | mab
  | other (name : Bytes)
  deriving DecidableEq

inductive AuthResult where
  | success
  | reject
  | challenge
  deriving DecidableEq

structure AuthRequest where
  switchID : Bytes
  portID : Bytes
  macAddress : Bytes
  eapMethod : EAPMethod
  username : Bytes := []
  password : Bytes := []
  clientCertPEM : Bytes := []
  orgID : Bytes
  deriving DecidableEq

structure AuthResponse where
  result : AuthResult
  sessionID : Bytes := []
  username : Bytes := []
  assignedVLAN : Int := 0
  segmentGroup : Bytes := []
  aclName : Bytes := []
  sessionTimeout : Int := 0
  reauthPeriod : Int := 0
  message : Bytes
  deriving DecidableEq

structure AuthzRequest where
  sessionID : Bytes
  username : Bytes
  orgID : Bytes
  deriving DecidableEq

structure AuthzResponse where
  allowed : Bool
  vlan : Int := 0
  segmentGroup : Bytes := []
  aclName : Bytes := []
  maxBandwidth : Int := 0
  message : Bytes := []
  deriving DecidableEq

inductive AcctType where
  | start
  | interimUpdate
  | stop
  | other (name : Bytes)
  deriving DecidableEq

structure AcctRequest where
  sessionID : Bytes
  type : AcctType
  inputBytes : Int := 0
  outputBytes : Int := 0
  deriving DecidableEq

inductive SessionState where
  | authenticated
  | disconnected
  deriving DecidableEq

structure Session where
  id : Bytes
  switchID : Bytes
  portID : Bytes
  macAddress : Bytes
  username : Bytes
  eapMethod : EAPMethod
  vlan : Int
  segmentGroup : Bytes
  state : SessionState
  startedAt : Time
  lastActivity : Time
  inputBytes : Int := 0
  outputBytes : Int := 0
  orgID : Bytes
  deriving DecidableEq

structure MACAuthEntry where
  macAddress : Bytes
  deviceName : Bytes
  deviceType : Bytes
  vlan : Int
  segmentGroup : Bytes
  orgID : Bytes
  createdAt : Time := 0
  deriving DecidableEq

structure Authenticator where
  sessions : Table Bytes Session
  macDB : Table Bytes MACAuthEntry

def newAuthenticator : Authenticator := ⟨∅, ∅⟩

structure Certificate where
  notBefore : Time
  notAfter : Time
  commonName : Bytes

/-- PEM and X.509, and whether the authenticator has a user store. -/
structure Env where
  decodePEM : Bytes → Option Bytes
  encodePEM : Bytes → Bytes
  parseCertificate : Bytes → Option Certificate
  hasUsers : Bool

/-- The clock and the answers of the user store during one call. -/
structure Choice where
  clock : Nat → Time
  credentials : Except String Bool := .ok false
  groups : List Bytes := []

def rejected (message : String) : AuthResponse := { result := .reject, message := text message }

def unixMilli (t : Time) : Int := t / 1000000

def sessionIDOf (switchID portID : Bytes) (milli : Int) : Bytes :=
  text "dot1x-" ++ switchID ++ text "-" ++ portID ++ text "-" ++ signedDecimal milli

section
variable (env : Env) (a : Authenticator) (choice : Choice) (req : AuthRequest)

def newSession (username : Bytes) (clock : Nat → Time) : Session where
  id := sessionIDOf req.switchID req.portID (unixMilli (clock 0))
  switchID := req.switchID
  portID := req.portID
  macAddress := normalizeMAC req.macAddress
  username := username
  eapMethod := req.eapMethod
  vlan := 100
  segmentGroup := text "default"
  state := .authenticated
  startedAt := clock 1
  lastActivity := clock 2
  orgID := req.orgID

def Authenticator.add (sess : Session) : Authenticator :=
  { a with sessions := a.sessions.insert sess.id sess }

def Session.grant (sess : Session) : AuthResponse where
  result := .success
  sessionID := sess.id
  username := sess.username
  assignedVLAN := sess.vlan
  segmentGroup := sess.segmentGroup
  sessionTimeout := 28800
  reauthPeriod := 3600
  message := text "Authenticated"

def createSession (username : Bytes) (clock : Nat → Time) : AuthResponse × Authenticator :=
  let sess := newSession req username clock
  (sess.grant, a.add sess)

def authenticateEAPTLS : AuthResponse × Authenticator :=
  if req.clientCertPEM = [] then (rejected "Client certificate required for EAP-TLS", a)
  else
    match env.decodePEM req.clientCertPEM with
    | none => (rejected "Invalid certificate format", a)
    | some block =>
      match env.parseCertificate block with
      | none => (rejected "Certificate parse failed", a)
      | some cert =>
        if choice.clock 0 < cert.notBefore ∨ cert.notAfter < choice.clock 0 then
          (rejected "Certificate expired or not yet valid", a)
        else if cert.commonName = [] then (rejected "Certificate has no Common Name", a)
        else createSession a req cert.commonName fun n => choice.clock (n + 1)

def authenticatePassword : Option AuthResponse × Authenticator :=
  if req.username = [] ∨ req.password = [] then
    (some (rejected "Username and password required"), a)
  else if !env.hasUsers then (none, a)
  else
    match choice.credentials with
    | .error _ => (some (rejected "Authentication service error"), a)
    | .ok false => (some (rejected "Invalid credentials"), a)
    | .ok true =>
      let (resp, after) := createSession a req req.username choice.clock
      (some resp, after)

def authenticateMAB : AuthResponse × Authenticator :=
  match a.macDB.lookup (normalizeMAC req.macAddress) with
  | none => (rejected "MAC address not in whitelist", a)
  | some entry =>
    let (resp, after) := createSession a req (text "mab:" ++ entry.deviceName) choice.clock
    ({ resp with assignedVLAN := entry.vlan, segmentGroup := entry.segmentGroup }, after)

def authenticate : Option AuthResponse × Authenticator :=
  match req.eapMethod with
  | .tls =>
    let (resp, after) := authenticateEAPTLS env a choice req
    (some resp, after)
  | .ttls => authenticatePassword env a choice req
  | .peap => authenticatePassword env a choice req
  | .mab =>
    let (resp, after) := authenticateMAB a choice req
    (some resp, after)
  | .other _ => (some (rejected "Unsupported EAP method"), a)

end

section
variable (env : Env) (a : Authenticator) (choice : Choice)

def applyGroup (resp : AuthzResponse) (group : Bytes) : AuthzResponse :=
  if group = text "network-admins" then { resp with aclName := text "full-access" }
  else if group = text "contractors" then
    { resp with aclName := text "restricted", maxBandwidth := 10000 }
  else if group = text "iot-devices" then
    { resp with aclName := text "iot-restricted", maxBandwidth := 5000 }
  else resp

/-- The groups are used with or without an error of the user store, which is only logged. -/
def authorize (req : AuthzRequest) : Option AuthzResponse :=
  match a.sessions.lookup req.sessionID with
  | none => some { allowed := false, message := text "Session not found" }
  | some sess =>
    if !env.hasUsers then none
    else
      some (choice.groups.foldl applyGroup
        { allowed := true, vlan := sess.vlan, segmentGroup := sess.segmentGroup })

def account (now : Time) (req : AcctRequest) (sess : Session) : Session :=
  match req.type with
  | .start => { sess with state := .authenticated, startedAt := now }
  | .interimUpdate =>
    { sess with inputBytes := req.inputBytes, outputBytes := req.outputBytes, lastActivity := now }
  | .stop =>
    { sess with
      state := .disconnected, inputBytes := req.inputBytes, outputBytes := req.outputBytes }
  | .other _ => sess

def recordAccounting (req : AcctRequest) : Authenticator :=
  { a with sessions := updateRow req.sessionID (account (choice.clock 0) req) a.sessions }

def disconnectSession (id : Bytes) : Bool × Authenticator :=
  match a.sessions.lookup id with
  | none => (false, a)
  | some _ =>
    (true,
      { a with
        sessions := updateRow id (fun sess => { sess with state := .disconnected }) a.sessions })

def getSession (id : Bytes) : Option Session := a.sessions.lookup id

def MACAuthEntry.stored (entry : MACAuthEntry) : MACAuthEntry :=
  { entry with macAddress := normalizeMAC entry.macAddress, createdAt := choice.clock 0 }

def registerMAC (entry : MACAuthEntry) : Authenticator :=
  let entry := entry.stored choice
  { a with macDB := a.macDB.insert entry.macAddress entry }

def removeMAC (mac : Bytes) : Bool × Authenticator :=
  match a.macDB.lookup (normalizeMAC mac) with
  | none => (false, a)
  | some _ => (true, { a with macDB := a.macDB.erase (normalizeMAC mac) })

/-- The entries of one organization, or of all for the empty name. -/
def listMACs (order : MapOrder MACAuthEntry) (orgID : Bytes) : List MACAuthEntry :=
  (order.visit (values a.macDB)).filter fun entry => orgID = [] || entry.orgID = orgID

end

/-- What `radsecPDP.Decide` asks the authenticator. -/
def radsecRequest (env : Env) (cert : Radsec.Certificate) (nasIdentifier callingStation orgID : Bytes) :
    AuthRequest where
  switchID := nasIdentifier
  portID := text "radsec"
  macAddress := callingStation
  eapMethod := .tls
  clientCertPEM := env.encodePEM cert.raw
  orgID := orgID

def decisionOf (resp : AuthResponse) : Radsec.Decision where
  accept := resp.result = .success
  username := resp.username
  vlan := resp.assignedVLAN
  acl := resp.aclName
  sessionTimeout := resp.sessionTimeout
  message := resp.message

def decide (env : Env) (a : Authenticator) (choice : Choice) (cert : Radsec.Certificate)
    (nasIdentifier callingStation orgID : Bytes) : Option Radsec.Decision × Authenticator :=
  let (resp, after) :=
    authenticate env a choice (radsecRequest env cert nasIdentifier callingStation orgID)
  (resp.map decisionOf, after)

inductive Call where
  | authenticate (req : AuthRequest)
  | decide (cert : Radsec.Certificate) (nasIdentifier callingStation orgID : Bytes)
  | authorize (req : AuthzRequest)
  | recordAccounting (req : AcctRequest)
  | disconnectSession (id : Bytes)
  | registerMAC (entry : MACAuthEntry)
  | removeMAC (mac : Bytes)

structure Input where
  call : Call
  choice : Choice

def step (env : Env) (a : Authenticator) (input : Input) : Authenticator :=
  match input.call with
  | .authenticate req => (authenticate env a input.choice req).2
  | .decide cert nasIdentifier callingStation orgID =>
    (decide env a input.choice cert nasIdentifier callingStation orgID).2
  | .authorize _ => a
  | .recordAccounting req => recordAccounting a input.choice req
  | .disconnectSession id => (disconnectSession a id).2
  | .registerMAC entry => registerMAC a input.choice entry
  | .removeMAC mac => (removeMAC a mac).2

/-! ## What a call does -/

variable (env : Env) (a : Authenticator)

/-- The readings from which a session is made: `authenticateEAPTLS` has taken one before. -/
def sessionClock (choice : Choice) (req : AuthRequest) : Nat → Time :=
  if req.eapMethod = .tls then fun n => choice.clock (n + 1) else choice.clock

/-- An answered authentication is refused and changes nothing, or it adds a session. -/
inductive AuthOutcome (choice : Choice) (req : AuthRequest) :
    Option AuthResponse × Authenticator → Prop where
  | panicked : AuthOutcome choice req (none, a)
  | refused (message : String) : AuthOutcome choice req (some (rejected message), a)
  | accepted (resp : AuthResponse) (success : resp.result = .success)
      (named : resp.sessionID = (newSession req resp.username (sessionClock choice req)).id) :
      AuthOutcome choice req
        (some resp, a.add (newSession req resp.username (sessionClock choice req)))

variable {req : AuthRequest} (choice : Choice)

theorem authenticateEAPTLS_outcome (method : req.eapMethod = .tls) :
    AuthOutcome a choice req
      (some (authenticateEAPTLS env a choice req).1, (authenticateEAPTLS env a choice req).2) := by
  have clock : sessionClock choice req = fun n => choice.clock (n + 1) := if_pos method
  unfold authenticateEAPTLS
  split
  · exact .refused _
  · split
    · exact .refused _
    · split
      · exact .refused _
      · split
        · exact .refused _
        · split
          · exact .refused _
          · rw [← clock]
            exact .accepted _ rfl rfl

theorem authenticatePassword_outcome (method : req.eapMethod ≠ .tls) :
    AuthOutcome a choice req (authenticatePassword env a choice req) := by
  have clock : sessionClock choice req = choice.clock := if_neg method
  unfold authenticatePassword
  split
  · exact .refused _
  · split
    · exact .panicked
    · split
      · exact .refused _
      · exact .refused _
      · rw [← clock]
        exact .accepted _ rfl rfl

theorem authenticateMAB_outcome (method : req.eapMethod ≠ .tls) :
    AuthOutcome a choice req
      (some (authenticateMAB a choice req).1, (authenticateMAB a choice req).2) := by
  have clock : sessionClock choice req = choice.clock := if_neg method
  unfold authenticateMAB
  split
  · exact .refused _
  · rw [← clock]
    exact .accepted _ rfl rfl

theorem authenticate_outcome (req : AuthRequest) :
    AuthOutcome a choice req (authenticate env a choice req) := by
  cases method : req.eapMethod with
  | tls =>
    have outcome := authenticateEAPTLS_outcome env a choice method
    simpa [authenticate, method] using outcome
  | ttls | peap =>
    have outcome := authenticatePassword_outcome env a choice (by rw [method]; nofun)
    simpa [authenticate, method] using outcome
  | mab =>
    have outcome := authenticateMAB_outcome a choice (by rw [method]; nofun)
    simpa [authenticate, method] using outcome
  | other name =>
    simp [authenticate, method]
    exact .refused _

/-- The authentication that a call asks for, at the handler or through RadSec. -/
def Call.request : Call → Option AuthRequest
  | .authenticate req => some req
  | .decide cert nasIdentifier callingStation orgID =>
    some (radsecRequest env cert nasIdentifier callingStation orgID)
  | _ => none

/-- A successful authentication. -/
structure Login where
  request : AuthRequest
  choice : Choice
  response : AuthResponse

def Login.session (login : Login) : Session :=
  newSession login.request login.response.username (sessionClock login.choice login.request)

def accepted (input : Input) : Option Login :=
  match input.call.request env with
  | none => none
  | some req =>
    match (authenticate env a input.choice req).1 with
    | none => none
    | some resp => if resp.result = .success then some ⟨req, input.choice, resp⟩ else none

theorem step_of_request {input : Input} (asked : input.call.request env = some req) :
    step env a input = (authenticate env a input.choice req).2 := by
  obtain ⟨call, choice⟩ := input
  cases call with
  | authenticate own | decide cert nasIdentifier callingStation orgID =>
    cases asked
    rfl
  | authorize _ | recordAccounting _ | disconnectSession _ | registerMAC _ | removeMAC _ =>
    cases asked

def Call.target : Call → Option Bytes
  | .authorize req => some req.sessionID
  | .recordAccounting req => some req.sessionID
  | .disconnectSession id => some id
  | _ => none

def Input.change (input : Input) : Session → Session :=
  match input.call with
  | .recordAccounting req => account (input.choice.clock 0) req
  | .disconnectSession _ => fun sess => { sess with state := .disconnected }
  | _ => id

/-- A call adds the session of an accepted supplicant, or changes the one it is about. -/
inductive SessionEffect (input : Input) (after : Authenticator) : Prop where
  | added (login : Login) (successful : accepted env a input = some login)
      (untargeted : input.call.target = none)
      (named : login.response.sessionID = login.session.id)
      (success : login.response.result = .success)
      (lookup : ∀ id, after.sessions.lookup id =
        if id = login.session.id then some login.session else a.sessions.lookup id)
  | changed (unsuccessful : accepted env a input = none)
      (lookup : ∀ id, after.sessions.lookup id =
        if input.call.target = some id then (a.sessions.lookup id).map input.change
        else a.sessions.lookup id)

theorem request_effect {input : Input}
    (asked : input.call.request env = some req) (untargeted : input.call.target = none) :
    SessionEffect env a input (step env a input) := by
  have outcome := authenticate_outcome env a input.choice req
  have same := step_of_request env a asked
  have successful : accepted env a input = match (authenticate env a input.choice req).1 with
      | none => none
      | some resp => if resp.result = .success then some ⟨req, input.choice, resp⟩ else none := by
    rw [accepted, asked]
  generalize authenticate env a input.choice req = answer at outcome same successful
  cases outcome with
  | panicked | refused message =>
    refine .changed successful fun id => ?_
    rw [same, untargeted, if_neg nofun]
  | accepted resp success named =>
    dsimp only at successful
    rw [if_pos success] at successful
    refine .added _ successful untargeted named success fun id => ?_
    rw [same]
    exact lookup_insert_if ..

variable (input : Input)

theorem step_sessions : SessionEffect env a input (step env a input) := by
  obtain ⟨call, choice⟩ := input
  cases call with
  | authenticate req | decide cert nasIdentifier callingStation orgID =>
    exact request_effect env a rfl rfl
  | authorize req =>
    refine .changed rfl fun id => ?_
    split_ifs
    · exact (Option.map_id_apply).symm
    · rfl
  | recordAccounting req =>
    refine .changed rfl fun id => ?_
    refine (lookup_updateRow ..).trans ?_
    simp [Call.target, eq_comm]
    rfl
  | disconnectSession name =>
    refine .changed rfl fun id => ?_
    simp [step, disconnectSession, Call.target]
    cases found : a.sessions.lookup name with
    | none =>
      grind
    | some sess =>
      refine (lookup_updateRow ..).trans ?_
      simp [eq_comm]
      rfl
  | registerMAC entry => exact .changed rfl fun id => rfl
  | removeMAC mac =>
    refine .changed rfl fun id => ?_
    simp [step, removeMAC, Call.target, reduceCtorEq]
    grind

theorem change_owner (sess : Session) :
    (input.change sess).username = sess.username ∧
      (input.change sess).macAddress = sess.macAddress ∧ (input.change sess).orgID = sess.orgID := by
  obtain ⟨call, choice⟩ := input
  cases call with
  | recordAccounting req =>
    obtain ⟨id, type, inputBytes, outputBytes⟩ := req
    cases type <;> exact ⟨rfl, rfl, rfl⟩
  | _ => exact ⟨rfl, rfl, rfl⟩

theorem step_isSome (id : Bytes) (present : (a.sessions.lookup id).isSome) :
    ((step env a input).sessions.lookup id).isSome := by
  cases step_sessions env a input with
  | added login successful untargeted named success lookup =>
    rw [lookup]
    split_ifs
    · rfl
    · exact present
  | changed unsuccessful lookup =>
    grind

theorem authenticate_macDB (req : AuthRequest) :
    (authenticate env a choice req).2.macDB = a.macDB := by
  have outcome := authenticate_outcome env a choice req
  generalize authenticate env a choice req = answer at outcome ⊢
  cases outcome with
  | panicked => rfl
  | refused message => rfl
  | accepted resp success named => rfl

def Input.entry (input : Input) (mac : Bytes) (before : Option MACAuthEntry) : Option MACAuthEntry :=
  match input.call with
  | .registerMAC entry =>
    if mac = normalizeMAC entry.macAddress then some (entry.stored input.choice) else before
  | .removeMAC other => if mac = normalizeMAC other then none else before
  | _ => before

theorem step_macDB (mac : Bytes) :
    (step env a input).macDB.lookup mac = input.entry mac (a.macDB.lookup mac) := by
  obtain ⟨call, choice⟩ := input
  cases call with
  | authenticate req | decide cert nasIdentifier callingStation orgID =>
    rw [step_of_request env a rfl, authenticate_macDB]
    rfl
  | authorize req => rfl
  | recordAccounting req => rfl
  | disconnectSession id =>
    simp [step, disconnectSession, Input.entry]
    grind
  | registerMAC entry => exact lookup_insert_if ..
  | removeMAC other =>
    simp [step, removeMAC, Input.entry]
    grind [lookup_erase_if]

end ManagementPlane.Dot1x
