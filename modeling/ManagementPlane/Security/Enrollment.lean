import ManagementPlane.Lib.OnceOnly
import ManagementPlane.Security.Keys

/-!
# Enrolment tokens

`internal/security/enrollment.go`. `CreateToken` draws and fills a token before it takes the lock;
`EnrollAgent`, `RevokeToken` and `DeactivateAgent` hold the lock for the whole call.
`EnrollDeviceCertificate` enrols an agent and signs the device's request afterwards, so an agent
stays enrolled when signing fails.

The map of tokens is searched by the value of a token, in any order. A request carries the time at
which its call starts.
-/

namespace ManagementPlane.Security.Enrollment

open Interleave Policy Runs Tables

structure EnrollmentToken where
  id : String
  token : String
  label : String
  groupID : String
  groupName : String
  createdBy : String
  createdAt : Time
  expiresAt : Time
  maxUses : Int
  usedCount : Nat := 0
  revoked : Bool := false
  lastUsedAt : Option Time := none
  lastUsedBy : String := ""
  deriving DecidableEq

structure EnrolledAgent where
  id : String
  deviceName : String
  deviceOS : String
  deviceArch : String
  tokenID : String
  groupID : String
  groupName : String
  enrolledAt : Time
  enrolledBy : String
  lastSeen : Time
  agentSecret : String
  active : Bool
  deriving DecidableEq

structure CreateTokenRequest where
  label : String
  groupID : String
  groupName : String
  maxUses : Int
  ttlHours : Int
  deriving DecidableEq

structure EnrollAgentRequest where
  token : String
  deviceName : String
  deviceOS : String
  deviceArch : String
  deriving DecidableEq

structure EnrollDeviceCertificateRequest extends EnrollAgentRequest where
  csrPEM : String
  validDays : Int
  deriving DecidableEq

structure EnrollDeviceCertificateResponse where
  agentID : String
  certPEM : String
  caCertPEM : String
  notAfter : Time
  groupID : String
  groupName : String
  deviceName : String
  deriving DecidableEq

structure World where
  tokens : Table String EnrollmentToken
  agents : Table String EnrolledAgent

def emptyWorld : World := ⟨∅, ∅⟩

/-- What decides one operation: the random source, the order of a map, the signing of a certificate
request and the clock. -/
structure Choice where
  failure : Option String := none
  bytes : Nat → UInt8 := fun _ => 0
  id : Option (Nat → UInt8) := none
  order : MapOrder (String × EnrollmentToken) := .asStored
  cert : String := ""
  certNotAfter : Option Time := none
  clock : Nat → Time

namespace Choice

variable (choice : Choice)

def secret : String := GoHex.encodeToString ((List.range 32).map choice.bytes)

def newID (kind : String) : String :=
  generateID kind (choice.id.map fun random => (List.range 8).map random)

end Choice

structure TokenDraw where
  token : String
  id : String
  createdAt : Time
  expiresFrom : Time
  deriving DecidableEq

def hour : Time := 60 * minute

def tokenOf (req : CreateTokenRequest) (createdBy : String) (drawn : TokenDraw) :
    EnrollmentToken :=
  let ttl := (req.ttlHours * hour).bmod (2 ^ 64)
  { id := drawn.id
    token := drawn.token
    label := req.label
    groupID := req.groupID
    groupName := req.groupName
    createdBy := createdBy
    createdAt := drawn.createdAt
    expiresAt := drawn.expiresFrom + if ttl ≤ 0 then 24 * hour else ttl
    maxUses := if req.maxUses ≤ 0 then 1 else req.maxUses }

section
variable (world : World) (choice : Choice)

def World.entries : List (String × EnrollmentToken) :=
  world.tokens.entries.map fun entry => (entry.1, entry.2)

def enrollAgent (req : EnrollAgentRequest) : Except String EnrolledAgent × World :=
  match (choice.order.visit world.entries).find? fun entry => entry.2.token = req.token with
  | none => (.error "invalid enrollment token", world)
  | some (key, token) =>
    if token.revoked then (.error "enrollment token has been revoked", world)
    else if token.expiresAt < choice.clock 0 then
      (.error "enrollment token has expired", world)
    else if token.maxUses ≤ token.usedCount then
      (.error "enrollment token has reached maximum uses", world)
    else
      match choice.failure with
      | some err => (.error ("failed to generate agent secret: " ++ err), world)
      | none =>
        let now := choice.clock 1
        let agent : EnrolledAgent :=
          { id := choice.newID "agt"
            deviceName := req.deviceName
            deviceOS := req.deviceOS
            deviceArch := req.deviceArch
            tokenID := token.id
            groupID := token.groupID
            groupName := token.groupName
            enrolledAt := now
            enrolledBy := token.createdBy
            lastSeen := now
            agentSecret := choice.secret
            active := true }
        (.ok agent,
          { tokens := updateRow key
              (fun token =>
                { token with
                  usedCount := token.usedCount + 1
                  lastUsedAt := some now
                  lastUsedBy := req.deviceName })
              world.tokens
            agents := world.agents.insert agent.id agent })

def revokeToken (tokenID : String) : Except String Unit × World :=
  match world.tokens.lookup tokenID with
  | none => (.error ("token not found: " ++ tokenID), world)
  | some _ =>
    (.ok (),
      { world with
        tokens := updateRow tokenID (fun token => { token with revoked := true }) world.tokens })

def deactivateAgent (agentID : String) : Except String Unit × World :=
  match world.agents.lookup agentID with
  | none => (.error ("agent not found: " ++ agentID), world)
  | some _ =>
    (.ok (),
      { world with
        agents := updateRow agentID (fun agent => { agent with active := false }) world.agents })

end

inductive Op where
  | drawToken
  | storeToken (token : EnrollmentToken)
  | enrollAgent (req : EnrollAgentRequest)
  | signDeviceCSR (agentID csrPEM : String) (validDays : Int)
  | revokeToken (tokenID : String)
  | deactivateAgent (agentID : String)
  deriving DecidableEq

/-- An enrolment is recorded with the reading of the clock that it compared with the expiry. -/
abbrev Op.Ans : Op → Type
  | .drawToken => Except String TokenDraw
  | .storeToken _ => Unit
  | .enrollAgent _ => Except String EnrolledAgent × Time
  | .signDeviceCSR .. => Except String (String × Time)
  | .revokeToken _ => Except String Unit
  | .deactivateAgent _ => Except String Unit

abbrev Event := Interleave.Event Op Op.Ans

def exec (choice : Choice) (world : World) : (op : Op) → op.Ans × World
  | .drawToken =>
    (match choice.failure with
      | some err => .error err
      | none =>
        .ok
          { token := choice.secret
            id := choice.newID "etk"
            createdAt := choice.clock 0
            expiresFrom := choice.clock 1 }, world)
  | .storeToken token => ((), { world with tokens := world.tokens.insert token.id token })
  | .enrollAgent req =>
    let (outcome, after) := enrollAgent world choice req
    ((outcome, choice.clock 0), after)
  | .signDeviceCSR _ _ validDays =>
    (match choice.failure with
      | some err => .error err
      | none =>
        .ok (choice.cert,
          choice.certNotAfter.getD (choice.clock 0 + validDays * (24 * hour))), world)
  | .revokeToken tokenID => revokeToken world tokenID
  | .deactivateAgent agentID => deactivateAgent world agentID

inductive Call where
  | createToken (req : CreateTokenRequest) (createdBy : String)
  | enrollAgent (req : EnrollAgentRequest)
  | enrollDeviceCertificate (req : EnrollDeviceCertificateRequest)
  | revokeToken (tokenID : String)
  | deactivateAgent (agentID : String)
  deriving DecidableEq

structure Request where
  call : Call
  started : Time
  deriving DecidableEq

inductive Reply where
  | token (token : EnrollmentToken)
  | agent (agent : EnrolledAgent)
  | certificate (response : EnrollDeviceCertificateResponse)
  | done
  | error (err : String)
  deriving DecidableEq

abbrev Handled := Prog Op Op.Ans

abbrev drawToken : Handled (Except String TokenDraw) := perform Op.drawToken

abbrev svc.storeToken (token : EnrollmentToken) : Handled Unit := perform (Op.storeToken token)

abbrev svc.enrollAgent (req : EnrollAgentRequest) : Handled (Except String EnrolledAgent × Time) :=
  perform (Op.enrollAgent req)

abbrev ca.signDeviceCSR (agentID csrPEM : String) (validDays : Int) :
    Handled (Except String (String × Time)) := perform (Op.signDeviceCSR agentID csrPEM validDays)

abbrev svc.revokeToken (tokenID : String) : Handled (Except String Unit) :=
  perform (Op.revokeToken tokenID)

abbrev svc.deactivateAgent (agentID : String) : Handled (Except String Unit) :=
  perform (Op.deactivateAgent agentID)

def createToken (req : CreateTokenRequest) (createdBy : String) : Handled Reply := do
  match ← drawToken with
  | .error err => return .error ("failed to generate token: " ++ err)
  | .ok drawn =>
    let token := tokenOf req createdBy drawn
    svc.storeToken token
    return .token token

def enrollDevice (caCertPEM : Option String) (req : EnrollDeviceCertificateRequest) :
    Handled Reply := do
  match caCertPEM with
  | none => return .error "device certificate authority is not configured"
  | some caCertPEM =>
    match (← svc.enrollAgent req.toEnrollAgentRequest).1 with
    | .error err => return .error err
    | .ok agent =>
      let validDays := if req.validDays ≤ 0 then 365 else req.validDays
      let validDays := if validDays > 825 then 825 else validDays
      match ← ca.signDeviceCSR agent.id req.csrPEM validDays with
      | .error err => return .error err
      | .ok (certPEM, notAfter) =>
        return .certificate
          { agentID := agent.id
            certPEM := certPEM
            caCertPEM := caCertPEM
            notAfter := notAfter
            groupID := agent.groupID
            groupName := agent.groupName
            deviceName := agent.deviceName }

def Reply.ofOutcome : Except String Unit → Reply
  | .ok _ => .done
  | .error err => .error err

/-- The certificate authority is given by its certificate, if one is configured. -/
def handle (caCertPEM : Option String) (request : Request) : Handled Reply :=
  match request.call with
  | .createToken req createdBy => createToken req createdBy
  | .enrollAgent req => do
      match (← svc.enrollAgent req).1 with
      | .error err => return .error err
      | .ok agent => return .agent agent
  | .enrollDeviceCertificate req => enrollDevice caCertPEM req
  | .revokeToken tokenID => do return .ofOutcome (← svc.revokeToken tokenID)
  | .deactivateAgent agentID => do return .ofOutcome (← svc.deactivateAgent agentID)

end ManagementPlane.Security.Enrollment
