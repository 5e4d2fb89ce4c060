import ManagementPlane.Devices.Binding

/-!
# What an agent token says

The groups of an agent token come from the store: they are those of the user to whom the
device is linked, and the registration before them keeps the link. `domain_joined` and `upn`
are copied from the body of the request, which nobody has checked.
-/

namespace ManagementPlane.Devices

open GoJson GoStrings Interleave Jwt Tables Option
open Policy (Time)

def AgentAuthRequest.device (req : AgentAuthRequest) : String :=
  if req.deviceID = "" then req.clientID else req.deviceID

def AgentAuthRequest.attests (req : AgentAuthRequest) : Bool := equalFold req.domainJoined "true"

def upnClaim (upn : String) : Option Json := if trimSpace upn = "" then none else some (.str upn)

def AgreeOnClaims (first second : MapClaims) : Prop :=
  first "groups" = second "groups" ∧ first "domain_joined" = second "domain_joined" ∧
    first "upn" = second "upn"

def DomainJoined (claims : MapClaims) : Prop := claims "domain_joined" = some (.bool true)

/-- The device is linked to a user whom the directory connector has provisioned. -/
def DirectoryDevice (world : World) (deviceID : String) : Prop :=
  ∃ id row userID user, world.devices.rows.lookup id = some row ∧ row.deviceID = deviceID ∧
    row.clientUserID = some userID ∧ world.directory.clientUsers.rows.lookup userID = some user ∧
    user.oauthProvider = some Directory.provisionSource

def agentToken (env : Env) (world : World) (http : Http) (req : AgentAuthRequest)
    (choices : Nat → Choice) : Option (Signed MapClaims) :=
  ((authenticate env http (some req)).eval (exec env) choices world).1.token

def deviceOwner (world : World) (deviceID : String) : Option String :=
  (findRow (fun row => row.deviceID = deviceID) world.devices.rows).bind fun found =>
    found.2.clientUserID

def groupsOfOwner (world : World) (owner : Option String) : List String :=
  (world.directory.clientGroups.filterMap fun pair =>
    if some pair.1 = owner then (world.directory.groups.lookup pair.2).map (·.displayName)
    else none).insertionSort (· ≤ ·)

section
variable {sees : String → Bool} {choice : Choice} {world after : World}
variable {tenantID deviceID platform : String} {identity : MtlsClientIdentity}
variable {registered : DeviceRegistration}

theorem proposed_unlinked {excluded : Device} {now : Time}
    (proposed : (deviceRegistration tenantID deviceID platform identity).proposed now world =
      .ok excluded) : excluded.clientUserID = none := by
  unfold DeviceRegistration.proposed at proposed
  cases checked : OSType.check platform with
  | error err =>
    simp [deviceRegistration, checked] at proposed
    split_ifs at proposed
  | ok osType =>
    have nobody : nilIfEmptyString "" = none := rfl
    simp [deviceRegistration, checked, nobody]
      at proposed
    split_ifs at proposed
    cases proposed
    rfl

section
variable (done : Registered sees choice world
  (deviceRegistration tenantID deviceID platform identity) registered after)

include done

theorem Registered.owner :
    (if sees done.row.orgID then done.row.clientUserID else none) = deviceOwner world deviceID := by
  obtain ⟨-, sameID, -⟩ := proposed_ok done.proposed
  have unlinked := proposed_unlinked done.proposed
  rcases done.upserted with ⟨-, isNew, unknown⟩ | ⟨old, found, known, visible, renewed⟩
  · have nobody : findRow (fun row => decide (row.deviceID = deviceID)) world.devices.rows = none := by
      rw [findRow_eq_none_iff]
      intro id row foundRow
      rw [decide_eq_false_iff_not]
      intro same
      exact unknown id row foundRow (same.trans sameID.symm)
    rw [deviceOwner, nobody, isNew, unlinked, ite_self, bind_none]
  · have sole : findRow (fun row => decide (row.deviceID = deviceID)) world.devices.rows =
        some (registered.id, old) := by
      apply findRow_of_unique found (decide_eq_true (known.trans sameID))
      intro other row foundOther same
      exact world.devices.deviceIDs other registered.id row old foundOther found
        ((of_decide_eq_true same).trans (known.trans sameID).symm)
    have kept : done.row.clientUserID = old.clientUserID := by
      rw [renewed, Device.renew, unlinked]
      rfl
    have sameOrg : done.row.orgID = old.orgID := by
      rw [renewed]
      rfl
    rw [deviceOwner, sole, bind_some, kept, sameOrg, visible, if_pos rfl]

theorem groupNames_registered :
    groupNamesForDevice sees after registered.id =
      groupsOfOwner world (deviceOwner world deviceID) := by
  have rows : after.devices.rows = world.devices.rows.insert registered.id done.row := by
    rw [← done.rows]
    exact congrArg (fun world => world.devices.rows) done.isAfter
  have directory : after.directory = world.directory := by
    rw [done.isAfter]
  rw [← done.owner, groupNamesForDevice, rows, AList.lookup_insert, bind_some, directory]
  rfl

end

end

section
variable (orgID deviceID fingerprint serial : String) (groups : List String)
variable (domain : AgentTokenDomain) (now : Time)

theorem agentTokenClaims_groups :
    agentTokenClaims orgID deviceID fingerprint serial groups domain now "groups" =
      if groups = [] then none else some (.arr (groups.map .str)) := by
  unfold agentTokenClaims
  split_ifs <;> simp [MapClaims.set, MapClaims.ofList]

theorem agentTokenClaims_domainJoined :
    agentTokenClaims orgID deviceID fingerprint serial groups domain now "domain_joined" =
      some (.bool domain.domainJoined) := by
  unfold agentTokenClaims
  split_ifs <;> simp [MapClaims.set]

theorem agentTokenClaims_upn :
    agentTokenClaims orgID deviceID fingerprint serial groups domain now "upn" =
      upnClaim domain.upn := by
  unfold agentTokenClaims upnClaim
  split_ifs <;> simp [MapClaims.set, MapClaims.ofList]

end

/-! ## Requests that are answered with a token -/

/-- The groups that a lookup answers; a failed one counts as none. -/
def answeredGroups (choice : Choice) (groups : List String) : List String :=
  if choice.failure.isSome then [] else groups

theorem issueAgentToken_claims (env : Env) (world : World)
    (orgID deviceID fingerprint serial : String) (groups : List String)
    (domain : AgentTokenDomain) :
    Ensures (exec env) (fun _ => True)
      (fun result _ => ∀ issued, result = .ok issued → ∃ now, issued.1.claims =
        agentTokenClaims orgID deviceID fingerprint serial groups domain now)
      (issueAgentToken orgID deviceID fingerprint serial groups domain) world := by
  unfold issueAgentToken
  rw [ensures_call]
  intro clock _
  apply ensures_check
  · intro _ issued isIssued
    cases isIssued
  intro _
  rw [ensures_call]
  intro choice _
  simp only [exec, attempt]
  cases choice.failure with
  | some err =>
    intro issued isIssued
    cases isIssued
  | none =>
    simp

theorem enrol_token {env : Env} {world : World} {req : AgentAuthRequest} {deviceID : String}
    {identity : MtlsClientIdentity} {choices : Nat → Choice} {token : Signed MapClaims}
    (answered : ((enrol req deviceID identity).eval (exec env) choices world).1.token =
      some token) :
    ∃ id now, token.claims = agentTokenClaims req.tenantID id
      identity.fingerprintSHA256 identity.serial
      (answeredGroups (choices 1) (groupsOfOwner world (deviceOwner world deviceID)))
      ⟨req.attests, req.upn⟩ now := by
  unfold enrol at answered
  rw [eval_call] at answered
  simp [exec, registerMTLSDevice] at answered
  cases committed : registration env.sees (choices 0) world
      (deviceRegistration req.tenantID deviceID req.platform identity) with
  | error err =>
    rw [committed] at answered
    cases err with
    | licenseLimitReached | failed message => cases answered
  | ok result =>
    obtain ⟨done⟩ := registration_ok committed
    simp [committed] at answered
    rw [eval_call] at answered
    have groups : ((exec env (choices 1) result.2 (.groupNamesForDevice result.1.id)).1.toOption.getD
        []) = answeredGroups (choices 1) (groupsOfOwner world (deviceOwner world deviceID)) := by
      rw [← groupNames_registered done]
      simp [exec, attempt, answeredGroups]
      cases (choices 1).failure with
      | some err => rfl
      | none => rfl
    rw [groups] at answered
    -- what follows the lookup issues the token for the groups it is given
    let Issued : Reply → World → Prop := fun reply _ => reply.token = some token →
      ∃ id now, token.claims = agentTokenClaims req.tenantID id identity.fingerprintSHA256
        identity.serial
        (answeredGroups (choices 1) (groupsOfOwner world (deviceOwner world deviceID)))
        ⟨req.attests, req.upn⟩ now
    refine (eval_ensures _ (fun _ => trivial)
      (?_ : Ensures (exec env) (fun _ => True) Issued _ _) : Issued _ _) answered
    refine ensures_then (issueAgentToken_claims env _ _ _ _ _ _ _) fun issued now claims => ?_
    cases issued with
    | error err =>
      intro isToken
      cases isToken
    | ok issued =>
      intro choice _ isToken
      cases isToken
      exact ⟨_, claims issued rfl⟩

theorem agentToken_claims {env : Env} {world : World} {http : Http} {req : AgentAuthRequest}
    {choices : Nat → Choice} {token : Signed MapClaims}
    (answered : agentToken env world http req choices = some token) :
    ∃ id fingerprint serial now, token.claims = agentTokenClaims req.tenantID id fingerprint serial
      (answeredGroups (choices 2) (groupsOfOwner world (deviceOwner world req.device)))
      ⟨req.attests, req.upn⟩ now := by
  have isDevice : (if req.deviceID = "" then req.clientID else req.deviceID) = req.device := rfl
  unfold agentToken authenticate at answered
  simp [isDevice] at answered
  split at answered
  · cases answered
  rw [eval_call] at answered
  simp [exec] at answered
  cases presented : clientCertificateIdentity env (choices 0).now http with
  | none =>
    rw [presented] at answered
    cases answered
  | some identity =>
    simp [presented] at answered
    split at answered
    · cases answered
    · grind [enrol_token]

/-- Two requests for one device in the same state of the database, whose group lookups both fail
or both succeed: the tokens agree, and attest a domain account only to a device of the
directory, exactly when the bodies do. -/
theorem agent_claims_agree_iff (env : Env) (world : World) (firstHttp secondHttp : Http)
    (first second : AgentAuthRequest) (firstChoices secondChoices : Nat → Choice)
    (firstToken secondToken : Signed MapClaims) (sameDevice : first.device = second.device)
    (sameFailure : (firstChoices 2).failure.isSome = (secondChoices 2).failure.isSome)
    (firstAnswered : agentToken env world firstHttp first firstChoices = some firstToken)
    (secondAnswered : agentToken env world secondHttp second secondChoices = some secondToken) :
    (AgreeOnClaims firstToken.claims secondToken.claims ∧
        (DomainJoined firstToken.claims → DirectoryDevice world first.device) ∧
        (DomainJoined secondToken.claims → DirectoryDevice world second.device)) ↔
      (first.attests = second.attests ∧ upnClaim first.upn = upnClaim second.upn ∧
        (first.attests = true → DirectoryDevice world first.device)) := by
  obtain ⟨_, _, _, _, firstClaims⟩ := agentToken_claims firstAnswered
  obtain ⟨_, _, _, _, secondClaims⟩ := agentToken_claims secondAnswered
  have sameGroups : answeredGroups (firstChoices 2)
        (groupsOfOwner world (deviceOwner world first.device)) =
      answeredGroups (secondChoices 2)
        (groupsOfOwner world (deviceOwner world second.device)) := by
    rw [answeredGroups, answeredGroups, sameFailure, sameDevice]
  simp [AgreeOnClaims, DomainJoined, firstClaims, secondClaims, agentTokenClaims_groups,
    agentTokenClaims_domainJoined, agentTokenClaims_upn, sameGroups, Json.bool.injEq, ← sameDevice]
  grind

/-- The laptop of an organization with a licence; nobody is linked to it. -/
def unlinkedLaptop : World where
  organizations := (∅ : Table String Organization).insert "acme" (.unused 1)
  devices := .ofRows
    [("row-1",
      { orgID := "acme"
        deviceID := "laptop-7"
        mtlsCertSerial := some "17"
        mtlsCertFingerprint := some "ab"
        mtlsCertNotAfter := some 100
        status := some .inactive })]
  directory := .empty

def localLogin : AgentAuthRequest where
  tenantID := "acme"
  deviceID := "laptop-7"
  platform := "windows"

def domainLogin : AgentAuthRequest :=
  { localLogin with domainJoined := "true", upn := "director@acme.example" }

def tokenFor (req : AgentAuthRequest) : Option (Signed MapClaims) :=
  agentToken twoIssuers unlinkedLaptop (withCertificate [7] "laptop-7") req fun _ => {}

theorem local_logins_agree :
    ∃ first second, tokenFor localLogin = some first ∧
      tokenFor { localLogin with clientID := "agent-1" } = some second ∧
      AgreeOnClaims first.claims second.claims := by
  refine ⟨_, _, rfl, rfl, ?_⟩
  exact ((agent_claims_agree_iff twoIssuers unlinkedLaptop (withCertificate [7] "laptop-7")
    (withCertificate [7] "laptop-7") localLogin { localLogin with clientID := "agent-1" }
    (fun _ => {}) (fun _ => {}) _ _ rfl rfl rfl rfl).mpr
      ⟨rfl, rfl, fun attests => absurd attests (by decide)⟩).1

/-- The body alone makes the session one of the domain. -/
theorem domain_login_attested :
    ∃ first second, tokenFor localLogin = some first ∧ tokenFor domainLogin = some second ∧
      ¬ AgreeOnClaims first.claims second.claims ∧ DomainJoined second.claims ∧
      ¬ DirectoryDevice unlinkedLaptop "laptop-7" := by
  refine ⟨_, _, rfl, rfl, ?_, rfl, ?_⟩
  · intro agree
    have same := some.inj agree.2.1
    cases same
  · rintro ⟨id, row, userID, user, found, -, isOwner, -⟩
    rw [lookup_eq_some_iff] at found
    have only : unlinkedLaptop.devices.rows.entries = [⟨"row-1", _⟩] := rfl
    rw [only, List.mem_singleton] at found
    cases found
    cases isOwner

end ManagementPlane.Devices
