import ManagementPlane.Db.AddressStore
import ManagementPlane.Policy.Store

/-!
# The access assistant

`ExplainAccess` and `GrantAccess` of `internal/assistant/service.go`. An explanation is the first
enabled policy, by sequence, that names the user and lists an object covering the host. A grant
makes an object for the host if there is none, finds a sequence above the first policy that already
matches, moves the later ones down when there is no room, and creates an allow policy.

The directory answers two queries, which fail or succeed as they like; the policies are in the
store of `internal/policy/store.go`. A sequence is an `int` and wraps.
-/

namespace ManagementPlane.Assistant

open GoJson GoStrings Tables
open Db (AddressObject AddressTable AddressChoice Text normalizeHost)
open Policy (SecurityPolicy Time)

structure ConnectorUser where
  sid : String := ""
  upn : String := ""
  samAccountName : String := ""
  displayName : String := ""
  email : String := ""
  enabled : Bool := false
  groupSIDs : List String := []

structure NativeGroupRef where
  id : String
  displayName : String
  externalID : String := ""

structure DeviceInventoryItem where
  id : String
  deviceID : String
  deviceName : String
  complianceStatus : String

structure DirectoryStore where
  resolveUsers : String → Except String (List ConnectorUser)
  nativeGroupsForUser : List String → Except String (List NativeGroupRef)

/-- The case mappings, the verb `%q`, and JSON: the list of one id is read back as it was
written. -/
structure Env where
  text : Text
  quote : String → String
  marshal : List String → String
  unmarshal : String → Option Json
  reads : ∀ id, unmarshal (marshal [id]) = some (stringsDocument [id])
  nonempty : ∀ id, marshal [id] ≠ ""

structure Service where
  env : Env
  dir : DirectoryStore
  devices : Option (String → Except String (List DeviceInventoryItem)) := none
  orgID : String

/-- The policies sit under their ids. -/
structure State where
  policies : Policy.Store
  keyed : Keyed SecurityPolicy.id policies.policies
  addresses : AddressTable

structure UserRef where
  sid : String
  displayName : String
  upn : String
  samAccountName : String
  enabled : Bool

structure PolicyRef where
  id : String := ""
  name : String
  action : String
  sequence : Int

structure ExplainResult where
  user : Option UserRef := none
  groups : List String := []
  destination : String
  decision : String
  policy : Option PolicyRef := none
  reason : String
  candidates : List UserRef := []

inductive Scope where
  | user
  | group
  deriving DecidableEq

structure GrantOptions where
  scope : String := ""
  urlCategory : String := ""

def GrantOptions.granted (opts : GrantOptions) : Scope :=
  if opts.scope = "user" then .user else .group

structure GrantResult where
  user : Option UserRef := none
  groups : List String := []
  destination : String
  scope : Scope
  addressObject : Option AddressObject := none
  policy : Option PolicyRef := none
  applied : Bool := false
  decision : String
  reason : String
  warning : String := ""
  candidates : List UserRef := []

def userRef (u : ConnectorUser) : UserRef :=
  ⟨u.sid, u.displayName, u.upn, u.samAccountName, u.enabled⟩

def toUserRefs (users : List ConnectorUser) : List UserRef := users.map userRef

def displayName (u : ConnectorUser) : String :=
  if trimSpace u.displayName ≠ "" then u.displayName else u.samAccountName

inductive Problem where
  | userNotFound
  | ambiguous

def Problem.text : Problem → String
  | .userNotFound => "user_not_found"
  | .ambiguous => "ambiguous"

inductive Resolution where
  | found (u : ConnectorUser) (groups : List NativeGroupRef)
  | problem (what : Problem) (candidates : List UserRef)

def resolve (dir : DirectoryStore) (query : String) : Except String Resolution :=
  match dir.resolveUsers query with
  | .error err => .error err
  | .ok [] => .ok (.problem .userNotFound [])
  | .ok [u] =>
    match dir.nativeGroupsForUser u.groupSIDs with
    | .error err => .error err
    | .ok groups => .ok (.found u groups)
  | .ok users => .ok (.problem .ambiguous (toUserRefs users))

def problemReason (env : Env) (query : String) (n : Nat) : Problem → String
  | .userNotFound => "No directory user matches " ++ env.quote query ++ "."
  | .ambiguous => toString n ++ " users match " ++ env.quote query ++ " — please disambiguate."

def groupNames (groups : List NativeGroupRef) : Table String String :=
  groups.foldl (fun names g => names.insert g.id g.displayName) ∅

def firstGroupMatch (policyGroups : Option (List String)) (userGroups : Table String String) :
    String :=
  ((policyGroups.getD []).find? fun gid => (userGroups.lookup gid).isSome).getD ""

section
variable (env : Env)

def handle (s : String) : String := env.text.toLower (trimSpace s)

def userIdentifiers (u : ConnectorUser) : List String :=
  ([u.samAccountName, u.upn, u.displayName].map (handle env)).filter (· ≠ "")

def userMatch (policyUsers : Option (List String)) (ids : List String) : Bool :=
  (policyUsers.getD []).any fun pu => ids.contains (handle env pu)

def destMatch (raw : Option String) (candidates : Table String AddressObject) :
    Option AddressObject :=
  match raw with
  | none => none
  | some "" => none
  | some written =>
    match (env.unmarshal written).bind (decodeSlice decodeString) with
    | none => none
    | some ids => ids.findSome? candidates.lookup

def sourceMatch (groups : Table String String) (ids : List String) (p : SecurityPolicy) : Bool :=
  firstGroupMatch p.sourceUserGroups groups ≠ "" || userMatch env p.sourceUsers ids

def policyMatch (groups : Table String String) (ids : List String)
    (candidates : Table String AddressObject) (p : SecurityPolicy) : Bool :=
  p.enabled && sourceMatch env groups ids p && (destMatch env p.destAddresses candidates).isSome

end

def candidateTable (addrs : List AddressObject) : Table String AddressObject :=
  indexBy AddressObject.id addrs

def actionToDecision (action : String) : String :=
  if action = "deny" then "deny" else if action = "allow" then "allow" else action

section
variable (svc : Service)

def candidatesFor (s : State) (destination : String) : Table String AddressObject :=
  candidateTable (s.addresses.findMatching svc.env.text svc.orgID destination)

def matchedReason (names : Table String String) (p : SecurityPolicy) (addr : AddressObject) :
    String :=
  let matchedGroup := firstGroupMatch p.sourceUserGroups names
  let scopeDesc :=
    if matchedGroup ≠ "" then "group " ++ svc.env.quote ((names.lookup matchedGroup).getD "")
    else "the user directly"
  "Matched by " ++ scopeDesc ++ " and destination object " ++ svc.env.quote addr.name ++
    " (policy " ++ svc.env.quote p.name ++ ", sequence " ++ toString p.sequence ++ ")."

/-- `order` is how the map of the policies is visited, `findFailure` the failure of the query for
the objects. -/
def explainAccess (s : State) (order : MapOrder SecurityPolicy) (findFailure : Option String)
    (userQuery destination : String) : Except String ExplainResult :=
  let host := normalizeHost svc.env.text destination
  match resolve svc.dir userQuery with
  | .error err => .error err
  | .ok (.problem what candidates) =>
    .ok { destination := host, decision := what.text, candidates := candidates,
          reason := problemReason svc.env userQuery candidates.length what }
  | .ok (.found u groups) =>
    match findFailure with
    | some err => .error ("list address objects: " ++ err)
    | none =>
      let names := groupNames groups
      let candAddr := candidatesFor svc s destination
      let base : ExplainResult :=
        { user := some (userRef u), groups := groups.map (·.displayName), destination := host,
          decision := "no_matching_policy",
          reason := "No policy scoped to " ++ displayName u ++ "'s groups targets " ++ host ++
            "; default gateway behavior applies." }
      match (Policy.list s.policies order).find?
          (policyMatch svc.env names (userIdentifiers svc.env u) candAddr) with
      | none => .ok base
      | some p =>
        match destMatch svc.env p.destAddresses candAddr with
        | none => .ok base
        | some addr =>
          .ok { base with
            decision := actionToDecision p.action
            policy := some ⟨p.id, p.name, p.action, p.sequence⟩
            reason := matchedReason svc names p addr }

end

/-- The value of an `int`. -/
def wrap (n : Int) : Int := n.bmod (2 ^ 64)

structure Placement where
  seq : Int
  shifts : List SecurityPolicy
  blocking : Option SecurityPolicy

def shifted (p : SecurityPolicy) : SecurityPolicy := { p with sequence := wrap (p.sequence + 10) }

/-- The loop: `prev` is the sequence of the policy before. -/
def placeFrom (matched : SecurityPolicy → Bool) : Int → List SecurityPolicy → Option Placement
  | _, [] => none
  | prev, p :: rest =>
    if matched p then
      let blocking := if p.action = "deny" then some p else none
      let gap := wrap (p.sequence - prev)
      if 2 ≤ gap then some ⟨wrap (prev + gap.tdiv 2), [], blocking⟩
      else some ⟨p.sequence, (p :: rest).map shifted, blocking⟩
    else placeFrom matched p.sequence rest

def placeAboveFirstMatch (matched : SecurityPolicy → Bool) (policies : List SecurityPolicy) :
    Placement :=
  match placeFrom matched 0 policies with
  | some placement => placement
  | none =>
    match policies.getLast? with
    | some last => ⟨wrap (last.sequence + 10), [], none⟩
    | none => ⟨10, [], none⟩

section
variable (text : Text)

/-- The same body as `normalizeHost` of the address store. -/
def cleanHost (s : String) : String := normalizeHost text s

def addressName (host : String) : String :=
  text.toUpper (String.ofList ((cleanHost text host).toList.map fun c => if c = '.' then '-' else c))

def alphanumeric (c : Char) : Bool := ('a' ≤ c && c ≤ 'z') || ('0' ≤ c && c ≤ '9')

/-- Runs of other characters become one dash; `dash` says that the last character written is
one. -/
def dashed : Bool → List Char → List Char
  | _, [] => []
  | dash, c :: rest =>
    if alphanumeric c then c :: dashed false rest
    else if dash then dashed true rest
    else '-' :: dashed true rest

def slug (s : String) : String :=
  trim (String.ofList (dashed false (text.toLower (trimSpace s)).toList)) ['-']

def grantID (u : ConnectorUser) (destLabel : String) : String :=
  "apex-grant-" ++ slug text u.samAccountName ++ "-" ++ slug text destLabel

end

/-- The clock and the order of the snapshot in one call of the policy store. -/
structure Moment where
  now : Time := 0
  createdAt : Time := 0
  order : MapOrder SecurityPolicy := .asStored

section
variable (s : State) (p : SecurityPolicy) (author : String) (moment : Moment)

theorem update_keyed : Keyed SecurityPolicy.id
    (Policy.update s.policies p author moment.order moment.now moment.createdAt).2.policies := by
  unfold Policy.update
  dsimp only
  split_ifs
  · exact s.keyed
  · cases s.policies.policies.lookup p.id with
    | none => exact s.keyed
    | some old => exact keyed_insert SecurityPolicy.id s.policies.policies p s.keyed

theorem create_keyed : Keyed SecurityPolicy.id
    (Policy.create s.policies p author moment.order moment.now moment.createdAt).2.policies := by
  unfold Policy.create
  dsimp only
  split_ifs
  · exact s.keyed
  · exact keyed_insert SecurityPolicy.id s.policies.policies _ s.keyed

/-- `Update` with its results dropped. -/
def State.update : State where
  policies := (Policy.update s.policies p author moment.order moment.now moment.createdAt).2
  keyed := update_keyed s p author moment
  addresses := s.addresses

/-- `Create`: the message, and the state after. -/
def State.create : String × State :=
  ((Policy.create s.policies p author moment.order moment.now moment.createdAt).1.2,
    { policies := (Policy.create s.policies p author moment.order moment.now moment.createdAt).2
      keyed := create_keyed s p author moment
      addresses := s.addresses })

end

/-- The loop over the shifted copies; `moments` is asked for the calls from `i` on. -/
def applyShifts (author : String) (moments : Nat → Moment) :
    Nat → List SecurityPolicy → State → State
  | _, [], s => s
  | i, p :: rest, s => applyShifts author moments (i + 1) rest (s.update p author (moments i))

/-! ## Granting -/

/-- What the stores and the clock decide during a grant: how the policies are listed, whether the
query for the objects fails, what the address table answers, and the calls of the policy store. -/
structure GrantChoice where
  list : MapOrder SecurityPolicy := .asStored
  findFailure : Option String := none
  address : AddressChoice := {}
  shifts : Nat → Moment := fun _ => {}
  create : Moment := {}

variable (svc : Service)

def nonCompliant (found : List DeviceInventoryItem) (acc : List String × List String) :
    List String × List String :=
  found.foldl (fun (seen, bad) d =>
    if d.id ∈ seen then (seen, bad)
    else if d.complianceStatus = "non_compliant" then
      (d.id :: seen, bad ++ [if d.deviceName = "" then d.deviceID else d.deviceName])
    else (d.id :: seen, bad)) acc

def postureWarning (u : ConnectorUser) : String :=
  match svc.devices with
  | none => ""
  | some listDevices =>
    let bad := ([u.upn, u.displayName, u.samAccountName].foldl (fun acc term =>
      if trimSpace term = "" then acc
      else
        match listDevices term with
        | .error _ => acc
        | .ok devs => nonCompliant devs acc) ([], [])).2
    if bad = [] then ""
    else "⚠ " ++ displayName u ++ " has a non-compliant device (" ++ String.intercalate ", " bad ++
      ") — this access will let that device connect unless the policy requires compliant devices."

def sourceUsers (scope : Scope) (u : ConnectorUser) : Option (List String) :=
  match scope with
  | .user => some [u.samAccountName]
  | .group => none

def sourceGroups (scope : Scope) (groups : List NativeGroupRef) : Option (List String) :=
  match scope with
  | .user => none
  | .group => some (groups.map (·.id))

def matchGroups (scope : Scope) (groups : List NativeGroupRef) : Table String String :=
  match scope with
  | .user => ∅
  | .group => groupNames groups

def matchUsers (scope : Scope) (u : ConnectorUser) : List String :=
  match scope with
  | .user => userIdentifiers svc.env u
  | .group => []

def grantCandidates (s : State) (choice : GrantChoice) (category destination : String) :
    Table String AddressObject :=
  if category = "" then
    match choice.findFailure with
    | some _ => ∅
    | none => candidatesFor svc s destination
  else ∅

def policyName (u : ConnectorUser) (destLabel : String) : String :=
  "Allow " ++ displayName u ++ " → " ++ destLabel

def allowPolicy (scope : Scope) (u : ConnectorUser) (groups : List NativeGroupRef)
    (destLabel : String) (seq : Int) : SecurityPolicy :=
  { id := grantID svc.env.text u destLabel
    orgID := svc.orgID
    name := policyName u destLabel
    sequence := seq
    enabled := true
    action := "allow"
    sourceUserGroups := sourceGroups scope groups
    sourceUsers := sourceUsers scope u
    logTraffic := true
    logSecurityEvents := true }

/-- The destination of the policy, the object made for it, and the table after. -/
def withDestination (s : State) (choice : GrantChoice) (category destination : String)
    (p : SecurityPolicy) : Except String (SecurityPolicy × Option AddressObject × AddressTable) :=
  if category ≠ "" then .ok ({ p with destURLCategories := some [category] }, none, s.addresses)
  else
    let host := cleanHost svc.env.text destination
    match s.addresses.upsertFQDN svc.env.text choice.address svc.orgID
        (addressName svc.env.text host) destination with
    | .error err => .error err
    | .ok (addr, after) =>
      .ok ({ p with destAddresses := some (svc.env.marshal [addr.id]) }, some addr, after)

def scopeText (scope : Scope) (u : ConnectorUser) (groups : List NativeGroupRef) : String :=
  match scope with
  | .user => "user " ++ displayName u
  | .group => "groups: " ++ String.intercalate ", " (groups.map (·.displayName))

def withWarning (reason warning : String) : String :=
  if warning ≠ "" then reason ++ " " ++ warning else reason

def previewReason (scope : Scope) (u : ConnectorUser) (groups : List NativeGroupRef)
    (destLabel warning : String) (placement : Placement) : String :=
  let ready := "Ready to grant " ++ displayName u ++ " access to " ++ destLabel ++ " via " ++
    scopeText scope u groups ++ " (sequence " ++ toString placement.seq ++ ")."
  let placed :=
    match placement.blocking with
    | some deny => ready ++ " It will sit above the blocking deny " ++ svc.env.quote deny.name ++
        " (sequence " ++ toString deny.sequence ++ ") so the allow wins."
    | none => ready
  withWarning placed warning ++ " Confirm to apply."

def appliedReason (scope : Scope) (u : ConnectorUser) (groups : List NativeGroupRef)
    (destLabel warning : String) (placement : Placement) : String :=
  let added := displayName u ++ " was added to access " ++ destLabel ++ " via " ++
    scopeText scope u groups ++ " in policy " ++ svc.env.quote (policyName u destLabel) ++
    " (sequence " ++ toString placement.seq ++ ")."
  let placed :=
    match placement.blocking with
    | some deny => added ++ " Placed above the blocking deny " ++ svc.env.quote deny.name ++
        " so the allow takes effect."
    | none => added
  withWarning placed warning

/-- The part of a grant after the preview: the object, the shifts, the policy. -/
def applyGrant (s : State) (choice : GrantChoice) (category destination destLabel : String)
    (scope : Scope) (u : ConnectorUser) (groups : List NativeGroupRef) (placement : Placement)
    (author : String) (base : GrantResult) : Except String GrantResult × State :=
  match withDestination svc s choice category destination
      (allowPolicy svc scope u groups destLabel placement.seq) with
  | .error err => (.error err, s)
  | .ok (p, addr, after) =>
    let moved := applyShifts author choice.shifts 0 placement.shifts { s with addresses := after }
    let created := moved.create p author choice.create
    if created.1 ≠ "" then (.error ("create allow policy: " ++ created.1), created.2)
    else
      (.ok { base with
        addressObject := addr
        policy := some ⟨p.id, policyName u destLabel, "allow", placement.seq⟩
        applied := true
        decision := "ok"
        reason := appliedReason svc scope u groups destLabel base.warning placement }, created.2)

def grantAccess (s : State) (choice : GrantChoice) (userQuery destination : String)
    (opts : GrantOptions) (confirm : Bool) (author : String) : Except String GrantResult × State :=
  let scope := opts.granted
  let category := trimSpace opts.urlCategory
  let destLabel :=
    if category ≠ "" then "the " ++ category ++ " category" else cleanHost svc.env.text destination
  match resolve svc.dir userQuery with
  | .error err => (.error err, s)
  | .ok (.problem what candidates) =>
    (.ok { destination := destLabel, scope := scope, decision := what.text,
           candidates := candidates,
           reason := problemReason svc.env userQuery candidates.length what }, s)
  | .ok (.found u groups) =>
    let base : GrantResult :=
      { user := some (userRef u), groups := groups.map (·.displayName), destination := destLabel,
        scope := scope, decision := "", reason := "" }
    if scope = .group ∧ groups = [] then
      (.ok { base with
        decision := "no_groups"
        reason := displayName u ++ " has no bridged groups — grant to the user directly " ++
          "(scope=user), or run the directory bridge first." }, s)
    else
      let warning := postureWarning svc u
      let placement := placeAboveFirstMatch
        (policyMatch svc.env (matchGroups scope groups) (matchUsers svc scope u)
          (grantCandidates svc s choice category destination))
        (Policy.list s.policies choice.list)
      if confirm = false then
        (.ok { base with
          decision := "preview"
          policy := some { name := policyName u destLabel, action := "allow",
                           sequence := placement.seq }
          warning := warning
          reason := previewReason svc scope u groups destLabel warning placement }, s)
      else
        applyGrant svc s choice category destination destLabel scope u groups placement author
          { base with warning := warning }

end ManagementPlane.Assistant
