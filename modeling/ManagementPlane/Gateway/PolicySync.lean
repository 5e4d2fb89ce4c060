import ManagementPlane.Policy.History

/-!
# Handing policies to a gateway

`GetPolicies` of `internal/api/handlers/gateway_handler.go` and `SyncPolicies` of
`internal/grpcserver/server.go` read the policies with `List` and the version with
`Version`. Each takes the store mutex on its own, so any calls can land between
the two; `between` is what landed.

The policies in a reply are those of the version it reports exactly when the calls
in between leave the policy map as it was.
-/

namespace ManagementPlane.Gateway

open GoStrings Tables Runs Policy

structure PoliciesReply where
  policies : List SecurityPolicy
  version : Int

def getPolicies (s : Store) (order : MapOrder SecurityPolicy) (between : List Call) :
    PoliciesReply :=
  { policies := list s order
    version := (run Policy.apply s between).version }

inductive Code where
  | invalidArgument
  | unauthenticated
  | permissionDenied

inductive SyncError where
  | status (code : Code) (message : String)
  | marshalPolicies

/-- What a gRPC call carries about its peer: the common names of the TLS peer
certificates and the metadata of the load balancer. -/
structure CallContext where
  peerCertificates : List String
  metadata : String → List String
  queryUnescape : String → Option String

def extractCN (subject : String) : String :=
  match ((split subject ',').map trimSpace).find? fun part => hasPrefix part "CN=" with
  | some part => trimPrefix part "CN="
  | none => ""

def gatewayIDFromPeerCertificate (ctx : CallContext) : String := ctx.peerCertificates.headD ""

def subjectCN (ctx : CallContext) (key : String) : String :=
  match ctx.metadata key with
  | [] => ""
  | value :: _ => extractCN ((ctx.queryUnescape value).getD value)

def gatewayIDFromALBMTLSMetadata (ctx : CallContext) : String :=
  let cn := subjectCN ctx "x-amzn-mtls-clientcert-subject"
  if cn ≠ "" then cn else subjectCN ctx "x-amzn-mtls-clientcert-subjectdn"

def gatewayIDMatchesCertificate (claimed certCN : String) : Bool :=
  claimed = certCN || claimed = trimPrefix certCN "apexaegis-gw-"

def authorizeGateway (requireClientIdentity : Bool) (ctx : CallContext) (gatewayID : String) :
    Except SyncError Unit :=
  if gatewayID = "" then .error (.status .invalidArgument "gateway_id is required")
  else if requireClientIdentity = false then .ok ()
  else
    let peerID := gatewayIDFromPeerCertificate ctx
    let certGatewayID := if peerID = "" then gatewayIDFromALBMTLSMetadata ctx else peerID
    if certGatewayID = "" then
      .error (.status .unauthenticated "gateway mTLS identity is required")
    else if gatewayIDMatchesCertificate gatewayID certGatewayID then .ok ()
    else .error (.status .permissionDenied "gateway_id does not match mTLS certificate")

/-- The reply carries no policies: the conversion of the encoded policies is a
placeholder in the source. `read` is what the handler read for it. -/
structure SyncPoliciesResponse where
  version : Int
  fullSync : Bool
  policies : List SecurityPolicy
  read : List SecurityPolicy

def syncPolicies (requireClientIdentity : Bool) (ctx : CallContext) (gatewayID : String)
    (s : Store) (order : MapOrder SecurityPolicy) (between : List Call) :
    Except SyncError SyncPoliciesResponse := do
  authorizeGateway requireClientIdentity ctx gatewayID
  let policies := list s order
  match policies.mapM marshal with
  | none => throw .marshalPolicies
  | some _ =>
    return {
      version := (run Policy.apply s between).version
      fullSync := true
      policies := []
      read := policies }

theorem syncPolicies_ok {requireClientIdentity : Bool} {ctx : CallContext} {gatewayID : String}
    {s : Store} {order : MapOrder SecurityPolicy} {between : List Call}
    {response : SyncPoliciesResponse}
    (answered : syncPolicies requireClientIdentity ctx gatewayID s order between = .ok response) :
    response.read = list s order ∧ response.version = (run Policy.apply s between).version := by
  simp [syncPolicies] at answered
  cases authorized : authorizeGateway requireClientIdentity ctx gatewayID with
  | error err =>
    rw [authorized] at answered
    cases answered
  | ok done =>
    rw [authorized] at answered
    cases encoded : (list s order).mapM marshal with
    | none =>
      rw [encoded] at answered
      cases answered
    | some texts =>
      rw [encoded] at answered
      cases answered
      exact ⟨rfl, rfl⟩

/-- The policies are those of some version, committed by the end of `calls`, that is
not older than the reported one. -/
def AtLeastAsNew (calls : List Call) (policies : List SecurityPolicy) (reported : Int) : Prop :=
  ∃ version table, reported ≤ version ∧ committedAt calls version = some table ∧
    ∀ id, (policySnapshotMap policies).lookup id = table.lookup id

def LeavesPolicies (s : Store) (between : List Call) : Prop :=
  ∀ id, Policy.get (run Policy.apply s between) id = Policy.get s id

theorem lookup_list {s : Store} (order : MapOrder SecurityPolicy)
    (keyed : Keyed SecurityPolicy.id s.policies) (id : String) :
    (policySnapshotMap (list s order)).lookup id = s.policies.lookup id :=
  lookup_indexBy_of_perm keyed
    (sortedValues_perm order SecurityPolicy.sequence s.policies) id

theorem atLeastAsNew_iff (before between : List Call) (order : MapOrder SecurityPolicy) :
    AtLeastAsNew (before ++ between) (list (storeAfter before) order)
        (run Policy.apply (storeAfter before) between).version ↔
      LeavesPolicies (storeAfter before) between := by
  have last : storeAfter (before ++ between) = run Policy.apply (storeAfter before) between :=
    run_append Policy.apply newStore before between
  have current := committedAt_current (before ++ between)
  rw [last] at current
  have read := lookup_list order (keyed_storeAfter before)
  constructor
  · rintro ⟨version, table, notOlder, committed, sameMap⟩ id
    have bound := committedAt_le committed
    rw [last] at bound
    have versionEq : version = (run Policy.apply (storeAfter before) between).version := by omega
    rw [versionEq, current, Option.some.injEq] at committed
    simp [Policy.get]
    rw [committed, ← sameMap, read]
  · intro unchanged
    refine ⟨_, _, le_refl _, current, ?_⟩
    intro id
    rw [read]
    exact (unchanged id).symm

/-- Both endpoints, over every interleaving: the policies read for the reply are at
least as new as the version in it exactly when the calls that land between the two
reads leave the policy map as it was. -/
theorem synced_policies_current_iff (before between : List Call) (order : MapOrder SecurityPolicy) :
    (AtLeastAsNew (before ++ between) (getPolicies (storeAfter before) order between).policies
        (getPolicies (storeAfter before) order between).version ↔
      LeavesPolicies (storeAfter before) between) ∧
    ∀ requireClientIdentity ctx gatewayID response,
      syncPolicies requireClientIdentity ctx gatewayID (storeAfter before) order between =
          .ok response →
        (AtLeastAsNew (before ++ between) response.read response.version ↔
          LeavesPolicies (storeAfter before) between) := by
  refine ⟨atLeastAsNew_iff before between order, ?_⟩
  intro requireClientIdentity ctx gatewayID response answered
  obtain ⟨readEq, versionEq⟩ := syncPolicies_ok answered
  grind [atLeastAsNew_iff]

def anonymousContext : CallContext := ⟨[], fun _ => [], some⟩

/-- A policy is created between the two reads: the reply reports version 1 without it. -/
def createdBetween : List Call :=
  [⟨0, .create { id := "p1", name := "Allow" } "alice" .asStored 0⟩]

/-- The lock is taken, and a policy that is not there deleted, between the two reads. -/
theorem undisturbed_sync_current :
    let between : List Call := [⟨1, .lock "alice" 1 1⟩, ⟨2, .delete "p2" "alice" .asStored 2⟩]
    ∃ response, syncPolicies false anonymousContext "gw-1" (storeAfter createdBetween) .asStored
        between = .ok response ∧ response.version = 1 ∧
      response.read.map SecurityPolicy.id = ["p1"] ∧
      AtLeastAsNew (createdBetween ++ between) response.read response.version := by
  intro between
  have answered : syncPolicies false anonymousContext "gw-1" (storeAfter createdBetween) .asStored
      between = .ok ⟨1, true, [], list (storeAfter createdBetween) .asStored⟩ := rfl
  have current := (synced_policies_current_iff createdBetween between .asStored).2 false
    anonymousContext "gw-1" _ answered
  refine ⟨_, answered, rfl, by decide +kernel, current.mpr ?_⟩
  intro id
  rfl

theorem createdBetween_skipped :
    ¬ AtLeastAsNew ([] ++ createdBetween)
      (getPolicies (storeAfter []) .asStored createdBetween).policies
      (getPolicies (storeAfter []) .asStored createdBetween).version := by
  intro current
  have unchanged := (atLeastAsNew_iff [] createdBetween .asStored).mp current "p1"
  have present := congrArg Option.isSome unchanged
  exact absurd present (by decide)

end ManagementPlane.Gateway
