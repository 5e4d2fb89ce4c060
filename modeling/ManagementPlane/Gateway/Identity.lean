import ManagementPlane.Gateway.PolicySync
import ManagementPlane.Gateway.Registry
import ManagementPlane.Middleware.Guards

/-!
# Who a gateway is

`GatewayAuth` of `internal/api/middleware/auth.go` for the HTTP routes and
`authorizeGateway` of `internal/grpcserver/server.go` for the gRPC ones. Both read the
common name of a client certificate that the load balancer has verified; the HTTP routes
also take an API key.

The API keys are those registered when the server starts. Percent decoding is a
parameter.
-/

namespace ManagementPlane.Gateway

open GoStrings Tables
open Devices (Certificate)
open Middleware (bearerPrefix)

structure Env where
  mtlsEnabled : Bool
  queryUnescape : String → Option String
  apiKeys : Table String String
  requireClientIdentity : Bool

inductive AuthMethod where
  | mtls
  | apiKey
  deriving DecidableEq

structure Identity where
  gatewayID : String
  method : AuthMethod
  deriving DecidableEq

def decodedSubject (env : Env) (subjectHeader : String) : String :=
  (env.queryUnescape subjectHeader).getD subjectHeader

def certificateGatewayID (env : Env) (header : String → String) : String :=
  let subjectHeader := header "X-Amzn-Mtls-Clientcert-Subject"
  if env.mtlsEnabled = false ∨ subjectHeader = "" then ""
  else Devices.extractCN (decodedSubject env subjectHeader)

def presentedKey (header : String → String) : String :=
  if header "X-Gateway-Key" ≠ "" then header "X-Gateway-Key"
  else if hasPrefix (header "Authorization") bearerPrefix then
    trimPrefix (header "Authorization") bearerPrefix
  else ""

/-- What the middleware puts into the context of a request, or nothing when it aborts. -/
def gatewayAuth (env : Env) (header : String → String) : Option Identity :=
  if certificateGatewayID env header ≠ "" then some ⟨certificateGatewayID env header, .mtls⟩
  else if presentedKey header = "" then none
  else (env.apiKeys.lookup (presentedKey header)).map fun gatewayID => ⟨gatewayID, .apiKey⟩

theorem gatewayAuth_mtls {env : Env} {header : String → String} {identity : Identity}
    (authenticated : gatewayAuth env header = some identity) (mtls : identity.method = .mtls) :
    identity.gatewayID = certificateGatewayID env header ∧ identity.gatewayID ≠ "" := by
  rw [gatewayAuth] at authenticated
  split at authenticated
  · rename_i named
    cases authenticated
    exact ⟨rfl, named⟩
  · split at authenticated
    · cases authenticated
    · obtain ⟨gatewayID, -, rfl⟩ := Option.map_eq_some_iff.mp authenticated
      cases mtls

theorem gatewayAuth_mtls_extractCN {env : Env} {header : String → String} {identity : Identity}
    (authenticated : gatewayAuth env header = some identity) (mtls : identity.method = .mtls) :
    identity.gatewayID =
      Devices.extractCN (decodedSubject env (header "X-Amzn-Mtls-Clientcert-Subject")) := by
  obtain ⟨same, named⟩ := gatewayAuth_mtls authenticated mtls
  rw [same, certificateGatewayID] at named ⊢
  split_ifs at named ⊢
  · exact absurd rfl named
  · rfl

structure Peer where
  peerCertificates : List Certificate
  metadata : String → List String

def Peer.context (env : Env) (peer : Peer) : CallContext :=
  ⟨peer.peerCertificates.map Certificate.commonName, peer.metadata, env.queryUnescape⟩

def subjectKeys : List String :=
  ["x-amzn-mtls-clientcert-subject", "x-amzn-mtls-clientcert-subjectdn"]

def certGatewayID (env : Env) (peer : Peer) : String :=
  let peerID := gatewayIDFromPeerCertificate (peer.context env)
  if peerID = "" then gatewayIDFromALBMTLSMetadata (peer.context env) else peerID

theorem extractCN_eq_devices (subject : String) : extractCN subject = Devices.extractCN subject := by
  unfold extractCN Devices.extractCN
  cases ((split subject ',').map trimSpace).find? fun part => hasPrefix part "CN=" <;> rfl

theorem gatewayIDMatchesCertificate_issued (claimed gatewayID : String) :
    gatewayIDMatchesCertificate claimed ("apexaegis-gw-" ++ gatewayID) = true ↔
      claimed = "apexaegis-gw-" ++ gatewayID ∨ claimed = gatewayID := by
  rw [gatewayIDMatchesCertificate, trimPrefix_append]
  simp

end ManagementPlane.Gateway
