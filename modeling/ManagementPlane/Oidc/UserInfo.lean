import ManagementPlane.Oidc.Handler

/-!
# The user info endpoint

`UserInfo` of `internal/oidc/handler.go` and `ValidateJWT` of `internal/oidc/provider.go`.
The endpoint verifies the bearer token's signature and time claims and answers with its
claims; it asks the store nothing. `respond` is the endpoint beside the others.
-/

namespace ManagementPlane.Oidc

open GoJson GoStrings Interleave Jwt Policy

section
variable (env : Env) (lib : RSALibrary)

def validateJWT (now : Time) (tokenStr : String) : Except String MapClaims :=
  lib.parse ["RS256"]
    (fun alg =>
      if alg ∈ ["RS256", "RS384", "RS512"] then .ok env.signingKey
      else .error ("unexpected signing method: " ++ alg))
    now tokenStr

def Genuine (now : Time) (tokenStr : String) : Prop :=
  match lib.decode tokenStr with
  | .ok (alg, claims) =>
    alg = "RS256" ∧ lib.rsaError alg env.signingKey tokenStr = none ∧
      lib.claimsError claims now = none
  | .error _ => False

instance (now : Time) (tokenStr : String) : Decidable (Genuine env lib now tokenStr) := by
  unfold Genuine
  split <;> infer_instance

theorem validateJWT_ok_iff (now : Time) (tokenStr : String) :
    (∃ claims, validateJWT env lib now tokenStr = .ok claims) ↔ Genuine env lib now tokenStr := by
  unfold validateJWT RSALibrary.parse Genuine
  cases lib.decode tokenStr with
  | error err => simp
  | ok decoded =>
    obtain ⟨alg, claims⟩ := decoded
    by_cases method : alg = "RS256"
    · subst method
      cases signed : lib.rsaError "RS256" env.signingKey tokenStr with
      | some err => simp [signed]
      | none =>
        cases inTime : lib.claimsError claims now with
        | some err | none => simp [signed, inTime]
    · simp [method]

inductive Endpoint where
  | oidc (request : Request)
  | userInfo (authHeader : String)

inductive Response where
  | oidc (reply : Reply)
  | unauthorized (error : String)
  | userInfo (userInfo : MapClaims)

def bearerToken (authHeader : String) : Option String :=
  if hasPrefix (toLower authHeader) "bearer " then
    some (trimSpace (String.ofList (authHeader.toList.drop "bearer ".toList.length)))
  else none

/-- The subject, which may be missing, and the claims that are texts. -/
def userInfoOf (claims : MapClaims) : MapClaims :=
  ["name", "email", "org_id"].foldl
    (fun userInfo name =>
      match (claims name).bind Json.asString with
      | some value => userInfo.set name (.str value)
      | none => userInfo)
    (MapClaims.ofList [("sub", (claims "sub").getD .null)])

def userInfo (authHeader : String) : Handled Response := do
  let some tokenStr := bearerToken authHeader | return .unauthorized "missing bearer token"
  let now ← timeNow
  match validateJWT env lib now tokenStr with
  | .error _ => return .unauthorized "invalid token"
  | .ok claims => return .userInfo (userInfoOf claims)

def respond : Endpoint → Handled Response
  | .oidc request => do return .oidc (← handle env request)
  | .userInfo authHeader => userInfo env lib authHeader

end

abbrev Endpoints := Pool OIDCDRSStore Endpoint Op Op.Ans Response

abbrev serveAll (env : Env) (lib : RSALibrary) :
    Endpoints → Interleave.Input Endpoint Choice → Endpoints :=
  step (exec env) (respond env lib)

end ManagementPlane.Oidc
