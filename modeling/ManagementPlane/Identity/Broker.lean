import ManagementPlane.Lib.Binary
import ManagementPlane.Lib.Interleave
import ManagementPlane.Lib.Jwt
import ManagementPlane.Lib.Tables
import ManagementPlane.Policy.Types

/-!
# The identity broker

The identity providers of `internal/identity/broker.go`, the cache of their key sets and the
validation of a token against them. A validation reads the configuration of its provider once
and works with it to the end; the cache is looked up by the provider's id, and the keys of an
entry may have been fetched from any URI that the id has had.

`exec` performs one operation: a critical section of the broker's lock, a reading of the clock,
an answer from the network or one call of the token parser.
-/

namespace ManagementPlane.Identity

open GoJson Interleave Jwt Tables
open Policy (Time minute)

structure IdPConfig where
  id : String
  orgID : String := ""
  name : String := ""
  providerType : String := ""
  enabled : Bool := true
  clientID : String := ""
  clientSecret : String := ""
  issuerURL : String := ""
  jwksURI : String := ""

structure JwkKey where
  kid : String := ""
  kty : String := ""
  alg : String := ""
  use : String := ""
  n : String := ""
  e : String := ""
  deriving DecidableEq

structure JwksCache where
  keys : List JwkKey
  fetchedAt : Time

/-- A provider sits under its own id. -/
structure Broker where
  idps : Table String IdPConfig
  keyed : ∀ id idp, idps.lookup id = some idp → idp.id = id
  jwks : Table String JwksCache

namespace Broker

variable (b : Broker)

def put (cfg : IdPConfig) : Broker where
  idps := b.idps.insert cfg.id cfg
  keyed := by
    intro id idp found
    rw [lookup_insert_if] at found
    split_ifs at found with here
    · cases found
      exact here.symm
    · exact b.keyed id idp found
  jwks := b.jwks

def withID (cfg : IdPConfig) (raw : GoBinary.Bytes) : IdPConfig :=
  if cfg.id = "" then
    { cfg with
      id := "idp-" ++ String.ofList ((GoBinary.hexEncode raw).map fun c => Char.ofNat c.toNat) }
  else cfg

def createIdP (cfg : IdPConfig) : String × Broker := (cfg.id, b.put cfg)

/-- An update that omits the secret keeps the one that is there. -/
def merged (existing cfg : IdPConfig) : IdPConfig :=
  if cfg.clientSecret = "" ∧ existing.clientSecret ≠ "" then
    { cfg with clientSecret := existing.clientSecret }
  else cfg

def updateIdP (cfg : IdPConfig) : Bool × Broker :=
  match b.idps.lookup cfg.id with
  | none => (false, b)
  | some existing => (true, b.put (merged existing cfg))

def deleteIdP (id : String) : Bool × Broker :=
  match b.idps.lookup id with
  | none => (false, b)
  | some _ =>
    (true,
      { b with
        idps := b.idps.erase id
        keyed := by
          intro other idp found
          rw [lookup_erase_if] at found
          split_ifs at found
          exact b.keyed other idp found })

end Broker

structure RSAPublicKey where
  n : Nat
  e : Int64

structure Header where
  alg : String
  kid : Option Json := none

/-- The parser's own work: decoding a token, the check of a signature and of the time claims, and
the decoding of base64. -/
structure Env where
  decode : String → Except String (Header × MapClaims)
  rsaError : (alg : String) → (key : RSAPublicKey) → (token : String) → Option String
  claimsError : MapClaims → (now : Time) → Option String
  decodeString : String → Except String GoBinary.Bytes

section
variable (env : Env)

def rsaPublicKeyFromJWK (k : JwkKey) : Except String RSAPublicKey :=
  match env.decodeString k.n with
  | .error err => .error ("invalid JWK modulus: " ++ err)
  | .ok nBytes =>
    match env.decodeString k.e with
    | .error err => .error ("invalid JWK exponent: " ++ err)
    | .ok eBytes =>
      .ok
        { n := GoBinary.ofBigEndian nBytes
          e := eBytes.foldl (fun e byte => (e <<< 8) + Int64.ofNat byte.toNat) 0 }

def validMethods : List String := ["RS256", "RS384", "RS512"]

def selectKey (keys : List JwkKey) (header : Header) : Except String RSAPublicKey :=
  if header.alg ∉ validMethods then .error ("unexpected signing method: " ++ header.alg)
  else
    let kid := (header.kid.bind Json.asString).getD ""
    match keys.find? fun k => k.kid = kid ∧ k.kty = "RSA" with
    | some k => rsaPublicKeyFromJWK env k
    | none =>
      match keys.find? fun k => k.kty = "RSA" with
      | some k => rsaPublicKeyFromJWK env k
      | none => .error ("no matching key found for kid=" ++ kid)

/-- `jwt.Parse` with the key function over a set of keys. -/
def parseToken (keys : List JwkKey) (now : Time) (token : String) : Except String MapClaims :=
  match env.decode token with
  | .error err => .error err
  | .ok (header, claims) =>
    if header.alg ∉ validMethods then .error ("signing method " ++ header.alg ++ " is invalid")
    else
      match selectKey env keys header with
      | .error err => .error ("error while executing keyfunc: " ++ err)
      | .ok key =>
        match env.rsaError header.alg key token with
        | some err => .error err
        | none =>
          match env.claimsError claims now with
          | some err => .error err
          | none => .ok claims

def SignedBy (k : JwkKey) (token : String) : Prop :=
  ∃ header claims key, env.decode token = .ok (header, claims) ∧
    rsaPublicKeyFromJWK env k = .ok key ∧ env.rsaError header.alg key token = none

theorem selectKey_ok {keys : List JwkKey} {header : Header} {key : RSAPublicKey}
    (answered : selectKey env keys header = .ok key) :
    ∃ k ∈ keys, rsaPublicKeyFromJWK env k = .ok key := by
  unfold selectKey at answered
  split_ifs at answered
  dsimp only at answered
  split at answered
  · rename_i k found
    exact ⟨k, List.mem_of_find?_eq_some found, answered⟩
  · split at answered
    · rename_i k found
      exact ⟨k, List.mem_of_find?_eq_some found, answered⟩
    · cases answered

theorem parseToken_ok {keys : List JwkKey} {now : Time} {token : String} {claims : MapClaims}
    (accepted : parseToken env keys now token = .ok claims) : ∃ k ∈ keys, SignedBy env k token := by
  unfold parseToken at accepted
  split at accepted
  · cases accepted
  · rename_i header decoded isDecoded
    split_ifs at accepted
    split at accepted
    · cases accepted
    · rename_i key answered
      split at accepted
      · cases accepted
      · rename_i isSigned
        obtain ⟨k, member, isKey⟩ := selectKey_ok env answered
        exact ⟨k, member, header, decoded, key, isDecoded, isKey, isSigned⟩

end

def IdPConfig.keysURI (idp : IdPConfig) : String :=
  if idp.jwksURI = "" ∧ idp.issuerURL ≠ "" then idp.issuerURL ++ "/v1/keys" else idp.jwksURI

def extractAudience (claims : MapClaims) : List String :=
  match claims "aud" with
  | some (.str aud) => [aud]
  | some (.arr items) => items.filterMap Json.asString
  | _ => []

/-- What a request for a key set comes back with. -/
inductive Fetched where
  | failed (err : String)
  | status (code : Nat) (body : String)
  | invalid (err : String)
  | keys (keys : List JwkKey)

structure Choice where
  now : Time := 0
  raw : GoBinary.Bytes := []
  fetched : Fetched := .failed ""
  idToken : Except String String := .error ""

inductive Op where
  | idp (id : String)
  | exchangeCode (idp : IdPConfig) (code : String)
  | cached (id : String)
  | timeNow
  | fetch (uri : String)
  | store (id : String) (keys : List JwkKey)
  | parse (keys : List JwkKey) (token : String)
  | create (cfg : IdPConfig)
  | update (cfg : IdPConfig)
  | delete (id : String)

abbrev Op.Ans : Op → Type
  | .idp _ => Option IdPConfig
  | .exchangeCode _ _ => Except String String
  | .cached _ => Option JwksCache
  | .timeNow => Time
  | .fetch _ => Fetched
  | .store _ _ => Unit
  | .parse _ _ => Except String MapClaims
  | .create _ => String
  | .update _ => Bool
  | .delete _ => Bool

def exec (env : Env) (choice : Choice) (b : Broker) : (op : Op) → op.Ans × Broker
  | .idp id => (b.idps.lookup id, b)
  | .exchangeCode _ _ => (choice.idToken, b)
  | .cached id => (b.jwks.lookup id, b)
  | .timeNow => (choice.now, b)
  | .fetch _ => (choice.fetched, b)
  | .store id keys => ((), { b with jwks := b.jwks.insert id ⟨keys, choice.now⟩ })
  | .parse keys token => (parseToken env keys choice.now token, b)
  | .create cfg => b.createIdP (Broker.withID cfg choice.raw)
  | .update cfg => b.updateIdP cfg
  | .delete id => b.deleteIdP id

abbrev Handled := Prog Op Op.Ans

abbrev readIdP (id : String) : Handled (Option IdPConfig) := perform (Op.idp id)

abbrev exchangeCode (idp : IdPConfig) (code : String) : Handled (Except String String) :=
  perform (Op.exchangeCode idp code)

abbrev readCache (id : String) : Handled (Option JwksCache) := perform (Op.cached id)

abbrev timeNow : Handled Time := perform Op.timeNow

abbrev fetch (uri : String) : Handled Fetched := perform (Op.fetch uri)

abbrev storeKeys (id : String) (keys : List JwkKey) : Handled Unit := perform (Op.store id keys)

abbrev parseWithKeys (keys : List JwkKey) (token : String) : Handled (Except String MapClaims) :=
  perform (Op.parse keys token)

/-- The end of `getJWKS`, which asks the provider. Old keys serve when it does not answer. -/
def fetchJWKS (idpID jwksURI : String) (cached : Option JwksCache) :
    Handled (Except String (List JwkKey)) := do
  match ← fetch jwksURI with
  | .failed err =>
    match cached with
    | some cache => pure (.ok cache.keys)
    | none => pure (.error ("JWKS fetch failed: " ++ err))
  | .status code body =>
    match cached with
    | some cache => pure (.ok cache.keys)
    | none => pure (.error ("JWKS endpoint returned " ++ toString code ++ ": " ++ body))
  | .invalid err => pure (.error ("invalid JWKS response: " ++ err))
  | .keys keys => do
      storeKeys idpID keys
      pure (.ok keys)

def getJWKS (idpID jwksURI : String) : Handled (Except String (List JwkKey)) :=
  if jwksURI = "" then pure (.error "no JWKS URI configured")
  else do
    match ← readCache idpID with
    | none => fetchJWKS idpID jwksURI none
    | some cache => do
        let now ← timeNow
        if now - cache.fetchedAt < 60 * minute then pure (.ok cache.keys)
        else fetchJWKS idpID jwksURI (some cache)

def checkClaims (idp : IdPConfig) (claims : MapClaims) : Except String MapClaims :=
  let iss := ((claims "iss").bind Json.asString).getD ""
  if idp.issuerURL ≠ "" ∧ iss ≠ idp.issuerURL then
    .error ("issuer mismatch: got " ++ iss ++ ", expected " ++ idp.issuerURL)
  else if idp.clientID ≠ "" ∧ idp.clientID ∉ extractAudience claims then
    .error ("audience mismatch: token not issued for client " ++ idp.clientID)
  else .ok claims

def validateOIDCToken (idp : IdPConfig) (token : String) : Handled (Except String MapClaims) := do
  match ← getJWKS idp.id idp.keysURI with
  | .error err => pure (.error ("JWKS unavailable for " ++ idp.name ++ ": " ++ err))
  | .ok keys =>
    match ← parseWithKeys keys token with
    | .error err => pure (.error ("token verification failed: " ++ err))
    | .ok claims => pure (checkClaims idp claims)

/-- A token exchange, a single sign-on that has come back with a code, and the administration of
the providers. -/
inductive Request where
  | exchange (idpID token : String)
  | callback (idpID code : String)
  | create (cfg : IdPConfig)
  | update (cfg : IdPConfig)
  | delete (id : String)

inductive Reply where
  | failed (message : String)
  | validated (claims : MapClaims)
  | created (id : String)
  | found (ok : Bool)

def exchangeToken (idpID token : String) : Handled Reply := do
  match ← readIdP idpID with
  | none => pure (.failed ("unknown IdP: " ++ idpID))
  | some idp =>
    if idp.enabled = false then pure (.failed ("IdP " ++ idp.name ++ " is disabled"))
    else
      match ← validateOIDCToken idp token with
      | .error err => pure (.failed ("token validation failed: " ++ err))
      | .ok claims => pure (.validated claims)

/-- The part of `SSOHandler.Callback` that the broker takes part in. -/
def callback (idpID code : String) : Handled Reply := do
  match ← readIdP idpID with
  | none => pure (.failed "identity provider not available")
  | some idp =>
    if idp.enabled = false then pure (.failed "identity provider not available")
    else
      match ← exchangeCode idp code with
      | .error _ => pure (.failed "token exchange failed")
      | .ok token =>
        match ← validateOIDCToken idp token with
        | .error _ => pure (.failed "token validation failed")
        | .ok claims => pure (.validated claims)

def handle : Request → Handled Reply
  | .exchange idpID token => exchangeToken idpID token
  | .callback idpID code => callback idpID code
  | .create cfg => do
      let id ← perform (Op.create cfg)
      pure (.created id)
  | .update cfg => do
      let ok ← perform (Op.update cfg)
      pure (.found ok)
  | .delete id => do
      let ok ← perform (Op.delete id)
      pure (.found ok)

end ManagementPlane.Identity
