import ManagementPlane.Lib.Encoding
import ManagementPlane.Lib.Hex
import ManagementPlane.Lib.Tables
import ManagementPlane.Policy.Types

/-!
# Signing keys: vault, code signing service and published key set

`internal/security/key_vault.go`, `code_signing.go`, `jwks.go` and the bootstrap of
`cmd/server/main.go`. A private Ed25519 key is given by its seed. Sealing is an authenticated
encryption, so unsealing an entry returns what was sealed; an entry is in the vault before it is
written to disk, so a failing write leaves it there.

The key set is one list for the keys of all curves. A rotation retires the active keys of one
curve in place and appends the new key. Each call is given the readings of its clock in order.
-/

namespace ManagementPlane.Security

open Policy Tables

/-- SHA-256, and Ed25519 as a signature scheme that accepts what it has signed. -/
structure Env where
  sha256 : List UInt8 → List UInt8
  publicKey : (seed : List UInt8) → List UInt8
  sign : (seed message : List UInt8) → List UInt8
  verify : (publicKey message signature : List UInt8) → Bool
  verify_sign : ∀ seed message, verify (publicKey seed) message (sign seed message) = true

def bytesOf (s : String) : List UInt8 := s.toUTF8.data.toList

def sha256Hex (env : Env) (data : List UInt8) : String := GoHex.encodeToString (env.sha256 data)

/-- `none` when the random source fails. -/
def generateID (kind : String) (random : Option (List UInt8)) : String :=
  match random with
  | some bytes => kind ++ "-" ++ GoHex.encodeToString bytes
  | none => kind ++ "-0"

structure VaultEntry where
  label : String
  keyType : String
  plainKey : List UInt8
  createdAt : Time
  rotatedAt : Option Time := none

abbrev KeyVault := Table String VaultEntry

/-- Sealing fails before the entry is made, or when the vault is written to disk. -/
structure SealChoice where
  failure : Option String := none
  persistFailure : Option String := none

def SealChoice.works (choice : SealChoice) : Bool :=
  choice.failure.isNone && choice.persistFailure.isNone

namespace KeyVault

variable (vault : KeyVault)

def sealKey (choice : SealChoice) (now : Time) (id label keyType : String) (plainKey : List UInt8) :
    Except String Unit × KeyVault :=
  match choice.failure with
  | some err => (.error err, vault)
  | none =>
    let sealed := vault.insert id
      { label := label, keyType := keyType, plainKey := plainKey, createdAt := now }
    match choice.persistFailure with
    | some err => (.error ("vault persist: " ++ err), sealed)
    | none => (.ok (), sealed)

def unsealKey (id : String) : Except String (List UInt8) :=
  match vault.lookup id with
  | some entry => .ok entry.plainKey
  | none => .error ("vault entry not found: " ++ id)

def delete (id : String) : KeyVault := vault.erase id

def markRotated (now : Time) (id : String) : KeyVault :=
  updateRow id (fun entry => { entry with rotatedAt := some now }) vault

end KeyVault

structure SigningKey where
  id : String
  label : String
  publicKey : List UInt8
  seed : List UInt8
  publicHex : String
  createdAt : Time
  active : Bool

structure CodeSigningService where
  keys : Table String SigningKey
  activeKey : String

def signingKey (env : Env) (id label : String) (seed : List UInt8) (now : Time) : SigningKey where
  id := id
  label := label
  publicKey := env.publicKey seed
  seed := seed
  publicHex := GoHex.encodeToString (env.publicKey seed)
  createdAt := now
  active := true

def newCodeSigningService (env : Env) (seed : List UInt8) (random : Option (List UInt8))
    (now : Time) : CodeSigningService :=
  let id := generateID "csk" random
  { keys := (∅ : Table String SigningKey).insert id (signingKey env id "root-signing-key" seed now)
    activeKey := id }

namespace CodeSigningService

/-- The key that `Sign` and `IssueCommand` sign with. -/
def active (svc : CodeSigningService) : Option SigningKey := svc.keys.lookup svc.activeKey

end CodeSigningService

structure SignRequest where
  artifactName : String
  artifactType : String
  version : String
  sha256 : String

structure SignedArtifact extends SignRequest where
  id : String
  signature : String
  signingKeyID : String
  signedAt : Time
  expiresAt : Time
  signedBy : String
  verified : Bool

def day : Time := 24 * 60 * minute

def CodeSigningService.sign (env : Env) (svc : CodeSigningService) (req : SignRequest)
    (signedBy : String) (random : Option (List UInt8)) (clock : Nat → Time) :
    Except String SignedArtifact :=
  match svc.active with
  | none => .error "no active signing key"
  | some key =>
    match GoHex.decodeString req.sha256 with
    | (_, false) => .error "invalid SHA256 hex"
    | (digest, true) =>
      .ok
        { req with
          id := generateID "art" random
          signature := GoHex.encodeToString (env.sign key.seed digest)
          signingKeyID := key.id
          signedAt := clock 0
          expiresAt := clock 1 + 365 * day
          signedBy := signedBy
          verified := true }

/-! ## The key set -/

inductive Crv where
  | ed25519
  | p256
  | p384
  | unknown
  deriving DecidableEq

def Crv.name : Crv → String
  | .ed25519 => "Ed25519"
  | .p256 => "P-256"
  | .p384 => "P-384"
  | .unknown => "unknown"

def Crv.alg : Crv → String
  | .ed25519 => "EdDSA"
  | .p256 => "ES256"
  | .p384 => "ES384"
  | .unknown => ""

/-- The curve of an ECDSA key. -/
inductive Curve where
  | p256
  | p384
  | other
  deriving DecidableEq

def Curve.crv : Curve → Crv
  | .p256 => .p256
  | .p384 => .p384
  | .other => .unknown

theorem Curve.crv_ne_ed25519 (curve : Curve) : curve.crv ≠ .ed25519 := by
  cases curve <;> decide

inductive KeyStatus where
  | active
  | retiring
  deriving DecidableEq

structure JWK where
  kty : String
  crv : Crv
  kid : String
  use : String := "sig"
  alg : String
  x : String
  y : String := ""
  createdAt : Time
  expiresAt : Time
  retiredAt : Option Time := none
  status : KeyStatus := .active
  vaultID : String
  deriving DecidableEq

structure JWKSService where
  keys : List JWK
  rotationInterval : Time
  overlapDuration : Time

structure JWKSConfig where
  rotationInterval : Time
  overlapDuration : Time

def newJWKSService (cfg : JWKSConfig) : JWKSService where
  keys := []
  rotationInterval := if cfg.rotationInterval ≤ 0 then 90 * day else cfg.rotationInterval
  overlapDuration := if cfg.overlapDuration ≤ 0 then 7 * day else cfg.overlapDuration

/-- An ECDSA key: its private part in DER, its point as it is marshalled, the big-endian bytes of
the two coordinates, and the size of its field in bits. -/
structure ECKey where
  der : List UInt8
  point : List UInt8
  x : List UInt8
  y : List UInt8
  bitSize : Nat

def padOrTrim (b : List UInt8) (size : Nat) : List UInt8 :=
  if size ≤ b.length then b.take size else List.replicate (size - b.length) 0 ++ b

/-- The vault, the code signing service and the key set of the server. -/
structure Keys where
  vault : KeyVault
  codeSvc : CodeSigningService
  jwks : JWKSService

namespace JWK

def isActive (crv : Crv) (k : JWK) : Bool := k.status = .active ∧ k.crv = crv

def published (now : Time) (k : JWK) : Bool :=
  match k.status with
  | .active => true
  | .retiring => now < k.expiresAt

def retire (crv : Crv) (overlap now : Time) (k : JWK) : JWK :=
  if k.isActive crv then
    { k with status := .retiring, retiredAt := some now, expiresAt := now + overlap }
  else k

def expired (now : Time) (k : JWK) : Bool := k.status = .retiring ∧ k.expiresAt < now

end JWK

namespace JWKSService

variable (svc : JWKSService)

def getJWKS (now : Time) : List JWK := svc.keys.filter fun k => k.published now

def getActiveSigningKeyID : Except String String :=
  match svc.keys.find? fun k => k.status = .active with
  | some k => .ok k.kid
  | none => .error "no active signing key in JWKS"

def lifetime : Time := (svc.rotationInterval + svc.overlapDuration).bmod (2 ^ 64)

end JWKSService

def generateKID (env : Env) (keyType : String) (publicBytes : List UInt8) : String :=
  GoHex.encodeToString ((env.sha256 (bytesOf (keyType ++ ":") ++ publicBytes)).take 8)

def vaultIDOf (kid : String) : String := "jwks-" ++ kid

namespace Keys

variable (env : Env) (s : Keys)

/-- What both rotations do under the lock: the active keys of the curve retire, each is marked in
the vault, and the new key is appended. -/
def install (jwk : JWK) (now marked : Time) : Keys :=
  let retired := s.jwks.keys.filter fun k => k.isActive jwk.crv
  { s with
    vault := retired.foldl (fun vault k => vault.markRotated marked k.vaultID) s.vault
    jwks :=
      { s.jwks with
        keys := s.jwks.keys.map (JWK.retire jwk.crv s.jwks.overlapDuration now) ++ [jwk] } }

/-- The code signing service signs with the new key from now on. -/
def activate (key : SigningKey) : Keys :=
  { s with
    codeSvc :=
      { keys :=
          (updateAll (fun _ k => some { k with active := false }) s.codeSvc.keys).insert key.id key
        activeKey := key.id } }

/-- What a rotation draws: the new key, and whether sealing it works. -/
structure EdChoice where
  seed : Except String (List UInt8)
  sealing : SealChoice := {}

structure ECChoice where
  key : Except String ECKey
  marshalFailure : Option String := none
  sealing : SealChoice := {}

def edJWK (kid : String) (seed : List UInt8) (createdAt expiresFrom : Time) : JWK where
  kty := "OKP"
  crv := .ed25519
  kid := kid
  alg := Crv.ed25519.alg
  x := GoEncoding.encodeToString (env.publicKey seed)
  createdAt := createdAt
  expiresAt := expiresFrom + s.jwks.lifetime
  vaultID := vaultIDOf kid

def ecJWK (crv : Crv) (kid : String) (x y : List UInt8) (createdAt expiresFrom : Time) : JWK where
  kty := "EC"
  crv := crv
  kid := kid
  alg := crv.alg
  x := GoEncoding.encodeToString x
  y := GoEncoding.encodeToString y
  createdAt := createdAt
  expiresAt := expiresFrom + s.jwks.lifetime
  vaultID := vaultIDOf kid

def installEd25519Key (kid : String) (seed : List UInt8) (clock : Nat → Time) : JWK × Keys :=
  let jwk := s.edJWK env kid seed (clock 0) (clock 1)
  let key := signingKey env kid ("jwks-rotated-" ++ kid) seed (clock 4)
  (jwk, (s.install jwk (clock 2) (clock 3)).activate key)

def rotateEd25519Key (choice : EdChoice) (clock : Nat → Time) : Except String JWK × Keys :=
  match choice.seed with
  | .error err => (.error ("generate Ed25519 key: " ++ err), s)
  | .ok seed =>
    let kid := generateKID env "ed25519" (env.publicKey seed)
    match KeyVault.sealKey s.vault choice.sealing (clock 0) (vaultIDOf kid) "JWKS Ed25519 signing key"
        "ed25519" seed with
    | (.error err, vault) => (.error ("seal key in vault: " ++ err), { s with vault := vault })
    | (.ok _, vault) =>
      let (jwk, rotated) :=
        { s with vault := vault }.installEd25519Key env kid seed fun n => clock (n + 1)
      (.ok jwk, rotated)

def rotateECDSAKey (choice : ECChoice) (curve : Curve) (clock : Nat → Time) :
    Except String JWK × Keys :=
  match choice.key with
  | .error err => (.error ("generate ECDSA key: " ++ err), s)
  | .ok key =>
    if curve = .other then (.error "unsupported curve", s)
    else
      let crv := curve.crv
      let kid := generateKID env crv.name key.point
      match choice.marshalFailure with
      | some err => (.error ("marshal ECDSA key: " ++ err), s)
      | none =>
        match KeyVault.sealKey s.vault choice.sealing (clock 0) (vaultIDOf kid)
            ("JWKS ECDSA " ++ crv.name ++ " key") ("ecdsa-" ++ crv.name) key.der with
        | (.error err, vault) =>
          (.error ("seal key in vault: " ++ err), { s with vault := vault })
        | (.ok _, vault) =>
          let jwk := s.ecJWK crv kid key.x key.y (clock 1) (clock 2)
          (.ok jwk, { s with vault := vault }.install jwk (clock 3) (clock 4))

def unsealEd25519Key (kid : String) : Except String (List UInt8) :=
  match s.jwks.keys.find? fun k => k.kid = kid with
  | none => .error ("key not found: " ++ kid)
  | some k =>
    if k.vaultID = "" then .error ("key not found: " ++ kid)
    else (KeyVault.unsealKey s.vault k.vaultID).mapError fun err => "unseal key: " ++ err

def cleanExpired (now : Time) : Nat × Keys :=
  let removed := s.jwks.keys.filter fun k => k.expired now
  (removed.length,
    { s with
      vault := removed.foldl (fun vault k => vault.delete k.vaultID) s.vault
      jwks := { s.jwks with keys := s.jwks.keys.filter fun k => !k.expired now } })

/-- `time.Until`, which stays within 64 bits. -/
def untilFrom (now t : Time) : Time := max (-(2 ^ 63)) (min (2 ^ 63 - 1) (t - now))

/-- The first active Ed25519 key is within the overlap of its expiry, or there is none. -/
def needsRotation (now : Time) : Bool :=
  match s.jwks.keys.find? fun k => k.isActive .ed25519 with
  | some k => ¬ (s.jwks.overlapDuration < untilFrom now k.expiresAt)
  | none => true

/-- One round of `RotationLoop`. -/
def tick (choice : EdChoice) (clock : Nat → Time) : Keys :=
  let cleaned := (s.cleanExpired (clock 0)).2
  if cleaned.needsRotation (clock 1) then
    (cleaned.rotateEd25519Key env choice fun n => clock (n + 2)).2
  else cleaned

def importExistingEd25519Key (choice : SealChoice) (kid : String) (seed : List UInt8)
    (clock : Nat → Time) : Except String Unit × Keys :=
  match KeyVault.sealKey s.vault choice (clock 0) (vaultIDOf kid) "Imported Ed25519 key" "ed25519"
      seed with
  | (.error err, vault) => (.error ("seal imported key: " ++ err), { s with vault := vault })
  | (.ok _, vault) =>
    let jwk := s.edJWK env kid seed (clock 1) (clock 2)
    (.ok (), { s with vault := vault, jwks := { s.jwks with keys := s.jwks.keys ++ [jwk] } })

def importActiveKeyIntoJWKS (choice : SealChoice) (clock : Nat → Time) : Keys :=
  match s.codeSvc.active with
  | none => s
  | some key => (s.importExistingEd25519Key env choice key.id key.seed clock).2

/-- The coordinates are published in the size of the field, unlike those of a rotated key. -/
def importExistingECDSAKey (marshalFailure : Option String) (choice : SealChoice) (kid : String)
    (curve : Curve) (key : ECKey) (clock : Nat → Time) : Except String Unit × Keys :=
  match marshalFailure with
  | some err => (.error ("marshal ECDSA key: " ++ err), s)
  | none =>
    let crv := curve.crv
    match KeyVault.sealKey s.vault choice (clock 0) (vaultIDOf kid)
        ("Imported ECDSA " ++ crv.name ++ " CA key") ("ecdsa-" ++ crv.name) key.der with
    | (.error err, vault) => (.error ("seal imported key: " ++ err), { s with vault := vault })
    | (.ok _, vault) =>
      let byteLen := (key.bitSize + 7) / 8
      let jwk := s.ecJWK crv kid (padOrTrim key.x byteLen) (padOrTrim key.y byteLen) (clock 1)
        (clock 2)
      (.ok (), { s with vault := vault, jwks := { s.jwks with keys := s.jwks.keys ++ [jwk] } })

end Keys

/-- What the server is started with: the vault as it was loaded, the seed and the random part of
the id of the root signing key, the key of the certificate authority, and how the two imports
into the key set go. -/
structure Boot where
  vault : KeyVault := ∅
  seed : List UInt8
  random : Option (List UInt8)
  caCurve : Curve
  caKey : ECKey
  cfg : JWKSConfig := ⟨90 * day, 7 * day⟩
  rootSeal : SealChoice := {}
  caMarshalFailure : Option String := none
  caSeal : SealChoice := {}
  clock : Nat → Time

def Boot.services (env : Env) (boot : Boot) : Keys where
  vault := boot.vault
  codeSvc := newCodeSigningService env boot.seed boot.random (boot.clock 0)
  jwks := newJWKSService boot.cfg

/-- `ImportActiveKeyIntoJWKS` and `ImportExistingECDSAKey("ca-root", …)`, whose failures are only
logged. -/
def Boot.keys (env : Env) (boot : Boot) : Keys :=
  let imported := (boot.services env).importActiveKeyIntoJWKS env boot.rootSeal
    fun n => boot.clock (n + 1)
  (imported.importExistingECDSAKey boot.caMarshalFailure boot.caSeal "ca-root" boot.caCurve
    boot.caKey fun n => boot.clock (n + 4)).2

theorem generateID_ne_generateKID (env : Env) (random : Option (List UInt8)) (keyType : String)
    (publicBytes : List UInt8) : generateID "csk" random ≠ generateKID env keyType publicBytes := by
  intro same
  have letter : 's' ∈ (generateKID env keyType publicBytes).toList := by
    rw [← same]
    cases random <;> simp [generateID]
  rw [generateKID, GoHex.encodeToString, String.toList_ofList] at letter
  obtain ⟨n, small, digit⟩ := GoHex.mem_encode letter
  revert n
  decide

theorem generateID_ne_caRoot (random : Option (List UInt8)) : generateID "csk" random ≠ "ca-root" := by
  intro same
  have lists := congrArg String.toList same
  cases random <;> simp [generateID] at lists

theorem boot_codeSvc (env : Env) (boot : Boot) :
    (boot.keys env).codeSvc = newCodeSigningService env boot.seed boot.random (boot.clock 0) := by
  have root (s : Keys) (clock : Nat → Time) :
      (s.importActiveKeyIntoJWKS env boot.rootSeal clock).codeSvc = s.codeSvc := by
    unfold Keys.importActiveKeyIntoJWKS Keys.importExistingEd25519Key
    split
    · rfl
    · split <;> rfl
  have ca (s : Keys) (clock : Nat → Time) :
      (s.importExistingECDSAKey boot.caMarshalFailure boot.caSeal "ca-root" boot.caCurve boot.caKey
        clock).2.codeSvc = s.codeSvc := by
    unfold Keys.importExistingECDSAKey
    split
    · rfl
    · dsimp only
      split <;> rfl
  rw [Boot.keys, ca, root]
  rfl

def demoEnv : Env where
  sha256 := id
  publicKey := id
  sign := fun seed message => seed ++ message
  verify := fun publicKey message signature => signature = publicKey ++ message
  verify_sign := by
    intro seed message
    simp

def demoBoot : Boot where
  seed := [1]
  random := some [7]
  caCurve := .p384
  caKey := ⟨[2], [3], [4], [5], 384⟩
  clock := fun _ => 0

end ManagementPlane.Security
