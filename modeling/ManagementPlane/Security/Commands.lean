import ManagementPlane.Lib.Alone
import ManagementPlane.Lib.OnceOnly
import ManagementPlane.Security.Keys

/-!
# Signed commands

`internal/security/command_signing.go`, run at once with rotations of the signing key.

`IssueCommand` reads the active key under one lock and stores the command under another, and a
rotation may come in between. `VerifyCommand` holds the lock of the command table for the whole
call and reads the key table once, so it is one operation; its answer is recorded with the reading
of the clock that it compared with the expiry. A rotation seals the new key and then installs it
under the locks of the key set and the code signing service.

The rule for commands is stated about the history of calls alone (`OnceAsIssued`): it mentions
neither the nonce set nor the key table.
-/

namespace ManagementPlane.Security.Commands

open Interleave Policy Runs Tables

structure SignedCommand where
  id : String
  commandType : String
  targetID : String
  payload : String
  payloadHash : String
  signature : String
  signingKeyID : String
  issuedBy : String
  issuedAt : Time
  expiresAt : Time
  executed : Bool := false
  executedAt : Option Time := none
  nonce : String
  deriving DecidableEq

structure IssueCommandRequest where
  commandType : String
  targetID : String
  payload : String
  ttlMinutes : Int
  deriving DecidableEq

structure CommandVerifyRequest where
  commandID : String
  payloadHash : String
  signature : String
  nonce : String
  deriving DecidableEq

structure CommandVerifyResponse where
  valid : Bool
  expired : Bool := false
  message : String
  deriving DecidableEq

structure World where
  keys : Keys
  commands : Table String SignedCommand
  nonces : List String

/-- The services after the bootstrap, before the first command. -/
def start (env : Env) (boot : Boot) : World := ⟨boot.keys env, ∅, []⟩

/-- What `IssueCommand` draws: the nonce, the random part of the id and two readings of the
clock. -/
structure Drawn where
  nonce : List UInt8
  id : Option (List UInt8)
  issuedAt : Time
  expiresFrom : Time
  deriving DecidableEq

def ttlOf (ttlMinutes : Int) : Time :=
  let ttl := (ttlMinutes * minute).bmod (2 ^ 64)
  if ttl ≤ 0 then 15 * minute else ttl

def digestOf (payloadHash : String) : List UInt8 := (GoHex.decodeString payloadHash).1

def commandOf (env : Env) (req : IssueCommandRequest) (issuedBy : String) (key : SigningKey)
    (drawn : Drawn) : SignedCommand :=
  let payloadHash := sha256Hex env (bytesOf req.payload)
  { id := generateID "cmd" drawn.id
    commandType := req.commandType
    targetID := req.targetID
    payload := req.payload
    payloadHash := payloadHash
    signature := GoHex.encodeToString (env.sign key.seed (digestOf payloadHash))
    signingKeyID := key.id
    issuedBy := issuedBy
    issuedAt := drawn.issuedAt
    expiresAt := drawn.expiresFrom + ttlOf req.ttlMinutes
    nonce := GoHex.encodeToString drawn.nonce }

/-- `IssueCommand` without interruption; `drawn` fails with the random source. -/
def issueCommand (env : Env) (world : World) (req : IssueCommandRequest) (issuedBy : String)
    (drawn : Except String Drawn) : Except String SignedCommand × World :=
  match world.keys.codeSvc.active with
  | none => (.error "no active signing key", world)
  | some key =>
    match drawn with
    | .error err => (.error ("nonce generation failed: " ++ err), world)
    | .ok drawn =>
      let cmd := commandOf env req issuedBy key drawn
      (.ok cmd, { world with commands := world.commands.insert cmd.id cmd })

def verifyCommand (env : Env) (world : World) (req : CommandVerifyRequest)
    (now executedAt : Time) : CommandVerifyResponse × World :=
  match world.commands.lookup req.commandID with
  | none => ({ valid := false, message := "Unknown command" }, world)
  | some cmd =>
    if cmd.expiresAt < now then
      ({ valid := false, expired := true, message := "Command has expired" }, world)
    else if req.nonce ∈ world.nonces then
      ({ valid := false, message := "Nonce already used (replay detected)" }, world)
    else if req.nonce ≠ cmd.nonce then
      ({ valid := false, message := "Nonce mismatch" }, world)
    else if req.payloadHash ≠ cmd.payloadHash then
      ({ valid := false, message := "Payload hash mismatch" }, world)
    else if req.signature ≠ cmd.signature then
      ({ valid := false, message := "Signature mismatch" }, world)
    else
      match world.keys.codeSvc.keys.lookup cmd.signingKeyID with
      | none => ({ valid := false, message := "Signing key not found" }, world)
      | some key =>
        if env.verify key.publicKey (digestOf cmd.payloadHash)
            (GoHex.decodeString cmd.signature).1 = true then
          ({ valid := true, message := "Command verified — proceed with execution" },
            { world with
              nonces := req.nonce :: world.nonces
              commands := updateRow req.commandID
                (fun cmd => { cmd with executed := true, executedAt := some executedAt })
                world.commands })
        else ({ valid := false, message := "Signature verification failed" }, world)

inductive Op where
  | activeKey
  | draw
  | storeCommand (cmd : SignedCommand)
  | verifyCommand (req : CommandVerifyRequest)
  | generateKey
  | sealKey (id label keyType : String) (plainKey : List UInt8)
  | installKey (kid : String) (seed : List UInt8)
  deriving DecidableEq

abbrev Op.Ans : Op → Type
  | .activeKey => Option SigningKey
  | .draw => Except String Drawn
  | .storeCommand _ => Unit
  | .verifyCommand _ => CommandVerifyResponse × Time
  | .generateKey => Except String (List UInt8)
  | .sealKey .. => Except String Unit
  | .installKey .. => JWK

abbrev Event := Interleave.Event Op Op.Ans

/-- What decides one operation: the random source, the vault and the clock. -/
structure Choice where
  failure : Option String := none
  nonce : Nat → UInt8 := fun _ => 0
  id : Option (Nat → UInt8) := none
  seed : List UInt8 := []
  sealing : SealChoice := {}
  clock : Nat → Time

def exec (env : Env) (choice : Choice) (world : World) : (op : Op) → op.Ans × World
  | .activeKey => (world.keys.codeSvc.active, world)
  | .draw =>
    (match choice.failure with
      | some err => .error err
      | none =>
        .ok
          { nonce := (List.range 16).map choice.nonce
            id := choice.id.map fun random => (List.range 8).map random
            issuedAt := choice.clock 0
            expiresFrom := choice.clock 1 }, world)
  | .storeCommand cmd => ((), { world with commands := world.commands.insert cmd.id cmd })
  | .verifyCommand req =>
    let (response, after) := verifyCommand env world req (choice.clock 0) (choice.clock 1)
    ((response, choice.clock 0), after)
  | .generateKey =>
    (match choice.failure with
      | some err => .error err
      | none => .ok choice.seed, world)
  | .sealKey id label keyType plainKey =>
    let (outcome, vault) :=
      KeyVault.sealKey world.keys.vault choice.sealing (choice.clock 0) id label keyType plainKey
    (outcome, { world with keys := { world.keys with vault := vault } })
  | .installKey kid seed =>
    let (jwk, keys) := world.keys.installEd25519Key env kid seed choice.clock
    (jwk, { world with keys := keys })

inductive Request where
  | issue (req : IssueCommandRequest) (issuedBy : String)
  | verify (req : CommandVerifyRequest)
  | rotateEd25519
  deriving DecidableEq

inductive Reply where
  | issued (outcome : Except String SignedCommand)
  | verified (response : CommandVerifyResponse)
  | rotated (outcome : Except String JWK)
  deriving DecidableEq

abbrev Handled := Prog Op Op.Ans

abbrev codeSvc.activeKey : Handled (Option SigningKey) := perform Op.activeKey

abbrev draw : Handled (Except String Drawn) := perform Op.draw

abbrev svc.storeCommand (cmd : SignedCommand) : Handled Unit := perform (Op.storeCommand cmd)

abbrev svc.verifyCommand (req : CommandVerifyRequest) : Handled (CommandVerifyResponse × Time) :=
  perform (Op.verifyCommand req)

abbrev ed25519.generateKey : Handled (Except String (List UInt8)) := perform Op.generateKey

abbrev vault.sealKey (id label keyType : String) (plainKey : List UInt8) :
    Handled (Except String Unit) := perform (Op.sealKey id label keyType plainKey)

abbrev jwks.installKey (kid : String) (seed : List UInt8) : Handled JWK :=
  perform (Op.installKey kid seed)

variable (env : Env)

def issue (req : IssueCommandRequest) (issuedBy : String) : Handled Reply := do
  match ← codeSvc.activeKey with
  | none => return .issued (.error "no active signing key")
  | some key =>
    match ← draw with
    | .error err => return .issued (.error ("nonce generation failed: " ++ err))
    | .ok drawn =>
      let cmd := commandOf env req issuedBy key drawn
      svc.storeCommand cmd
      return .issued (.ok cmd)

def verify (req : CommandVerifyRequest) : Handled Reply := do
  let answer ← svc.verifyCommand req
  return .verified answer.1

def rotate : Handled Reply := do
  match ← ed25519.generateKey with
  | .error err => return .rotated (.error ("generate Ed25519 key: " ++ err))
  | .ok seed =>
    let kid := generateKID env "ed25519" (env.publicKey seed)
    match ← vault.sealKey (vaultIDOf kid) "JWKS Ed25519 signing key" "ed25519" seed with
    | .error err => return .rotated (.error ("seal key in vault: " ++ err))
    | .ok _ =>
      let jwk ← jwks.installKey kid seed
      return .rotated (.ok jwk)

def handle : Request → Handled Reply
  | .issue req issuedBy => issue env req issuedBy
  | .verify req => verify req
  | .rotateEd25519 => rotate env

end ManagementPlane.Security.Commands
