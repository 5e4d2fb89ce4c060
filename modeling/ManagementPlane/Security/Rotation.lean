import ManagementPlane.Lib.Binary
import ManagementPlane.Security.Keys

/-!
# What a call does to the keys

Every call on the key set is one or two of a few changes: a key is sealed without being installed,
a key is installed and the active keys of its curve retire, or the expired keys are removed.
`Change` says once what each of them does to the published set, the vault and the key that signs.
-/

namespace ManagementPlane.Security

open GoBinary GoEncoding Policy Tables List

def KeyVault.plainAt (vault : KeyVault) (id : String) : Option (List UInt8) :=
  (vault.lookup id).map VaultEntry.plainKey

variable (vault : KeyVault)

theorem plainAt_insert (id other : String) (entry : VaultEntry) :
    KeyVault.plainAt (vault.insert id entry) other =
      if other = id then some entry.plainKey else vault.plainAt other := by
  rw [KeyVault.plainAt, lookup_insert_if]
  split_ifs <;> rfl

theorem plainAt_markRotated (now : Time) (id other : String) :
    KeyVault.plainAt (vault.markRotated now id) other = vault.plainAt other := by
  rw [KeyVault.plainAt, KeyVault.markRotated, lookup_updateRow]
  split_ifs
  · cases found : vault.lookup other <;> simp [KeyVault.plainAt, found]
  · rfl

variable (keys : List JWK)

theorem plainAt_markAll (now : Time) (vault : KeyVault) (id : String) :
    KeyVault.plainAt (keys.foldl (fun vault k => vault.markRotated now k.vaultID) vault) id =
      vault.plainAt id := by
  induction keys generalizing vault with
  | nil => rfl
  | cons k rest ih =>
    rw [foldl_cons, ih]
    exact plainAt_markRotated vault now k.vaultID id

theorem lookup_deleteAll (vault : KeyVault) (id : String) :
    (keys.foldl (fun vault k => vault.delete k.vaultID) vault).lookup id =
      if id ∈ keys.map JWK.vaultID then none else vault.lookup id := by
  induction keys generalizing vault with
  | nil => simp
  | cons k rest ih =>
    have deleted : (vault.delete k.vaultID).lookup id =
        if id = k.vaultID then none else vault.lookup id := lookup_erase_if vault k.vaultID id
    grind

variable {plainKey : List UInt8}

theorem unsealKey_eq {vault : KeyVault} {id : String}
    (held : vault.plainAt id = some plainKey) : vault.unsealKey id = .ok plainKey := by
  obtain ⟨entry, found, rfl⟩ := Option.map_eq_some_iff.mp held
  rw [KeyVault.unsealKey, found]

/-- A key is in the vault as soon as it is sealed, also when writing the vault fails. -/
inductive SealOutcome (vault : KeyVault) (choice : SealChoice) (id : String)
    (plainKey : List UInt8) : Except String Unit × KeyVault → Prop where
  | refused (err : String) (fails : choice.works = false) :
      SealOutcome vault choice id plainKey (.error err, vault)
  | unwritten (err : String) (after : KeyVault) (fails : choice.works = false)
      (held : ∀ other, after.plainAt other =
        if other = id then some plainKey else vault.plainAt other) :
      SealOutcome vault choice id plainKey (.error err, after)
  | done (after : KeyVault) (works : choice.works = true)
      (held : ∀ other, after.plainAt other =
        if other = id then some plainKey else vault.plainAt other) :
      SealOutcome vault choice id plainKey (.ok (), after)

theorem sealKey_outcome (choice : SealChoice) (now : Time)
    (id label keyType : String) (plainKey : List UInt8) :
    SealOutcome vault choice id plainKey (vault.sealKey choice now id label keyType plainKey) := by
  unfold KeyVault.sealKey
  cases failed : choice.failure with
  | some err => exact .refused err (by simp [SealChoice.works, failed])
  | none =>
    cases unwritten : choice.persistFailure with
    | some err =>
      refine .unwritten _ _ (by simp [SealChoice.works, unwritten]) fun other => ?_
      exact plainAt_insert vault id other _
    | none =>
      refine .done _ (by simp [SealChoice.works, failed, unwritten]) fun other => ?_
      exact plainAt_insert vault id other _

theorem vaultIDOf_injective : Function.Injective vaultIDOf := by
  intro kid other same
  have lists : "jwks-".toList ++ kid.toList = "jwks-".toList ++ other.toList := by
    rw [← String.toList_append, ← String.toList_append]
    exact congrArg String.toList same
  exact String.toList_injective (append_cancel_left lists)

theorem vaultIDOf_ne_empty (kid : String) : vaultIDOf kid ≠ "" := by
  intro empty
  have lists := congrArg String.toList empty
  simp [vaultIDOf] at lists

section
variable (crv : Crv) (overlap now : Time) (k : JWK)

theorem retire_of_not_active (other : k.isActive crv = false) : k.retire crv overlap now = k := by
  rw [JWK.retire, other]
  rfl

theorem retire_of_active (active : k.isActive crv = true) :
    k.retire crv overlap now =
      { k with status := .retiring, retiredAt := some now, expiresAt := now + overlap } := by
  rw [JWK.retire, if_pos active]

theorem retire_same : (k.retire crv overlap now).kid = k.kid ∧ (k.retire crv overlap now).crv = k.crv ∧
    (k.retire crv overlap now).x = k.x ∧ (k.retire crv overlap now).vaultID = k.vaultID := by
  cases active : k.isActive crv with
  | true =>
    grind [retire_of_active]
  | false =>
    grind [retire_of_not_active]

theorem map_kid_retire :
    (keys.map (JWK.retire crv overlap now)).map JWK.kid = keys.map JWK.kid := by
  rw [map_map]
  grind [map_congr_left, retire_same]

theorem isActive_iff : k.isActive crv = true ↔ k.status = .active ∧ k.crv = crv := decide_eq_true_iff

theorem expired_iff : k.expired now = true ↔ k.status = .retiring ∧ k.expiresAt < now :=
  decide_eq_true_iff

end

/-! ## Changes -/

/-- A key is in the vault now, and nothing else there is different. -/
def Sealed (before after : Keys) (id : String) (plainKey : List UInt8) : Prop :=
  ∀ other, after.vault.plainAt other =
    if other = id then some plainKey else before.vault.plainAt other

/-- A new key is active, the active keys of its curve have retired. -/
structure Installed (before after : Keys) (jwk : JWK) (plainKey : List UInt8) (now : Time) :
    Prop where
  active : jwk.status = .active
  vaultID : jwk.vaultID = vaultIDOf jwk.kid
  jwks : after.jwks =
    { before.jwks with
      keys := before.jwks.keys.map (JWK.retire jwk.crv before.jwks.overlapDuration now) ++ [jwk] }
  vault : Sealed before after jwk.vaultID plainKey

/-- The new key is an Ed25519 key and signs from now on. -/
structure Rotated (env : Env) (before after : Keys) (jwk : JWK) (key : SigningKey) (now : Time) :
    Prop where
  installed : Installed before after jwk key.seed now
  crv : jwk.crv = .ed25519
  x : jwk.x = GoEncoding.encodeToString (env.publicKey key.seed)
  signs : after.codeSvc.active = some key
  named : key.id = jwk.kid

/-- A key is in the vault and nowhere else. -/
structure OnlySealed (before after : Keys) (kid : String) (plainKey : List UInt8) : Prop where
  jwks : after.jwks = before.jwks
  codeSvc : after.codeSvc = before.codeSvc
  vault : Sealed before after (vaultIDOf kid) plainKey

inductive Change (env : Env) (clock : Nat → Time) (newKid : String → Prop) (before after : Keys) :
    Prop where
  | same (same : after = before)
  | onlySealed (kid : String) (plainKey : List UInt8) (new : newKid kid)
      (onlySealed : OnlySealed before after kid plainKey)
  | rotated (jwk : JWK) (key : SigningKey) (n : Nat) (inCall : n < 8) (new : newKid jwk.kid)
      (rotated : Rotated env before after jwk key (clock n))
  | rotatedEC (plainKey : List UInt8) (jwk : JWK) (n : Nat) (inCall : n < 8) (new : newKid jwk.kid)
      (installed : Installed before after jwk plainKey (clock n)) (crv : jwk.crv ≠ .ed25519)
      (codeSvc : after.codeSvc = before.codeSvc)
  | cleaned (n : Nat) (inCall : n < 8) (cleaned : after = (before.cleanExpired (clock n)).2)

namespace Keys

variable (env : Env) (s : Keys) (clock : Nat → Time)

def EdChoice.works (choice : EdChoice) : Bool := choice.seed.isOk && choice.sealing.works

def EdChoice.kid (choice : EdChoice) : Option String :=
  choice.seed.toOption.map fun seed => generateKID env "ed25519" (env.publicKey seed)

def ECChoice.kid (choice : ECChoice) (curve : Curve) : Option String :=
  choice.key.toOption.map fun key => generateKID env curve.crv.name key.point

theorem installed_install {jwk : JWK} (now marked : Time) {vault : KeyVault}
    (active : jwk.status = .active) (vaultID : jwk.vaultID = vaultIDOf jwk.kid)
    (held : ∀ other, vault.plainAt other =
      if other = jwk.vaultID then some plainKey else s.vault.plainAt other) :
    Installed s ({ s with vault := vault }.install jwk now marked) jwk plainKey now where
  active := active
  vaultID := vaultID
  jwks := rfl
  vault := by
    intro other
    rw [← held other]
    exact plainAt_markAll _ marked vault other

theorem installed_activate {before after : Keys} {jwk : JWK} {now : Time}
    (installed : Installed before after jwk plainKey now) (key : SigningKey) :
    Installed before (after.activate key) jwk plainKey now :=
  ⟨installed.active, installed.vaultID, installed.jwks, installed.vault⟩

theorem rotateEd25519Key_cases (choice : EdChoice) :
    (choice.works = true ∧ ∃ jwk key, choice.kid env = some jwk.kid ∧
        Rotated env s (s.rotateEd25519Key env choice clock).2 jwk key (clock 3)) ∨
      (choice.works = false ∧ ((s.rotateEd25519Key env choice clock).2 = s ∨
        ∃ kid plainKey, choice.kid env = some kid ∧
          OnlySealed s (s.rotateEd25519Key env choice clock).2 kid plainKey)) := by
  unfold rotateEd25519Key
  cases drawn : choice.seed with
  | error err => exact .inr ⟨by simp [EdChoice.works, drawn, Except.isOk, Except.toBool], .inl rfl⟩
  | ok seed =>
    have named : choice.kid env = some (generateKID env "ed25519" (env.publicKey seed)) := by
      simp [EdChoice.kid, drawn, Except.toOption]
    have outcome := sealKey_outcome s.vault choice.sealing (clock 0)
      (vaultIDOf (generateKID env "ed25519" (env.publicKey seed))) "JWKS Ed25519 signing key"
      "ed25519" seed
    dsimp only
    generalize s.vault.sealKey choice.sealing (clock 0) _ _ _ _ = result at outcome ⊢
    cases outcome with
    | refused err fails => exact .inr ⟨by simp [EdChoice.works, fails], .inl rfl⟩
    | unwritten err vault fails held =>
      exact .inr ⟨by simp [EdChoice.works, fails], .inr ⟨_, seed, named, rfl, rfl, held⟩⟩
    | done vault works held =>
      let kid := generateKID env "ed25519" (env.publicKey seed)
      let key := signingKey env kid ("jwks-rotated-" ++ kid) seed (clock 5)
      refine .inl ⟨by simp [EdChoice.works, drawn, works, Except.isOk, Except.toBool],
        s.edJWK env kid seed (clock 1) (clock 2), key, named, ?_, rfl, rfl, ?_, rfl⟩
      · exact installed_activate (installed_install s _ _ rfl rfl held) key
      · exact AList.lookup_insert _

theorem rotateEd25519Key_change (choice : EdChoice) (shift : Nat) (small : shift < 5) :
    Change env clock (fun kid => choice.kid env = some kid) s
      (s.rotateEd25519Key env choice fun n => clock (n + shift)).2 := by
  rcases s.rotateEd25519Key_cases env (fun n => clock (n + shift)) choice with
    ⟨_, jwk, key, named, rotated⟩ | ⟨_, same | ⟨kid, plainKey, named, onlySealed⟩⟩
  · exact .rotated jwk key (3 + shift) (by omega) named rotated
  · exact .same same
  · exact .onlySealed kid plainKey named onlySealed

theorem rotateECDSAKey_cases (choice : ECChoice) (curve : Curve) :
    (s.rotateECDSAKey env choice curve clock).2 = s ∨
      (∃ kid plainKey, choice.kid env curve = some kid ∧
        OnlySealed s (s.rotateECDSAKey env choice curve clock).2 kid plainKey) ∨
      ∃ plainKey jwk, choice.kid env curve = some jwk.kid ∧
        Installed s (s.rotateECDSAKey env choice curve clock).2 jwk plainKey (clock 3) ∧
        jwk.crv ≠ .ed25519 ∧ (s.rotateECDSAKey env choice curve clock).2.codeSvc = s.codeSvc := by
  unfold rotateECDSAKey
  cases drawn : choice.key with
  | error err => exact .inl rfl
  | ok key =>
    have named : choice.kid env curve = some (generateKID env curve.crv.name key.point) := by
      simp [ECChoice.kid, drawn, Except.toOption]
    dsimp only
    split_ifs
    · exact .inl rfl
    · cases choice.marshalFailure with
      | some err => exact .inl rfl
      | none =>
        have outcome := sealKey_outcome s.vault choice.sealing (clock 0)
          (vaultIDOf (generateKID env curve.crv.name key.point))
          ("JWKS ECDSA " ++ curve.crv.name ++ " key") ("ecdsa-" ++ curve.crv.name) key.der
        generalize s.vault.sealKey choice.sealing (clock 0) _ _ _ _ = result at outcome ⊢
        cases outcome with
        | refused err _ => exact .inl rfl
        | unwritten err vault _ held =>
          exact .inr (.inl ⟨_, key.der, named, rfl, rfl, held⟩)
        | done vault _ held =>
          exact .inr (.inr ⟨key.der, _, named,
            installed_install s _ _ rfl rfl held, curve.crv_ne_ed25519, rfl⟩)

theorem rotateECDSAKey_change (choice : ECChoice) (curve : Curve) :
    Change env clock (fun kid => choice.kid env curve = some kid) s
      (s.rotateECDSAKey env choice curve clock).2 := by
  rcases s.rotateECDSAKey_cases env clock choice curve with
    same | ⟨kid, plainKey, named, onlySealed⟩ | ⟨plainKey, jwk, named, installed, crv, codeSvc⟩
  · exact .same same
  · exact .onlySealed kid plainKey named onlySealed
  · exact .rotatedEC plainKey jwk 3 (by omega) named installed crv codeSvc

end Keys

section
variable (env : Env) (boot : Boot)

def Boot.rootJWK : JWK :=
  (boot.services env).edJWK env (generateID "csk" boot.random) boot.seed (boot.clock 2) (boot.clock 3)

def Boot.caJWK : JWK :=
  (boot.services env).ecJWK boot.caCurve.crv "ca-root"
    (padOrTrim boot.caKey.x ((boot.caKey.bitSize + 7) / 8))
    (padOrTrim boot.caKey.y ((boot.caKey.bitSize + 7) / 8)) (boot.clock 5) (boot.clock 6)

def Boot.caImports : Bool := boot.caMarshalFailure.isNone && boot.caSeal.works

theorem boot_active :
    (boot.keys env).codeSvc.active =
      some (signingKey env (generateID "csk" boot.random) "root-signing-key" boot.seed
        (boot.clock 0)) := by
  rw [boot_codeSvc]
  exact AList.lookup_insert _

variable (works : boot.rootSeal.works = true)

include works

theorem importRoot :
    ∃ vault, (boot.services env).importActiveKeyIntoJWKS env boot.rootSeal
        (fun n => boot.clock (n + 1)) =
      { vault := vault
        codeSvc := (boot.services env).codeSvc
        jwks := { (boot.services env).jwks with keys := [boot.rootJWK env] } } ∧
      vault.plainAt (boot.rootJWK env).vaultID = some boot.seed := by
  have active : (boot.services env).codeSvc.active = some (signingKey env
      (generateID "csk" boot.random) "root-signing-key" boot.seed (boot.clock 0)) :=
    AList.lookup_insert _
  have outcome := sealKey_outcome (boot.services env).vault boot.rootSeal (boot.clock (0 + 1))
    (vaultIDOf (generateID "csk" boot.random)) "Imported Ed25519 key" "ed25519" boot.seed
  simp [Keys.importActiveKeyIntoJWKS, active, Keys.importExistingEd25519Key, signingKey]
  generalize (boot.services env).vault.sealKey boot.rootSeal (boot.clock (0 + 1)) _ _ _ _ = result
    at outcome ⊢
  cases outcome with
  | refused err fails | unwritten err after fails held => exact absurd works (by simp [fails])
  | done after _ held =>
    refine ⟨after, rfl, ?_⟩
    rw [held]
    exact if_pos rfl

theorem boot_keys :
    (boot.keys env).jwks =
        { newJWKSService boot.cfg with
          keys := boot.rootJWK env :: if boot.caImports then [boot.caJWK env] else [] } ∧
      (boot.keys env).vault.plainAt (boot.rootJWK env).vaultID = some boot.seed := by
  obtain ⟨vault, imported, held⟩ := importRoot env boot works
  have apart : (boot.rootJWK env).vaultID ≠ vaultIDOf "ca-root" := fun same =>
    generateID_ne_caRoot boot.random (vaultIDOf_injective same)
  have outcome := sealKey_outcome vault boot.caSeal (boot.clock (0 + 4)) (vaultIDOf "ca-root")
    ("Imported ECDSA " ++ boot.caCurve.crv.name ++ " CA key") ("ecdsa-" ++ boot.caCurve.crv.name)
    boot.caKey.der
  simp [Boot.keys, imported, Keys.importExistingECDSAKey]
  cases marshal : boot.caMarshalFailure with
  | some err => exact ⟨by simp [Boot.caImports, marshal, Boot.services], held⟩
  | none =>
    generalize vault.sealKey boot.caSeal (boot.clock (0 + 4)) _ _ _ _ = result at outcome ⊢
    cases outcome with
    | refused err fails => exact ⟨by simp [Boot.caImports, fails, Boot.services], held⟩
    | unwritten err after fails stored =>
      simp_all [Boot.caImports, Boot.services]
    | done after sealed stored =>
      refine ⟨by simp [Boot.caImports, marshal, sealed, Boot.services, Boot.caJWK]; rfl, ?_⟩
      rw [stored, if_neg apart, held]

end

inductive Call where
  | rotateEd25519 (choice : Keys.EdChoice)
  | rotateECDSA (choice : Keys.ECChoice) (curve : Curve)
  | cleanExpired
  | tick (choice : Keys.EdChoice)

variable (env : Env)

def Keys.apply (s : Keys) (clock : Nat → Time) : Call → Keys
  | .rotateEd25519 choice => (s.rotateEd25519Key env choice clock).2
  | .rotateECDSA choice curve => (s.rotateECDSAKey env choice curve clock).2
  | .cleanExpired => (s.cleanExpired (clock 0)).2
  | .tick choice => s.tick env choice clock

def Call.kid : Call → Option String
  | .rotateEd25519 choice => choice.kid env
  | .rotateECDSA choice curve => choice.kid env curve
  | .cleanExpired => none
  | .tick choice => choice.kid env

theorem apply_changes (s : Keys) (clock : Nat → Time) (call : Call) :
    ∃ between, between.jwks.keys ⊆ s.jwks.keys ∧
      Change env clock (fun kid => call.kid env = some kid) s between ∧
      Change env clock (fun kid => call.kid env = some kid) between (s.apply env clock call) := by
  cases call with
  | rotateEd25519 choice =>
    exact ⟨s, List.Subset.refl _, .same rfl,
      s.rotateEd25519Key_change env clock choice 0 (by omega)⟩
  | rotateECDSA choice curve =>
    exact ⟨s, List.Subset.refl _, .same rfl, s.rotateECDSAKey_change env clock choice curve⟩
  | cleanExpired => exact ⟨s, List.Subset.refl _, .same rfl, .cleaned 0 (by omega) rfl⟩
  | tick choice =>
    refine ⟨(s.cleanExpired (clock 0)).2, filter_subset_self _, .cleaned 0 (by omega) rfl, ?_⟩
    unfold Keys.apply Keys.tick
    dsimp only
    split_ifs
    · exact Keys.rotateEd25519Key_change env _ clock choice 2 (by omega)
    · exact .same rfl

theorem apply_keeps {P : Keys → Prop} {s : Keys} {clock : Nat → Time} {call : Call}
    (keeps : ∀ before after, before.jwks.keys ⊆ s.jwks.keys →
      Change env clock (fun kid => call.kid env = some kid) before after → P before → P after)
    (start : P s) : P (s.apply env clock call) := by
  obtain ⟨between, fewer, first, second⟩ := apply_changes env s clock call
  exact keeps _ _ fewer second (keeps _ _ (List.Subset.refl _) first start)

/-! ## Coordinates of published keys -/

def Curve.size : Curve → Nat
  | .p256 => 32
  | .p384 => 48
  | .other => 0

/-- A key of a curve. The coordinates are below the size of the field, so their bytes are
no more than its. -/
structure CurveKey (curve : Curve) extends ECKey where
  bitSize_eq : bitSize = 8 * curve.size
  x_le : x.length ≤ curve.size
  y_le : y.length ≤ curve.size

/-- Both members decode to all bytes of the field, with the values of the coordinates. -/
def JWK.FullWidth {curve : Curve} (jwk : JWK) (key : CurveKey curve) : Prop :=
  jwk.x = encodeToString (bigEndian curve.size (ofBigEndian key.x)) ∧
    jwk.y = encodeToString (bigEndian curve.size (ofBigEndian key.y))

theorem padOrTrim_eq_bigEndian {bytes : Bytes} {size : Nat} (short : bytes.length ≤ size) :
    padOrTrim bytes size = bigEndian size (ofBigEndian bytes) := by
  have zeros : ∀ n, ofBigEndian (List.replicate n 0 ++ bytes) = ofBigEndian bytes := by
    intro n
    induction n with
    | zero => rfl
    | succ n ih => simp [replicate_succ, ofBigEndian_cons, ih]
  have padded : padOrTrim bytes size = List.replicate (size - bytes.length) 0 ++ bytes := by
    unfold padOrTrim
    split_ifs
    · simp [show bytes.length = size by omega]
    · rfl
  have whole := bigEndian_ofBigEndian (List.replicate (size - bytes.length) 0 ++ bytes)
  rw [zeros, length_append, length_replicate, Nat.sub_add_cancel short] at whole
  rw [padded, whole]

theorem encode_eq_bigEndian_iff (bytes : Bytes) (size : Nat) :
    encodeToString bytes = encodeToString (bigEndian size (ofBigEndian bytes)) ↔
      bytes.length = size := by
  constructor
  · intro same
    have lengths := congrArg String.length same
    rw [length_encodeToString, length_encodeToString, length_bigEndian] at lengths
    omega
  · intro full
    rw [← full, bigEndian_ofBigEndian]

/-- An imported key is published at full width; a rotated one exactly when neither coordinate
begins with a zero byte, which its bytes leave out. -/
theorem coordinates_full_width_iff (env : Env) (s : Keys) (clock : Nat → Time) (curve : Curve)
    (key : CurveKey curve) :
    (∀ failure choice kid,
      (s.importExistingECDSAKey failure choice kid curve key.toECKey clock).1 = .ok () →
        ∃ jwk, (s.importExistingECDSAKey failure choice kid curve key.toECKey clock).2.jwks.keys =
          s.jwks.keys ++ [jwk] ∧ jwk.FullWidth key) ∧
    ∀ choice jwk, choice.key = .ok key.toECKey →
      (s.rotateECDSAKey env choice curve clock).1 = .ok jwk →
        (jwk.FullWidth key ↔ key.x.length = curve.size ∧ key.y.length = curve.size) := by
  constructor
  · intro failure choice kid imported
    have width : (key.bitSize + 7) / 8 = curve.size := by
      have bits := key.bitSize_eq
      omega
    unfold Keys.importExistingECDSAKey at imported ⊢
    cases failure with
    | some err => cases imported
    | none =>
      dsimp only at imported ⊢
      split at imported
      · cases imported
      · refine ⟨_, rfl, ?_⟩
        rw [width, padOrTrim_eq_bigEndian key.x_le, padOrTrim_eq_bigEndian key.y_le]
        exact ⟨rfl, rfl⟩
  · intro choice jwk drawn rotated
    unfold Keys.rotateECDSAKey at rotated
    rw [drawn] at rotated
    dsimp only at rotated
    split_ifs at rotated
    split at rotated
    · cases rotated
    · split at rotated
      · cases rotated
      · cases rotated
        exact and_congr (encode_eq_bigEndian_iff ..) (encode_eq_bigEndian_iff ..)

def shortX : Nat := 0x5543894af3d00ed7d740abdbd75c96b06877b787db5f70eea78b90a8d7c00a

def shortY : Nat := 0xbb4c85a3d8ea29efaafa24406912dd84d5b14dc32bf656ef6c6bd58a5d943f92

/-- The key with the private number 379. -/
def shortKey : CurveKey .p256 where
  der := [48, 119, 2, 1, 1, 4, 32] ++ bigEndian 32 379 ++
    [160, 10, 6, 8, 42, 134, 72, 206, 61, 3, 1, 7, 161, 68, 3, 66, 0, 4] ++
    bigEndian 32 shortX ++ bigEndian 32 shortY
  point := 4 :: bigEndian 32 shortX ++ bigEndian 32 shortY
  x := bigEndian 31 shortX
  y := bigEndian 32 shortY
  bitSize := 256
  bitSize_eq := by decide
  x_le := by decide
  y_le := by decide

theorem rotated_coordinate_short : ∃ s : Keys, ∃ jwk,
    (s.rotateECDSAKey demoEnv { key := .ok shortKey.toECKey } .p256 fun _ => 0).1 = .ok jwk ∧
      ¬ jwk.FullWidth shortKey := by
  refine ⟨demoBoot.keys demoEnv, _, rfl, ?_⟩
  unfold JWK.FullWidth
  decide +kernel

end ManagementPlane.Security
