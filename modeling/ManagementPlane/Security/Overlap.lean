import Mathlib.Data.Int.ConditionallyCompleteOrder
import Mathlib.Order.ConditionallyCompleteLattice.Basic
import ManagementPlane.Security.Commands
import ManagementPlane.Security.Rotation

/-!
# Signatures stay verifiable through the overlap

The server after its bootstrap, with a clock that never goes back. A key that has signed a command
at time `t` is active then, so it retires at `t` or later and is published until the overlap after
that is over. Until then `CleanExpired` leaves it in the set and in the vault.
-/

namespace ManagementPlane.Security

open Commands Policy Runs Tables List

structure Server where
  world : World
  now : Time

inductive ServerCall where
  | keys (call : Call)
  | issue (req : IssueCommandRequest) (issuedBy : String) (nonce : Except String (List UInt8))
      (id : Option (List UInt8))

/-- A call with the readings of the clock during the call; it returns at the last one. -/
structure Timed where
  call : ServerCall
  clock : Nat → Time

def drawnAt (nonce : Except String (List UInt8)) (id : Option (List UInt8)) (clock : Nat → Time) :
    Except String Drawn :=
  nonce.map fun nonce => ⟨nonce, id, clock 0, clock 1⟩

def Server.step (env : Env) (s : Server) (timed : Timed) : Server where
  world :=
    match timed.call with
    | .keys call => { s.world with keys := s.world.keys.apply env timed.clock call }
    | .issue req issuedBy nonce id =>
      (issueCommand env s.world req issuedBy (drawnAt nonce id timed.clock)).2
  now := timed.clock 8

def Server.boot (env : Env) (boot : Boot) : Server := ⟨start env boot, boot.clock 7⟩

/-- The clock does not go back, and a new key has an id that no key of the set has. -/
structure Timely (env : Env) (s : Server) (timed : Timed) : Prop where
  monotone : Monotone timed.clock
  notBefore : s.now ≤ timed.clock 0
  distinct : ∀ call, timed.call = .keys call → ∀ kid, call.kid env = some kid →
    kid ∉ s.world.keys.jwks.keys.map JWK.kid

/-! ## Keys that are held -/

section
variable (env : Env) (s : Keys)

/-- A key of the set, with its private part in the vault. -/
structure Carries (kid : String) (seed : List UInt8) (jwk : JWK) : Prop where
  member : jwk ∈ s.jwks.keys
  kid : jwk.kid = kid
  crv : jwk.crv = .ed25519
  x : jwk.x = GoEncoding.encodeToString (env.publicKey seed)
  vault : s.vault.plainAt jwk.vaultID = some seed

def Held (kid : String) (seed : List UInt8) (deadline : Time) : Prop :=
  ∃ jwk, Carries env s kid seed jwk ∧ (jwk.status = .active ∨ deadline ≤ jwk.expiresAt)

structure Sound (overlap : Time) : Prop where
  distinct : (s.jwks.keys.map JWK.kid).Nodup
  vaultIDs : ∀ k ∈ s.jwks.keys, k.vaultID = vaultIDOf k.kid
  overlapDuration : s.jwks.overlapDuration = overlap
  signer : ∃ key jwk, s.codeSvc.active = some key ∧ Carries env s key.id key.seed jwk ∧
    jwk.status = .active

variable {env s} {overlap : Time}

theorem Sound.eq_of_kid (sound : Sound env s overlap) {k other : JWK} (member : k ∈ s.jwks.keys)
    (otherMember : other ∈ s.jwks.keys) (same : k.kid = other.kid) : k = other :=
  inj_on_of_nodup_map sound.distinct member otherMember same

variable {now : Time} {kid : String} {seed : List UInt8}

theorem lookup_cleaned (sound : Sound env s overlap) {k : JWK}
    (member : k ∈ s.jwks.keys) (stays : k.expired now = false) :
    (s.cleanExpired now).2.vault.lookup k.vaultID = s.vault.lookup k.vaultID := by
  refine (lookup_deleteAll _ s.vault k.vaultID).trans (if_neg ?_)
  intro deleted
  obtain ⟨other, removed, sameID⟩ := mem_map.mp deleted
  obtain ⟨otherMember, expired⟩ := mem_filter.mp removed
  have same : other = k := by
    apply sound.eq_of_kid otherMember member
    apply vaultIDOf_injective
    rw [← sound.vaultIDs other otherMember, ← sound.vaultIDs k member, sameID]
  rw [same, stays] at expired
  cases expired

theorem mem_cleaned {k : JWK} (member : k ∈ s.jwks.keys)
    (stays : k.expired now = false) : k ∈ (s.cleanExpired now).2.jwks.keys :=
  mem_filter.mpr ⟨member, by rw [stays]; rfl⟩

theorem carries_cleaned (sound : Sound env s overlap)
    {jwk : JWK} (carries : Carries env s kid seed jwk)
    (stays : jwk.expired now = false) : Carries env (s.cleanExpired now).2 kid seed jwk where
  member := mem_cleaned carries.member stays
  kid := carries.kid
  crv := carries.crv
  x := carries.x
  vault := by
    rw [KeyVault.plainAt, lookup_cleaned sound carries.member stays]
    exact carries.vault

variable {after : Keys} {plainKey : List UInt8}

theorem plainAt_sealed (sound : Sound env s overlap)
    (isSealed : Sealed s after (vaultIDOf kid) plainKey) (isNew : kid ∉ s.jwks.keys.map JWK.kid)
    {k : JWK} (member : k ∈ s.jwks.keys) :
    after.vault.plainAt k.vaultID = s.vault.plainAt k.vaultID := by
  rw [isSealed, if_neg]
  rw [sound.vaultIDs k member]
  grind [vaultIDOf_injective, mem_map_of_mem]

theorem carries_sealed (sound : Sound env s overlap) {new : String}
    (onlySealed : OnlySealed s after new plainKey) (isNew : new ∉ s.jwks.keys.map JWK.kid)
    {jwk : JWK} (carries : Carries env s kid seed jwk) : Carries env after kid seed jwk where
  member := by
    rw [onlySealed.jwks]
    exact carries.member
  kid := carries.kid
  crv := carries.crv
  x := carries.x
  vault := (plainAt_sealed sound onlySealed.vault isNew carries.member).trans carries.vault

variable {new : JWK}

theorem carries_installed (sound : Sound env s overlap)
    (installed : Installed s after new plainKey now)
    (isNew : new.kid ∉ s.jwks.keys.map JWK.kid) {jwk : JWK} (carries : Carries env s kid seed jwk) :
    Carries env after kid seed (jwk.retire new.crv s.jwks.overlapDuration now) := by
  obtain ⟨sameKid, sameCrv, sameX, sameVaultID⟩ := retire_same new.crv s.jwks.overlapDuration now jwk
  constructor
  · rw [installed.jwks]
    exact mem_append_left _ (mem_map_of_mem carries.member)
  · rw [sameKid, carries.kid]
  · rw [sameCrv, carries.crv]
  · rw [sameX, carries.x]
  · rw [sameVaultID, ← carries.vault]
    have isSealed := installed.vault
    rw [installed.vaultID] at isSealed
    exact plainAt_sealed sound isSealed isNew carries.member

theorem carries_new (installed : Installed s after new seed now) (crv : new.crv = .ed25519)
    (x : new.x = GoEncoding.encodeToString (env.publicKey seed)) :
    Carries env after new.kid seed new where
  member := by
    rw [installed.jwks]
    exact mem_append_right _ (mem_singleton_self _)
  kid := rfl
  crv := crv
  x := x
  vault := (installed.vault new.vaultID).trans (if_pos rfl)

theorem distinct_installed (sound : Sound env s overlap)
    (installed : Installed s after new plainKey now)
    (isNew : new.kid ∉ s.jwks.keys.map JWK.kid) : (after.jwks.keys.map JWK.kid).Nodup := by
  rw [installed.jwks, map_append, map_kid_retire]
  refine nodup_append'.mpr ⟨sound.distinct, nodup_singleton _, ?_⟩
  rwa [map_singleton, disjoint_singleton]

theorem vaultIDs_installed (sound : Sound env s overlap)
    (installed : Installed s after new plainKey now) (k : JWK)
    (member : k ∈ after.jwks.keys) : k.vaultID = vaultIDOf k.kid := by
  rw [installed.jwks, mem_append, mem_singleton] at member
  rcases member with old | rfl
  · obtain ⟨before, memberBefore, rfl⟩ := mem_map.mp old
    obtain ⟨sameKid, _, _, sameVaultID⟩ := retire_same new.crv s.jwks.overlapDuration now before
    rw [sameKid, sameVaultID, sound.vaultIDs before memberBefore]
  · exact installed.vaultID

variable {clock : Nat → Time} {newKid : String → Prop}
variable (change : Change env clock newKid s after)
variable (isNew : ∀ kid, newKid kid → kid ∉ s.jwks.keys.map JWK.kid)

include change isNew

theorem sound_change (sound : Sound env s overlap) : Sound env after overlap := by
  obtain ⟨signing, current, signs, carries, active⟩ := sound.signer
  cases change with
  | same same =>
    rwa [same]
  | onlySealed kid plainKey new onlySealed =>
    have jwks := onlySealed.jwks
    exact ⟨by rw [jwks]; exact sound.distinct, by rw [jwks]; exact sound.vaultIDs,
      by rw [jwks]; exact sound.overlapDuration, signing, current,
      by rw [onlySealed.codeSvc]; exact signs,
      carries_sealed sound onlySealed (isNew kid new) carries, active⟩
  | rotated jwk key n inCall new rotated =>
    have installed := rotated.installed
    refine ⟨distinct_installed sound installed (isNew jwk.kid new),
      vaultIDs_installed sound installed, by rw [installed.jwks]; exact sound.overlapDuration,
      key, jwk, rotated.signs, ?_, installed.active⟩
    rw [rotated.named]
    exact carries_new installed rotated.crv rotated.x
  | rotatedEC plainKey jwk n inCall new installed crv codeSvc =>
    have untouched : current.isActive jwk.crv = false := by
      rw [Bool.eq_false_iff, ne_eq, isActive_iff, carries.crv]
      exact fun both => crv both.2.symm
    have kept := carries_installed sound installed (isNew jwk.kid new) carries
    rw [retire_of_not_active _ _ _ _ untouched] at kept
    exact ⟨distinct_installed sound installed (isNew jwk.kid new),
      vaultIDs_installed sound installed, by rw [installed.jwks]; exact sound.overlapDuration,
      signing, current, by rw [codeSvc]; exact signs, kept, active⟩
  | cleaned n inCall cleaned =>
    have stays : current.expired (clock n) = false := by
      rw [Bool.eq_false_iff, ne_eq, expired_iff, active]
      exact fun both => KeyStatus.noConfusion both.1
    rw [cleaned]
    refine ⟨sound.distinct.sublist (filter_sublist.map _), ?_, sound.overlapDuration,
      signing, current, signs, carries_cleaned sound carries stays, active⟩
    intro k member
    exact sound.vaultIDs k (mem_filter.mp member).1

theorem held_change (sound : Sound env s overlap) {deadline : Time} (monotone : Monotone clock)
    (early : deadline ≤ clock 0 + overlap) (held : Held env s kid seed deadline) :
    Held env after kid seed deadline ∨ deadline ≤ clock 8 := by
  obtain ⟨jwk, carries, lasts⟩ := held
  have retired (new : JWK) (plainKey : List UInt8) (n : Nat) (fresh : newKid new.kid)
      (installed : Installed s after new plainKey (clock n)) : Held env after kid seed deadline := by
    refine ⟨_, carries_installed sound installed (isNew new.kid fresh) carries, ?_⟩
    cases active : jwk.isActive new.crv with
    | true =>
      right
      have later : clock 0 ≤ clock n := monotone (Nat.zero_le n)
      rw [retire_of_active _ _ _ _ active, sound.overlapDuration]
      exact early.trans (Int.add_le_add_right later overlap)
    | false =>
      rwa [retire_of_not_active _ _ _ _ active]
  cases change with
  | same same =>
    rw [same]
    exact .inl ⟨jwk, carries, lasts⟩
  | onlySealed other plainKey new onlySealed =>
    exact .inl ⟨jwk, carries_sealed sound onlySealed (isNew other new) carries, lasts⟩
  | rotated jwk _ n _ new rotated => exact .inl (retired jwk _ n new rotated.installed)
  | rotatedEC _ jwk n _ new installed _ _ => exact .inl (retired jwk _ n new installed)
  | cleaned n inCall cleaned =>
    cases expired : jwk.expired (clock n) with
    | false =>
      rw [cleaned]
      exact .inl ⟨jwk, carries_cleaned sound carries expired, lasts⟩
    | true =>
      right
      obtain ⟨retiring, past⟩ := (expired_iff (clock n) jwk).mp expired
      have later : clock n ≤ clock 8 := monotone (by omega)
      rcases lasts with active | lasts
      · rw [retiring] at active
        cases active
      · exact (lasts.trans past.le).trans later

end

/-! ## Runs -/

section
variable (env : Env)

theorem sound_boot {boot : Boot} (imported : boot.rootSeal.works = true) :
    Sound env (boot.keys env) (newJWKSService boot.cfg).overlapDuration := by
  obtain ⟨jwks, held⟩ := boot_keys env boot imported
  refine ⟨?_, ?_, by rw [jwks], _, boot.rootJWK env, boot_active env boot,
    ⟨by rw [jwks]; exact mem_cons_self .., rfl, rfl, rfl, held⟩, rfl⟩
  · rw [jwks]
    cases boot.caImports with
    | false => exact nodup_singleton _
    | true => simpa [Boot.rootJWK, Keys.edJWK, Boot.caJWK, Keys.ecJWK] using
        generateID_ne_caRoot boot.random
  · rw [jwks]
    cases boot.caImports with
    | false => simp [Boot.rootJWK, Keys.edJWK]
    | true => simp [Boot.rootJWK, Keys.edJWK, Boot.caJWK, Keys.ecJWK]

theorem issueCommand_keys (world : World) (req : IssueCommandRequest) (issuedBy : String)
    (drawn : Except String Drawn) :
    (issueCommand env world req issuedBy drawn).2.keys = world.keys := by
  unfold issueCommand
  split
  · rfl
  · split <;> rfl

variable {env} {s : Server} {timed : Timed} {overlap : Time}

theorem step_keeps (P : Keys → Prop) (timely : Timely env s timed)
    (keeps : ∀ before after newKid, Change env timed.clock newKid before after →
      (∀ kid, newKid kid → kid ∉ before.jwks.keys.map JWK.kid) → P before → P after)
    (holds : P s.world.keys) : P (s.step env timed).world.keys := by
  unfold Server.step
  cases called : timed.call with
  | keys call =>
    refine apply_keeps env ?_ holds
    intro before after fewer change
    refine keeps before after _ change fun kid new member => ?_
    exact timely.distinct call called kid new (map_subset _ fewer member)
  | issue req issuedBy nonce id =>
    dsimp only
    rwa [issueCommand_keys]

theorem sound_step (timely : Timely env s timed) (sound : Sound env s.world.keys overlap) :
    Sound env (s.step env timed).world.keys overlap :=
  step_keeps (fun keys => Sound env keys overlap) timely
    (fun _ _ _ change isNew sound => sound_change change isNew sound) sound

variable (env) in
/-- The key is held, unless the deadline has passed. -/
structure HeldUntil (overlap : Time) (kid : String) (seed : List UInt8) (deadline : Time)
    (s : Server) : Prop where
  sound : Sound env s.world.keys overlap
  early : deadline ≤ s.now + overlap
  held : Held env s.world.keys kid seed deadline ∨ deadline ≤ s.now

variable {seed : List UInt8}

theorem heldUntil_step {kid : String} {deadline : Time}
    (timely : Timely env s timed) (held : HeldUntil env overlap kid seed deadline s) :
    HeldUntil env overlap kid seed deadline (s.step env timed) := by
  have returns := timely.notBefore.trans (timely.monotone (Nat.zero_le 8))
  have early := held.early.trans (Int.add_le_add_right timely.notBefore overlap)
  refine ⟨sound_step timely held.sound, held.early.trans (Int.add_le_add_right returns overlap), ?_⟩
  have both := step_keeps (fun keys => Sound env keys overlap ∧
      (Held env keys kid seed deadline ∨ deadline ≤ timed.clock 8)) timely ?_
    ⟨held.sound, held.held.imp_right fun passed => passed.trans returns⟩
  · exact both.2
  · rintro before after newKid change isNew ⟨sound, isHeld | passed⟩
    · exact ⟨sound_change change isNew sound,
        held_change change isNew sound timely.monotone early isHeld⟩
    · exact ⟨sound_change change isNew sound, .inr passed⟩

/-- The key that signed a command is published, and its private part can be unsealed. -/
def Verifiable (env : Env) (keys : Keys) (cmd : SignedCommand) (now : Time) : Prop :=
  ∃ jwk ∈ keys.jwks.getJWKS now, ∃ seed, jwk.kid = cmd.signingKeyID ∧ jwk.crv = .ed25519 ∧
    jwk.x = GoEncoding.encodeToString (env.publicKey seed) ∧
    keys.unsealEd25519Key cmd.signingKeyID = .ok seed ∧
    cmd.signature = GoHex.encodeToString (env.sign seed (digestOf cmd.payloadHash))

theorem unsealEd25519Key_of_carries {keys : Keys} (sound : Sound env keys overlap) {kid : String}
    {jwk : JWK} (carries : Carries env keys kid seed jwk) :
    keys.unsealEd25519Key kid = .ok seed := by
  have found : keys.jwks.keys.find? (fun k => k.kid = kid) = some jwk := by
    cases search : keys.jwks.keys.find? (fun k => k.kid = kid) with
    | none =>
      have absent := find?_eq_none.mp search jwk carries.member
      exact absurd (decide_eq_true carries.kid) absent
    | some other =>
      have otherKid : other.kid = kid := by simpa using find?_some search
      rw [sound.eq_of_kid (mem_of_find?_eq_some search) carries.member
        (otherKid.trans carries.kid.symm)]
  have named : jwk.vaultID ≠ "" := by
    rw [sound.vaultIDs jwk carries.member]
    exact vaultIDOf_ne_empty jwk.kid
  rw [Keys.unsealEd25519Key, found]
  dsimp only
  rw [if_neg named, unsealKey_eq carries.vault]
  rfl

variable {cmd : SignedCommand} {nonce : Except String (List UInt8)}

theorem issueCommand_ok {world : World} {req : IssueCommandRequest} {issuedBy : String}
    {id : Option (List UInt8)} {clock : Nat → Time}
    (issued : (issueCommand env world req issuedBy (drawnAt nonce id clock)).1 = .ok cmd) :
    ∃ key, world.keys.codeSvc.active = some key ∧ cmd.signingKeyID = key.id ∧
      cmd.issuedAt = clock 0 ∧
      cmd.signature = GoHex.encodeToString (env.sign key.seed (digestOf cmd.payloadHash)) := by
  unfold issueCommand drawnAt at issued
  cases active : world.keys.codeSvc.active with
  | none =>
    rw [active] at issued
    cases issued
  | some key =>
    rw [active] at issued
    cases nonce with
    | error err => cases issued
    | ok bytes =>
      cases issued
      exact ⟨key, rfl, rfl, rfl, rfl⟩

theorem HeldUntil.verifiable {deadline now : Time}
    (lasting : HeldUntil env overlap cmd.signingKeyID seed deadline s)
    (signature : cmd.signature = GoHex.encodeToString (env.sign seed (digestOf cmd.payloadHash)))
    (notBefore : s.now ≤ now) (inTime : now < deadline) : Verifiable env s.world.keys cmd now := by
  rcases lasting.held with ⟨jwk, carries, lasts⟩ | passed
  · have isPublished : jwk.published now = true := by
      unfold JWK.published
      grind
    exact ⟨jwk, mem_filter.mpr ⟨carries.member, isPublished⟩, seed, carries.kid, carries.crv,
      carries.x, unsealEd25519Key_of_carries lasting.sound carries, signature⟩
  · exact absurd (lt_of_lt_of_le inTime (passed.trans notBefore)) (lt_irrefl now)

theorem heldUntil_issue {req : IssueCommandRequest} {issuedBy : String}
    {id : Option (List UInt8)} {clock : Nat → Time} (sound : Sound env s.world.keys overlap)
    (timely : Timely env s ⟨.issue req issuedBy nonce id, clock⟩)
    (issued : (issueCommand env s.world req issuedBy (drawnAt nonce id clock)).1 = .ok cmd) :
    ∃ seed, cmd.signature = GoHex.encodeToString (env.sign seed (digestOf cmd.payloadHash)) ∧
      HeldUntil env overlap cmd.signingKeyID seed (cmd.issuedAt + overlap)
        (s.step env ⟨.issue req issuedBy nonce id, clock⟩) := by
  obtain ⟨key, active, named, issuedAt, signature⟩ := issueCommand_ok issued
  obtain ⟨signing, jwk, signs, carries, isActive⟩ := sound.signer
  rw [active] at signs
  obtain rfl := Option.some.inj signs
  refine ⟨key.seed, signature, sound_step timely sound, ?_, .inl ⟨jwk, ?_, .inl isActive⟩⟩
  · rw [issuedAt]
    exact Int.add_le_add_right (timely.monotone (Nat.zero_le 8)) overlap
  · rw [named]
    have sameKeys := issueCommand_keys env s.world req issuedBy (drawnAt nonce id clock)
    rw [← sameKeys] at carries
    exact carries

theorem signatures_outlive_rotation (env : Env) (boot : Boot)
    (imported : boot.rootSeal.works = true) (steps : List Timed)
    (timely : ∀ visit ∈ visits (Server.step env) (Server.boot env boot) steps,
      Timely env visit.1 visit.2) :
    (∀ before req issuedBy nonce id clock after cmd,
      steps = before ++ ⟨.issue req issuedBy nonce id, clock⟩ :: after →
      (issueCommand env (run (Server.step env) (Server.boot env boot) before).world req issuedBy
        (drawnAt nonce id clock)).1 = .ok cmd →
      ∀ now, (run (Server.step env) (Server.boot env boot) steps).now ≤ now →
        now < cmd.issuedAt + (newJWKSService boot.cfg).overlapDuration →
        Verifiable env (run (Server.step env) (Server.boot env boot) steps).world.keys cmd now) ∧
      ∀ reached ∈ states (Server.step env) (Server.boot env boot) steps, ∀ now,
        ∀ k ∈ reached.world.keys.jwks.getJWKS now,
          k ∈ (reached.world.keys.cleanExpired now).2.jwks.getJWKS now ∧
          (reached.world.keys.cleanExpired now).2.vault.lookup k.vaultID =
            reached.world.keys.vault.lookup k.vaultID := by
  have sounds := states_invariant_of (Server.step env) (Timely env)
    (fun s => Sound env s.world.keys (newJWKSService boot.cfg).overlapDuration)
    (fun s timed sound timely => sound_step timely sound) (Server.boot env boot) steps
    (sound_boot env imported) timely
  constructor
  · intro before req issuedBy nonce id clock after cmd split issued now notBefore inTime
    subst split
    have issuing := timely (run (Server.step env) (Server.boot env boot) before, _)
      (mem_visits_iff.mpr ⟨before, after, rfl, rfl⟩)
    have sound := sounds (run (Server.step env) (Server.boot env boot) before)
      ((mem_states_iff ..).mpr ⟨before, _, rfl, rfl⟩)
    obtain ⟨seed, signature, held⟩ := heldUntil_issue sound issuing issued
    have heldAfter := run_invariant_of (Server.step env) (Timely env) _
      (fun s timed held timely => heldUntil_step timely held) _ after held ?_
    · rw [run_append] at notBefore ⊢
      exact heldAfter.verifiable signature notBefore inTime
    · intro visit member
      apply timely visit
      rw [visits_append]
      exact mem_append_right _ (mem_cons_of_mem _ member)
  · intro reached member now k published
    have sound := sounds reached member
    obtain ⟨inSet, isPublished⟩ := mem_filter.mp published
    have stays : k.expired now = false := by
      rw [Bool.eq_false_iff, ne_eq, expired_iff]
      rintro ⟨retiring, past⟩
      simp [JWK.published, retiring] at isPublished
      exact absurd past (not_lt_of_gt isPublished)
    exact ⟨mem_filter.mpr ⟨mem_cleaned inSet stays, isPublished⟩, lookup_cleaned sound inSet stays⟩

end

def demoIssueRequest : IssueCommandRequest := ⟨"policy_push", "*", "go", 10⟩

def demoIssueCall : Timed := ⟨.issue demoIssueRequest "admin" (.ok [9]) (some [7]), fun _ => 10⟩

/-- A command is issued, the key is rotated and expired keys are removed. -/
def demoTimeline : List Timed :=
  [demoIssueCall, ⟨.keys (.rotateEd25519 ⟨.ok [6], {}⟩), fun _ => 20⟩,
    ⟨.keys .cleanExpired, fun _ => 30⟩]

theorem retired_key_still_verifies :
    ∃ cmd, cmd.signingKeyID = "csk-07" ∧
      (run (Server.step demoEnv) (Server.boot demoEnv demoBoot) demoTimeline).world.keys.codeSvc.activeKey
        ≠ "csk-07" ∧
      Verifiable demoEnv
        (run (Server.step demoEnv) (Server.boot demoEnv demoBoot) demoTimeline).world.keys cmd 40 := by
  have timely : ∀ visit ∈ visits (Server.step demoEnv) (Server.boot demoEnv demoBoot) demoTimeline,
      Timely demoEnv visit.1 visit.2 := by
    simp only [demoTimeline, visits, mem_cons, not_mem_nil, or_false]
    rintro visit (rfl | rfl | rfl)
    · refine ⟨monotone_const, by decide +kernel, ?_⟩
      intro call called
      cases called
    · refine ⟨monotone_const, by decide +kernel, ?_⟩
      intro call called kid made
      cases called
      cases made
      decide +kernel
    · refine ⟨monotone_const, by decide +kernel, ?_⟩
      intro call called kid made
      cases called
      cases made
  refine ⟨_, ?_, ?_, (signatures_outlive_rotation demoEnv demoBoot rfl demoTimeline timely).1 []
    demoIssueRequest "admin" (.ok [9]) (some [7]) (fun _ => 10) _ _ rfl rfl 40 ?_ ?_⟩
  all_goals decide +kernel

end ManagementPlane.Security
