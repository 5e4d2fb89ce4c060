import ManagementPlane.Security.Commands
import ManagementPlane.Security.Rotation

/-!
# The advertised signing key

`GetActiveSigningKeyID` returns the first active key of the set, whatever its curve, while the code
signing service signs with the Ed25519 key installed last. A rotation appends its key, so after one
the first active key is one of another curve, if there is any; after the bootstrap that is the key
of the certificate authority.

Only the active keys matter, in their order: a call leaves them alone, or takes those of one curve
out and appends a new one (`Effect`).
-/

namespace ManagementPlane.Security

open Commands Policy Runs Tables List

structure KeyCall where
  call : Call
  clock : Nat → Time

def Keys.step (env : Env) (s : Keys) (input : KeyCall) : Keys := s.apply env input.clock input.call

def KeyCall.rotatesEd (s : Keys) (input : KeyCall) : Bool :=
  match input.call with
  | .rotateEd25519 choice => choice.works
  | .tick choice => choice.works && (s.cleanExpired (input.clock 0)).2.needsRotation (input.clock 1)
  | _ => false

def actives (s : Keys) : List JWK := s.jwks.keys.filter fun k => k.status = .active

def OnlyEd (s : Keys) : Prop := ∀ k ∈ actives s, k.crv = .ed25519

theorem getActiveSigningKeyID_eq (s : Keys) :
    s.jwks.getActiveSigningKeyID = match (actives s).head? with
      | some k => .ok k.kid
      | none => .error "no active signing key in JWKS" := by
  rw [actives, head?_filter]
  rfl

theorem filter_isActive (s : Keys) :
    s.jwks.keys.filter (fun k => k.isActive .ed25519) =
      (actives s).filter fun k => k.crv = .ed25519 := by
  rw [actives, filter_filter]
  apply filter_congr
  intro k _
  simp [JWK.isActive, and_comm]

theorem actives_retire (crv : Crv) (overlap now : Time) (keys : List JWK) :
    (keys.map (JWK.retire crv overlap now)).filter (fun k => k.status = .active) =
      (keys.filter fun k => k.status = .active).filter fun k => k.crv ≠ crv := by
  induction keys with
  | nil => rfl
  | cons k rest ih =>
    rw [map_cons, filter_cons, ih]
    by_cases retires : k.isActive crv = true
    · grind [isActive_iff, retire_of_active]
    · rw [retire_of_not_active _ _ _ _ (Bool.eq_false_iff.mpr retires)]
      grind [isActive_iff]

theorem actives_installed {before after : Keys} {jwk : JWK} {plainKey : List UInt8} {now : Time}
    (installed : Installed before after jwk plainKey now) :
    actives after = ((actives before).filter fun k => k.crv ≠ jwk.crv) ++ [jwk] := by
  rw [actives, installed.jwks, filter_append, actives_retire]
  simp [installed.active, actives]

theorem actives_cleaned (s : Keys) (now : Time) : actives (s.cleanExpired now).2 = actives s := by
  simp [actives, Keys.cleanExpired]
  apply filter_congr
  intro k _
  by_cases active : k.status = .active
  · simp [JWK.expired, active]
  · simp [active]

/-- What a call does to the active keys and to the key that signs; the flag says whether the call
installs an Ed25519 key. -/
inductive Effect (before after : Keys) (kid : Option String) : Bool → Prop where
  | quiet (actives : actives after = actives before) (codeSvc : after.codeSvc = before.codeSvc) :
      Effect before after kid false
  | ec (jwk : JWK) (crv : jwk.crv ≠ .ed25519)
      (actives : actives after = ((actives before).filter fun k => k.crv ≠ jwk.crv) ++ [jwk])
      (codeSvc : after.codeSvc = before.codeSvc) : Effect before after kid false
  | ed (jwk : JWK) (key : SigningKey) (crv : jwk.crv = .ed25519)
      (actives : actives after = ((actives before).filter fun k => k.crv ≠ .ed25519) ++ [jwk])
      (signs : after.codeSvc.active = some key) (named : key.id = jwk.kid)
      (made : kid = some jwk.kid) : Effect before after kid true

theorem effect_of_actives {before other after : Keys} {kid : Option String} {rotates : Bool}
    (sameActives : actives before = actives other) (sameCodeSvc : before.codeSvc = other.codeSvc)
    (effect : Effect before after kid rotates) : Effect other after kid rotates := by
  cases effect with
  | quiet same codeSvc => exact .quiet (same.trans sameActives) (codeSvc.trans sameCodeSvc)
  | ec jwk crv same codeSvc =>
    rw [sameActives] at same
    exact .ec jwk crv same (codeSvc.trans sameCodeSvc)
  | ed jwk key crv same signs named made =>
    rw [sameActives] at same
    exact .ed jwk key crv same signs named made

variable (env : Env)

theorem effect_rotateEd25519Key (s : Keys) (choice : Keys.EdChoice) (clock : Nat → Time) :
    Effect s (s.rotateEd25519Key env choice clock).2 (choice.kid env) choice.works := by
  rcases s.rotateEd25519Key_cases env clock choice with
    ⟨works, jwk, key, named, rotated⟩ | ⟨fails, same | ⟨kid, plainKey, _, onlySealed⟩⟩
  · have active := actives_installed rotated.installed
    rw [rotated.crv] at active
    rw [works]
    exact .ed jwk key rotated.crv active rotated.signs rotated.named named
  · rw [fails, same]
    exact .quiet rfl rfl
  · rw [fails]
    exact .quiet (by rw [actives, onlySealed.jwks, actives]) onlySealed.codeSvc

theorem effect_step (s : Keys) (input : KeyCall) :
    Effect s (s.step env input) (input.call.kid env) (input.rotatesEd s) := by
  obtain ⟨call, clock⟩ := input
  cases call with
  | rotateEd25519 choice => exact effect_rotateEd25519Key env s choice clock
  | rotateECDSA choice curve =>
    rcases s.rotateECDSAKey_cases env clock choice curve with
      same | ⟨kid, plainKey, _, onlySealed⟩ | ⟨plainKey, jwk, _, installed, crv, codeSvc⟩
    · exact .quiet (congrArg actives same) (congrArg Keys.codeSvc same)
    · exact .quiet (congrArg (fun jwks => jwks.keys.filter fun k : JWK => k.status = .active)
        onlySealed.jwks) onlySealed.codeSvc
    · exact .ec jwk crv (actives_installed installed) codeSvc
  | cleanExpired => exact .quiet (actives_cleaned s (clock 0)) rfl
  | tick choice =>
    have cleaned := actives_cleaned s (clock 0)
    unfold Keys.step Keys.apply Keys.tick KeyCall.rotatesEd
    dsimp only
    cases needs : (s.cleanExpired (clock 0)).2.needsRotation (clock 1) with
    | false =>
      rw [Bool.and_false, if_neg Bool.false_ne_true]
      exact .quiet cleaned rfl
    | true =>
      rw [Bool.and_true, if_pos rfl]
      exact effect_of_actives cleaned rfl (effect_rotateEd25519Key env _ choice _)

def Signer (s : Keys) : Prop :=
  ∃ key jwk, s.codeSvc.active = some key ∧
    ((actives s).filter fun k => k.crv = .ed25519) = [jwk] ∧ jwk.kid = key.id

def EdFirst (s : Keys) : Prop := ∃ jwk, (actives s).head? = some jwk ∧ jwk.crv = .ed25519

/-- The key that is advertised is the one that `Sign` and `IssueCommand` sign with. -/
structure Agrees (env : Env) (s : Keys) (id : String) : Prop where
  advertised : s.jwks.getActiveSigningKeyID = .ok id
  active : ∃ key, s.codeSvc.active = some key ∧ key.id = id
  signs : ∀ req signedBy random clock artifact,
    s.codeSvc.sign env req signedBy random clock = .ok artifact → artifact.signingKeyID = id
  issues : ∀ commands nonces req issuedBy drawn cmd,
    (issueCommand env ⟨s, commands, nonces⟩ req issuedBy drawn).1 = .ok cmd → cmd.signingKeyID = id

theorem agrees_of_active {s : Keys} {key : SigningKey}
    (active : s.codeSvc.active = some key) (advertised : s.jwks.getActiveSigningKeyID = .ok key.id) :
    Agrees env s key.id where
  advertised := advertised
  active := ⟨key, active, rfl⟩
  signs := by
    intro req signedBy random clock artifact signed
    rw [CodeSigningService.sign, active] at signed
    dsimp only at signed
    split at signed
    · cases signed
    · cases signed
      rfl
  issues := by
    intro commands nonces req issuedBy drawn cmd issued
    simp [issueCommand, active] at issued
    split at issued
    · cases issued
    · cases issued
      rfl

section
variable {before after : Keys} {kid : Option String} {rotates : Bool}

theorem signer_effect (effect : Effect before after kid rotates) (signer : Signer before) :
    Signer after := by
  obtain ⟨key, jwk, active, one, named⟩ := signer
  cases effect with
  | quiet same codeSvc => exact ⟨key, jwk, by rw [codeSvc, active], by rw [same, one], named⟩
  | ec new crv same codeSvc =>
    refine ⟨key, jwk, by rw [codeSvc, active], ?_, named⟩
    rw [same, filter_append, filter_filter, ← one]
    grind
  | ed new key' crv same signs named' made =>
    refine ⟨key', new, signs, ?_, named'.symm⟩
    rw [same, filter_append, filter_filter]
    simp [crv]

theorem edFirst_effect (effect : Effect before after kid rotates)
    (alone : rotates = true → OnlyEd before) (first : EdFirst before) : EdFirst after := by
  obtain ⟨jwk, head, isEd⟩ := first
  cases effect with
  | quiet same codeSvc => exact ⟨jwk, by rw [same, head], isEd⟩
  | ec new crv same codeSvc =>
    refine ⟨jwk, ?_, isEd⟩
    obtain ⟨rest, list⟩ : ∃ rest, actives before = jwk :: rest :=
      head?_eq_some_iff.mp head
    grind
  | ed new key crv same signs named made =>
    have none : ((actives before).filter fun k => k.crv ≠ .ed25519) = [] := by
      rw [filter_eq_nil_iff]
      intro k member
      simp [alone rfl k member]
    exact ⟨new, by rw [same, none]; rfl, crv⟩

theorem not_agrees_effect (effect : Effect before after kid true)
    (distinct : ∀ id, kid = some id → id ∉ before.jwks.keys.map JWK.kid)
    (others : ¬ OnlyEd before) (id : String) : ¬ Agrees env after id := by
  intro agrees
  cases effect with
  | ed new key crv same signs named made =>
    cases list : (actives before).filter fun k => k.crv ≠ .ed25519 with
    | nil =>
      apply others
      intro k member
      grind [filter_eq_nil_iff]
    | cons k rest =>
      have member : k ∈ before.jwks.keys := by
        have listed : k ∈ (actives before).filter fun k => k.crv ≠ .ed25519 := by
          rw [list]
          exact mem_cons_self ..
        exact (mem_filter.mp (mem_filter.mp listed).1).1
      have advertised := agrees.advertised
      rw [getActiveSigningKeyID_eq, same, list] at advertised
      obtain ⟨signing, active, isID⟩ := agrees.active
      rw [signs] at active
      cases active
      apply distinct new.kid made
      rw [← named, isID, ← Except.ok.inj advertised]
      exact mem_map_of_mem member

theorem agrees_of_edFirst {s : Keys} (signer : Signer s) (first : EdFirst s) :
    ∃ id, Agrees env s id := by
  obtain ⟨key, jwk, active, one, named⟩ := signer
  obtain ⟨head, isHead, isEd⟩ := first
  have member : head ∈ (actives s).filter fun k => k.crv = .ed25519 :=
    mem_filter.mpr ⟨mem_of_mem_head? isHead, decide_eq_true isEd⟩
  rw [one, mem_singleton] at member
  refine ⟨key.id, agrees_of_active env active ?_⟩
  rw [getActiveSigningKeyID_eq, isHead, ← named, member]

end

theorem actives_boot {boot : Boot} (imported : boot.rootSeal.works = true) :
    actives (boot.keys env) =
      boot.rootJWK env :: if boot.caImports then [boot.caJWK env] else [] := by
  rw [actives, (boot_keys env boot imported).1]
  cases boot.caImports with
  | false => rfl
  | true => rfl

theorem signer_boot {boot : Boot} (imported : boot.rootSeal.works = true) :
    Signer (boot.keys env) := by
  refine ⟨_, boot.rootJWK env, boot_active env boot, ?_, rfl⟩
  rw [actives_boot env imported, filter_cons_of_pos (by rfl)]
  have notEd : (boot.caJWK env).crv ≠ .ed25519 := boot.caCurve.crv_ne_ed25519
  cases boot.caImports with
  | false => rfl
  | true => simp [notEd]

theorem advertised_key_signs (env : Env) (boot : Boot) (imported : boot.rootSeal.works = true)
    (steps : List KeyCall) :
    (∀ reached ∈ states (Keys.step env) (boot.keys env) steps,
      (reached.jwks.keys.filter fun k => k.isActive .ed25519).length = 1) ∧
      ((∀ visit ∈ visits (Keys.step env) (boot.keys env) steps,
          visit.2.rotatesEd visit.1 = true → OnlyEd visit.1) →
        ∀ reached ∈ states (Keys.step env) (boot.keys env) steps, ∃ id, Agrees env reached id) ∧
      ((∀ visit ∈ visits (Keys.step env) (boot.keys env) steps, ∀ kid,
          visit.2.call.kid env = some kid → kid ∉ visit.1.jwks.keys.map JWK.kid) →
        (∀ reached ∈ states (Keys.step env) (boot.keys env) steps, ∃ id, Agrees env reached id) →
        ∀ visit ∈ visits (Keys.step env) (boot.keys env) steps,
          visit.2.rotatesEd visit.1 = true → OnlyEd visit.1) := by
  have start := signer_boot env imported
  have signers := states_invariant_of (Keys.step env) (fun _ _ => True) Signer
    (fun s input signer _ => signer_effect (effect_step env s input) signer) _ steps start
    fun _ _ => trivial
  refine ⟨?_, ?_, ?_⟩
  · intro reached member
    obtain ⟨_, _, _, one, _⟩ := signers reached member
    rw [filter_isActive, one]
    rfl
  · intro alone reached member
    have first := states_invariant_of (Keys.step env)
      (fun s input => input.rotatesEd s = true → OnlyEd s) EdFirst
      (fun s input first alone => edFirst_effect (effect_step env s input) alone first) _ steps
      ⟨boot.rootJWK env, by rw [actives_boot env imported]; rfl, rfl⟩ alone reached member
    exact agrees_of_edFirst env (signers reached member) first
  · intro distinct agree visit member rotates
    grind [step_mem_states, effect_step, not_agrees_effect]

/-- Where the key of the certificate authority could not be sealed, a rotated key is advertised. -/
theorem root_key_advertised :
    let boot := { demoBoot with caSeal := ⟨some "generate nonce", none⟩ }
    ∃ id, Agrees demoEnv (run (Keys.step demoEnv) (boot.keys demoEnv)
      [⟨.rotateEd25519 ⟨.ok [6], {}⟩, fun _ => 10⟩, ⟨.cleanExpired, fun _ => 20⟩]) id := by
  intro boot
  refine (advertised_key_signs demoEnv boot rfl _).2.1 ?_ _ run_mem_states
  intro visit member rotates
  simp [visits] at member
  rcases member with rfl | rfl
  · unfold OnlyEd
    decide +kernel
  · cases rotates

/-- After the first rotation the key of the certificate authority is advertised. -/
theorem ca_key_advertised :
    (run (Keys.step demoEnv) (demoBoot.keys demoEnv)
        [⟨.rotateEd25519 ⟨.ok [6], {}⟩, fun _ => 10⟩]).jwks.getActiveSigningKeyID = .ok "ca-root" ∧
      ¬ ∃ id, Agrees demoEnv (run (Keys.step demoEnv) (demoBoot.keys demoEnv)
        [⟨.rotateEd25519 ⟨.ok [6], {}⟩, fun _ => 10⟩]) id := by
  have advertised : (run (Keys.step demoEnv) (demoBoot.keys demoEnv)
      [⟨.rotateEd25519 ⟨.ok [6], {}⟩, fun _ => 10⟩]).jwks.getActiveSigningKeyID = .ok "ca-root" := by
    decide +kernel
  refine ⟨advertised, ?_⟩
  rintro ⟨id, agrees⟩
  obtain ⟨key, active, named⟩ := agrees.active
  have isCA : id = "ca-root" := Except.ok.inj (agrees.advertised.symm.trans advertised)
  have other : ((run (Keys.step demoEnv) (demoBoot.keys demoEnv)
      [⟨.rotateEd25519 ⟨.ok [6], {}⟩, fun _ => 10⟩]).codeSvc.active.map SigningKey.id) ≠
        some "ca-root" := by
    decide +kernel
  rw [active, Option.map_some, named, isCA] at other
  exact other rfl

end ManagementPlane.Security
