import ManagementPlane.Radsec.Server

/-!
# Conversations over whole runs

What a run of the RadSec server does to the conversation under one State token. The
token is issued by a challenge, the conversation moves through its frames, and once it is
given up or decided the token is unknown for good.
-/

namespace ManagementPlane.Radsec

open GoBinary Tables Policy Runs List
open Option hiding or_self

/-! ## What one input does to the conversation under a token -/

def issuedToken : Input → Option Bytes
  | .request _ p choice =>
    match parseEAP (collectEAPMessage p) with
    | none => none
    | some eap =>
      if p.first attrState = [] ∧ eap.code = eapResponse ∧ eap.type = eapTypeIdentity then
        some (newStateToken choice)
      else none
  | _ => none

/-- An EAP-TLS frame for a conversation that is there. -/
structure Continues (s : Server) (p : Packet) (sess : Session) (eap : EapPacket) : Prop where
  token : p.first attrState ≠ []
  known : s.sessions.lookup (p.first attrState) = some sess
  parsed : parseEAP (collectEAPMessage p) = some eap
  typed : eap.type = eapTypeTLS

def advanced (choice : Choice) (sess : Session) (eap : EapPacket) : Option Session :=
  match progress choice sess eap with
  | .acknowledge sess => some { sess with eapID := sess.eapID + 1 }
  | .fragment sess => some (fragmentSent sess)
  | _ => none

section
variable (hashes : Hashes) (s : Server) (conn : Conn) (p : Packet) (choice : Choice)

variable {sess : Session} {eap : EapPacket}

theorem handle_continues (continues : Continues s p sess eap) :
    handleAccessRequest hashes s conn p choice = advance hashes s conn p choice sess eap := by
  have present : collectEAPMessage p ≠ [] := by
    intro empty
    have parsed := continues.parsed
    rw [empty] at parsed
    cases parsed
  simp [handleAccessRequest, present, continues.parsed, continues.token, continues.known,
    continues.typed]

theorem handle_notTLS (token : p.first attrState ≠ [])
    (known : s.sessions.lookup (p.first attrState) = some sess)
    (other : ∀ eap, parseEAP (collectEAPMessage p) = some eap → eap.type ≠ eapTypeTLS) :
    handleAccessRequest hashes s conn p choice = (s, reject hashes p) := by
  unfold handleAccessRequest
  grind

theorem handle_unknown (token : p.first attrState ≠ [])
    (unknown : s.sessions.lookup (p.first attrState) = none) :
    handleAccessRequest hashes s conn p choice = (s, reject hashes p) := by
  unfold handleAccessRequest
  grind

theorem handleAccessRequest_cases :
    (handleAccessRequest hashes s conn p choice = (s, reject hashes p)) ∨
    (∃ eap, p.first attrState = [] ∧
      issuedToken (.request conn p choice) = some (newStateToken choice) ∧
      handleAccessRequest hashes s conn p choice = startConversation hashes s p eap choice) ∨
    (∃ sess eap, Continues s p sess eap ∧
      handleAccessRequest hashes s conn p choice = advance hashes s conn p choice sess eap) := by
  by_cases token : p.first attrState = []
  · unfold handleAccessRequest
    simp only
    split
    · exact .inl rfl
    · cases parsed : parseEAP (collectEAPMessage p) with
      | none => exact .inl rfl
      | some eap =>
        simp only
        split
        · exact .inl rfl
        · rename_i identity
          rw [not_or, not_not, not_not] at identity
          refine .inr (.inl ⟨eap, token, ?_, rfl⟩)
          simp only [issuedToken, parsed]
          rw [if_pos ⟨token, identity⟩]
  · cases known : s.sessions.lookup (p.first attrState) with
    | none => exact .inl (handle_unknown hashes s conn p choice token known)
    | some sess =>
      by_cases frame : ∃ eap, parseEAP (collectEAPMessage p) = some eap ∧ eap.type = eapTypeTLS
      · obtain ⟨eap, parsed, typed⟩ := frame
        have continues : Continues s p sess eap := ⟨token, known, parsed, typed⟩
        grind [handle_continues]
      · grind [handle_notTLS]

theorem id_progress (sess : Session) (eap : EapPacket) :
    (progress choice sess eap).session.id = sess.id := by
  rcases progress_cases choice sess eap with
    ⟨_, moved⟩ | ⟨_, _, moved⟩ | ⟨_, _, _, moved⟩ | ⟨tls, _, _, _, moved⟩
  · rw [moved]
    rfl
  · rw [moved]
    split
    · rfl
    · split <;> rfl
  · rw [moved]
    rfl
  · obtain ⟨_, _, _, session, _⟩ :=
      session_feed choice { sess with reassembly := sess.reassembly ++ tls }
    rw [moved, session]

theorem id_fragmentSent (sess : Session) : (fragmentSent sess).id = sess.id := by
  unfold fragmentSent
  simp only
  split <;> rfl

theorem sessions_finish (sess : Session) :
    (finish hashes s conn p choice sess).1.sessions = s.sessions.erase sess.id := by
  unfold finish
  simp only
  split
  · rfl
  · split
    · rfl
    · split <;> rfl

theorem sessions_advance (sess : Session) (eap : EapPacket) :
    (advance hashes s conn p choice sess eap).1.sessions =
      (advanced choice sess eap).elim (s.sessions.erase sess.id) (s.sessions.insert sess.id) := by
  have same := id_progress choice sess eap
  unfold advance advanced
  cases moved : progress choice sess eap with
  | reject sess' =>
    rw [moved] at same
    exact congrArg s.sessions.erase same
  | acknowledge sess' =>
    rw [moved] at same
    exact congrArg (fun id => s.sessions.insert id _) same
  | fragment sess' =>
    rw [moved] at same
    simp [sendNextFragment, Server.store, id_fragmentSent]
    exact congrArg (fun id => s.sessions.insert id _) same
  | finish sess' =>
    rw [moved] at same
    simp [sessions_finish]
    exact congrArg s.sessions.erase same

def Server.OwnTokens (s : Server) : Prop :=
  ∀ tok sess, s.sessions.lookup tok = some sess → sess.id = tok

theorem lookup_advance (own : s.OwnTokens) (continues : Continues s p sess eap) (tok : Bytes) :
    (advance hashes s conn p choice sess eap).1.sessions.lookup tok =
      if tok = p.first attrState then advanced choice sess eap else s.sessions.lookup tok := by
  rw [sessions_advance, own _ _ continues.known]
  cases advanced choice sess eap with
  | none => rw [elim_none, lookup_erase_if]
  | some sess' => rw [elim_some, lookup_insert_if]

theorem lookup_continued (own : s.OwnTokens) (continues : Continues s p sess eap) :
    (step hashes s (.request conn p choice)).sessions.lookup (p.first attrState) =
      advanced choice sess eap := by
  rw [step, handle_continues hashes s conn p choice continues,
    lookup_advance hashes s conn p choice own continues, if_pos rfl]

end

/-- Everything that an input can do to the conversation under a token. -/
inductive RowStep (s : Server) (tok : Bytes) : Input → Option Session → Prop
  | same (input : Input) : RowStep s tok input (s.sessions.lookup tok)
  | opened (conn : Conn) (p : Packet) (choice : Choice) (eap : EapPacket)
      (fresh : tok = newStateToken choice)
      (issued : issuedToken (.request conn p choice) = some tok) :
      RowStep s tok (.request conn p choice) (some (newSession p eap choice))
  | continued (conn : Conn) (p : Packet) (choice : Choice) (sess : Session) (eap : EapPacket)
      (carried : p.first attrState = tok) (continues : Continues s p sess eap) :
      RowStep s tok (.request conn p choice) (advanced choice sess eap)
  | reaped (now : Time)
      (stale : ∀ sess, s.sessions.lookup tok = some sess → sess.created < now - 2 * minute) :
      RowStep s tok (.reap now) none
  | engine (steps : List TlsStep) (sess : Session) (known : s.sessions.lookup tok = some sess) :
      RowStep s tok (.engine tok steps) (some { sess with es := sess.es.performAll steps })

variable {s : Server} (hashes : Hashes)

theorem step_row (own : s.OwnTokens) (input : Input)
    (tok : Bytes) : RowStep s tok input ((step hashes s input).sessions.lookup tok) := by
  cases input with
  | request conn p choice =>
    rw [step]
    rcases handleAccessRequest_cases hashes s conn p choice with
      refused | ⟨eap, _, issued, started⟩ | ⟨sess, eap, continues, moved⟩
    · rw [refused]
      exact .same _
    · rw [started, startConversation, Server.store, lookup_insert_if]
      split
      · rename_i fresh
        refine .opened conn p choice eap fresh ?_
        rwa [fresh]
      · exact .same _
    · rw [moved, lookup_advance hashes s conn p choice own continues]
      split
      · rename_i carried
        exact .continued conn p choice sess eap carried.symm continues
      · exact .same _
  | reap now =>
    rw [step, reap, lookup_updateAll]
    cases known : s.sessions.lookup tok with
    | none =>
      rw [bind_none, ← known]
      exact .same _
    | some sess =>
      rw [bind_some]
      split
      · rename_i stale
        refine .reaped now ?_
        grind
      · rw [← known]
        exact .same _
  | engine token steps =>
    rw [step, runEngine, lookup_updateRow]
    split
    · rename_i mine
      cases known : s.sessions.lookup tok with
      | none =>
        rw [map_none, ← known]
        exact .same _
      | some sess =>
        rw [map_some, ← mine]
        exact .engine steps sess known
    · exact .same _

def Input.Vouches (verified : ConnectionState → Prop) : Input → Prop
  | .request _ _ choice => ∀ step ∈ choice.waiting ++ choice.afterwards, step.Vouches verified
  | .reap _ => True
  | .engine _ steps => ∀ step ∈ steps, step.Vouches verified

structure Sound (verified : ConnectionState → Prop) (tok : Bytes) (sess : Session) : Prop where
  id : sess.id = tok
  token : tok ≠ []
  short : tok.length ≤ 253
  complete : sess.hsComplete = true → sess.es.done = true ∧ sess.es.hsErr = none
  vouched : sess.es.Vouched verified

def Server.Sound (verified : ConnectionState → Prop) (s : Server) : Prop :=
  ∀ tok sess, s.sessions.lookup tok = some sess → Radsec.Sound verified tok sess

section
variable (verified : ConnectionState → Prop) (tok : Bytes) (choice : Choice) (sess : Session)

theorem newStateToken_bounds : newStateToken choice ≠ [] ∧ (newStateToken choice).length ≤ 253 := by
  have bounds : 0 < (newStateToken choice).length ∧ (newStateToken choice).length ≤ 253 := by
    unfold newStateToken
    grind [length_hexEncode, length_pos_iff]
  exact ⟨length_pos_iff.mp bounds.1, bounds.2⟩

theorem sound_newSession (p : Packet) (eap : EapPacket) :
    Sound verified (newStateToken choice) (newSession p eap choice) where
  id := rfl
  token := (newStateToken_bounds choice).1
  short := (newStateToken_bounds choice).2
  complete := by
    nofun
  vouched := by
    nofun

theorem sound_performAll {steps : List TlsStep} (sound : Sound verified tok sess)
    (vouches : ∀ step ∈ steps, step.Vouches verified) :
    Sound verified tok { sess with es := sess.es.performAll steps } where
  id := sound.id
  token := sound.token
  short := sound.short
  complete := by
    intro complete
    obtain ⟨done, noError⟩ := sound.complete complete
    obtain ⟨done', noError', _⟩ := ended_performAll sess.es none _ steps ⟨done, noError, rfl⟩
    exact ⟨done', noError'⟩
  vouched := vouched_performAll verified sess.es steps sound.vouched vouches

theorem sound_feed (sound : Sound verified tok sess)
    (vouches : ∀ step ∈ choice.waiting ++ choice.afterwards, step.Vouches verified) :
    Sound verified tok (feed choice sess).session := by
  obtain ⟨hsComplete, outFrags, outOffset, session, complete⟩ := session_feed choice sess
  rw [session]
  refine ⟨sound.id, sound.token, sound.short, ?_, ?_⟩
  · intro here
    rcases complete here with before | ended
    · obtain ⟨done, noError⟩ := sound.complete before
      obtain ⟨done', noError', _⟩ := ended_fedEngine choice ⟨done, noError, rfl⟩
      exact ⟨done', noError'⟩
    · exact ended
  · apply vouched_performAll
    · apply vouched_collectOutbound
      · exact sound.vouched
      · grind
    · grind

theorem sound_progress (eap : EapPacket) (sound : Sound verified tok sess)
    (vouches : ∀ step ∈ choice.waiting ++ choice.afterwards, step.Vouches verified) :
    Sound verified tok (progress choice sess eap).session := by
  rcases progress_cases choice sess eap with
    ⟨_, moved⟩ | ⟨_, _, moved⟩ | ⟨tls, _, _, moved⟩ | ⟨tls, _, _, _, moved⟩
  · rwa [moved]
  · rw [moved]
    split
    · exact sound
    · split <;> exact sound
  · rw [moved]
    exact ⟨sound.id, sound.token, sound.short, sound.complete, sound.vouched⟩
  · rw [moved]
    apply sound_feed
    · exact ⟨sound.id, sound.token, sound.short, sound.complete, sound.vouched⟩
    · exact vouches

theorem sound_fragmentSent (sound : Sound verified tok sess) :
    Sound verified tok (fragmentSent sess) := by
  unfold fragmentSent
  simp only
  split <;> exact ⟨sound.id, sound.token, sound.short, sound.complete, sound.vouched⟩

theorem sound_advanced {eap : EapPacket} {sess' : Session} (sound : Sound verified tok sess)
    (vouches : ∀ step ∈ choice.waiting ++ choice.afterwards, step.Vouches verified)
    (moved : advanced choice sess eap = some sess') : Sound verified tok sess' := by
  have after := sound_progress verified tok choice sess eap sound vouches
  unfold advanced at moved
  cases found : progress choice sess eap with
  | reject sess | finish sess => rw [found] at moved; cases moved
  | acknowledge sess =>
    rw [found] at moved after
    cases moved
    exact ⟨after.id, after.token, after.short, after.complete, after.vouched⟩
  | fragment sess =>
    rw [found] at moved after
    cases moved
    exact sound_fragmentSent verified tok sess after

end

section
variable (hashes : Hashes) (verified : ConnectionState → Prop)

theorem Server.Sound.ownTokens {verified : ConnectionState → Prop}
    (sound : s.Sound verified) : s.OwnTokens :=
  fun tok sess known => (sound tok sess known).id

theorem sound_step (s : Server) (input : Input) (sound : s.Sound verified)
    (vouches : input.Vouches verified) : (step hashes s input).Sound verified := by
  intro tok sess' known
  have row := step_row hashes sound.ownTokens input tok
  rw [known] at row
  generalize rowEq : some sess' = after at row
  cases row with
  | same input => exact sound tok sess' rowEq.symm
  | opened conn p choice eap fresh issued =>
    grind [sound_newSession]
  | continued conn p choice sess eap carried continues =>
    have before := sound _ _ continues.known
    rw [carried] at before
    exact sound_advanced verified tok choice sess before vouches rowEq.symm
  | reaped now _ => cases rowEq
  | engine steps sess before =>
    cases rowEq
    exact sound_performAll verified tok sess (sound tok sess before) vouches

theorem sound_newServer : newServer.Sound verified := by
  intro tok sess known
  cases known

theorem sound_run {inputs : List Input} (vouches : ∀ input ∈ inputs, input.Vouches verified) :
    (run (step hashes) newServer inputs).Sound verified := by
  apply run_invariant_of (step hashes) (fun _ input => input.Vouches verified)
  · exact sound_step hashes verified
  · exact sound_newServer verified
  · intro visit member
    exact vouches visit.2 (input_mem_of_visits member)

theorem vouches_trivial (input : Input) : input.Vouches fun _ => True := by
  have all : ∀ step : TlsStep, step.Vouches fun _ => True := by
    intro step
    cases step with
    | read size | write data => trivial
    | finish err state => cases err <;> trivial
  cases input with
  | request conn p choice | engine token steps => exact fun step _ => all step
  | reap now => trivial

theorem reachable_sound (inputs : List Input) :
    (run (step hashes) newServer inputs).Sound fun _ => True :=
  sound_run hashes _ fun input _ => vouches_trivial input

/-- Every stored session lies under its own State token, and one that counts as complete has ended
its handshake without an error. -/
theorem stored_sessions_sound (inputs : List Input) :
    ∀ reached ∈ states (step hashes) newServer inputs, reached.Sound fun _ => True := by
  intro reached member
  obtain ⟨before, _, _, rfl⟩ := (mem_states_iff ..).mp member
  exact reachable_sound hashes before

end

def carries (tok : Bytes) : Input → Bool
  | .request _ p _ => p.first attrState = tok
  | _ => false

def answered (hashes : Hashes) (code : UInt8) (s : Server) (input : Input) : Bool :=
  (reply hashes s input).any fun raw => codeOf raw = code

/-- The request was answered with a challenge that hands out the token. -/
def HandsOut (hashes : Hashes) (tok : Bytes) (s : Server) (input : Input) : Prop :=
  ∃ raw q, reply hashes s input = some raw ∧ parsePacket raw = .ok q ∧
    q.code = codeAccessChallenge ∧ q.first attrState = tok

section
variable (hashes : Hashes) (s : Server) (conn : Conn) (p : Packet) (choice : Choice)

theorem handle_issued {tok : Bytes} (issued : issuedToken (.request conn p choice) = some tok) :
    tok = newStateToken choice ∧ ∃ eap, handleAccessRequest hashes s conn p choice =
      startConversation hashes s p eap choice := by
  simp [issuedToken] at issued
  cases parsed : parseEAP (collectEAPMessage p) with
  | none =>
    rw [parsed] at issued
    cases issued
  | some eap =>
    rw [parsed] at issued
    simp at issued
    obtain ⟨⟨token, code, type⟩, fresh⟩ := issued
    have present : collectEAPMessage p ≠ [] := by
      intro empty
      rw [empty] at parsed
      cases parsed
    refine ⟨fresh.symm, eap, ?_⟩
    simp [handleAccessRequest, present, parsed, token, code, type]

theorem handsOut_of_issued {tok : Bytes} {input : Input} (issued : issuedToken input = some tok) :
    HandsOut hashes tok s input := by
  cases input with
  | reap now | engine token steps => cases issued
  | request conn p choice =>
    obtain ⟨fresh, eap, started⟩ := handle_issued hashes s conn p choice issued
    have small : (buildEAPTLSStart (eap.identifier + 1)).length ≤ 10000 := by
      rw [buildEAPTLSStart, length_encodeEAP, length_singleton]
      omega
    obtain ⟨q, parsed, code, state, _⟩ := parsePacket_challenge hashes p
      (newSession p eap choice) _ (newStateToken_bounds choice).2 small
    refine ⟨_, q, by rw [reply, started]; rfl, parsed, code, ?_⟩
    rw [state, fresh]
    rfl

theorem accept_inversion
    (accepted : answered hashes codeAccessAccept s (.request conn p choice) = true) :
    ∃ sess eap sess' leaf chain, Continues s p sess eap ∧
      progress choice sess eap = .finish sess' ∧
      sess'.es.connectionState.peerCertificates = leaf :: chain ∧
      (choice.pdp leaf sess'.nasIdentifier sess'.callingStation
        (decisionOrg sess' leaf)).accept = true := by
  have code : codeOf (handleAccessRequest hashes s conn p choice).2 = codeAccessAccept := by
    simpa [answered, reply] using accepted
  rcases handleAccessRequest_cases hashes s conn p choice with
    refused | ⟨eap, _, _, started⟩ | ⟨sess, eap, continues, moved⟩
  · rw [refused, codeOf_reject] at code
    cases code
  · rw [started, startConversation, codeOf_challenge] at code
    cases code
  · rw [moved, advance] at code
    cases found : progress choice sess eap with
    | reject sess' =>
      rw [found] at code
      cases code
    | acknowledge sess' =>
      simp [found, codeOf_challenge] at code
      cases code
    | fragment sess' =>
      simp [found, sendNextFragment, codeOf_challenge] at code
      cases code
    | finish sess' =>
      simp [found, finish] at code
      cases certificates : sess'.es.connectionState.peerCertificates with
      | nil =>
        simp [certificates] at code
        cases code
      | cons leaf chain =>
        simp [certificates] at code
        split at code
        · rw [codeOf_finalize, code_accessReject] at code
          cases code
        · grind

end

/-! ## Tokens over a run -/

section
variable (hashes : Hashes) (tok : Bytes)

theorem known_or_issued {s : Server} (own : s.OwnTokens) {input : Input} {sess' : Session}
    (known : (step hashes s input).sessions.lookup tok = some sess') :
    (∃ sess, s.sessions.lookup tok = some sess) ∨ issuedToken input = some tok := by
  have row := step_row hashes own input tok
  rw [known] at row
  generalize rowEq : some sess' = after at row
  cases row with
  | same input => exact .inl ⟨sess', rowEq.symm⟩
  | opened conn p choice eap fresh issued => exact .inr issued
  | continued conn p choice sess eap carried continues =>
    rw [← carried]
    exact .inl ⟨sess, continues.known⟩
  | reaped now _ => cases rowEq
  | engine steps sess before => exact .inl ⟨sess, before⟩

theorem known_handedOut {inputs : List Input} : ∀ sess,
    (run (step hashes) newServer inputs).sessions.lookup tok = some sess →
    ∃ visit ∈ visits (step hashes) newServer inputs, HandsOut hashes tok visit.1 visit.2 := by
  induction inputs using reverseRecOn with
  | nil =>
    intro sess known
    cases known
  | append_singleton inputs last ih =>
    intro sess known
    rw [run_concat] at known
    rw [visits_concat]
    have own := (reachable_sound hashes inputs).ownTokens
    rcases known_or_issued hashes tok own known with ⟨before, known⟩ | issued
    · obtain ⟨visit, member, handedOut⟩ := ih before known
      exact ⟨visit, mem_append_left _ member, handedOut⟩
    · exact ⟨_, mem_append_right _ (mem_singleton.mpr rfl), handsOut_of_issued hashes _ issued⟩

theorem unknown_visits (inputs : List Input) (never : tok ∉ inputs.filterMap issuedToken)
    (s : Server) (sound : s.Sound fun _ => True) (unknown : s.sessions.lookup tok = none) :
    ∀ visit ∈ visits (step hashes) s inputs, visit.1.sessions.lookup tok = none := by
  induction inputs generalizing s with
  | nil =>
    intro visit member
    cases member
  | cons input rest ih =>
    have notHere : issuedToken input ≠ some tok := by
      grind
    have still : (step hashes s input).sessions.lookup tok = none := by
      cases known : (step hashes s input).sessions.lookup tok with
      | none => rfl
      | some sess' =>
        rcases known_or_issued hashes tok sound.ownTokens known with
          ⟨sess, before⟩ | issued
        · rw [unknown] at before
          cases before
        · exact absurd issued notHere
    intro visit member
    rcases mem_cons.mp member with rfl | later
    · exact unknown
    · grind [sound_step, vouches_trivial]

theorem refused_of_unknown {input : Input} (token : tok ≠ [])
    (unknown : s.sessions.lookup tok = none) (carried : carries tok input = true) {code : UInt8}
    (other : code ≠ codeAccessReject) : answered hashes code s input = false := by
  cases input with
  | reap now => rfl
  | engine token steps => rfl
  | request conn p choice =>
    have mine : p.first attrState = tok := by simpa [carries] using carried
    have refused := handle_unknown hashes s conn p choice (by rw [mine]; exact token)
      (by rw [mine]; exact unknown)
    simp [answered, reply, refused, codeOf_reject]
    exact decide_eq_false fun same => other same.symm

theorem unknown_of_accept (own : s.OwnTokens) {conn : Conn} {p : Packet} {choice : Choice}
    (accepted : answered hashes codeAccessAccept s (.request conn p choice) = true) :
    (step hashes s (.request conn p choice)).sessions.lookup (p.first attrState) = none := by
  obtain ⟨sess, eap, sess', _, _, continues, finished, _⟩ :=
    accept_inversion hashes s conn p choice accepted
  have gone : advanced choice sess eap = none := by rw [advanced, finished]
  rw [lookup_continued hashes s conn p choice own continues, gone]

def accepts (inputs : List Input) : Nat :=
  (visits (step hashes) newServer inputs).countP fun visit =>
    carries tok visit.2 && answered hashes codeAccessAccept visit.1 visit.2

/-- The account of a token: it is known only if it was issued and has not been accepted. -/
structure Ledger (inputs : List Input) : Prop where
  known : ∀ sess, (run (step hashes) newServer inputs).sessions.lookup tok = some sess →
    tok ∈ inputs.filterMap issuedToken ∧ accepts hashes tok inputs = 0
  once : accepts hashes tok inputs ≤ 1
  used : 0 < accepts hashes tok inputs → tok ∈ inputs.filterMap issuedToken

theorem ledger {inputs : List Input} (fresh : (inputs.filterMap issuedToken).Nodup) :
    Ledger hashes tok inputs := by
  induction inputs using reverseRecOn with
  | nil =>
    refine ⟨?_, Nat.zero_le _, ?_⟩
    · intro sess known
      cases known
    · nofun
  | append_singleton inputs last ih =>
    rw [filterMap_append, nodup_append] at fresh
    obtain ⟨freshBefore, _, apart⟩ := fresh
    have before := ih freshBefore
    have own := (reachable_sound hashes inputs).ownTokens
    have issuedLater : tok ∈ inputs.filterMap issuedToken →
        tok ∈ (inputs ++ [last]).filterMap issuedToken := by
      grind
    have count : accepts hashes tok (inputs ++ [last]) = accepts hashes tok inputs +
        if carries tok last && answered hashes codeAccessAccept
          (run (step hashes) newServer inputs) last then 1 else 0 := by
      rw [accepts, visits_concat, countP_append, countP_singleton, ← accepts]
    by_cases accepted : (carries tok last && answered hashes codeAccessAccept
        (run (step hashes) newServer inputs) last) = true
    · rw [if_pos accepted] at count
      obtain ⟨carried, accepted⟩ := Bool.and_eq_true_iff.mp accepted
      cases last with
      | reap now | engine token steps => cases carried
      | request conn p choice =>
        have mine : p.first attrState = tok := by simpa [carries] using carried
        obtain ⟨sess, eap, _, _, _, continues, _⟩ :=
          accept_inversion hashes _ conn p choice accepted
        have known := continues.known
        rw [mine] at known
        obtain ⟨issued, unused⟩ := before.known sess known
        refine ⟨?_, by omega, fun _ => issuedLater issued⟩
        intro sess' still
        have gone := unknown_of_accept hashes own accepted
        rw [run_concat, ← mine, gone] at still
        cases still
    · rw [if_neg accepted, Nat.add_zero] at count
      refine ⟨?_, by rw [count]; exact before.once, ?_⟩
      · intro sess' known
        rw [run_concat] at known
        rw [count]
        rcases known_or_issued hashes tok own known with ⟨sess, earlier⟩ | issued
        · obtain ⟨issued, unused⟩ := before.known sess earlier
          exact ⟨issuedLater issued, unused⟩
        · refine ⟨mem_filterMap.mpr ⟨last, by simp, issued⟩, ?_⟩
          by_contra positive
          have early := before.used (Nat.pos_of_ne_zero positive)
          exact apart tok early tok (by simp [issued]) rfl
      · intro positive
        rw [count] at positive
        exact issuedLater (before.used positive)

end

variable {eap : EapPacket} {choice : Choice}

theorem progress_finish {sess sess' : Session}
    (finished : progress choice sess eap = .finish sess') : sess'.hsComplete = true := by
  rcases progress_cases choice sess eap with
    ⟨_, moved⟩ | ⟨_, _, moved⟩ | ⟨_, _, _, moved⟩ | ⟨tls, _, _, _, moved⟩
  · rw [moved] at finished
    cases finished
  · grind
  · rw [moved] at finished
    cases finished
  · rw [moved] at finished
    exact feed_finish finished

theorem accessAccept_sound (hashes : Hashes) (inputs : List Input)
    (fresh : (inputs.filterMap issuedToken).Nodup) :
    (∀ before conn p choice after, inputs = before ++ .request conn p choice :: after →
      answered hashes codeAccessAccept (run (step hashes) newServer before)
        (.request conn p choice) = true →
      (∃ visit ∈ visits (step hashes) newServer before,
        HandsOut hashes (p.first attrState) visit.1 visit.2) ∧
      (∃ sess eap sess' leaf chain,
        (run (step hashes) newServer before).sessions.lookup (p.first attrState) = some sess ∧
        parseEAP (collectEAPMessage p) = some eap ∧
        progress choice sess eap = .finish sess' ∧ sess'.id = p.first attrState ∧
        sess'.es.done = true ∧ sess'.es.hsErr = none ∧
        sess'.es.connectionState.peerCertificates = leaf :: chain ∧
        (∀ verified : ConnectionState → Prop, (∀ input ∈ inputs, input.Vouches verified) →
          verified sess'.es.connectionState) ∧
        (choice.pdp leaf sess'.nasIdentifier sess'.callingStation
          (decisionOrg sess' leaf)).accept = true)) ∧
    (∀ tok, accepts hashes tok inputs ≤ 1) := by
  refine ⟨?_, fun tok => (ledger hashes tok fresh).once⟩
  intro before conn p choice after split accepted
  obtain ⟨sess, eap, sess', leaf, chain, continues, finished, certificates, accept⟩ :=
    accept_inversion hashes _ conn p choice accepted
  -- The invariant of the state before the request, carried through the frame to `sess'`.
  have after : ∀ verified : ConnectionState → Prop, (∀ input ∈ inputs, input.Vouches verified) →
      Sound verified (p.first attrState) sess' := by
    intro verified vouches
    have vouchesBefore : ∀ input ∈ before, input.Vouches verified := by
      grind
    have vouchesNow := vouches (.request conn p choice) (by rw [split]; simp)
    have sound := sound_run hashes verified vouchesBefore _ _ continues.known
    have moved := sound_progress verified _ choice sess eap sound vouchesNow
    rw [finished] at moved
    exact moved
  have sound := after (fun _ => True) fun input _ => vouches_trivial input
  obtain ⟨done, noError⟩ := sound.complete (progress_finish finished)
  refine ⟨known_handedOut hashes _ sess continues.known, ?_⟩
  refine ⟨sess, eap, sess', leaf, chain, continues.known, continues.parsed, finished, sound.id,
    done, noError, certificates, ?_, accept⟩
  intro verified vouches
  exact (after verified vouches).vouched done noError

/-- The Access-Request in which a proxy passes on an EAP packet of a peer. -/
def peerRequest (state : List Attribute) (eap : EapPacket) : Packet :=
  addEAPMessage ⟨codeAccessRequest, 0, zeroDigest, state⟩ eap.encode

def demoHashes : Hashes := ⟨fun _ => zeroDigest, fun _ _ => zeroDigest⟩

def demoChoice : Choice :=
  { now := 0
    random := some zeroDigest
    rfc3339Nano := ⟨[48], by decide, by decide⟩
    waiting := []
    afterwards := []
    pdp := fun _ _ _ _ => { accept := true }
    sendSalt := none
    recvSalt := none }

/-- The token that `demoChoice` draws. -/
def demoToken : Bytes := List.replicate 32 48

def demoStart : Input :=
  .request 1 (peerRequest [] ⟨eapResponse, 0, eapTypeIdentity, []⟩) demoChoice

theorem stored_sessions_sound_start :
    (run (step demoHashes) newServer [demoStart]).Sound fun _ => True :=
  stored_sessions_sound _ [demoStart] _ (run_mem_states ..)

def demoFrame (identifier : UInt8) (data : Bytes) : Packet :=
  peerRequest [⟨attrState, demoToken⟩] ⟨eapResponse, identifier, eapTypeTLS, data⟩

def demoCertificate : Certificate := ⟨[1], [100], [[111]]⟩

/-- The last flight of the peer, on which the engine reports a verified certificate. -/
def demoFlight : Input :=
  .request 2 (demoFrame 1 [0, 22])
    { demoChoice with waiting := [.read 5, .finish none { peerCertificates := [demoCertificate] }] }

theorem accessAccept_sound_demo :
    answered demoHashes codeAccessAccept
        (run (step demoHashes) newServer [demoStart]) demoFlight = true ∧
      (∃ visit ∈ visits (step demoHashes) newServer [demoStart],
        HandsOut demoHashes demoToken visit.1 visit.2) ∧
      accepts demoHashes demoToken [demoStart, demoFlight, demoFlight] ≤ 1 := by
  have accepted : answered demoHashes codeAccessAccept
      (run (step demoHashes) newServer [demoStart]) demoFlight = true := by decide +kernel
  have sound := accessAccept_sound demoHashes [demoStart, demoFlight, demoFlight] (by decide +kernel)
  have first := sound.1 [demoStart] _ _ _ [demoFlight] rfl accepted
  have token : (demoFrame 1 [0, 22]).first attrState = demoToken := by decide +kernel
  exact ⟨accepted, first.1, sound.2 demoToken⟩

/-! ## Rejected conversations -/

theorem first_peerRequest (tok : Bytes) (eap : EapPacket) :
    (peerRequest [⟨attrState, tok⟩] eap).first attrState = tok := by
  rw [peerRequest, addEAPMessage_eq]
  rfl

theorem collect_peerRequest (tok : Bytes) (eap : EapPacket) :
    collectEAPMessage (peerRequest [⟨attrState, tok⟩] eap) = eap.encode := by
  have pieces := filter_messageAttributes eap.encode attrEAPMessage
  have token : decide (attrState = attrEAPMessage) = false := by decide
  rw [if_pos rfl] at pieces
  rw [peerRequest, addEAPMessage_eq, collectEAPMessage, Packet.all, filter_append, pieces]
  simp only [filter_cons, token, Bool.false_eq_true, if_false, filter_nil, nil_append]
  rw [flatten_messageAttributes]

theorem codeOf_advance (s : Server) (conn : Conn) (p : Packet)
    {sess sess' : Session} (moved : advanced choice sess eap = some sess') :
    codeOf (advance hashes s conn p choice sess eap).2 = codeAccessChallenge := by
  unfold advanced at moved
  rw [advance]
  cases found : progress choice sess eap with
  | reject sess | finish sess => rw [found] at moved; cases moved
  | acknowledge sess => simp [codeOf_challenge]
  | fragment sess => simp [sendNextFragment, codeOf_challenge]

theorem known_challenged (conn : Conn) (choice : Choice) {tok : Bytes}
    {sess : Session} (nonempty : tok ≠ []) (known : s.sessions.lookup tok = some sess) :
    ∃ next, next.first attrState = tok ∧ issuedToken (.request conn next choice) = none ∧
      answered hashes codeAccessChallenge s (.request conn next choice) = true := by
  let eap : EapPacket := ⟨eapResponse, 0, eapTypeTLS, [eapTLSFlagMore]⟩
  let next := peerRequest [⟨attrState, tok⟩] eap
  have token : next.first attrState = tok := first_peerRequest ..
  have parsed : parseEAP (collectEAPMessage next) = some eap := by
    grind [collect_peerRequest, parseEAP_encode]
  have continues : Continues s next sess eap :=
    ⟨by rw [token]; exact nonempty, by rw [token]; exact known, parsed, rfl⟩
  have moved : advanced choice sess eap = some { sess with
      reassembly := sess.reassembly ++ []
      eapID := sess.eapID + 1 } := rfl
  have challenged := codeOf_advance hashes s conn next moved
  rw [← handle_continues hashes s conn next choice continues] at challenged
  refine ⟨next, token, ?_, ?_⟩
  · simp [issuedToken, parsed, token, nonempty]
  · simp [answered, reply, challenged]

theorem rejected_gone {hashes : Hashes} {conn : Conn} {p : Packet}
    {sess : Session} (own : s.OwnTokens) (continues : Continues s p sess eap)
    (rejected : answered hashes codeAccessReject s (.request conn p choice) = true) :
    (handleAccessRequest hashes s conn p choice).1.sessions.lookup (p.first attrState) = none := by
  have moved := handle_continues hashes s conn p choice continues
  have given : advanced choice sess eap = none := by
    cases found : advanced choice sess eap with
    | none => rfl
    | some sess' =>
      simp [answered, reply, moved] at rejected
      rw [codeOf_advance hashes _ conn p found] at rejected
      cases rejected
  have row := lookup_continued hashes s conn p choice own continues
  rw [given] at row
  exact row

theorem rejected_stays_rejected_iff (hashes : Hashes) (before : List Input) (conn : Conn)
    (p : Packet) (choice : Choice) (sess : Session)
    (known : (run (step hashes) newServer before).sessions.lookup (p.first attrState) = some sess)
    (rejected : answered hashes codeAccessReject (run (step hashes) newServer before)
      (.request conn p choice) = true) :
    (∀ after, p.first attrState ∉ after.filterMap issuedToken →
      ∀ visit ∈ visits (step hashes)
        (run (step hashes) newServer (before ++ [.request conn p choice])) after,
      carries (p.first attrState) visit.2 = true →
        answered hashes codeAccessChallenge visit.1 visit.2 = false ∧
          answered hashes codeAccessAccept visit.1 visit.2 = false) ↔
      ∃ eap, parseEAP (collectEAPMessage p) = some eap ∧ eap.type = eapTypeTLS := by
  have sound := reachable_sound hashes before _ _ known
  have reachable := reachable_sound hashes (before ++ [.request conn p choice])
  rw [run_concat, step] at *
  constructor
  · intro quiet
    by_contra other
    -- The refused request leaves the session alone, and it can go on.
    have kept := handle_notTLS hashes (run (step hashes) newServer before) conn p choice
      sound.token known fun eap parsed typed => other ⟨eap, parsed, typed⟩
    obtain ⟨next, token, nothing, challenged⟩ :=
      known_challenged hashes conn choice sound.token known
    have notFresh : p.first attrState ∉
        [Input.request conn next choice].filterMap issuedToken := by
      grind
    have silent := (quiet [.request conn next choice] notFresh _ (mem_singleton.mpr rfl)
      (decide_eq_true token)).1
    rw [kept, challenged] at silent
    cases silent
  · rintro ⟨eap, parsed, typed⟩
    have gone := rejected_gone (reachable_sound hashes before).ownTokens
      ⟨sound.token, known, parsed, typed⟩ rejected
    intro after never visit member carried
    have unknown := unknown_visits hashes _ after never _ reachable gone visit member
    exact ⟨refused_of_unknown hashes _ sound.token unknown carried (by decide),
      refused_of_unknown hashes _ sound.token unknown carried (by decide)⟩

def demoAck : Packet := demoFrame 1 [0]

theorem rejected_stays_rejected_ack :
    answered demoHashes codeAccessReject (run (step demoHashes) newServer [demoStart])
        (.request 1 demoAck demoChoice) = true ∧
      (∀ after, demoToken ∉ after.filterMap issuedToken →
        ∀ visit ∈ visits (step demoHashes)
          (run (step demoHashes) newServer ([demoStart] ++ [.request 1 demoAck demoChoice])) after,
        carries demoToken visit.2 = true →
          answered demoHashes codeAccessChallenge visit.1 visit.2 = false ∧
            answered demoHashes codeAccessAccept visit.1 visit.2 = false) := by
  have rejected : answered demoHashes codeAccessReject
      (run (step demoHashes) newServer [demoStart]) (.request 1 demoAck demoChoice) = true := by
    decide +kernel
  have known : ((run (step demoHashes) newServer [demoStart]).sessions.lookup demoToken).isSome :=
    by decide +kernel
  obtain ⟨sess, known⟩ := isSome_iff_exists.mp known
  have frame : parseEAP (collectEAPMessage demoAck) = some ⟨eapResponse, 1, eapTypeTLS, [0]⟩ := by
    decide +kernel
  have token : demoAck.first attrState = demoToken := first_peerRequest ..
  have stays := rejected_stays_rejected_iff demoHashes [demoStart] 1 demoAck demoChoice sess
    (by rw [token]; exact known) rejected
  exact ⟨rejected, stays.mpr ⟨_, frame, rfl⟩⟩

/-- A peer that asks for another method is rejected and accepted all the same. -/
theorem rejected_nak_accepted :
    let nak : Input := .request 1
      (peerRequest [⟨attrState, demoToken⟩] ⟨eapResponse, 1, eapTypeNak, [25]⟩) demoChoice
    ((run (step demoHashes) newServer [demoStart]).sessions.lookup demoToken).isSome = true ∧
      answered demoHashes codeAccessReject (run (step demoHashes) newServer [demoStart]) nak = true ∧
      answered demoHashes codeAccessAccept (run (step demoHashes) newServer [demoStart, nak])
        demoFlight = true := by
  decide +kernel

end ManagementPlane.Radsec
