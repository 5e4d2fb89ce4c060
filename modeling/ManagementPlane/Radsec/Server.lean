import ManagementPlane.Lib.Runs
import ManagementPlane.Lib.Tables
import ManagementPlane.Policy.Types
import ManagementPlane.Radsec.Conn
import ManagementPlane.Radsec.Eap
import ManagementPlane.Radsec.Mppe

/-!
# The RadSec server

`internal/radsec/server.go`: the EAP-TLS state machine behind Access-Requests. A
conversation is found through the State attribute of its requests and lives in a table
under its own token. Requests are handled one after the other; between them the
handshake goroutines go on and the reaper ticks. The clock, the random source, the
policy decision point and the steps of the TLS engine come with each request.
-/

namespace ManagementPlane.Radsec

open GoBinary Tables Policy List

abbrev Conn := Nat

structure Decision where
  accept : Bool
  username : Bytes := []
  vlan : Int := 0
  acl : Bytes := []
  sessionTimeout : Int := 0
  message : Bytes := []

structure Session where
  id : Bytes
  es : EapSession := {}
  eapID : UInt8
  reassembly : Bytes := []
  outFrags : Bytes := []
  outOffset : Nat := 0
  hsComplete : Bool := false
  nasIdentifier : Bytes := []
  callingStation : Bytes := []
  orgID : Bytes := []
  created : Time := 0
  deriving DecidableEq

structure Server where
  sessions : Table Bytes Session
  live : Table Bytes Conn

def newServer : Server := ⟨∅, ∅⟩

/-- What the environment contributes to one request. `waiting` are the steps the engine
takes while the server waits for its flight, `afterwards` those between that wait and the
look at the done channel. -/
structure Choice where
  now : Time
  random : Option { bytes : Bytes // bytes.length = 16 }
  rfc3339Nano : { text : Bytes // text ≠ [] ∧ text.length ≤ 35 }
  waiting : List TlsStep
  afterwards : List TlsStep
  pdp : (cert : Certificate) → (nasIdentifier callingStation orgID : Bytes) → Decision
  sendSalt : Option (UInt8 × UInt8)
  recvSalt : Option (UInt8 × UInt8)

def newStateToken (choice : Choice) : Bytes :=
  match choice.random with
  | some bytes => hexEncode bytes.val
  | none => hexEncode choice.rfc3339Nano.val

def Server.store (s : Server) (sess : Session) : Server :=
  { s with sessions := s.sessions.insert sess.id sess }

def destroy (s : Server) (sess : Session) : Server :=
  { s with sessions := s.sessions.erase sess.id }

def newResponse (code : UInt8) (req : Packet) : Packet := ⟨code, req.identifier, zeroDigest, []⟩

def tunnelTypeVLAN : UInt8 := 13
def tunnelMediumType802 : UInt8 := 6

def addVLAN (p : Packet) (vlan : Int) : Packet :=
  let tag : UInt8 := 0x01
  ((p.add attrTunnelType [tag, 0, 0, tunnelTypeVLAN]).add attrTunnelMediumType
    [tag, 0, 0, tunnelMediumType802]).add attrTunnelPrivateGroup (tag :: decimal vlan.toNat)

def nonEmpty (a b : Bytes) : Bytes := if a ≠ [] then a else b

def accessDenied : Bytes := "access denied".toList.map fun c => UInt8.ofNat c.toNat

/-- What `advance` has decided to do with a session: answer with an acknowledgement, with
the next fragment or with the decision, or give it up. -/
inductive Progress where
  | reject (sess : Session)
  | acknowledge (sess : Session)
  | fragment (sess : Session)
  | finish (sess : Session)

def fedEngine (choice : Choice) (sess : Session) : EapSession :=
  ((sess.es.push sess.reassembly).collectOutbound choice.waiting).1.performAll choice.afterwards

/-- The whole flight of the peer is there: hand it to the TLS engine and take what the
engine answers. -/
def feed (choice : Choice) (sess : Session) : Progress :=
  let serverFlight := ((sess.es.push sess.reassembly).collectOutbound choice.waiting).2
  let es := fedEngine choice sess
  let sess := { sess with reassembly := [], es := es }
  if es.done ∧ es.hsErr ≠ none then .reject sess
  else
    let sess := { sess with hsComplete := sess.hsComplete || es.done }
    if serverFlight = [] then
      if sess.hsComplete then .finish sess else .reject sess
    else .fragment { sess with outFrags := serverFlight, outOffset := 0 }

def progress (choice : Choice) (sess : Session) (eap : EapPacket) : Progress :=
  match eapTLSData eap.data with
  | none => .reject sess
  | some ⟨tls, _, more⟩ =>
    if tls = [] ∧ more = false then
      if sess.outOffset < sess.outFrags.length then .fragment sess
      else if sess.hsComplete then .finish sess
      else .reject sess
    else
      let sess := { sess with reassembly := sess.reassembly ++ tls }
      if more then .acknowledge sess else feed choice sess

/-- The session once its next fragment is out. After the last fragment nothing is left to
send. -/
def fragmentSent (sess : Session) : Session :=
  let sess := { sess with eapID := sess.eapID + 1 }
  let next := (buildEAPTLSFragment sess.eapID sess.outFrags sess.outOffset).next
  if sess.outFrags.length ≤ next then { sess with outFrags := [], outOffset := 0 }
  else { sess with outOffset := next }

section
variable (hashes : Hashes)

def reject (p : Packet) : Bytes :=
  ((newResponse codeAccessReject p).add attrReplyMessage accessDenied).finalize hashes
    p.authenticator

def rejectSession (s : Server) (p : Packet) (sess : Session) : Server × Bytes :=
  (destroy s sess, reject hashes p)

/-- The packet that `challenge` finalizes. -/
def challengePacket (p : Packet) (sess : Session) (eap : Bytes) : Packet :=
  (addEAPMessage ((newResponse codeAccessChallenge p).add attrMessageAuthkey zeroDigest.val)
    eap).add attrState sess.id

def challenge (p : Packet) (sess : Session) (eap : Bytes) : Bytes :=
  (challengePacket p sess eap).finalize hashes p.authenticator

def sendNextFragment (s : Server) (p : Packet) (sess : Session) : Server × Bytes :=
  let eapID := sess.eapID + 1
  let fragment := buildEAPTLSFragment eapID sess.outFrags sess.outOffset
  let sent := fragmentSent sess
  (s.store sent, challenge hashes p sent fragment.pkt)

def accessReject (p : Packet) (eapID : UInt8) (decision : Decision) : Packet :=
  let resp := addEAPMessage (newResponse codeAccessReject p) (encodeEAPResult eapFailure eapID)
  if decision.message ≠ [] then resp.add attrReplyMessage decision.message else resp

def accessAccept (choice : Choice) (p : Packet) (cs : ConnectionState) (deviceCert : Certificate)
    (eapID : UInt8) (decision : Decision) : Packet :=
  let resp := (newResponse codeAccessAccept p).add attrMessageAuthkey zeroDigest.val
  let resp := addEAPMessage resp (encodeEAPResult eapSuccess eapID)
  let resp := resp.add attrUserName (nonEmpty decision.username deviceCert.commonName)
  let resp := if 0 < decision.vlan then addVLAN resp decision.vlan else resp
  let resp := if decision.acl ≠ [] then resp.add attrFilterID decision.acl else resp
  let resp :=
    if 0 < decision.sessionTimeout then
      resp.add attrSessionTimeout (bigEndian 4 decision.sessionTimeout.toNat)
    else resp
  match cs.keyingMaterial with
  | none => resp
  | some msk => addMPPEKeys hashes choice.sendSalt choice.recvSalt resp msk p.authenticator

def decisionOrg (sess : Session) (deviceCert : Certificate) : Bytes :=
  match sess.orgID, deviceCert.organization with
  | [], org :: _ => org
  | orgID, _ => orgID

def finish (s : Server) (conn : Conn) (p : Packet) (choice : Choice) (sess : Session) :
    Server × Bytes :=
  let cs := sess.es.connectionState
  match cs.peerCertificates with
  | [] => rejectSession hashes s p sess
  | deviceCert :: _ =>
    let decision := choice.pdp deviceCert sess.nasIdentifier sess.callingStation
      (decisionOrg sess deviceCert)
    let eapID := sess.eapID + 1
    if decision.accept = false then
      (destroy s sess, (accessReject p eapID decision).finalize hashes p.authenticator)
    else
      let acct := p.first attrAcctSessionID
      let tracked := if acct ≠ [] then { s with live := s.live.insert acct conn } else s
      (destroy tracked sess,
        (accessAccept hashes choice p cs deviceCert eapID decision).finalize hashes
          p.authenticator)

def advance (s : Server) (conn : Conn) (p : Packet) (choice : Choice) (sess : Session)
    (eap : EapPacket) : Server × Bytes :=
  match progress choice sess eap with
  | .reject sess => rejectSession hashes s p sess
  | .acknowledge sess =>
    let sess := { sess with eapID := sess.eapID + 1 }
    (s.store sess, challenge hashes p sess (buildEAPTLSAck sess.eapID))
  | .fragment sess => sendNextFragment hashes s p sess
  | .finish sess => finish hashes s conn p choice sess

def newSession (p : Packet) (eap : EapPacket) (choice : Choice) : Session :=
  { id := newStateToken choice
    eapID := eap.identifier + 1
    nasIdentifier := p.first attrNASIdentifier
    callingStation := p.first attrCallingStationID
    created := choice.now }

def startConversation (s : Server) (p : Packet) (eap : EapPacket) (choice : Choice) :
    Server × Bytes :=
  let sess := newSession p eap choice
  (s.store sess, challenge hashes p sess (buildEAPTLSStart sess.eapID))

def handleAccessRequest (s : Server) (conn : Conn) (p : Packet) (choice : Choice) :
    Server × Bytes :=
  let eapRaw := collectEAPMessage p
  if eapRaw = [] then (s, reject hashes p)
  else
    match parseEAP eapRaw with
    | none => (s, reject hashes p)
    | some eap =>
      let stateTok := p.first attrState
      if stateTok = [] then
        if eap.code ≠ eapResponse ∨ eap.type ≠ eapTypeIdentity then (s, reject hashes p)
        else startConversation hashes s p eap choice
      else
        match s.sessions.lookup stateTok with
        | none => (s, reject hashes p)
        | some sess =>
          if eap.type ≠ eapTypeTLS then (s, reject hashes p)
          else advance hashes s conn p choice sess eap

def reap (s : Server) (now : Time) : Server :=
  let cut := now - 2 * minute
  { s with
    sessions := updateAll (fun _ sess => if sess.created < cut then none else some sess)
      s.sessions }

def runEngine (s : Server) (token : Bytes) (steps : List TlsStep) : Server :=
  { s with
    sessions := updateRow token (fun sess => { sess with es := sess.es.performAll steps })
      s.sessions }

inductive Input where
  | request (conn : Conn) (p : Packet) (choice : Choice)
  | reap (now : Time)
  | engine (token : Bytes) (steps : List TlsStep)

def step (s : Server) : Input → Server
  | .request conn p choice => (handleAccessRequest hashes s conn p choice).1
  | .reap now => reap s now
  | .engine token steps => runEngine s token steps

def reply (s : Server) : Input → Option Bytes
  | .request conn p choice => some (handleAccessRequest hashes s conn p choice).2
  | _ => none

end

def codeOf (raw : Bytes) : UInt8 := raw.getD 0 0

section
variable (hashes : Hashes) (p : Packet)

theorem codeOf_finalize (requestAuth : Digest) :
    codeOf (p.finalize hashes requestAuth) = p.code := rfl

theorem code_addEAPMessage (eap : Bytes) : (addEAPMessage p eap).code = p.code := by
  rw [addEAPMessage_eq]

theorem codeOf_reject : codeOf (reject hashes p) = codeAccessReject := rfl

variable (sess : Session)

theorem codeOf_challenge (eap : Bytes) :
    codeOf (challenge hashes p sess eap) = codeAccessChallenge := by
  rw [challenge, codeOf_finalize, challengePacket, Packet.add, code_addEAPMessage]
  rfl

theorem code_accessReject (eapID : UInt8) (decision : Decision) :
    (accessReject p eapID decision).code = codeAccessReject := by
  have body := code_addEAPMessage (newResponse codeAccessReject p) (encodeEAPResult eapFailure eapID)
  simp [accessReject]
  split <;> exact body

theorem challenge_eq (eap : Bytes) :
    ∃ authenticator mac : Digest, challenge hashes p sess eap =
      Packet.encode ⟨codeAccessChallenge, p.identifier, authenticator,
        ⟨attrMessageAuthkey, mac.val⟩ ::
          ((chunks 253 eap).map (⟨attrEAPMessage, ·⟩) ++ [⟨attrState, sess.id⟩])⟩ := by
  have packet : challengePacket p sess eap = ⟨codeAccessChallenge, p.identifier, zeroDigest,
      ⟨attrMessageAuthkey, zeroDigest.val⟩ ::
        ((chunks 253 eap).map (⟨attrEAPMessage, ·⟩) ++ [⟨attrState, sess.id⟩])⟩ := by
    rw [challengePacket, Packet.add, addEAPMessage_eq]
    rfl
  rw [challenge, packet]
  apply finalize_eq
  intro a member
  rcases mem_append.mp member with piece | state
  · obtain ⟨_, _, rfl⟩ := mem_map.mp piece
    exact (by decide : attrEAPMessage ≠ attrMessageAuthkey)
  · rw [mem_singleton.mp state]
    exact (by decide : attrState ≠ attrMessageAuthkey)

theorem parsePacket_challenge (eap : Bytes)
    (stateFits : sess.id.length ≤ 253) (eapFits : eap.length ≤ 10000) :
    ∃ q, parsePacket (challenge hashes p sess eap) = .ok q ∧ q.code = codeAccessChallenge ∧
      q.first attrState = sess.id ∧ collectEAPMessage q = eap := by
  obtain ⟨authenticator, mac, onWire⟩ := challenge_eq hashes p sess eap
  have macLength := mac.property
  have pieceBytes := size_messageAttributes eap
  rw [onWire]
  refine ⟨_, parsePacket_encode ?small ?fits, rfl, ?state, ?message⟩
  case small =>
    intro a member
    rcases mem_cons.mp member with rfl | member
    · simp only
      omega
    · rcases mem_append.mp member with piece | state
      · obtain ⟨bytes, inside, rfl⟩ := mem_map.mp piece
        exact (length_mem_chunks (by decide) bytes inside).2
      · rwa [mem_singleton.mp state]
  case fits =>
    simp only [Packet.size, map_cons, map_append, map_map, sum_cons,
      sum_append, map_nil, sum_nil, Function.comp_def]
    omega
  case state =>
    have noState : ((chunks 253 eap).map fun piece => (⟨attrEAPMessage, piece⟩ : Attribute)).find?
        (fun a => a.type = attrState) = none := by
      rw [find?_eq_none]
      intro a member
      obtain ⟨_, _, rfl⟩ := mem_map.mp member
      exact (by decide : ¬ decide (attrEAPMessage = attrState) = true)
    simp [Packet.first, find?_cons, noState]
    rfl
  case message =>
    have pieces := filter_messageAttributes eap attrEAPMessage
    rw [if_pos rfl] at pieces
    have onlyPieces : (⟨attrMessageAuthkey, mac.val⟩ :: ((chunks 253 eap).map
        (fun piece => (⟨attrEAPMessage, piece⟩ : Attribute)) ++ [⟨attrState, sess.id⟩])).filter
          (fun a => a.type = attrEAPMessage) = (chunks 253 eap).map (⟨attrEAPMessage, ·⟩) := by
      have signature : decide (attrMessageAuthkey = attrEAPMessage) = false := by decide
      have token : decide (attrState = attrEAPMessage) = false := by decide
      grind
    rw [collectEAPMessage, Packet.all, onlyPieces, flatten_messageAttributes]

end

def Progress.session : Progress → Session
  | .reject sess => sess
  | .acknowledge sess => sess
  | .fragment sess => sess
  | .finish sess => sess

variable (choice : Choice)

theorem fed_fedEngine (sess : Session) :
    (fedEngine choice sess).fed = sess.es.fed ++ sess.reassembly := by
  rw [fedEngine, fed_performAll, fed_collectOutbound, fed_push]

theorem ended_fedEngine {sess : Session} {err : Option String}
    {state : ConnectionState} (ended : sess.es.Ended err state) :
    (fedEngine choice sess).Ended err state := by
  apply ended_performAll
  apply ended_collectOutbound
  exact ended

/-- A session after a flight: the buffer is empty, and it is complete only if it was or if
the handshake is now over without an error. -/
theorem session_feed (sess : Session) :
    ∃ hsComplete outFrags outOffset, (feed choice sess).session =
        { sess with
          es := fedEngine choice sess
          reassembly := []
          hsComplete := hsComplete
          outFrags := outFrags
          outOffset := outOffset } ∧
      (hsComplete = true → sess.hsComplete = true ∨
        (fedEngine choice sess).done = true ∧ (fedEngine choice sess).hsErr = none) := by
  unfold feed
  simp only
  split
  · exact ⟨sess.hsComplete, sess.outFrags, sess.outOffset, rfl, .inl⟩
  · rename_i accepted
    have complete : (sess.hsComplete || (fedEngine choice sess).done) = true →
        sess.hsComplete = true ∨
          (fedEngine choice sess).done = true ∧ (fedEngine choice sess).hsErr = none := by
      grind
    split
    · split
      all_goals exact ⟨_, sess.outFrags, sess.outOffset, rfl, complete⟩
    · exact ⟨_, _, 0, rfl, complete⟩

theorem feed_finish {choice : Choice} {sess sess' : Session}
    (finished : feed choice sess = .finish sess') : sess'.hsComplete = true := by
  unfold feed at finished
  grind

theorem progress_cases (sess : Session) (eap : EapPacket) :
    (eapTLSData eap.data = none ∧ progress choice sess eap = .reject sess) ∨
    (∃ start, eapTLSData eap.data = some ⟨[], start, false⟩ ∧
      progress choice sess eap = if sess.outOffset < sess.outFrags.length then .fragment sess
        else if sess.hsComplete then .finish sess
        else .reject sess) ∨
    (∃ tls start, eapTLSData eap.data = some ⟨tls, start, true⟩ ∧
      progress choice sess eap = .acknowledge { sess with reassembly := sess.reassembly ++ tls }) ∨
    (∃ tls start, eapTLSData eap.data = some ⟨tls, start, false⟩ ∧ tls ≠ [] ∧
      progress choice sess eap = feed choice { sess with reassembly := sess.reassembly ++ tls }) := by
  unfold progress
  cases frame : eapTLSData eap.data with
  | none => exact .inl ⟨rfl, rfl⟩
  | some data =>
    obtain ⟨tls, start, more⟩ := data
    right
    cases more with
    | true => exact .inr (.inl ⟨tls, start, rfl, by simp⟩)
    | false =>
      grind

end ManagementPlane.Radsec
