import Mathlib.Data.Nat.Digits.Defs
import ManagementPlane.Radsec.Sessions

/-!
# Authenticators and replies on the wire

The check of a request's Message-Authenticator (`verifyMessageAuthenticator` of
`internal/radsec/radius.go` behind `readRADIUS` of `server.go`), and the packets that the
server signs with `finalize`. The check slices sixteen bytes whatever the length of the
attribute is; an Access-Reject with an EAP-Failure goes out without a Message-Authenticator;
and `add` takes values of any length, although the length of an attribute is one byte.
-/

namespace ManagementPlane.Radsec

open GoBinary Policy List

inductive ReadError where
  | eof
  | unexpectedEOF
  | illegalLength (length : Nat)
  deriving DecidableEq

/-- One packet from the bytes that a peer sends until it closes, and the bytes after it. -/
def readRADIUS (stream : Bytes) : Except ReadError (Bytes × Bytes) :=
  if stream = [] then .error .eof
  else if stream.length < 20 then .error .unexpectedEOF
  else
    let length := lengthField stream
    if length < 20 ∨ 65535 < length then .error (.illegalLength length)
    else if stream.length < length then
      .error (if stream.length = 20 then .eof else .unexpectedEOF)
    else .ok (stream.take length, stream.drop length)

theorem lengthField_take (bytes : Bytes) {count : Nat} (header : 20 ≤ count) :
    lengthField (bytes.take count) = lengthField bytes := by
  rw [lengthField, lengthField, drop_take, take_take, Nat.min_eq_left (by omega)]

theorem readRADIUS_ok {stream raw rest : Bytes} (read : readRADIUS stream = .ok (raw, rest)) :
    lengthField raw = raw.length := by
  simp [readRADIUS] at read
  grind [lengthField_take]

/-- Sixteen bytes begin with the value of the first Message-Authenticator. -/
def Covered : List Attribute → Prop
  | [] => True
  | a :: rest =>
    if a.type = attrMessageAuthkey then
      16 ≤ a.value.length + (rest.map fun b => 2 + b.value.length).sum
    else Covered rest

theorem offset_inside_iff (attributes : List Attribute) : ∀ offset : Nat,
    (∀ start, messageAuthenticatorOffset offset attributes = some start →
      start + 16 ≤ offset + (attributes.map fun a => 2 + a.value.length).sum) ↔
      Covered attributes := by
  induction attributes with
  | nil => simp [messageAuthenticatorOffset, Covered]
  | cons a rest ih =>
    intro offset
    by_cases signature : a.type = attrMessageAuthkey
    · simp [messageAuthenticatorOffset, Covered, signature]
      omega
    · rw [Covered, if_neg signature, ← ih (offset + (2 + a.value.length))]
      simp_all [messageAuthenticatorOffset, Nat.add_assoc]

/-- The check of a packet that was read and parsed returns, if and only if sixteen bytes
begin with the value of its first Message-Authenticator. -/
theorem verify_returns_iff (hashes : Hashes) (stream raw rest : Bytes) (p : Packet)
    (read : readRADIUS stream = .ok (raw, rest)) (accepted : parsePacket raw = .ok p) :
    (∃ valid, p.verifyMessageAuthenticator hashes raw = some valid) ↔ Covered p.attributes := by
  have encoded := encode_parsePacket raw p accepted
  rw [readRADIUS_ok read, take_length] at encoded
  have size : raw.length = p.size := by rw [← encoded, length_encode]
  rw [← offset_inside_iff p.attributes 20, ← Packet.size, ← size, Packet.verifyMessageAuthenticator]
  cases messageAuthenticatorOffset 20 p.attributes with
  | none => simp
  | some start =>
    by_cases outside : raw.length < start + 16
    · simp [outside]
    · simp [outside, Nat.not_lt.mp outside]

def demoSigned : Bytes :=
  [1, 7, 0, 40] ++ zeroDigest.val ++ [attrMessageAuthkey, 2, attrMessageAuthkey, 18] ++
    List.replicate 16 0

theorem verify_returns_signed :
    ∃ p valid, parsePacket demoSigned = .ok p ∧
      p.verifyMessageAuthenticator demoHashes demoSigned = some valid := by
  obtain ⟨valid, returned⟩ := (verify_returns_iff demoHashes demoSigned demoSigned []
    ⟨1, 7, zeroDigest, [⟨attrMessageAuthkey, []⟩, ⟨attrMessageAuthkey, List.replicate 16 0⟩]⟩
    (by decide +kernel) (by decide +kernel)).mpr (by
      rw [Covered, if_pos rfl]
      decide)
  exact ⟨_, valid, by decide +kernel, returned⟩

/-- An attribute without a value at the end of the packet. -/
def demoBare : Bytes := [1, 7, 0, 22] ++ zeroDigest.val ++ [attrMessageAuthkey, 2]

theorem verify_leaves_the_packet :
    readRADIUS demoBare = .ok (demoBare, []) ∧
      ∃ p, parsePacket demoBare = .ok p ∧
        p.verifyMessageAuthenticator demoHashes demoBare = none :=
  ⟨by decide +kernel, ⟨1, 7, zeroDigest, [⟨attrMessageAuthkey, []⟩]⟩, by decide +kernel, by decide +kernel⟩

section
variable (hashes : Hashes)

def denial (p : Packet) : Packet := (newResponse codeAccessReject p).add attrReplyMessage accessDenied

def finishResponse (p : Packet) (choice : Choice) (sess : Session) : Packet :=
  match sess.es.connectionState.peerCertificates with
  | [] => denial p
  | deviceCert :: _ =>
    let decision := choice.pdp deviceCert sess.nasIdentifier sess.callingStation
      (decisionOrg sess deviceCert)
    if decision.accept = false then accessReject p (sess.eapID + 1) decision
    else accessAccept hashes choice p sess.es.connectionState deviceCert (sess.eapID + 1) decision

def advanceResponse (p : Packet) (choice : Choice) (sess : Session) (eap : EapPacket) : Packet :=
  match progress choice sess eap with
  | .reject _ => denial p
  | .acknowledge sess =>
    let sess := { sess with eapID := sess.eapID + 1 }
    challengePacket p sess (buildEAPTLSAck sess.eapID)
  | .fragment sess =>
    challengePacket p (fragmentSent sess)
      (buildEAPTLSFragment (sess.eapID + 1) sess.outFrags sess.outOffset).pkt
  | .finish sess => finishResponse hashes p choice sess

/-- The packet that the answer to an Access-Request is made of. -/
def response (s : Server) (p : Packet) (choice : Choice) : Packet :=
  match parseEAP (collectEAPMessage p) with
  | none => denial p
  | some eap =>
    if p.first attrState = [] then
      if eap.code ≠ eapResponse ∨ eap.type ≠ eapTypeIdentity then denial p
      else
        let sess := newSession p eap choice
        challengePacket p sess (buildEAPTLSStart sess.eapID)
    else
      match s.sessions.lookup (p.first attrState) with
      | none => denial p
      | some sess =>
        if eap.type ≠ eapTypeTLS then denial p else advanceResponse hashes p choice sess eap

theorem finish_response (s : Server) (conn : Conn) (p : Packet) (choice : Choice) (sess : Session) :
    (finish hashes s conn p choice sess).2 =
      (finishResponse hashes p choice sess).finalize hashes p.authenticator := by
  simp [finish, finishResponse]
  cases sess.es.connectionState.peerCertificates with
  | nil => rfl
  | cons deviceCert others =>
    simp only
    split_ifs <;> rfl

theorem handle_response (s : Server) (conn : Conn) (p : Packet) (choice : Choice) :
    (handleAccessRequest hashes s conn p choice).2 =
      (response hashes s p choice).finalize hashes p.authenticator := by
  unfold handleAccessRequest response
  by_cases empty : collectEAPMessage p = []
  · simp only [empty, if_true]
    rfl
  · simp only [empty, if_false]
    cases parseEAP (collectEAPMessage p) with
    | none => rfl
    | some eap =>
      simp only
      split_ifs with fresh other notTLS
      · rfl
      · rfl
      · cases s.sessions.lookup (p.first attrState) <;> rfl
      · cases s.sessions.lookup (p.first attrState) with
        | none => rfl
        | some sess =>
          simp only [advance, advanceResponse]
          cases progress choice sess eap with
          | finish sess => exact finish_response hashes s conn p choice sess
          | _ => rfl

def Packet.count (p : Packet) (atype : UInt8) : Nat :=
  p.attributes.countP fun a => a.type = atype

section
variable (p : Packet) (atype : UInt8)

@[simp]
theorem count_newResponse (code : UInt8) : (newResponse code p).count atype = 0 := rfl

@[simp]
theorem count_add (other : UInt8) (value : Bytes) :
    (p.add other value).count atype = p.count atype + if other = atype then 1 else 0 := by
  simp [Packet.count, Packet.add, countP_cons]

@[simp]
theorem count_addEAPMessage (eap : Bytes) :
    (addEAPMessage p eap).count atype =
      p.count atype + if attrEAPMessage = atype then (chunks 253 eap).length else 0 := by
  rw [addEAPMessage_eq, Packet.count, Packet.count, countP_append, countP_map]
  by_cases same : attrEAPMessage = atype
  all_goals simp [same, Function.comp_def]

@[simp]
theorem count_addVLAN (vlan : Int) (other : atype ≠ attrTunnelType ∧ atype ≠ attrTunnelMediumType ∧
    atype ≠ attrTunnelPrivateGroup) : (addVLAN p vlan).count atype = p.count atype := by
  simp [addVLAN, other.1.symm, other.2.1.symm, other.2.2.symm]

@[simp]
theorem count_addMPPEKeys (sendRandom recvRandom : Option (UInt8 × UInt8)) (msk : Bytes)
    (requestAuth : Digest) (other : atype ≠ attrVendorSpecific) :
    (addMPPEKeys hashes sendRandom recvRandom p msk requestAuth).count atype = p.count atype := by
  unfold addMPPEKeys
  split_ifs
  · rfl
  · simp only
    split
    · rfl
    · split
      · rfl
      · simp [other.symm]

@[simp]
theorem count_finalized (requestAuth : Digest) :
    (p.finalized hashes requestAuth).count atype = p.count atype := by
  have kept : ∀ value attributes, (setMessageAuthenticator value attributes).countP
      (fun a => a.type = atype) = attributes.countP fun a => a.type = atype := by
    grind [setMessageAuthenticator, countP_map, countP_congr]
  simp [Packet.count, Packet.finalized, kept]

end

theorem count_accessAccept (choice : Choice) (p : Packet) (cs : ConnectionState)
    (deviceCert : Certificate) (eapID : UInt8) (decision : Decision) :
    (accessAccept hashes choice p cs deviceCert eapID decision).count attrMessageAuthkey = 1 := by
  have vlan : attrMessageAuthkey ≠ attrTunnelType ∧ attrMessageAuthkey ≠ attrTunnelMediumType ∧
      attrMessageAuthkey ≠ attrTunnelPrivateGroup := by decide
  have vendor : attrMessageAuthkey ≠ attrVendorSpecific := by decide
  have others : attrEAPMessage ≠ attrMessageAuthkey ∧ attrUserName ≠ attrMessageAuthkey ∧
      attrFilterID ≠ attrMessageAuthkey ∧ attrSessionTimeout ≠ attrMessageAuthkey := by decide
  unfold accessAccept
  simp only
  split <;> split_ifs <;> simp [vlan, vendor, others]

theorem count_challengePacket (p : Packet) (sess : Session) (eap : Bytes) :
    (challengePacket p sess eap).count attrMessageAuthkey = 1 := by
  have others : attrEAPMessage ≠ attrMessageAuthkey ∧ attrState ≠ attrMessageAuthkey := by decide
  simp [challengePacket, others]

theorem count_accessReject (p : Packet) (eapID : UInt8) (decision : Decision) :
    (accessReject p eapID decision).count attrMessageAuthkey = 0 ∧
      0 < (accessReject p eapID decision).count attrEAPMessage := by
  have others : attrEAPMessage ≠ attrMessageAuthkey ∧ attrReplyMessage ≠ attrMessageAuthkey ∧
      attrReplyMessage ≠ attrEAPMessage := by decide
  have one : (chunks 253 (encodeEAPResult eapFailure eapID)).length = 1 := rfl
  unfold accessReject
  split_ifs <;> simp [others, one]

structure Authenticated (requestAuth : Digest) (reply : Packet) : Prop where
  once : reply.count attrMessageAuthkey = 1
  mac : ∀ a ∈ reply.attributes, a.type = attrMessageAuthkey →
    a.value = (hashes.hmacMD5 radsecSecret (Packet.encode
      { reply with
        authenticator := requestAuth
        attributes := setMessageAuthenticator zeroDigest reply.attributes })).val
  responseAuth : reply.authenticator =
    hashes.md5 (Packet.encode { reply with authenticator := requestAuth } ++ radsecSecret)

theorem setMessageAuthenticator_twice (first second : Digest) (attributes : List Attribute) :
    setMessageAuthenticator first (setMessageAuthenticator second attributes) =
      setMessageAuthenticator first attributes := by
  rw [setMessageAuthenticator, setMessageAuthenticator, setMessageAuthenticator, map_map]
  grind [map_congr_left]

theorem authenticated_finalized_iff (p : Packet) (requestAuth : Digest) :
    Authenticated hashes requestAuth (p.finalized hashes requestAuth) ↔
      p.count attrMessageAuthkey = 1 := by
  constructor
  · intro authenticated
    have once := authenticated.once
    rwa [count_finalized] at once
  · intro once
    refine ⟨by rwa [count_finalized], ?_, rfl⟩
    intro a member signature
    have zeroed : setMessageAuthenticator zeroDigest (p.finalized hashes requestAuth).attributes =
        setMessageAuthenticator zeroDigest p.attributes := by
      simp [Packet.finalized, setMessageAuthenticator_twice]
    rw [zeroed]
    obtain ⟨blank, -, rfl⟩ := mem_map.mp member
    split at signature
    · rename_i isSignature
      rw [if_pos isSignature]
      rfl
    · rename_i other
      exact absurd signature other

/-- The policy decision point turns the supplicant of this request down. -/
def Denied (s : Server) (p : Packet) (choice : Choice) : Prop :=
  ∃ sess eap done cert others, Continues s p sess eap ∧ progress choice sess eap = .finish done ∧
    done.es.connectionState.peerCertificates = cert :: others ∧
    (choice.pdp cert done.nasIdentifier done.callingStation (decisionOrg done cert)).accept = false

theorem count_response {s : Server} {p : Packet} {choice : Choice} (accepted : ¬ Denied s p choice)
    (eap : 0 < (response hashes s p choice).count attrEAPMessage) :
    (response hashes s p choice).count attrMessageAuthkey = 1 := by
  have silent : ¬ 0 < (denial p).count attrEAPMessage := Nat.lt_irrefl 0
  unfold response at eap ⊢
  cases parsed : parseEAP (collectEAPMessage p) with
  | none => exact absurd (by simpa [parsed] using eap) silent
  | some frame =>
    simp only [parsed] at eap ⊢
    split_ifs at eap ⊢ with fresh other notTLS
    · exact absurd eap silent
    · exact count_challengePacket ..
    · grind
    · cases known : s.sessions.lookup (p.first attrState) with
      | none => exact absurd (by simpa [known] using eap) silent
      | some sess =>
        have continues : Continues s p sess frame := ⟨fresh, known, parsed, not_not.mp notTLS⟩
        simp only [known, advanceResponse] at eap ⊢
        cases moved : progress choice sess frame with
        | reject sess => exact absurd (by simpa [moved] using eap) silent
        | acknowledge sess | fragment sess => exact count_challengePacket ..
        | finish done =>
          simp only [moved, finishResponse] at eap ⊢
          cases certs : done.es.connectionState.peerCertificates with
          | nil => exact absurd (by simpa [certs] using eap) silent
          | cons cert others =>
            simp only
            split_ifs with refused
            · exact absurd ⟨sess, frame, done, cert, others, continues, moved, certs, refused⟩ accepted
            · exact count_accessAccept hashes ..

theorem signed_response_iff (s : Server) (p : Packet) (choice : Choice) :
    (0 < (response hashes s p choice).count attrEAPMessage →
      (response hashes s p choice).count attrMessageAuthkey = 1) ↔ ¬ Denied s p choice := by
  refine ⟨?_, fun accepted => count_response hashes accepted⟩
  rintro signed ⟨sess, eap, done, cert, others, continues, finished, certs, refused⟩
  have isReject : response hashes s p choice = accessReject p (done.eapID + 1)
      (choice.pdp cert done.nasIdentifier done.callingStation (decisionOrg done cert)) := by
    simp [response, advanceResponse, finishResponse, continues.parsed, continues.token,
      continues.known, continues.typed, finished, certs, refused]
  rw [isReject, (count_accessReject ..).1] at signed
  exact absurd (signed (count_accessReject ..).2) (by decide)

/-! ## Replies that parse -/

theorem attributesFrom_small (fuel : Nat) : ∀ (offset : Nat) (bytes : Bytes)
    (attributes : List Attribute), attributesFrom fuel offset bytes = .ok attributes →
    ∀ a ∈ attributes, a.value.length ≤ 253 := by
  intro offset bytes
  fun_induction attributesFrom fuel offset bytes with
  | case6 fuel offset atype alen rest inside later parsed ih =>
    intro attributes same
    cases same
    have byte := alen.toNat_lt
    simp
    exact ⟨by omega, ih later parsed⟩
  | _ => simp_all

/-- The values fit into their attributes; that of a Message-Authenticator is set later. -/
def Packet.Small (p : Packet) : Prop :=
  ∀ a ∈ p.attributes, a.type ≠ attrMessageAuthkey → a.value.length ≤ 253

section
variable (p : Packet)

@[simp]
theorem small_newResponse (code : UInt8) : (newResponse code p).Small := by
  simp [Packet.Small, newResponse]

@[simp]
theorem small_add (atype : UInt8) (value : Bytes) : (p.add atype value).Small ↔
    p.Small ∧ (atype ≠ attrMessageAuthkey → value.length ≤ 253) := by
  simp [Packet.Small, Packet.add, or_imp, forall_and]

@[simp]
theorem small_addEAPMessage (eap : Bytes) : (addEAPMessage p eap).Small ↔ p.Small := by
  have pieces : ∀ piece ∈ chunks 253 eap, piece ≠ [] ∧ piece.length ≤ 253 :=
    length_mem_chunks (by decide)
  simp [addEAPMessage_eq, Packet.Small]
  grind

@[simp]
theorem small_addVLAN {vlan : Int} (int64 : vlan < 2 ^ 63) : (addVLAN p vlan).Small ↔ p.Small := by
  have digits : (decimal vlan.toNat).length ≤ 19 := by
    rw [decimal, length_map]
    exact Nat.toDigitsCore_length 10 _ _ 19 (by decide) (by omega)
  simp [addVLAN, small_add]
  grind

variable (sendRandom recvRandom : Option (UInt8 × UInt8))

theorem addMPPEKeys_cases (msk : Bytes) (requestAuth : Digest) :
    addMPPEKeys hashes sendRandom recvRandom p msk requestAuth = p ∨
      ∃ sendAttr recvAttr, sendAttr.length = 56 ∧ recvAttr.length = 56 ∧
        addMPPEKeys hashes sendRandom recvRandom p msk requestAuth =
          (p.add attrVendorSpecific sendAttr).add attrVendorSpecific recvAttr := by
  unfold addMPPEKeys
  split_ifs with short
  · exact .inl rfl
  · have sendLength : ((msk.drop 32).take 32).length = 32 := by
      grind [mskLen]
    have recvLength : (msk.take 32).length = 32 := by
      grind
    cases sendRandom with
    | none => exact .inl rfl
    | some sendRandom =>
      cases recvRandom with
      | none =>
        left
        simp only
        split <;> rfl
      | some recvRandom =>
        obtain ⟨sendAttr, sent, sendSize, -⟩ :=
          mppeVendorAttr_eq hashes sendRandom msMPPESendKey requestAuth sendLength
        obtain ⟨recvAttr, received, recvSize, -⟩ :=
          mppeVendorAttr_eq hashes recvRandom msMPPERecvKey requestAuth recvLength
        exact .inr ⟨sendAttr, recvAttr, sendSize, recvSize, by simp [sent, received]⟩

@[simp]
theorem small_addMPPEKeys (msk : Bytes) (requestAuth : Digest) :
    (addMPPEKeys hashes sendRandom recvRandom p msk requestAuth).Small ↔ p.Small := by
  rcases addMPPEKeys_cases hashes p sendRandom recvRandom msk requestAuth with
    same | ⟨sendAttr, recvAttr, sendSize, recvSize, same⟩
  · rw [same]
  · simp [same, sendSize, recvSize]

theorem small_finalized (requestAuth : Digest) :
    (∀ a ∈ (p.finalized hashes requestAuth).attributes, a.value.length ≤ 253) ↔ p.Small := by
  simp [Packet.finalized, setMessageAuthenticator_twice]
  simp only [setMessageAuthenticator, forall_mem_map, Packet.Small]
  grind

end

theorem size_le {p : Packet} (small : ∀ a ∈ p.attributes, a.value.length ≤ 253) :
    p.size ≤ 20 + 255 * p.attributes.length := by
  have bounded : ∀ attributes : List Attribute, (∀ a ∈ attributes, a.value.length ≤ 253) →
      (attributes.map fun a => 2 + a.value.length).sum ≤ 255 * attributes.length := by
    intro attributes
    induction attributes with
    | nil => simp
    | cons a rest ih =>
      intro each
      simp at each
      have later := ih each.2
      simp only [map_cons, sum_cons, length_cons]
      omega
  exact Nat.add_le_add_left (bounded p.attributes small) 20

theorem parsePacket_finalize {p : Packet} (requestAuth : Digest) (few : p.attributes.length ≤ 10)
    (small : p.Small) :
    parsePacket (p.finalize hashes requestAuth) = .ok (p.finalized hashes requestAuth) := by
  have fits := (small_finalized hashes p requestAuth).mpr small
  have size := size_le fits
  have count : (p.finalized hashes requestAuth).attributes.length = p.attributes.length := by
    simp [Packet.finalized, setMessageAuthenticator]
  exact parsePacket_encode fits (by omega)

theorem parsePacket_finalize_iff (p : Packet) (requestAuth : Digest)
    (few : p.attributes.length ≤ 10) :
    (∃ q, parsePacket (p.finalize hashes requestAuth) = .ok q ∧
      q.attributes = (p.finalized hashes requestAuth).attributes) ↔ p.Small := by
  constructor
  · rintro ⟨q, parsed, same⟩
    obtain ⟨_, _, _, attributes, _⟩ := (parsePacket_ok_iff _ q).mp parsed
    rw [← small_finalized hashes p requestAuth, ← same]
    exact attributesFrom_small _ _ _ _ attributes
  · exact fun small => ⟨_, parsePacket_finalize hashes requestAuth few small, rfl⟩

/-- The texts of a decision fit into attributes. -/
def Decision.Fits (decision : Decision) (cert : Certificate) : Prop :=
  if decision.accept then
    (nonEmpty decision.username cert.commonName).length ≤ 253 ∧ decision.acl.length ≤ 253
  else decision.message.length ≤ 253

/-- The decision about the supplicant of the session, if it has a certificate, fits. -/
def Fits (choice : Choice) (sess : Session) : Prop :=
  ∀ cert ∈ sess.es.connectionState.peerCertificates.head?,
    (choice.pdp cert sess.nasIdentifier sess.callingStation (decisionOrg sess cert)).Fits cert

section
variable (p : Packet) (choice : Choice) (sess : Session)

theorem small_accessReject (eapID : UInt8) (decision : Decision) :
    (accessReject p eapID decision).Small ↔ decision.message.length ≤ 253 := by
  have type : attrReplyMessage ≠ attrMessageAuthkey := by decide
  by_cases silent : decision.message = []
  · simp [accessReject, silent]
  · simp [accessReject, silent, type]

theorem small_accessAccept (cs : ConnectionState) (cert : Certificate) (eapID : UInt8)
    {decision : Decision} (int64 : decision.vlan < 2 ^ 63) :
    (accessAccept hashes choice p cs cert eapID decision).Small ↔
      (nonEmpty decision.username cert.commonName).length ≤ 253 ∧ decision.acl.length ≤ 253 := by
  have types : attrUserName ≠ attrMessageAuthkey ∧ attrFilterID ≠ attrMessageAuthkey := by decide
  have timed : ∀ q : Packet, (if 0 < decision.sessionTimeout then
      q.add attrSessionTimeout (bigEndian 4 decision.sessionTimeout.toNat) else q).Small ↔
        q.Small := by
    intro q
    split_ifs
    · simp [length_bigEndian]
    · rfl
  have tagged : ∀ q : Packet, (if 0 < decision.vlan then addVLAN q decision.vlan else q).Small ↔
      q.Small := by
    grind [small_addVLAN]
  by_cases acl : decision.acl = []
  all_goals cases keys : cs.keyingMaterial <;> simp [accessAccept, keys, acl, timed, tagged, types]

theorem small_finishResponse_iff (int64 : ∀ cert nasIdentifier callingStation orgID,
      (choice.pdp cert nasIdentifier callingStation orgID).vlan < 2 ^ 63) :
    (finishResponse hashes p choice sess).Small ↔ Fits choice sess := by
  have denied : accessDenied.length = 13 := by decide
  unfold finishResponse Fits
  cases sess.es.connectionState.peerCertificates with
  | nil => simp [denial, denied]
  | cons cert others =>
    grind [Decision.Fits, small_accessReject, small_accessAccept]

theorem length_finishResponse : (finishResponse hashes p choice sess).attributes.length ≤ 10 := by
  have added : ∀ (q : Packet) (atype : UInt8) (value : Bytes),
      (q.add atype value).attributes.length = q.attributes.length + 1 := by
    simp [Packet.add]
  have result : ∀ (q : Packet) (code : UInt8), (addEAPMessage q
      (encodeEAPResult code (sess.eapID + 1))).attributes.length = q.attributes.length + 1 := by
    intro q code
    rw [addEAPMessage_eq, length_append, length_map]
    rfl
  have keys : ∀ (q : Packet) (msk : Bytes), (addMPPEKeys hashes choice.sendSalt choice.recvSalt q msk
      p.authenticator).attributes.length ≤ q.attributes.length + 2 := by
    grind [addMPPEKeys_cases]
  unfold finishResponse
  split
  · simp [denial, added, newResponse]
  · simp [accessReject, accessAccept]
    split
    · split <;> simp [added, result, newResponse]
    · grind [newResponse, addVLAN]

/-- What `finish` returns parses to the attributes that were added, if and only if the texts
of the decision fit into attributes. A VLAN is an `int`. -/
theorem finish_wellFormed_iff (s : Server) (conn : Conn)
    (int64 : ∀ cert nasIdentifier callingStation orgID,
      (choice.pdp cert nasIdentifier callingStation orgID).vlan < 2 ^ 63) :
    (∃ q, parsePacket (finish hashes s conn p choice sess).2 = .ok q ∧
      q.attributes =
        ((finishResponse hashes p choice sess).finalized hashes p.authenticator).attributes) ↔
      Fits choice sess := by
  rw [finish_response, ← small_finishResponse_iff hashes p choice sess int64]
  exact parsePacket_finalize_iff hashes _ p.authenticator (length_finishResponse hashes p choice sess)

/-- The values of the answer fit into attributes. -/
def Progress.Fits : Progress → Prop
  | .reject _ => True
  | .acknowledge _ | .fragment _ => sess.id.length ≤ 253
  | .finish done => Radsec.Fits choice done

def Readable (s : Server) : Prop :=
  ∀ sess eap, Continues s p sess eap → (progress choice sess eap).Fits choice sess

theorem length_challengePacket (eap : EapPacket) (short : eap.data.length ≤ 1005) :
    (challengePacket p sess eap.encode).attributes.length ≤ 10 := by
  have pieces := length_messageAttributes eap.encode
  rw [length_encodeEAP] at pieces
  simp [challengePacket, addEAPMessage_eq, Packet.add, newResponse]
  omega

theorem small_challengePacket (eap : Bytes) :
    (challengePacket p sess eap).Small ↔ sess.id.length ≤ 253 := by
  have type : attrState ≠ attrMessageAuthkey := by decide
  simp [challengePacket, type]

theorem small_denial : (denial p).attributes.length ≤ 10 ∧ (denial p).Small := by
  have denied : accessDenied.length = 13 := by decide
  refine ⟨Nat.le_add_left 1 9, ?_⟩
  simp [denial, denied]

variable (s : Server) (int64 : ∀ cert nasIdentifier callingStation orgID,
  (choice.pdp cert nasIdentifier callingStation orgID).vlan < 2 ^ 63)

include int64

theorem advanceResponse_small_iff (eap : EapPacket) :
    (advanceResponse hashes p choice sess eap).attributes.length ≤ 10 ∧
      ((advanceResponse hashes p choice sess eap).Small ↔
        (progress choice sess eap).Fits choice sess) := by
  have same := id_progress choice sess eap
  unfold advanceResponse
  cases moved : progress choice sess eap with
  | reject _ => exact ⟨(small_denial p).1, iff_true_intro (small_denial p).2⟩
  | acknowledge next =>
    rw [moved] at same
    refine ⟨length_challengePacket p _ _ (Nat.le_add_left 1 1004), ?_⟩
    rw [small_challengePacket, Progress.Fits, ← same]
    rfl
  | fragment next =>
    rw [moved] at same
    refine ⟨length_challengePacket p _ _ (length_fragmentData next.outFrags next.outOffset), ?_⟩
    rw [small_challengePacket, id_fragmentSent, Progress.Fits, ← same]
    rfl
  | finish done =>
    exact ⟨length_finishResponse hashes p choice done,
      small_finishResponse_iff hashes p choice done int64⟩

theorem response_small_iff :
    (response hashes s p choice).attributes.length ≤ 10 ∧
      ((response hashes s p choice).Small ↔ Readable p choice s) := by
  have denied : (∀ sess eap, ¬ Continues s p sess eap) →
      (denial p).attributes.length ≤ 10 ∧ ((denial p).Small ↔ Readable p choice s) := by
    intro fresh
    exact ⟨(small_denial p).1, iff_of_true (small_denial p).2 fun sess eap continues =>
      absurd continues (fresh sess eap)⟩
  unfold response
  cases parsed : parseEAP (collectEAPMessage p) with
  | none => exact denied fun sess eap continues => by grind [continues.parsed]
  | some eap =>
    simp only
    split_ifs with fresh other notTLS
    · exact denied fun sess eap continues => continues.token fresh
    · refine ⟨length_challengePacket p _ _ (Nat.le_add_left 1 1004), ?_⟩
      rw [small_challengePacket]
      exact iff_of_true (newStateToken_bounds choice).2 fun sess eap continues =>
        absurd fresh continues.token
    · cases known : s.sessions.lookup (p.first attrState) <;>
        exact denied fun sess eap continues => by grind [Continues]
    · cases known : s.sessions.lookup (p.first attrState) with
      | none => exact denied fun sess eap continues => by grind [continues.known]
      | some sess =>
        have advanced := advanceResponse_small_iff hashes p choice sess int64 eap
        refine ⟨advanced.1, advanced.2.trans ⟨?_, ?_⟩⟩
        · intro room sess' eap' continues
          grind [continues.known, continues.parsed]
        · intro room
          exact room sess eap ⟨fresh, known, parsed, not_not.mp notTLS⟩

/-- The bytes returned parse to the attributes that were added, authenticated if there is an
EAP packet among them, if and only if they are not the answer to a supplicant that the policy
decision point turns down and the values fit into attributes. A VLAN is an `int`. -/
theorem replies_authenticated_iff (conn : Conn) :
    let raw := (handleAccessRequest hashes s conn p choice).2
    let reply := (response hashes s p choice).finalized hashes p.authenticator
    raw = reply.encode ∧
      ((∃ q, parsePacket raw = .ok q ∧ q.attributes = reply.attributes ∧
        (0 < q.count attrEAPMessage → Authenticated hashes p.authenticator q)) ↔
        ¬ Denied s p choice ∧ Readable p choice s) := by
  intro raw reply
  have onWire : raw = reply.encode := handle_response hashes s conn p choice
  obtain ⟨few, small⟩ := response_small_iff hashes p choice s int64
  have signed : (0 < reply.count attrEAPMessage → Authenticated hashes p.authenticator reply) ↔
      ¬ Denied s p choice := by
    rw [count_finalized, authenticated_finalized_iff]
    exact signed_response_iff hashes s p choice
  refine ⟨onWire, ?_⟩
  rw [← signed, ← small, onWire]
  constructor
  · rintro ⟨q, parsed, same, authenticated⟩
    have fits := (parsePacket_finalize_iff hashes _ p.authenticator few).mp ⟨q, parsed, same⟩
    have whole := parsePacket_finalize hashes p.authenticator few fits
    have isReply : reply = q := Except.ok.inj (whole.symm.trans parsed)
    rw [isReply]
    exact ⟨authenticated, fits⟩
  · rintro ⟨authenticated, fits⟩
    exact ⟨reply, parsePacket_finalize hashes p.authenticator few fits, rfl, authenticated⟩

end

end

def demoFinished : Session :=
  { id := demoToken, eapID := 1, hsComplete := true,
    es := { done := true, connectionState := { peerCertificates := [demoCertificate] } } }

def demoDecision (decision : Decision) : Choice := { demoChoice with pdp := fun _ _ _ _ => decision }

/-- An accepted supplicant gets an authenticated EAP-Success. -/
theorem replies_authenticated_accept :
    let s : Server := newServer.store demoFinished
    let p := demoFrame 1 [0]
    ∃ q, parsePacket (handleAccessRequest demoHashes s 1 p (demoDecision { accept := true })).2 =
      .ok q ∧ Authenticated demoHashes p.authenticator q := by
  intro s p
  have known : s.sessions.lookup (p.first attrState) = some demoFinished := by decide +kernel
  have parsed : parseEAP (collectEAPMessage p) = some ⟨eapResponse, 1, eapTypeTLS, [0]⟩ := by
    decide +kernel
  have accepted : ¬ Denied s p (demoDecision { accept := true }) := by
    rintro ⟨sess, eap, done, cert, others, continues, finished, certs, refused⟩
    cases refused
  have fits : Readable p (demoDecision { accept := true }) s := by
    intro sess eap continues
    cases Option.some.inj (known.symm.trans continues.known)
    cases Option.some.inj (parsed.symm.trans continues.parsed)
    rintro cert ⟨⟩
    exact ⟨by decide, by decide⟩
  obtain ⟨q, readable, same, authenticated⟩ := (replies_authenticated_iff demoHashes p
    (demoDecision { accept := true }) s
    (fun _ _ _ _ => (by decide : (0 : Int) < 2 ^ 63)) 1).2.mpr ⟨accepted, fits⟩
  refine ⟨q, readable, authenticated ?_⟩
  rw [Packet.count, same]
  decide +kernel

/-- A supplicant that is turned down gets an EAP-Failure without a Message-Authenticator. -/
theorem denied_unsigned :
    (parsePacket (handleAccessRequest demoHashes (newServer.store demoFinished) 1 (demoFrame 1 [0])
      (demoDecision { accept := false })).2).map
        (fun q => (q.count attrEAPMessage, q.count attrMessageAuthkey)) = .ok (1, 0) := by
  decide +kernel

theorem finish_wellFormed_demo :
    ∃ q, parsePacket (finish demoHashes newServer 1 (demoFrame 1 [0]) (demoDecision { accept := true })
        demoFinished).2 = .ok q ∧ q.code = codeAccessAccept := by
  obtain ⟨q, parsed, -⟩ := (finish_wellFormed_iff demoHashes (demoFrame 1 [0])
    (demoDecision { accept := true }) demoFinished newServer 1 (by
      intro _ _ _ _
      exact (by decide : (0 : Int) < 2 ^ 63))).mpr (by
        intro cert isCert
        cases isCert
        exact ⟨by decide, by decide⟩)
  refine ⟨q, parsed, ?_⟩
  have code := ((parsePacket_ok_iff _ q).mp parsed).2.2.2.2.1
  rw [code]
  decide +kernel

/-- The length of a name of 254 bytes is written as 0. -/
theorem long_name_unreadable :
    parsePacket (finish demoHashes newServer 1 (demoFrame 1 [0])
      (demoDecision { accept := true, username := List.replicate 254 97 }) demoFinished).2 =
        .error (.badAttrLen 0 44) := by
  decide +kernel

end ManagementPlane.Radsec
