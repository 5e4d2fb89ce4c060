import ManagementPlane.Radsec.Radius

/-!
# EAP and EAP-TLS framing

`internal/radsec/eap.go`: EAP packets, the EAP-TLS flags in front of TLS bytes, the
fragments of an outbound TLS message, and the EAP-Message attributes that carry an EAP
packet inside RADIUS.
-/

namespace ManagementPlane.Radsec

open GoBinary List

def eapRequest : UInt8 := 1
def eapResponse : UInt8 := 2
def eapSuccess : UInt8 := 3
def eapFailure : UInt8 := 4

def eapTypeIdentity : UInt8 := 1
def eapTypeNak : UInt8 := 3
def eapTypeTLS : UInt8 := 13

def eapTLSFlagLength : UInt8 := 0x80
def eapTLSFlagMore : UInt8 := 0x40
def eapTLSFlagStart : UInt8 := 0x20

def eapFragmentSize : Nat := 1000

structure EapPacket where
  code : UInt8
  identifier : UInt8
  type : UInt8 := 0
  data : Bytes := []
  deriving DecidableEq

/-- The type and its data are there in requests and responses only. -/
def parseEAP (b : Bytes) : Option EapPacket :=
  if b.length < 4 then none
  else
    let length := lengthField b
    if length < 4 ∨ b.length < length then none
    else
      let e : EapPacket := { code := b.getD 0 0, identifier := b.getD 1 0 }
      if e.code = eapRequest ∨ e.code = eapResponse then
        if length < 5 then none
        else some { e with type := b.getD 4 0, data := (b.take length).drop 5 }
      else some e

def EapPacket.encode (e : EapPacket) : Bytes :=
  e.code :: e.identifier :: bigEndian 2 (5 + e.data.length) ++ e.type :: e.data

def encodeEAPResult (code id : UInt8) : Bytes := code :: id :: bigEndian 2 4

structure TLSData where
  tls : Bytes
  start : Bool
  more : Bool
  deriving DecidableEq

def eapTLSData (data : Bytes) : Option TLSData :=
  match data with
  | [] => none
  | flags :: rest =>
    let start : Bool := flags &&& eapTLSFlagStart ≠ 0
    let more : Bool := flags &&& eapTLSFlagMore ≠ 0
    if flags &&& eapTLSFlagLength ≠ 0 then
      if data.length < 5 then none else some ⟨rest.drop 4, start, more⟩
    else some ⟨rest, start, more⟩

def buildEAPTLSStart (id : UInt8) : Bytes :=
  EapPacket.encode ⟨eapRequest, id, eapTypeTLS, [eapTLSFlagStart]⟩

def buildEAPTLSAck (id : UInt8) : Bytes :=
  EapPacket.encode ⟨eapRequest, id, eapTypeTLS, [0]⟩

structure Fragment where
  pkt : Bytes
  next : Nat
  more : Bool

/-- The flags, on the first fragment the length of the whole message, and the TLS bytes. -/
def fragmentData (tlsData : Bytes) (offset : Nat) : Bytes :=
  let remaining := tlsData.length - offset
  let chunk := min remaining eapFragmentSize
  let flags := if chunk < remaining then eapTLSFlagMore else 0
  let piece := (tlsData.drop offset).take chunk
  if offset = 0 then (flags ||| eapTLSFlagLength) :: bigEndian 4 tlsData.length ++ piece
  else flags :: piece

def buildEAPTLSFragment (id : UInt8) (tlsData : Bytes) (offset : Nat) : Fragment :=
  let remaining := tlsData.length - offset
  let chunk := min remaining eapFragmentSize
  { pkt := EapPacket.encode ⟨eapRequest, id, eapTypeTLS, fragmentData tlsData offset⟩
    next := offset + chunk
    more := chunk < remaining }

def collectEAPMessage (p : Packet) : Bytes := (p.all attrEAPMessage).flatten

def addEAPMessage (p : Packet) (eap : Bytes) : Packet :=
  (chunks 253 eap).foldl (fun p piece => p.add attrEAPMessage piece) p

theorem length_encodeEAP (e : EapPacket) : e.encode.length = 5 + e.data.length := by
  simp [EapPacket.encode, length_bigEndian]
  omega

theorem parseEAP_encode {e : EapPacket} (typed : e.code = eapRequest ∨ e.code = eapResponse)
    (fits : 5 + e.data.length ≤ 65535) : parseEAP e.encode = some e := by
  obtain ⟨code, identifier, type, data⟩ := e
  simp only at typed fits
  have length := length_encodeEAP ⟨code, identifier, type, data⟩
  simp only at length
  have field : lengthField (EapPacket.encode ⟨code, identifier, type, data⟩) = 5 + data.length := by
    have bytes : ((EapPacket.encode ⟨code, identifier, type, data⟩).drop 2).take 2 =
        bigEndian 2 (5 + data.length) := rfl
    rw [lengthField, bytes, ofBigEndian_bigEndian]
    omega
  have payload : ((EapPacket.encode ⟨code, identifier, type, data⟩).take (5 + data.length)).drop 5 =
      data := by
    rw [← length, take_length]
    rfl
  have notShort : ¬ 5 + data.length < 4 := by omega
  have notBad : ¬ (5 + data.length < 4 ∨ 5 + data.length < 5 + data.length) := by omega
  have notBare : ¬ 5 + data.length < 5 := by omega
  have typedHere : (EapPacket.encode ⟨code, identifier, type, data⟩).getD 0 0 = eapRequest ∨
      (EapPacket.encode ⟨code, identifier, type, data⟩).getD 0 0 = eapResponse := typed
  simp only [parseEAP, length, field, if_neg notShort, if_neg notBad, if_neg notBare,
    if_pos typedHere, payload]
  rfl

def messageLength : Bytes → Option Bytes
  | [] => none
  | flags :: rest => if flags &&& eapTLSFlagLength ≠ 0 then some (rest.take 4) else none

section
variable (tlsData : Bytes) (offset : Nat)

theorem piece_eq :
    (tlsData.drop offset).take (min (tlsData.length - offset) eapFragmentSize) =
      (tlsData.drop offset).take eapFragmentSize := by
  rw [← length_drop, ← take_take, take_of_length_le]
  rw [length_take]
  omega

theorem length_fragmentData : (fragmentData tlsData offset).length ≤ 1005 := by
  have size : ((tlsData.drop offset).take eapFragmentSize).length ≤ 1000 := by
    rw [length_take, eapFragmentSize]
    omega
  simp [fragmentData, piece_eq]
  grind [length_append, length_cons, length_bigEndian]

theorem eapTLSData_fragmentData :
    eapTLSData (fragmentData tlsData offset) =
      some ⟨(tlsData.drop offset).take eapFragmentSize, false,
        decide (eapFragmentSize < tlsData.length - offset)⟩ := by
  simp only [fragmentData, piece_eq]
  by_cases more : eapFragmentSize < tlsData.length - offset
  · have cut : min (tlsData.length - offset) eapFragmentSize < tlsData.length - offset := by omega
    rw [if_pos cut, decide_eq_true more]
    by_cases first : offset = 0
    · rw [if_pos first]
      rfl
    · rw [if_neg first]
      rfl
  · have whole : ¬ min (tlsData.length - offset) eapFragmentSize < tlsData.length - offset := by
      omega
    rw [if_neg whole, decide_eq_false more]
    by_cases first : offset = 0
    · rw [if_pos first]
      rfl
    · rw [if_neg first]
      rfl

theorem messageLength_fragmentData :
    messageLength (fragmentData tlsData offset) =
      if offset = 0 then some (bigEndian 4 tlsData.length) else none := by
  simp [fragmentData]
  by_cases first : offset = 0
  · rw [if_pos first, if_pos first]
    split <;> rfl
  · rw [if_neg first, if_neg first]
    split <;> rfl

end

theorem addEAPMessage_eq (p : Packet) (eap : Bytes) :
    addEAPMessage p eap =
      { p with attributes := p.attributes ++ (chunks 253 eap).map (⟨attrEAPMessage, ·⟩) } := by
  have fold : ∀ (pieces : List Bytes) (p : Packet),
      pieces.foldl (fun p piece => p.add attrEAPMessage piece) p =
        { p with attributes := p.attributes ++ pieces.map (⟨attrEAPMessage, ·⟩) } := by
    intro pieces
    induction pieces with
    | nil =>
      simp
    | cons piece rest ih =>
      intro p
      rw [foldl_cons, ih, Packet.add, append_assoc]
      rfl
  exact fold (chunks 253 eap) p

theorem filter_messageAttributes (eap : Bytes) (atype : UInt8) :
    ((chunks 253 eap).map fun piece => (⟨attrEAPMessage, piece⟩ : Attribute)).filter
        (fun a => a.type = atype) =
      if attrEAPMessage = atype then (chunks 253 eap).map (⟨attrEAPMessage, ·⟩) else [] := by
  by_cases same : attrEAPMessage = atype
  · rw [if_pos same, filter_eq_self]
    intro a member
    obtain ⟨piece, _, rfl⟩ := mem_map.mp member
    exact decide_eq_true same
  · rw [if_neg same, filter_eq_nil_iff]
    intro a member
    obtain ⟨piece, _, rfl⟩ := mem_map.mp member
    simpa using same

theorem flatten_messageAttributes (eap : Bytes) :
    (((chunks 253 eap).map fun piece => (⟨attrEAPMessage, piece⟩ : Attribute)).map
      Attribute.value).flatten = eap := by
  have values : ((chunks 253 eap).map fun piece => (⟨attrEAPMessage, piece⟩ : Attribute)).map
      Attribute.value = chunks 253 eap := by
    rw [map_map]
    exact map_id _
  rw [values, flatten_chunks (by decide)]

theorem size_messageAttributes (eap : Bytes) :
    ((chunks 253 eap).map fun piece => 2 + piece.length).sum ≤ 3 * eap.length := by
  induction eap using chunks_induction 253 (by decide) with
  | nil => exact Nat.le_refl _
  | cut eap some ih =>
    have count := length_pos_iff.mpr some
    rw [length_drop] at ih
    rw [chunks_cons (by decide) some, map_cons, sum_cons, length_take]
    omega

theorem length_messageAttributes (eap : Bytes) :
    253 * (chunks 253 eap).length ≤ eap.length + 252 := by
  induction eap using chunks_induction 253 (by decide) with
  | nil => exact Nat.zero_le _
  | cut eap some ih =>
    have count := length_pos_iff.mpr some
    rw [length_drop] at ih
    rw [chunks_cons (by decide) some, length_cons]
    omega

end ManagementPlane.Radsec
