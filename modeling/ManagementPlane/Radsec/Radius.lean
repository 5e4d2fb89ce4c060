import ManagementPlane.Lib.Binary

/-!
# RADIUS packets

`internal/radsec/radius.go`: the wire format of RADIUS packets and their
authenticators. A packet is a header of twenty bytes followed by attributes, each of
them a type, a length that counts its own two header bytes, and a value. MD5 and its
keyed variant are parameters.
-/

namespace ManagementPlane.Radsec

open GoBinary List

def codeAccessRequest : UInt8 := 1
def codeAccessAccept : UInt8 := 2
def codeAccessReject : UInt8 := 3
def codeAccessChallenge : UInt8 := 11

def attrUserName : UInt8 := 1
def attrFilterID : UInt8 := 11
def attrReplyMessage : UInt8 := 18
def attrState : UInt8 := 24
def attrVendorSpecific : UInt8 := 26
def attrSessionTimeout : UInt8 := 27
def attrCallingStationID : UInt8 := 31
def attrNASIdentifier : UInt8 := 32
def attrAcctSessionID : UInt8 := 44
def attrEAPMessage : UInt8 := 79
def attrMessageAuthkey : UInt8 := 80
def attrTunnelType : UInt8 := 64
def attrTunnelMediumType : UInt8 := 65
def attrTunnelPrivateGroup : UInt8 := 81

def radsecSecret : Bytes := "radsec".toUTF8.data.toList

abbrev Digest := { bytes : Bytes // bytes.length = 16 }

def zeroDigest : Digest := ⟨List.replicate 16 0, rfl⟩

structure Attribute where
  type : UInt8
  value : Bytes
  deriving DecidableEq

structure Packet where
  code : UInt8
  identifier : UInt8
  authenticator : Digest
  attributes : List Attribute
  deriving DecidableEq

inductive ParseError where
  | shortPacket
  | badLength (length size : Nat)
  | badAttrLen (length offset : Nat)
  deriving DecidableEq

/-- The loop over the attributes that begin at `offset`. Every round takes two bytes at
least, so as much fuel as there are bytes is never used up. -/
def attributesFrom : (fuel offset : Nat) → Bytes → Except ParseError (List Attribute)
  | _, _, [] => .ok []
  | _, _, [_] => .error .shortPacket
  | 0, _, _ => .ok []
  | fuel + 1, offset, atype :: alen :: rest =>
    if alen.toNat < 2 ∨ rest.length + 2 < alen.toNat then
      .error (.badAttrLen alen.toNat offset)
    else
      match attributesFrom fuel (offset + alen.toNat) (rest.drop (alen.toNat - 2)) with
      | .error err => .error err
      | .ok later => .ok (⟨atype, rest.take (alen.toNat - 2)⟩ :: later)

def lengthField (b : Bytes) : Nat := ofBigEndian ((b.drop 2).take 2)

def parsePacket (b : Bytes) : Except ParseError Packet :=
  if short : b.length < 20 then .error .shortPacket
  else
    let length := lengthField b
    if length < 20 ∨ b.length < length then .error (.badLength length b.length)
    else
      match attributesFrom length 20 ((b.take length).drop 20) with
      | .error err => .error err
      | .ok attributes =>
        .ok
          { code := b.getD 0 0
            identifier := b.getD 1 0
            authenticator := ⟨(b.drop 4).take 16, by simp; omega⟩
            attributes := attributes }

def Attribute.encode (a : Attribute) : Bytes :=
  a.type :: UInt8.ofNat (2 + a.value.length) :: a.value

def Packet.size (p : Packet) : Nat := 20 + (p.attributes.map fun a => 2 + a.value.length).sum

def Packet.encode (p : Packet) : Bytes :=
  p.code :: p.identifier :: bigEndian 2 p.size ++ p.authenticator.val ++
    p.attributes.flatMap Attribute.encode

def Packet.add (p : Packet) (atype : UInt8) (value : Bytes) : Packet :=
  { p with attributes := p.attributes ++ [⟨atype, value⟩] }

def Packet.first (p : Packet) (atype : UInt8) : Bytes :=
  ((p.attributes.find? fun a => a.type = atype).map Attribute.value).getD []

def Packet.all (p : Packet) (atype : UInt8) : List Bytes :=
  (p.attributes.filter fun a => a.type = atype).map Attribute.value

structure Hashes where
  md5 : Bytes → Digest
  hmacMD5 : (key message : Bytes) → Digest

section
variable (hashes : Hashes)

def setMessageAuthenticator (value : Digest) (attributes : List Attribute) : List Attribute :=
  attributes.map fun a => if a.type = attrMessageAuthkey then ⟨a.type, value.val⟩ else a

/-- The packet that `finalize` leaves behind. -/
def Packet.finalized (p : Packet) (requestAuth : Digest) : Packet :=
  let blank : Packet :=
    { p with
      authenticator := requestAuth
      attributes := setMessageAuthenticator zeroDigest p.attributes }
  let signed : Packet :=
    { blank with
      attributes := setMessageAuthenticator (hashes.hmacMD5 radsecSecret blank.encode)
        blank.attributes }
  { signed with authenticator := hashes.md5 (signed.encode ++ radsecSecret) }

def Packet.finalize (p : Packet) (requestAuth : Digest) : Bytes :=
  (p.finalized hashes requestAuth).encode

def messageAuthenticatorOffset : (offset : Nat) → List Attribute → Option Nat
  | _, [] => none
  | offset, a :: rest =>
    if a.type = attrMessageAuthkey then some (offset + 2)
    else messageAuthenticatorOffset (offset + (2 + a.value.length)) rest

/-- `none` is a panic: the sixteen bytes are sliced whatever the attribute's length is. -/
def Packet.verifyMessageAuthenticator (p : Packet) (raw : Bytes) : Option Bool :=
  match messageAuthenticatorOffset 20 p.attributes with
  | none => some true
  | some start =>
    if raw.length < start + 16 then none
    else
      let want := (raw.drop start).take 16
      let blank := raw.take start ++ List.replicate 16 0 ++ raw.drop (start + 16)
      some ((hashes.hmacMD5 radsecSecret blank).val = want)

theorem setMessageAuthenticator_keeps (value : Digest) {attributes : List Attribute}
    (others : ∀ a ∈ attributes, a.type ≠ attrMessageAuthkey) :
    setMessageAuthenticator value attributes = attributes := by
  rw [setMessageAuthenticator, map_congr_left, map_id]
  intro a member
  rw [if_neg (others a member), id]

theorem finalize_eq (code identifier : UInt8) (blank requestAuth : Digest) (placeholder : Bytes)
    (rest : List Attribute) (others : ∀ a ∈ rest, a.type ≠ attrMessageAuthkey) :
    ∃ authenticator mac : Digest, Packet.finalize hashes
          ⟨code, identifier, blank, ⟨attrMessageAuthkey, placeholder⟩ :: rest⟩ requestAuth =
        Packet.encode ⟨code, identifier, authenticator, ⟨attrMessageAuthkey, mac.val⟩ :: rest⟩ := by
  have signed : ∀ (value : Digest) (old : Bytes),
      setMessageAuthenticator value (⟨attrMessageAuthkey, old⟩ :: rest) =
        ⟨attrMessageAuthkey, value.val⟩ :: rest := by
    intro value old
    have kept := setMessageAuthenticator_keeps value others
    simp_all [setMessageAuthenticator]
  simp only [Packet.finalize, Packet.finalized, signed]
  exact ⟨_, _, rfl⟩

end

/-! ## The grammar of packets -/

/-- Attributes one after the other, each with a length that counts its two header bytes. -/
inductive AttributeBytes : Bytes → Prop
  | nil : AttributeBytes []
  | cons (atype alen : UInt8) (value rest : Bytes) (counted : alen.toNat = 2 + value.length)
      (more : AttributeBytes rest) : AttributeBytes (atype :: alen :: (value ++ rest))

theorem length_encodeAttributes (attributes : List Attribute) :
    (attributes.flatMap Attribute.encode).length =
      (attributes.map fun a => 2 + a.value.length).sum := by
  induction attributes with
  | nil => rfl
  | cons a rest ih =>
    rw [flatMap_cons, length_append, ih, map_cons, sum_cons, Attribute.encode,
      length_cons, length_cons]
    omega

theorem attributesFrom_cons {fuel offset : Nat} (atype : UInt8) {alen : UInt8} {value rest : Bytes}
    (counted : alen.toNat = 2 + value.length) {later : List Attribute}
    (parsed : attributesFrom fuel (offset + alen.toNat) rest = .ok later) :
    attributesFrom (fuel + 1) offset (atype :: alen :: (value ++ rest)) =
      .ok (⟨atype, value⟩ :: later) := by
  have inside : ¬ (alen.toNat < 2 ∨ (value ++ rest).length + 2 < alen.toNat) := by
    rw [length_append]
    omega
  have valueLength : alen.toNat - 2 = value.length := by omega
  rw [attributesFrom, if_neg inside, valueLength, drop_left, take_left, parsed]

theorem attributesFrom_of_bytes {bytes : Bytes} (grammar : AttributeBytes bytes) :
    ∀ fuel offset, bytes.length ≤ fuel → ∃ attributes, attributesFrom fuel offset bytes =
      .ok attributes := by
  induction grammar with
  | nil =>
    intro fuel offset _
    exact ⟨[], by rw [attributesFrom]⟩
  | cons atype alen value rest counted _ ih =>
    intro fuel offset enough
    rw [length_cons, length_cons, length_append] at enough
    cases fuel with
    | zero => omega
    | succ fuel =>
      obtain ⟨later, parsed⟩ := ih fuel (offset + alen.toNat) (by omega)
      exact ⟨_, attributesFrom_cons atype counted parsed⟩

theorem attributesFrom_ok (fuel : Nat) : ∀ (offset : Nat) (bytes : Bytes)
    (attributes : List Attribute), bytes.length ≤ fuel →
    attributesFrom fuel offset bytes = .ok attributes →
    AttributeBytes bytes ∧ attributes.flatMap Attribute.encode = bytes := by
  induction fuel with
  | zero =>
    intro offset bytes attributes enough parsed
    have empty : bytes = [] := eq_nil_of_length_eq_zero (by omega)
    rw [empty, attributesFrom] at parsed
    cases parsed
    rw [empty]
    exact ⟨.nil, rfl⟩
  | succ fuel ih =>
    intro offset bytes attributes enough parsed
    match bytes, enough, parsed with
    | [], _, parsed =>
      rw [attributesFrom] at parsed
      cases parsed
      exact ⟨.nil, rfl⟩
    | [_], _, parsed =>
      rw [attributesFrom] at parsed
      cases parsed
    | atype :: alen :: rest, enough, parsed =>
      rw [attributesFrom] at parsed
      split at parsed
      · cases parsed
      · rename_i inside
        split at parsed
        · cases parsed
        · rename_i later parsedRest
          cases parsed
          rw [length_cons, length_cons] at enough
          obtain ⟨grammar, encoded⟩ := ih _ _ later (by rw [length_drop]; omega) parsedRest
          have counted : alen.toNat = 2 + (rest.take (alen.toNat - 2)).length := by
            rw [length_take]
            omega
          have whole : atype :: alen :: rest = atype :: alen ::
              (rest.take (alen.toNat - 2) ++ rest.drop (alen.toNat - 2)) := by
            rw [take_append_drop]
          refine ⟨?_, ?_⟩
          · rw [whole]
            exact .cons atype alen _ _ counted grammar
          · rw [flatMap_cons, encoded, Attribute.encode, ← counted, UInt8.ofNat_toNat,
              cons_append, cons_append, take_append_drop]

theorem attributesFrom_encode {attributes : List Attribute}
    (small : ∀ a ∈ attributes, a.value.length ≤ 253) : ∀ fuel offset,
    (attributes.flatMap Attribute.encode).length ≤ fuel →
    attributesFrom fuel offset (attributes.flatMap Attribute.encode) = .ok attributes := by
  induction attributes with
  | nil =>
    intro fuel offset _
    rw [flatMap_nil, attributesFrom]
  | cons a rest ih =>
    intro fuel offset enough
    have fits := small a (mem_cons_self ..)
    have counted : (UInt8.ofNat (2 + a.value.length)).toNat = 2 + a.value.length := by
      rw [UInt8.toNat_ofNat']
      omega
    rw [flatMap_cons, Attribute.encode, cons_append, cons_append,
      length_cons, length_cons, length_append] at enough
    cases fuel with
    | zero => omega
    | succ fuel =>
      apply attributesFrom_cons a.type counted
      grind

theorem parsePacket_ok_iff (b : Bytes) (p : Packet) :
    parsePacket b = .ok p ↔
      20 ≤ b.length ∧ 20 ≤ lengthField b ∧ lengthField b ≤ b.length ∧
        attributesFrom (lengthField b) 20 ((b.take (lengthField b)).drop 20) = .ok p.attributes ∧
        p.code = b.getD 0 0 ∧ p.identifier = b.getD 1 0 ∧
        p.authenticator.val = (b.drop 4).take 16 := by
  obtain ⟨code, identifier, ⟨authenticator, sixteen⟩, attributes⟩ := p
  unfold parsePacket
  by_cases short : b.length < 20
  · grind
  · rw [dif_neg short]
    by_cases bad : lengthField b < 20 ∨ b.length < lengthField b
    all_goals grind

theorem take_header {b : Bytes} {length : Nat} (long : 20 ≤ b.length) (header : 20 ≤ length) :
    b.take length = b.getD 0 0 :: b.getD 1 0 ::
      ((b.drop 2).take 2 ++ (b.drop 4).take 16 ++ (b.take length).drop 20) := by
  match b, long with
  | first :: second :: rest, long =>
    obtain ⟨count, rfl⟩ : ∃ count, length = count + 20 := ⟨length - 20, by omega⟩
    have cut : rest.take (count + 18) =
        rest.take 2 ++ ((rest.drop 2).take 16 ++ (rest.drop 18).take count) := by
      rw [show count + 18 = 2 + (16 + count) by omega, take_add, take_add, drop_drop]
    simp only [take_succ_cons, drop_succ_cons, drop_zero, getD_cons_zero,
      getD_cons_succ, drop_take, append_assoc]
    rw [cut]
    rfl

theorem length_encode (p : Packet) : p.encode.length = p.size := by
  have sixteen := p.authenticator.property
  rw [Packet.encode, length_append, length_append, length_cons, length_cons,
    length_bigEndian, length_encodeAttributes, Packet.size]
  omega

theorem encode_fields (p : Packet) :
    p.encode.getD 0 0 = p.code ∧ p.encode.getD 1 0 = p.identifier ∧
      (p.encode.drop 2).take 2 = bigEndian 2 p.size ∧
      (p.encode.drop 4).take 16 = p.authenticator.val ∧
      p.encode.drop 20 = p.attributes.flatMap Attribute.encode := by
  obtain ⟨code, identifier, ⟨authenticator, sixteen⟩, attributes⟩ := p
  simp only [Packet.encode, bigEndian, cons_append, nil_append, getD_cons_zero,
    getD_cons_succ, drop_succ_cons, drop_zero,
    take_succ_cons, take_zero, true_and]
  exact ⟨by rw [← sixteen, take_left], by rw [← sixteen, drop_left]⟩

theorem lengthField_encode {p : Packet} (fits : p.size ≤ 65535) :
    lengthField p.encode = p.size := by
  obtain ⟨_, _, field, _⟩ := encode_fields p
  rw [lengthField, field, ofBigEndian_bigEndian]
  omega

theorem parsePacket_encode {p : Packet} (small : ∀ a ∈ p.attributes, a.value.length ≤ 253)
    (fits : p.size ≤ 65535) : parsePacket p.encode = .ok p := by
  obtain ⟨code, identifier, _, authenticator, attributes⟩ := encode_fields p
  have length := length_encode p
  have header : 20 ≤ p.size := Nat.le_add_right ..
  grind [take_length, parsePacket_ok_iff, lengthField_encode, attributesFrom_encode,
    length_encodeAttributes]

theorem encode_parsePacket (b : Bytes) (p : Packet) (accepted : parsePacket b = .ok p) :
    p.encode = b.take (lengthField b) := by
  obtain ⟨long, header, inside, parsed, code, identifier, authenticator⟩ :=
    (parsePacket_ok_iff b p).mp accepted
  have attributeLength : ((b.take (lengthField b)).drop 20).length = lengthField b - 20 := by
    rw [length_drop, length_take]
    omega
  obtain ⟨_, encoded⟩ := attributesFrom_ok _ _ _ _ (by omega) parsed
  have size : p.size = lengthField b := by
    rw [Packet.size, ← length_encodeAttributes, encoded, attributeLength]
    omega
  have fieldLength : ((b.drop 2).take 2).length = 2 := by
    rw [length_take, length_drop]
    omega
  have field : bigEndian 2 (lengthField b) = (b.drop 2).take 2 := by
    have canonical := bigEndian_ofBigEndian ((b.drop 2).take 2)
    rwa [fieldLength] at canonical
  rw [Packet.encode, size, field, encoded, code, identifier, authenticator]
  exact (take_header long header).symm

theorem parsePacket_codec :
    (∀ b : Bytes, (∃ p, parsePacket b = .ok p) ↔
      20 ≤ b.length ∧ 20 ≤ lengthField b ∧ lengthField b ≤ b.length ∧
        AttributeBytes ((b.take (lengthField b)).drop 20)) ∧
    (∀ (b : Bytes) (p : Packet), parsePacket b = .ok p → p.encode = b.take (lengthField b)) ∧
    (∀ p : Packet, (∀ a ∈ p.attributes, a.value.length ≤ 253) → p.encode.length ≤ 65535 →
      parsePacket p.encode = .ok p) := by
  refine ⟨?_, encode_parsePacket, ?_⟩
  · intro b
    have attributeLength : ((b.take (lengthField b)).drop 20).length ≤ lengthField b := by
      rw [length_drop, length_take]
      omega
    constructor
    · rintro ⟨p, accepted⟩
      obtain ⟨long, header, inside, parsed, _⟩ := (parsePacket_ok_iff b p).mp accepted
      exact ⟨long, header, inside, (attributesFrom_ok _ _ _ _ attributeLength parsed).1⟩
    · rintro ⟨long, header, inside, grammar⟩
      obtain ⟨attributes, parsed⟩ := attributesFrom_of_bytes grammar _ 20 attributeLength
      have sixteen : ((b.drop 4).take 16).length = 16 := by
        rw [length_take, length_drop]
        omega
      exact ⟨⟨b.getD 0 0, b.getD 1 0, ⟨_, sixteen⟩, attributes⟩,
        (parsePacket_ok_iff b _).mpr ⟨long, header, inside, parsed, rfl, rfl, rfl⟩⟩
  · grind [parsePacket_encode, length_encode]

theorem parsePacket_codec_trailing :
    let p : Packet := ⟨codeAccessRequest, 7, zeroDigest, [⟨attrUserName, [97, 98]⟩, ⟨attrState, []⟩]⟩
    parsePacket p.encode = .ok p ∧ parsePacket (p.encode ++ [1]) = .ok p ∧
      lengthField (p.encode ++ [1]) = 26 ∧
      p.encode = (p.encode ++ [1]).take (lengthField (p.encode ++ [1])) := by
  intro p
  have trailing : parsePacket (p.encode ++ [1]) = .ok p := by decide
  refine ⟨parsePacket_codec.2.2 p (by decide) (by decide), trailing, by decide, ?_⟩
  exact parsePacket_codec.2.1 (p.encode ++ [1]) p trailing

end ManagementPlane.Radsec
