import ManagementPlane.Radsec.Radius

/-!
# MS-MPPE keys

`internal/radsec/mppe.go`: the key attributes of an Access-Accept. What `rand.Read`
leaves in a salt is an argument, `none` when it fails.
-/

namespace ManagementPlane.Radsec

open GoBinary List

def vendorMicrosoft : Nat := 311
def msMPPESendKey : UInt8 := 16
def msMPPERecvKey : UInt8 := 17
def mskLen : Nat := 64

variable (hashes : Hashes)

/-- Every block is masked with the digest of the secret and of `chained`, which is the
cipher block before it. -/
def encryptBlocks (chained : Bytes) : List Bytes → Bytes
  | [] => []
  | plain :: rest =>
    let block := List.zipWith (· ^^^ ·) plain (hashes.md5 (radsecSecret ++ chained)).val
    block ++ encryptBlocks block rest

def saltEncrypt (random : Option (UInt8 × UInt8)) (key : Bytes) (requestAuth : Digest) :
    Option (Bytes × Bytes) :=
  match random with
  | none => none
  | some (first, second) =>
    let salt := [first ||| 0x80, second]
    let keyed := UInt8.ofNat key.length :: key
    let plain := keyed ++ List.replicate ((16 - keyed.length % 16) % 16) 0
    some (salt, encryptBlocks hashes (requestAuth.val ++ salt) (chunks 16 plain))

def mppeVendorAttr (random : Option (UInt8 × UInt8)) (vendorType : UInt8) (key : Bytes)
    (requestAuth : Digest) : Option Bytes :=
  match saltEncrypt hashes random key requestAuth with
  | none => none
  | some (salt, enc) =>
    let vsdata := salt ++ enc
    some (bigEndian 4 vendorMicrosoft ++ vendorType :: UInt8.ofNat (2 + vsdata.length) :: vsdata)

/-- The packet as it is when the function returns, with or without an error. -/
def addMPPEKeys (sendRandom recvRandom : Option (UInt8 × UInt8)) (p : Packet) (msk : Bytes)
    (requestAuth : Digest) : Packet :=
  if msk.length < mskLen then p
  else
    let recvKey := msk.take 32
    let sendKey := (msk.drop 32).take 32
    match mppeVendorAttr hashes sendRandom msMPPESendKey sendKey requestAuth with
    | none => p
    | some sendAttr =>
      match mppeVendorAttr hashes recvRandom msMPPERecvKey recvKey requestAuth with
      | none => p
      | some recvAttr => (p.add attrVendorSpecific sendAttr).add attrVendorSpecific recvAttr

def decryptBlocks (chained : Bytes) : List Bytes → Bytes
  | [] => []
  | block :: rest =>
    List.zipWith (· ^^^ ·) block (hashes.md5 (radsecSecret ++ chained)).val ++
      decryptBlocks block rest

/-- `mppeDecrypt` of the tests. -/
def mppeDecrypt (salt cipher : Bytes) (requestAuth : Digest) : Bytes :=
  let plain := decryptBlocks hashes (requestAuth.val ++ salt) (chunks 16 cipher)
  (plain.drop 1).take (plain.getD 0 0).toNat

theorem xor_cancel (plain : Bytes) : ∀ mask : Bytes, plain.length ≤ mask.length →
    List.zipWith (· ^^^ ·) (List.zipWith (· ^^^ ·) plain mask) mask = plain := by
  induction plain with
  | nil => simp
  | cons byte rest ih =>
    intro mask covered
    cases mask with
    | nil => simp at covered
    | cons first later =>
      simp only [length_cons, Nat.add_le_add_iff_right] at covered
      rw [zipWith_cons_cons, zipWith_cons_cons, ih later covered, UInt8.xor_assoc, UInt8.xor_self,
        UInt8.xor_zero]

theorem length_encryptBlocks (blocks : List Bytes) : ∀ chained : Bytes,
    (∀ block ∈ blocks, block.length = 16) →
    (encryptBlocks hashes chained blocks).length = 16 * blocks.length := by
  induction blocks with
  | nil => simp [encryptBlocks]
  | cons block rest ih =>
    intro chained full
    simp at full
    simp [encryptBlocks, ih _ full.2, full.1, (hashes.md5 _).property]
    omega

/-- The mask of a block depends on the cipher block before it, which both directions know. -/
theorem decrypt_encryptBlocks (blocks : List Bytes) : ∀ chained : Bytes,
    (∀ block ∈ blocks, block.length = 16) →
    decryptBlocks hashes chained (chunks 16 (encryptBlocks hashes chained blocks)) =
      blocks.flatten := by
  induction blocks with
  | nil => simp [encryptBlocks, chunks, chunksFrom, decryptBlocks]
  | cons block rest ih =>
    intro chained full
    simp at full
    obtain ⟨sixteen, full⟩ := full
    have mask := (hashes.md5 (radsecSecret ++ chained)).property
    let cipher := List.zipWith (· ^^^ ·) block (hashes.md5 (radsecSecret ++ chained)).val
    have cipherLength : cipher.length = 16 := by simp [cipher, sixteen, mask]
    have whole : encryptBlocks hashes chained (block :: rest) =
        cipher ++ encryptBlocks hashes cipher rest := rfl
    have some : cipher ++ encryptBlocks hashes cipher rest ≠ [] := by
      intro empty
      simp [append_eq_nil_iff.mp empty] at cipherLength
    rw [whole, chunks_cons (by decide) some, ← cipherLength, take_left, drop_left,
      cipherLength, decryptBlocks, ih cipher full, flatten_cons,
      xor_cancel block _ (by omega)]

theorem length_fullChunks (items : Bytes) (whole : 16 ∣ items.length) :
    (∀ piece ∈ chunks 16 items, piece.length = 16) ∧
      16 * (chunks 16 items).length = items.length := by
  induction items using chunks_induction 16 (by decide) with
  | nil => simp [chunks, chunksFrom]
  | cut items some ih =>
    have positive := length_pos_iff.mpr some
    obtain ⟨full, count⟩ := ih (by rw [length_drop]; omega)
    rw [length_drop] at count
    rw [chunks_cons (by decide) some]
    simp
    exact ⟨⟨by omega, full⟩, by omega⟩

theorem saltEncrypt_eq (random : UInt8 × UInt8) (key : Bytes) (requestAuth : Digest) :
    ∃ plain cipher : Bytes, saltEncrypt hashes (some random) key requestAuth =
        some ([random.1 ||| 0x80, random.2], cipher) ∧
      plain = UInt8.ofNat key.length :: key ++
        List.replicate ((16 - (1 + key.length) % 16) % 16) 0 ∧
      cipher.length = plain.length ∧
      decryptBlocks hashes (requestAuth.val ++ [random.1 ||| 0x80, random.2]) (chunks 16 cipher) =
        plain := by
  let plain := UInt8.ofNat key.length :: key ++ List.replicate ((16 - (1 + key.length) % 16) % 16) 0
  have plainLength : plain.length = 1 + key.length + (16 - (1 + key.length) % 16) % 16 := by
    simp [plain]
    omega
  obtain ⟨full, count⟩ := length_fullChunks plain (by omega)
  refine ⟨plain, encryptBlocks hashes (requestAuth.val ++ [random.1 ||| 0x80, random.2])
    (chunks 16 plain), ?_, rfl, ?_, ?_⟩
  · simp [saltEncrypt, plain, Nat.add_comm 1]
  · rw [length_encryptBlocks hashes _ _ full, count]
  · rw [decrypt_encryptBlocks hashes _ _ full, flatten_chunks (by decide)]

theorem mppeVendorAttr_eq (random : UInt8 × UInt8) (vendorType : UInt8) {key : Bytes}
    (requestAuth : Digest) (thirtyTwo : key.length = 32) :
    ∃ value, mppeVendorAttr hashes (some random) vendorType key requestAuth = some value ∧
      value.length = 56 ∧ value.getD 5 0 = 52 := by
  obtain ⟨plain, cipher, encrypted, isPlain, length, -⟩ :=
    saltEncrypt_eq hashes random key requestAuth
  have cipherLength : cipher.length = 48 := by simp [length, isPlain, thirtyTwo]
  rw [mppeVendorAttr, encrypted]
  refine ⟨_, rfl, ?_, ?_⟩
  · simp [length_bigEndian, cipherLength]
  · simp [bigEndian, cipherLength]

/-- The key comes back from its cipher text, whatever the digests are; the cipher text is the
shortest that holds the length and the key, and the attribute of a key of 32 bytes fits. -/
theorem mppe_round_trip (random : UInt8 × UInt8) (key : Bytes) (requestAuth : Digest)
    (short : key.length ≤ 255) :
    ∃ salt cipher, saltEncrypt hashes (some random) key requestAuth = some (salt, cipher) ∧
      salt.length = 2 ∧ mppeDecrypt hashes salt cipher requestAuth = key ∧
      (0 < cipher.length ∧ 16 ∣ cipher.length ∧ 1 + key.length ≤ cipher.length ∧
        ∀ n, 16 ∣ n → 1 + key.length ≤ n → cipher.length ≤ n) ∧
      (key.length = 32 → ∀ vendorType, ∃ value,
        mppeVendorAttr hashes (some random) vendorType key requestAuth = some value ∧
          value.length ≤ 253 ∧ (value.getD 5 0).toNat = value.length - 4) := by
  obtain ⟨plain, cipher, encrypted, isPlain, length, decrypted⟩ :=
    saltEncrypt_eq hashes random key requestAuth
  have plainLength : plain.length = 1 + key.length + (16 - (1 + key.length) % 16) % 16 := by
    simp [isPlain]
    omega
  refine ⟨_, cipher, encrypted, rfl, ?_, ⟨by omega, by omega, by omega, by omega⟩, ?_⟩
  · have keyBytes : (UInt8.ofNat key.length).toNat = key.length := by
      rw [UInt8.toNat_ofNat']
      omega
    rw [mppeDecrypt, decrypted, isPlain]
    simp [keyBytes]
  · intro thirtyTwo vendorType
    obtain ⟨value, built, fiftySix, counted⟩ :=
      mppeVendorAttr_eq hashes random vendorType requestAuth thirtyTwo
    exact ⟨value, built, by omega, by rw [counted, fiftySix]; rfl⟩

/-- A key of 32 bytes, and in the place of MD5 the last 16 bytes of the input. -/
theorem mppe_round_trip_key :
    let hashes : Hashes := ⟨fun input => ⟨bigEndian 16 (ofBigEndian input), length_bigEndian ..⟩,
      fun _ _ => zeroDigest⟩
    let key := (List.range 32).map UInt8.ofNat
    ∃ salt cipher value, saltEncrypt hashes (some (0, 7)) key zeroDigest = some (salt, cipher) ∧
      mppeDecrypt hashes salt cipher zeroDigest = key ∧
      mppeVendorAttr hashes (some (0, 7)) msMPPESendKey key zeroDigest = some value ∧
      value.length ≤ 253 := by
  intro hashes key
  obtain ⟨salt, cipher, encrypted, _, decrypted, _, vendor⟩ :=
    mppe_round_trip hashes (0, 7) key zeroDigest (by decide)
  obtain ⟨value, built, fits, _⟩ := vendor (by decide) msMPPESendKey
  exact ⟨salt, cipher, value, encrypted, decrypted, built, fits⟩

end ManagementPlane.Radsec
