import ManagementPlane.Lib.Json

/-!
# Parsing signed tokens with golang-jwt

`jwt.Parse` decodes the token, asks the key function for a key, verifies the
signature and validates the time claims. When decoding succeeds and one of the
later checks fails it returns the decoded token together with an error, and so
does a decoding that fails half way. What the checks compute is a parameter.

Keys are byte slices here. A byte slice is a key of the HMAC methods only; every
other method refuses it.
-/

namespace Jwt

open GoJson

inductive Method where
  | hmac
  | rsa
  | rsaPSS
  | ecdsa
  | ed25519
  | none

abbrev MapClaims := String → Option Json

def MapClaims.ofList (claims : List (String × Json)) : MapClaims :=
  fun key => (claims.find? fun claim => claim.1 = key).map Prod.snd

def MapClaims.set (claims : MapClaims) (key : String) (value : Json) : MapClaims :=
  fun other => if other = key then some value else claims other

/-- The result of decoding. A malformed token may come with a token value, which may
have claims. -/
inductive Decoded where
  | malformed (err : String) (token : Option (Option MapClaims))
  | decoded (method : Method) (claims : MapClaims)

def Decoded.Carries (result : Decoded) (claims : MapClaims) : Prop :=
  (∃ err, result = .malformed err (some (some claims))) ∨ ∃ method, result = .decoded method claims

/-- Decoding leaves at most one set of claims behind. -/
theorem carries_unique {result : Decoded} {first second : MapClaims}
    (carriesFirst : result.Carries first) (carriesSecond : result.Carries second) :
    first = second := by
  rcases carriesFirst with ⟨err, resultEq⟩ | ⟨method, resultEq⟩ <;>
    rcases carriesSecond with ⟨_, again⟩ | ⟨_, again⟩ <;>
    rw [resultEq] at again <;> cases again <;> rfl

structure Library where
  decode : String → Decoded
  hmacError : (key token : String) → Option String
  keyTypeError : String
  claimsError : MapClaims → (now : Int) → Option String

inductive Parsed where
  | valid (claims : MapClaims)
  | failed (err : String) (token : Option (Option MapClaims))

section
variable (lib : Library)

def signatureError (method : Method) (key token : String) : Option String :=
  match method with
  | .hmac => lib.hmacError key token
  | _ => some lib.keyTypeError

def parse (keyFunc : Method → String) (now : Int) (token : String) : Parsed :=
  match lib.decode token with
  | .malformed err leftover => .failed err leftover
  | .decoded method claims =>
    match signatureError lib method (keyFunc method) token with
    | some err => .failed err (some (some claims))
    | none =>
      match lib.claimsError claims now with
      | some err => .failed err (some (some claims))
      | none => .valid claims

/-- The token is signed with `key` under an HMAC method and its time claims hold. -/
def Verified (key : String) (now : Int) (token : String) (claims : MapClaims) : Prop :=
  lib.decode token = .decoded .hmac claims ∧ lib.hmacError key token = none ∧
    lib.claimsError claims now = none

/-- Whatever the key function answers for the other methods, only a token signed with
the HMAC key is valid. -/
theorem parse_valid_iff (keyFunc : Method → String) (now : Int) (token : String)
    (claims : MapClaims) :
    parse lib keyFunc now token = .valid claims ↔
      Verified lib (keyFunc .hmac) now token claims := by
  constructor
  · intro valid
    simp [parse] at valid
    split at valid
    · cases valid
    · rename_i method decodedClaims decodedEq
      split at valid
      · cases valid
      · rename_i signed
        split at valid
        · cases valid
        · rename_i inTime
          cases valid
          cases method with
          | hmac => exact ⟨decodedEq, signed, inTime⟩
          | _ => cases signed
  · rintro ⟨decodedEq, signed, inTime⟩
    simp [parse, decodedEq, signatureError, signed, inTime]

/-- A failed parse hands out the claims that decoding left behind. -/
theorem parse_carries (keyFunc : Method → String) (now : Int) (token : String)
    (claims : MapClaims) :
    parse lib keyFunc now token = .valid claims ∨
        (∃ err, parse lib keyFunc now token = .failed err (some (some claims))) ↔
      (lib.decode token).Carries claims := by
  cases decodedEq : lib.decode token with
  | malformed err leftover =>
    simp [parse, decodedEq, Decoded.Carries]
  | decoded method decodedClaims =>
    have carried : (Decoded.decoded method decodedClaims).Carries claims ↔
        decodedClaims = claims := by
      simp [Decoded.Carries]
    rw [carried]
    cases signed : signatureError lib method (keyFunc method) token with
    | some err => simp [parse, decodedEq, signed]
    | none =>
      cases inTime : lib.claimsError decodedClaims now with
      | some err | none => simp [parse, decodedEq, signed, inTime]

end

/-- The checks of a parser that is given an RSA key. Decoding delivers the name of the
signing method. -/
structure RSALibrary where
  decode : String → Except String (String × MapClaims)
  rsaError : (alg key token : String) → Option String
  claimsError : MapClaims → (now : Int) → Option String

/-- A parser that accepts only some methods. -/
def RSALibrary.parse (lib : RSALibrary) (validMethods : List String)
    (keyFunc : String → Except String String) (now : Int) (token : String) :
    Except String MapClaims :=
  match lib.decode token with
  | .error err => .error err
  | .ok (alg, claims) =>
    if alg ∉ validMethods then .error ("signing method " ++ alg ++ " is invalid")
    else
      match keyFunc alg with
      | .error err => .error err
      | .ok key =>
        match lib.rsaError alg key token with
        | some err => .error err
        | none =>
          match lib.claimsError claims now with
          | some err => .error err
          | none => .ok claims

structure Signed (C : Type) where
  key : String
  claims : C

end Jwt
