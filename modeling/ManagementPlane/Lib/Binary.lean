import Mathlib.Data.List.Basic
import Mathlib.Tactic.Common
import Mathlib.Tactic.Ring

/-!
# Byte strings

`encoding/binary` in big-endian order at any width, and cutting a list into pieces
of bounded size. Byte strings are lists of bytes; a Go string is one, too.
-/

namespace GoBinary

open List Nat

abbrev Bytes := List UInt8

/-- The low `width` bytes of a number, the most significant byte first. -/
def bigEndian : Nat → Nat → Bytes
  | 0, _ => []
  | width + 1, n => UInt8.ofNat (n / 256 ^ width) :: bigEndian width n

def ofBigEndian (bytes : Bytes) : Nat := bytes.foldl (fun high byte => high * 256 + byte.toNat) 0

theorem length_bigEndian (width n : Nat) : (bigEndian width n).length = width := by
  induction width with
  | zero => rfl
  | succ width ih => rw [bigEndian, length_cons, ih]

variable (bytes : Bytes)

theorem foldl_bytes (high : Nat) :
    bytes.foldl (fun high byte => high * 256 + byte.toNat) high =
      high * 256 ^ bytes.length + ofBigEndian bytes := by
  induction bytes generalizing high with
  | nil => simp [ofBigEndian]
  | cons byte rest ih =>
    have reading : ofBigEndian (byte :: rest) =
        (0 * 256 + byte.toNat) * 256 ^ rest.length + ofBigEndian rest := ih _
    grind

theorem ofBigEndian_cons (byte : UInt8) (rest : Bytes) :
    ofBigEndian (byte :: rest) = byte.toNat * 256 ^ rest.length + ofBigEndian rest := by
  rw [ofBigEndian, foldl_cons, foldl_bytes]
  simp

theorem ofBigEndian_lt : ofBigEndian bytes < 256 ^ bytes.length := by
  induction bytes with
  | nil => simp [ofBigEndian]
  | cons byte rest ih =>
    have small : byte.toNat + 1 ≤ 256 := byte.toNat_lt
    have scaled := Nat.mul_le_mul_right (256 ^ rest.length) small
    rw [ofBigEndian_cons, length_cons, Nat.pow_succ]
    rw [Nat.add_mul] at scaled
    omega

/-- Reading back gives the number cut to its width. -/
theorem ofBigEndian_bigEndian (width n : Nat) :
    ofBigEndian (bigEndian width n) = n % 256 ^ width := by
  induction width with
  | zero => simp [bigEndian, ofBigEndian, mod_one]
  | succ width ih =>
    rw [bigEndian, ofBigEndian_cons, length_bigEndian, ih, Nat.pow_succ, mod_mul,
      UInt8.toNat_ofNat']
    have width8 : 2 ^ 8 = 256 := rfl
    rw [width8]
    ring

theorem bigEndian_add_mul (width n high : Nat) :
    bigEndian width (high * 256 ^ width + n) = bigEndian width n := by
  induction width generalizing high with
  | zero => rfl
  | succ width ih =>
    have shifted : high * 256 ^ (width + 1) + n = (high * 256) * 256 ^ width + n := by ring
    have digit : UInt8.ofNat ((high * 256 * 256 ^ width + n) / 256 ^ width) =
        UInt8.ofNat (n / 256 ^ width) := by
      have positive : 0 < 256 ^ width := Nat.pow_pos (by decide)
      rw [Nat.add_comm, add_mul_div_right _ _ positive]
      simp
    rw [shifted, bigEndian, digit, ih, bigEndian]

/-- Every byte string is the encoding of the number it reads as. -/
theorem bigEndian_ofBigEndian : bigEndian bytes.length (ofBigEndian bytes) = bytes := by
  induction bytes with
  | nil => rfl
  | cons byte rest ih =>
    have small := ofBigEndian_lt rest
    have positive : 0 < 256 ^ rest.length := Nat.pow_pos (by decide)
    have digit : (byte.toNat * 256 ^ rest.length + ofBigEndian rest) / 256 ^ rest.length =
        byte.toNat := by
      rw [Nat.add_comm, add_mul_div_right _ _ positive, div_eq_of_lt small, Nat.zero_add]
    rw [ofBigEndian_cons, length_cons, bigEndian, digit, bigEndian_add_mul, ih, UInt8.ofNat_toNat]

def hexDigit (n : Nat) : UInt8 := UInt8.ofNat (if n < 10 then 48 + n else 87 + n)

def hexEncode (bytes : Bytes) : Bytes :=
  bytes.flatMap fun byte => [hexDigit (byte.toNat / 16), hexDigit (byte.toNat % 16)]

theorem length_hexEncode : (hexEncode bytes).length = 2 * bytes.length := by
  induction bytes with
  | nil => rfl
  | cons byte rest ih =>
    rw [hexEncode, flatMap_cons, length_append, ← hexEncode, ih]
    simp
    omega

def decimal (n : Nat) : Bytes := (Nat.toDigits 10 n).map fun digit => UInt8.ofNat digit.toNat

theorem digit_bounds {n : Nat} {digit : Char} (member : digit ∈ Nat.toDigits 10 n) :
    48 ≤ digit.toNat ∧ digit.toNat ≤ 57 :=
  Char.isDigit_iff_toNat.mp (isDigit_of_mem_toDigits (by decide) (by decide) member)

/-- The digits read back. -/
theorem map_decimal (n : Nat) :
    (decimal n).map (fun byte => Char.ofNat byte.toNat) = Nat.toDigits 10 n := by
  rw [decimal, map_map]
  calc (Nat.toDigits 10 n).map _ = (Nat.toDigits 10 n).map id := by
        apply map_congr_left
        intro digit member
        have bounds := digit_bounds member
        have small : digit.toNat < 256 := by omega
        simp [mod_eq_of_lt small]
    _ = Nat.toDigits 10 n := map_id _

theorem decimal_injective : Function.Injective decimal := by
  intro first second same
  have digits : Nat.toDigits 10 first = Nat.toDigits 10 second := by
    rw [← map_decimal, ← map_decimal, same]
  have numbers := congrArg (fun digits => Nat.ofDigitChars 10 digits 0) digits
  simpa using numbers

theorem hyphen_not_mem_decimal (n : Nat) : (45 : UInt8) ∉ decimal n := by
  intro member
  obtain ⟨digit, isDigit, hyphen⟩ := mem_map.mp member
  have bounds := digit_bounds isDigit
  have code := congrArg UInt8.toNat hyphen
  rw [UInt8.toNat_ofNat', mod_eq_of_lt (by omega)] at code
  change digit.toNat = 45 at code
  omega

/-- The verb `%d` of a signed number. -/
def signedDecimal : Int → Bytes
  | .ofNat n => decimal n
  | .negSucc n => 45 :: decimal (n + 1)

/-- Two texts that end in a separator and a last part without it have equal parts. -/
theorem append_last_inj {α : Type} (separator : α) (first second last other : List α)
    (absent : separator ∉ last) (absentOther : separator ∉ other) :
    first ++ separator :: last = second ++ separator :: other ↔ first = second ∧ last = other := by
  constructor
  · intro same
    rcases append_eq_append_iff.mp same with ⟨middle, rfl, rest⟩ | ⟨middle, rfl, rest⟩
    · cases middle with
      | nil => simpa using rest
      | cons head tail =>
        grind
    · cases middle with
      | nil => simpa using rest.symm
      | cons head tail =>
        grind
  · rintro ⟨rfl, rfl⟩
    rfl

variable {α : Type}

/-- At most `fuel` pieces; all pieces but the last have the full size. -/
def chunksFrom (size : Nat) : Nat → List α → List (List α)
  | 0, _ => []
  | fuel + 1, items =>
    if items = [] then [] else items.take size :: chunksFrom size fuel (items.drop size)

def chunks (size : Nat) (items : List α) : List (List α) := chunksFrom size items.length items

theorem chunksFrom_nil (size fuel : Nat) : chunksFrom size fuel ([] : List α) = [] := by
  cases fuel <;> simp [chunksFrom]

variable {items : List α}

/-- More fuel than there are items changes nothing. -/
theorem chunksFrom_eq {size fuel : Nat} (positive : 0 < size)
    (enough : items.length ≤ fuel) : chunksFrom size fuel items = chunks size items := by
  have agree : ∀ (first second : Nat) (items : List α), items.length ≤ first →
      items.length ≤ second → chunksFrom size first items = chunksFrom size second items := by
    intro first
    induction first with
    | zero =>
      grind [eq_nil_of_length_eq_zero, chunksFrom_nil]
    | succ first ih =>
      intro second items within1 within2
      cases second with
      | zero =>
        grind
      | succ second =>
        by_cases empty : items = []
        · rw [empty, chunksFrom_nil, chunksFrom_nil]
        · have some := length_pos_iff.mpr empty
          simp [chunksFrom, empty]
          grind
  exact agree fuel items.length items enough (Nat.le_refl _)

theorem chunks_cons {size : Nat} (positive : 0 < size) (some : items ≠ []) :
    chunks size items = items.take size :: chunks size (items.drop size) := by
  have count := length_pos_iff.mpr some
  obtain ⟨fuel, fuelEq⟩ := exists_eq_succ_of_ne_zero (Nat.ne_of_gt count)
  rw [chunks, fuelEq, chunksFrom, if_neg some, chunksFrom_eq positive]
  rw [length_drop]
  omega

/-- The induction that follows the cutting. -/
theorem chunks_induction (size : Nat) (positive : 0 < size) {motive : List α → Prop}
    (nil : motive []) (cut : ∀ items, items ≠ [] → motive (items.drop size) → motive items)
    (items : List α) : motive items := by
  induction length : items.length using Nat.strong_induction_on generalizing items with
  | _ count ih =>
    grind [length_pos_iff, length_drop]

theorem flatten_chunks {size : Nat} (positive : 0 < size) (items : List α) :
    (chunks size items).flatten = items := by
  induction items using chunks_induction size positive with
  | nil => rfl
  | cut items some ih =>
    rw [chunks_cons positive some, flatten_cons, ih, take_append_drop]

theorem length_mem_chunks {size : Nat} (positive : 0 < size) :
    ∀ piece ∈ chunks size items, piece ≠ [] ∧ piece.length ≤ size := by
  induction items using chunks_induction size positive with
  | nil =>
    intro piece member
    cases member
  | cut items some ih =>
    intro piece member
    rw [chunks_cons positive some] at member
    rcases mem_cons.mp member with rfl | later
    · have count := length_pos_iff.mpr some
      refine ⟨length_pos_iff.mp ?_, ?_⟩
      · rw [length_take]
        omega
      · rw [length_take]
        omega
    · exact ih piece later

end GoBinary
