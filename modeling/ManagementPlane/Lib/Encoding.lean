import Mathlib.Data.List.Basic

/-!
# Text encodings of bytes

`base64.RawURLEncoding` and the `%X` format of a byte slice.
-/

namespace GoEncoding

open List

def alphabet : List Char :=
  "ABCDEFGHIJKLMNOPQRSTUVWXYZabcdefghijklmnopqrstuvwxyz0123456789-_".toList

def sextet (n : Nat) : Char := alphabet.getD n 'A'

def rawURLEncode : List UInt8 → List Char
  | [] => []
  | [a] => [sextet (a.toNat / 4), sextet (a.toNat % 4 * 16)]
  | [a, b] =>
    [sextet (a.toNat / 4), sextet (a.toNat % 4 * 16 + b.toNat / 16), sextet (b.toNat % 16 * 4)]
  | a :: b :: c :: rest =>
    [sextet (a.toNat / 4), sextet (a.toNat % 4 * 16 + b.toNat / 16),
      sextet (b.toNat % 16 * 4 + c.toNat / 64), sextet (c.toNat % 64)] ++ rawURLEncode rest

def encodeToString (bytes : List UInt8) : String := String.ofList (rawURLEncode bytes)

def upperHex (bytes : List UInt8) : List Char :=
  let digit := fun n : Nat => "0123456789ABCDEF".toList.getD n '0'
  bytes.flatMap fun byte => [digit (byte.toNat / 16), digit (byte.toNat % 16)]

theorem sextet_mem_alphabet (n : Nat) : sextet n ∈ alphabet := by
  rw [sextet, getD_eq_getElem?_getD]
  cases found : alphabet[n]? with
  | none => decide
  | some c => exact mem_of_getElem? found

theorem rawURLEncode_subset_alphabet {bytes : List UInt8} :
    ∀ c ∈ rawURLEncode bytes, c ∈ alphabet := by
  intro c member
  fun_induction rawURLEncode bytes with
  | case1 => cases member
  | case2 a =>
    simp at member
    rcases member with rfl | rfl <;> exact sextet_mem_alphabet _
  | case3 a b =>
    simp at member
    rcases member with rfl | rfl | rfl <;> exact sextet_mem_alphabet _
  | case4 a b d rest ih =>
    simp only [mem_append, mem_cons, not_mem_nil, or_false] at member
    rcases member with (rfl | rfl | rfl | rfl) | later
    · exact sextet_mem_alphabet _
    · exact sextet_mem_alphabet _
    · exact sextet_mem_alphabet _
    · exact sextet_mem_alphabet _
    · exact ih later

theorem not_mem_encodeToString (c : Char) (bytes : List UInt8) (foreign : c ∉ alphabet) :
    c ∉ (encodeToString bytes).toList := by
  intro member
  rw [encodeToString, String.toList_ofList] at member
  exact foreign (rawURLEncode_subset_alphabet c member)

theorem length_encodeToString (bytes : List UInt8) :
    (encodeToString bytes).length = (bytes.length * 4 + 2) / 3 := by
  have chars : (rawURLEncode bytes).length = (bytes.length * 4 + 2) / 3 := by
    fun_induction rawURLEncode bytes with
    | case1 => rfl
    | case2 a => simp
    | case3 a b => simp
    | case4 a b c rest ih =>
      simp [ih]
      omega
  rw [encodeToString, String.length_ofList, chars]

theorem length_upperHex (bytes : List UInt8) : (upperHex bytes).length = 2 * bytes.length := by
  induction bytes with
  | nil => rfl
  | cons byte rest ih =>
    rw [upperHex, flatMap_cons, length_append, ← upperHex, ih, length_cons]
    simp
    omega

end GoEncoding
