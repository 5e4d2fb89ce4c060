import Mathlib.Algebra.Group.Int.Defs
import Mathlib.Algebra.Group.Nat.Defs
import Mathlib.Data.List.DropRight
import Mathlib.Data.List.Infix
import Mathlib.Data.List.TakeWhile

/-!
# Go's strings package

The functions of `strings` that handlers use, on the characters of a string.
-/

namespace GoStrings

open List

/-- The white space of `unicode.IsSpace`. -/
def isSpace (c : Char) : Bool :=
  let code := c.toNat
  (9 ≤ code && code ≤ 13) || code = 0x20 || code = 0x85 || code = 0xA0 || code = 0x1680 ||
    (0x2000 ≤ code && code ≤ 0x200A) || code = 0x2028 || code = 0x2029 || code = 0x202F ||
    code = 0x205F || code = 0x3000

def trimSpace (s : String) : String :=
  String.ofList (((s.toList.dropWhile isSpace).reverse.dropWhile isSpace).reverse)

def hasPrefix (s start : String) : Bool := start.toList.isPrefixOf s.toList

def trimPrefix (s start : String) : String :=
  if hasPrefix s start then String.ofList (s.toList.drop start.toList.length) else s

def hasSuffix (s ending : String) : Bool := ending.toList.isSuffixOf s.toList

def trimSuffix (s ending : String) : String :=
  if hasSuffix s ending then
    String.ofList (s.toList.take (s.toList.length - ending.toList.length))
  else s

/-- What stands before the first of some characters, `s[:strings.IndexAny(s, …)]`. -/
def beforeAny (s : String) (chars : List Char) : String :=
  String.ofList (s.toList.takeWhile (· ∉ chars))

/-- What stands before the last occurrence of a character, `s[:strings.LastIndex(s, …)]`. -/
def beforeLast (s : String) (c : Char) : String :=
  if c ∈ s.toList then String.ofList (s.toList.reverse.dropWhile (· ≠ c)).tail.reverse else s

/-- `strings.TrimRight` with a cutset of one character. -/
def trimRight (s : String) (c : Char) : String :=
  String.ofList ((s.toList.reverse.dropWhile (· = c)).reverse)

/-- What follows the first occurrence, the second part of `strings.SplitN(s, part, 2)`. -/
def afterFirst (part : List Char) : List Char → Option (List Char)
  | [] => if part = [] then some [] else none
  | c :: rest =>
    if part.isPrefixOf (c :: rest) then some ((c :: rest).drop part.length)
    else afterFirst part rest

/-- `strings.Trim` with a cutset. -/
def trim (s : String) (cutset : List Char) : String :=
  String.ofList (((s.toList.dropWhile (· ∈ cutset)).reverse.dropWhile (· ∈ cutset)).reverse)

/-- `strings.Replace` of the first occurrence only. -/
def replaceFirst (part replacement : List Char) : List Char → List Char
  | [] => if part = [] then replacement else []
  | c :: rest =>
    if part.isPrefixOf (c :: rest) then replacement ++ (c :: rest).drop part.length
    else c :: replaceFirst part replacement rest

def split (s : String) (separator : Char) : List String :=
  (s.toList.splitOn separator).map String.ofList

/-- Lower case as far as ASCII text can tell: besides the ASCII capitals only the
dotted capital I and the Kelvin sign have an ASCII letter as their lower case. -/
def lowerChar (c : Char) : Char :=
  if c.toNat = 0x130 then 'i' else if c.toNat = 0x212A then 'k' else c.toLower

def toLower (s : String) : String := String.ofList (s.toList.map lowerChar)

/-- Upper case in the same sense: the dotless i and the long s. -/
def upperChar (c : Char) : Char :=
  if c.toNat = 0x131 then 'I' else if c.toNat = 0x17F then 'S' else c.toUpper

def toUpper (s : String) : String := String.ofList (s.toList.map upperChar)

/-- The two parts of `strings.SplitN(s, separator, 2)`, when there are two. -/
def cut (s : String) (separator : Char) : Option (String × String) :=
  if separator ∈ s.toList then
    some (String.ofList (s.toList.takeWhile (· ≠ separator)),
      String.ofList ((s.toList.dropWhile (· ≠ separator)).drop 1))
  else none

/-- The case folding of ASCII letters, with the two other characters that fold to one. -/
def foldChar (c : Char) : Char :=
  if c.toNat = 0x17F then 's' else if c.toNat = 0x212A then 'k' else c.toLower

/-- `strings.EqualFold` with an ASCII text. -/
def equalFold (s ascii : String) : Bool := s.toList.map foldChar = ascii.toList.map foldChar

def contains (s part : String) : Bool := decide (part.toList <:+: s.toList)

theorem hasPrefix_append (start rest : String) : hasPrefix (start ++ rest) start = true := by
  simp [hasPrefix]

theorem trimPrefix_append (start rest : String) : trimPrefix (start ++ rest) start = rest := by
  simp [trimPrefix, hasPrefix_append]

theorem hasPrefix_eq_false (s start : String) (c : Char) (inStart : c ∈ start.toList)
    (missing : c ∉ s.toList) : hasPrefix s start = false := by
  rw [hasPrefix, Bool.eq_false_iff]
  grind

variable (s : String)

theorem toList_trimSpace :
    (trimSpace s).toList = (s.toList.dropWhile isSpace).rdropWhile isSpace := by
  simp [trimSpace, List.rdropWhile]

theorem rdropWhile_eq_self_iff_getLast? (cs : List Char) :
    cs.rdropWhile isSpace = cs ↔ ∀ c, cs.getLast? = some c → isSpace c = false := by
  rw [rdropWhile_eq_self_iff]
  constructor
  · intro ends c last
    have nonempty : cs ≠ [] := by
      rintro rfl
      cases last
    grind
  · grind

theorem dropWhile_eq_self_iff_head? (cs : List Char) :
    cs.dropWhile isSpace = cs ↔ ∀ c, cs.head? = some c → isSpace c = false := by
  cases cs with
  | nil => simp
  | cons c rest =>
    rw [dropWhile_eq_self_iff]
    simp

theorem head?_dropWhile_isSpace {cs : List Char} {c : Char}
    (first : (cs.dropWhile isSpace).head? = some c) : isSpace c = false := by
  have found := head?_dropWhile_not isSpace cs
  rw [first] at found
  simpa using found

theorem trimSpace_eq_self_iff :
    trimSpace s = s ↔ (∀ c, s.toList.head? = some c → isSpace c = false) ∧
      ∀ c, s.toList.getLast? = some c → isSpace c = false := by
  rw [← String.toList_inj, toList_trimSpace, ← rdropWhile_eq_self_iff_getLast?,
    ← dropWhile_eq_self_iff_head?]
  constructor
  · intro trimmed
    have noneInFront : s.toList.dropWhile isSpace = s.toList := by
      -- the text is no longer than what is left of it
      refine (dropWhile_suffix isSpace).eq_of_length_le ?_
      grind [ rdropWhile_prefix]
    rw [noneInFront] at trimmed
    exact ⟨noneInFront, trimmed⟩
  · intro ends
    rw [ends.1, ends.2]

theorem trimSpace_trimSpace : trimSpace (trimSpace s) = trimSpace s := by
  rw [trimSpace_eq_self_iff, toList_trimSpace]
  constructor
  · intro c first
    obtain ⟨rest, whole⟩ := rdropWhile_prefix isSpace (s.toList.dropWhile isSpace)
    apply head?_dropWhile_isSpace
    rw [← whole, head?_append, first]
    rfl
  · rw [← rdropWhile_eq_self_iff_getLast?]
    exact rdropWhile_idempotent isSpace _

/-- Joining undoes splitting. -/
theorem intercalate_split : " ".intercalate (split s ' ') = s := by
  apply String.toList_injective
  simp [split]

end GoStrings
