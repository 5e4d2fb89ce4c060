import Mathlib.Data.List.DropRight
import Mathlib.Data.List.TakeWhile
import ManagementPlane.Lib.Binary

/-!
# Subjects of certificates as text

`Name.String` of Go's `crypto/x509/pkix` for the name of a parsed certificate, which has
no extra names. A relative distinguished name with several values joins them with a plus
sign; attributes without a short name are written as the bytes of their encoding, or as
escaped text when they have none.

A reader that cuts the text at every comma does not see the escapes. It gets, for each
relative distinguished name, one component that starts with the attribute's name and
further ones that were cut off inside a value.
-/

namespace Pkix

open List

def specials : List Char := [',', '+', '"', '\\', '<', '>', ';']

def Escaped (first last : Bool) (c : Char) : Prop :=
  c ∈ specials ∨ (c = ' ' ∧ (first = true ∨ last = true)) ∨ (c = '#' ∧ first = true)

instance (first last : Bool) (c : Char) : Decidable (Escaped first last c) :=
  inferInstanceAs (Decidable (_ ∨ _))

def escapeFrom (first : Bool) : List Char → List Char
  | [] => []
  | c :: rest =>
    (if Escaped first rest.isEmpty c then ['\\', c] else [c]) ++ escapeFrom false rest

def escapeValue (value : List Char) : List Char := escapeFrom true value

theorem mem_of_mem_escapeFrom (c : Char) (plain : c ≠ '\\') (first : Bool) (value : List Char)
    (inside : c ∈ escapeFrom first value) : c ∈ value := by
  induction value generalizing first with
  | nil => cases inside
  | cons head rest ih =>
    rw [escapeFrom, List.mem_append] at inside
    grind

theorem getLast?_escapeFrom (first : Bool) (value : List Char) :
    (escapeFrom first value).getLast? = value.getLast? := by
  induction value generalizing first with
  | nil => rfl
  | cons c rest ih =>
    rw [escapeFrom, List.getLast?_append, ih]
    grind

theorem head?_escapeFrom (first : Bool) (value : List Char) :
    (escapeFrom first value).head? = value.head? ∨ (escapeFrom first value).head? = some '\\' := by
  cases value with
  | nil => exact .inl rfl
  | cons c rest =>
    rw [escapeFrom]
    split_ifs
    · exact .inr rfl
    · exact .inl rfl

theorem length_le_escapeFrom (first : Bool) (value : List Char) :
    value.length ≤ (escapeFrom first value).length := by
  induction value generalizing first with
  | nil => exact Nat.le_refl 0
  | cons c rest ih =>
    have longer := ih false
    rw [escapeFrom, List.length_append, List.length_cons]
    split_ifs <;> simp <;> omega

/-- Text that is written as it stands has none of the characters that are always escaped. -/
theorem not_mem_of_escapeFrom_eq (c : Char) (special : c ∈ specials) (first : Bool)
    (value : List Char) (verbatim : escapeFrom first value = value) : c ∉ value := by
  induction value generalizing first with
  | nil => exact List.not_mem_nil
  | cons head rest ih =>
    rw [escapeFrom] at verbatim
    split_ifs at verbatim with escaped
    · -- the escape makes the text longer
      grind [length_le_escapeFrom, List.length, List.length_append, List.length_cons,
        List.length_nil]
    · have restVerbatim := List.cons_injective verbatim
      intro inside
      cases List.mem_cons.mp inside with
      | inl same =>
        subst same
        exact escaped (.inl special)
      | inr later => exact ih false restVerbatim later

inductive AttributeType where
  | country
  | organization
  | organizationalUnit
  | commonName
  | serialNumber
  | locality
  | province
  | streetAddress
  | postalCode
  | other (oid : List Nat)
  deriving DecidableEq

/-- `attributeTypeNames`, or the dotted numbers. -/
def AttributeType.text : AttributeType → List Char
  | .country => ['C']
  | .organization => ['O']
  | .organizationalUnit => ['O', 'U']
  | .commonName => ['C', 'N']
  | .serialNumber => "SERIALNUMBER".toList
  | .locality => ['L']
  | .province => ['S', 'T']
  | .streetAddress => "STREET".toList
  | .postalCode => "POSTALCODE".toList
  | .other oid => ['.'].intercalate (oid.map (Nat.toDigits 10))

/-- `der` is the encoding that stands for a value without a short attribute name. -/
structure AttributeTypeAndValue where
  type : AttributeType
  value : String
  der : Option (List UInt8) := none

def hexText (der : List UInt8) : List Char :=
  (GoBinary.hexEncode der).map fun byte => Char.ofNat byte.toNat

def AttributeTypeAndValue.valueText (pair : AttributeTypeAndValue) : List Char :=
  match pair.type, pair.der with
  | .other _, some der => '#' :: hexText der
  | _, _ => escapeValue pair.value.toList

def AttributeTypeAndValue.text (pair : AttributeTypeAndValue) : List Char :=
  pair.type.text ++ '=' :: pair.valueText

structure RDN where
  first : AttributeTypeAndValue
  further : List AttributeTypeAndValue := []

/-- What follows the name of the first attribute and its equals sign. -/
def RDN.valueText (rdn : RDN) : List Char :=
  rdn.first.valueText ++ rdn.further.flatMap fun pair => '+' :: pair.text

def RDN.text (rdn : RDN) : List Char := rdn.first.type.text ++ '=' :: rdn.valueText

/-- A sequence is written from its end. -/
def sequenceText (rdns : List RDN) : List Char := [','].intercalate (rdns.reverse.map RDN.text)

/-- The name of a parsed certificate: `others` are the attributes that have no field. -/
structure Name where
  country : List String := []
  organization : List String := []
  organizationalUnit : List String := []
  locality : List String := []
  province : List String := []
  streetAddress : List String := []
  postalCode : List String := []
  serialNumber : String := ""
  commonName : String := ""
  others : List (List Nat × String × Option (List UInt8)) := []

def appendRDNs (rdns : List RDN) (values : List String) (type : AttributeType) : List RDN :=
  match values with
  | [] => rdns
  | value :: more => rdns ++ [⟨⟨type, value, none⟩, more.map fun value => ⟨type, value, none⟩⟩]

def single (value : String) : List String := if value = "" then [] else [value]

def Name.otherRDNs (name : Name) : List RDN :=
  name.others.map fun other => ⟨⟨.other other.1, other.2.1, other.2.2⟩, []⟩

/-- The sequence that is written: the attributes without a field stand in front. -/
def Name.rdnSequence (name : Name) : List RDN :=
  let rdns := name.otherRDNs
  let rdns := appendRDNs rdns name.country .country
  let rdns := appendRDNs rdns name.organization .organization
  let rdns := appendRDNs rdns name.organizationalUnit .organizationalUnit
  let rdns := appendRDNs rdns name.locality .locality
  let rdns := appendRDNs rdns name.province .province
  let rdns := appendRDNs rdns name.streetAddress .streetAddress
  let rdns := appendRDNs rdns name.postalCode .postalCode
  let rdns := appendRDNs rdns (single name.commonName) .commonName
  appendRDNs rdns (single name.serialNumber) .serialNumber

def Name.string (name : Name) : String := String.ofList (sequenceText name.rdnSequence)

/-- The components that a comma inside a value cuts off. -/
def RDN.cutOff (rdn : RDN) : List (List Char) := (rdn.valueText.splitOn ',').tail

/-- What is left of the value in front of its first comma. -/
def RDN.shown (rdn : RDN) : List Char := rdn.valueText.takeWhile (· ≠ ',')

theorem splitOn_eq_takeWhile_cons (cs : List Char) :
    cs.splitOn ',' = cs.takeWhile (· ≠ ',') :: (cs.splitOn ',').tail := by
  induction cs with
  | nil => rfl
  | cons c rest ih =>
    rw [splitOn_cons_eq_if_modifyHead]
    by_cases comma : c = ','
    · subst comma
      rfl
    · rw [if_neg (by simpa using comma), takeWhile_cons_of_pos (by simpa using comma), ih]
      rfl

/-- Text without a comma stays in front of the first component. -/
theorem splitOn_append_of_not_mem (front cs : List Char) (clear : ',' ∉ front) :
    (front ++ cs).splitOn ',' = (front ++ cs.takeWhile (· ≠ ',')) :: (cs.splitOn ',').tail := by
  induction front with
  | nil => exact splitOn_eq_takeWhile_cons cs
  | cons c rest ih =>
    have other : c ≠ ',' := fun comma => clear (by simp [comma])
    rw [cons_append, splitOn_cons_eq_if_modifyHead, if_neg (by simpa using other),
      ih fun inside => clear (mem_cons_of_mem _ inside)]
    rfl

theorem splitOn_intercalate_comma (texts : List (List Char)) (some : texts ≠ []) :
    ([','].intercalate texts).splitOn ',' = texts.flatMap (List.splitOn ',') := by
  induction texts with
  | nil => exact absurd rfl some
  | cons text rest ih =>
    cases rest with
    | nil => simp
    | cons next more =>
      rw [intercalate_cons_cons, append_assoc, singleton_append,
        splitOn_append_cons_self, ih (by simp)]
      rfl

theorem mem_intercalate_dot {texts : List (List Char)} {c : Char}
    (inside : c ∈ ['.'].intercalate texts) : c = '.' ∨ ∃ text ∈ texts, c ∈ text := by
  induction texts with
  | nil => simp at inside
  | cons text rest ih =>
    cases rest with
    | nil => exact .inr ⟨text, by simp, by simpa using inside⟩
    | cons next more =>
      rw [intercalate_cons_cons, mem_append, mem_append] at inside
      obtain (here | dot) | later := inside
      · exact .inr ⟨text, by simp, here⟩
      · exact .inl (mem_singleton.mp dot)
      · obtain dot | ⟨found, member, here⟩ := ih later
        · exact .inl dot
        · exact .inr ⟨found, mem_cons_of_mem _ member, here⟩

/-- The dotted numbers consist of digits and dots. -/
theorem mem_other_text (oid : List Nat) (c : Char) (inside : c ∈ (AttributeType.other oid).text) :
    c = '.' ∨ c.isDigit = true := by
  obtain dot | ⟨text, member, here⟩ := mem_intercalate_dot inside
  · exact .inl dot
  · obtain ⟨n, -, rfl⟩ := mem_map.mp member
    exact .inr (Nat.isDigit_of_mem_toDigits (by decide) (by decide) here)

theorem separators_not_mem_type (type : AttributeType) : ',' ∉ type.text ∧ '=' ∉ type.text := by
  cases type with
  | other oid =>
    refine ⟨fun inside => ?_, fun inside => ?_⟩
    all_goals
      have shape := mem_other_text oid _ inside
      revert shape
      decide
  | _ => decide

theorem RDN.splitOn_text (rdn : RDN) :
    rdn.text.splitOn ',' = (rdn.first.type.text ++ '=' :: rdn.shown) :: rdn.cutOff := by
  have clear : ',' ∉ rdn.first.type.text ++ ['='] := by
    simpa using (separators_not_mem_type rdn.first.type).1
  have text : rdn.text = (rdn.first.type.text ++ ['=']) ++ rdn.valueText := by
    simp [RDN.text]
  rw [text, splitOn_append_of_not_mem _ _ clear, append_assoc]
  rfl

end Pkix
