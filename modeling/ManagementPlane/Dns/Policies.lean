import ManagementPlane.Lib.Unmarshal
import ManagementPlane.Lib.Tables

/-!
# DNS security policies

`internal/dnssecurity/policy.go` and its two readers of the client configurations: the
resolver behind the Coach page (`internal/dnsrisk/policy_resolver.go`) and the source of
the gateway sync (`internal/grpc/dnssec/policy_source.go`). Both decode the column
`features_settings` of `system_mgmt.client_configurations`; they look for the categories
in different places, and only one of them minds an error.

Of a configuration record only the fields that are read here are kept. `none` is a text
that is empty or no JSON.
-/

namespace ManagementPlane.Dns

open GoJson List

inductive Category where
  | nrd
  | nod
  | dga
  | malicious
  | spyware
  deriving DecidableEq

def Category.text : Category → String
  | .nrd => "nrd"
  | .nod => "nod"
  | .dga => "dga"
  | .malicious => "malicious"
  | .spyware => "spyware"

def categories : List Category := [.nrd, .nod, .dga, .malicious, .spyware]

inductive Action where
  | allow
  | deny
  deriving DecidableEq

def Action.ofText (text : String) : Option Action :=
  if text = "allow" then some .allow else if text = "deny" then some .deny else none

structure Policy where
  enabled : Bool
  categories : List (Category × Action) := []
  deriving DecidableEq

/-- A category that is not configured, or not to one of the two actions, is denied. -/
def action (configured : GoMap String) (category : Category) : Action :=
  ((configured category.text).bind Action.ofText).getD .deny

def fromFlags (flagEnabled : Bool) (configured : GoMap String) : Policy :=
  if flagEnabled = false then { enabled := false }
  else
    { enabled := true
      categories := categories.map fun category => (category, action configured category) }

/-- The entries of `settings["categories"]` that are texts. -/
def settingsCategories (settings : GoMap Json) : GoMap String := fun category =>
  ((settings "categories").bind (Json.field category)).bind Json.asString

def fromSettings (flagEnabled : Bool) (settings : GoMap Json) : Policy :=
  fromFlags flagEnabled (settingsCategories settings)

def Policy.denies (policy : Policy) (category : String) : Bool :=
  if policy.enabled = false ∨ category = "" then false
  else ((policy.categories.find? fun entry => entry.1.text = category).map Prod.snd) ≠ some .allow

structure ClientConfigRecord where
  orgID : String
  groupID : String
  groupName : String
  priority : Int := 0
  featuresSettings : Option Json

/-- The table, with `UNIQUE (org_id, group_id)`. -/
structure ConfigTable where
  rows : List ClientConfigRecord
  unique : (rows.map fun row => (row.orgID, row.groupID)).Nodup

/-- `ORDER BY CASE WHEN group_id = 'default' THEN 1 ELSE 0 END, priority, group_id` -/
def ClientConfigRecord.before (first second : ClientConfigRecord) : Prop :=
  if first.groupID = "default" then second.groupID = "default"
  else second.groupID = "default" ∨ first.priority < second.priority ∨
    (first.priority = second.priority ∧ first.groupID ≤ second.groupID)

instance : DecidableRel ClientConfigRecord.before := fun first second => by
  unfold ClientConfigRecord.before
  infer_instance

/-- `groupsOf` are the groups of the user linked to the device; `none` stands for no row
and for a failed query. -/
def getEffectiveForDevice (table : ConfigTable) (groupsOf : String → String → List String)
    (fails : Bool) (orgID deviceID : String) : Option ClientConfigRecord :=
  let eligible := table.rows.filter fun row =>
    row.orgID = orgID && (row.groupID = "default" || row.groupID ∈ groupsOf orgID deviceID)
  if fails then none else (eligible.insertionSort ClientConfigRecord.before).head?

structure CoachFeatures where
  dnsSecurity : Bool := false
  settings : GoMap Json := fun _ => none

def dnsSecurityName : String := "dns_security"

def coachFields : List (String × Slot CoachFeatures) :=
  [(dnsSecurityName, partSlot CoachFeatures.dnsSecurity
      (fun value features => { features with dnsSecurity := value }) boolSlot),
    ("settings", partSlot CoachFeatures.settings
      (fun value features => { features with settings := value })
      (structSlot [(dnsSecurityName, mapSlot .null anySlot)]))]

def coachDecode (document : Json) : CoachFeatures × Bool := structSlot coachFields document {}

def extractDNSSecuritySettings (raw : Option Json) : Bool × GoMap Json :=
  match raw with
  | none => (false, fun _ => none)
  | some document =>
    if (coachDecode document).2 then (false, fun _ => none)
    else ((coachDecode document).1.dnsSecurity, (coachDecode document).1.settings)

/-- `effective` answers `GetEffectiveForDevice`; there may be no store. -/
def resolvePolicy (effective : Option (String → String → Option ClientConfigRecord))
    (orgID deviceID : String) : Policy :=
  match effective with
  | none => { enabled := false }
  | some lookup =>
    if orgID = "" then { enabled := false }
    else
      match lookup orgID deviceID with
      | none => { enabled := false }
      | some config =>
        let extracted := extractDNSSecuritySettings config.featuresSettings
        fromSettings extracted.1 extracted.2

structure GatewayFeatures where
  dnsSecurity : Bool := false
  dnsSecurityCategories : GoMap String := fun _ => none

def categoriesName : String := "dns_security_categories"

def gatewayFields : List (String × Slot GatewayFeatures) :=
  [(dnsSecurityName, partSlot GatewayFeatures.dnsSecurity
      (fun value features => { features with dnsSecurity := value }) boolSlot),
    (categoriesName, partSlot GatewayFeatures.dnsSecurityCategories
      (fun value features => { features with dnsSecurityCategories := value })
      (mapSlot "" textSlot))]

def gatewayFeatures (raw : Option Json) : GatewayFeatures :=
  raw.elim {} fun document => (structSlot gatewayFields document {}).1

structure GroupPolicy where
  groupID : String
  policy : Policy
  deriving DecidableEq

def recordPolicy (record : ClientConfigRecord) : Policy :=
  fromFlags (gatewayFeatures record.featuresSettings).dnsSecurity
    (gatewayFeatures record.featuresSettings).dnsSecurityCategories

def recordKeys (record : ClientConfigRecord) : List String :=
  (record.groupID :: if record.groupName = record.groupID then [] else [record.groupName]).filter
    (· ≠ "")

variable (record : ClientConfigRecord)

theorem mem_recordKeys_iff (key : String) :
    key ∈ recordKeys record ↔ key ≠ "" ∧ (key = record.groupID ∨ key = record.groupName) := by
  rw [recordKeys, mem_filter, mem_cons, decide_eq_true_eq, and_comm]
  split_ifs with same
  · simp [same]
  · simp

def groupPolicies (record : ClientConfigRecord) : List GroupPolicy :=
  (recordKeys record).map fun key => ⟨key, recordPolicy record⟩

def policies (records : List ClientConfigRecord) : List GroupPolicy :=
  records.flatMap groupPolicies

def flag (document : Json) : Bool := (structSlot [(dnsSecurityName, boolSlot)] document false).1

theorem fieldSlot_two {σ : Type} (first second key : String) (firstSlot secondSlot : Slot σ) :
    fieldSlot [(first, firstSlot), (second, secondSlot)] key =
      if GoStrings.equalFold key first then firstSlot
      else if GoStrings.equalFold key second then secondSlot
      else fun _ current => (current, false) := by
  cases isFirst : GoStrings.equalFold key first with
  | true => simp [fieldSlot, isFirst]
  | false =>
    cases isSecond : GoStrings.equalFold key second with
    | true | false => simp [fieldSlot, isFirst, isSecond]

theorem fieldSlot_one {σ : Type} (name key : String) (slot : Slot σ) :
    fieldSlot [(name, slot)] key =
      if GoStrings.equalFold key name then slot else fun _ current => (current, false) := by
  cases named : GoStrings.equalFold key name with
  | true | false => simp [fieldSlot, named]

theorem coach_flag (document : Json) : (coachDecode document).1.dnsSecurity = flag document := by
  refine structSlot_part coachFields CoachFeatures.dnsSecurity dnsSecurityName boolSlot ?_
    document {}
  intro key value current
  rw [coachFields, fieldSlot_two, fieldSlot_one]
  split_ifs <;> rfl

theorem gateway_flag (document : Json) :
    (gatewayFeatures (some document)).dnsSecurity = flag document := by
  refine structSlot_part gatewayFields GatewayFeatures.dnsSecurity dnsSecurityName boolSlot ?_
    document {}
  intro key value current
  rw [gatewayFields, fieldSlot_two, fieldSlot_one]
  split_ifs <;> rfl

theorem action_eq_allow_iff (configured : GoMap String) (category : Category) :
    action configured category = .allow ↔ configured category.text = some "allow" := by
  rw [action]
  cases configured category.text with
  | none => simp
  | some text =>
    simp [Action.ofText]
    grind

theorem action_eq_iff (first second : GoMap String) (category : Category) :
    action first category = action second category ↔
      (first category.text = some "allow" ↔ second category.text = some "allow") := by
  rw [← action_eq_allow_iff, ← action_eq_allow_iff]
  cases action first category <;> cases action second category <;> simp

theorem mem_categories (category : Category) : category ∈ categories := by
  cases category <;> decide

theorem fromFlags_eq_iff (flagEnabled : Bool) (first second : GoMap String) :
    fromFlags flagEnabled first = fromFlags flagEnabled second ↔
      flagEnabled = false ∨ ∀ category : Category,
        (first category.text = some "allow" ↔ second category.text = some "allow") := by
  cases flagEnabled with
  | false => simp [fromFlags]
  | true =>
    simp [fromFlags, Policy.mk.injEq, ← action_eq_iff]
    grind [map_inj_left, mem_categories, Prod.mk.inj, map_congr_left]

theorem fromFlags_disabled_iff (flagEnabled : Bool) (configured : GoMap String) :
    { enabled := false } = fromFlags flagEnabled configured ↔ flagEnabled = false := by
  cases flagEnabled with
  | false | true => simp [fromFlags]

/-- `dns_security_categories` allows the category. -/
def gatewayAllows (document : Json) (category : Category) : Prop :=
  (gatewayFeatures (some document)).dnsSecurityCategories category.text = some "allow"

/-- `settings.dns_security.categories` allows the category. -/
def coachAllows (document : Json) (category : Category) : Prop :=
  settingsCategories (coachDecode document).1.settings category.text = some "allow"

instance (document : Json) (category : Category) : Decidable (gatewayAllows document category) :=
  inferInstanceAs (Decidable (_ = _))

instance (document : Json) (category : Category) : Decidable (coachAllows document category) :=
  inferInstanceAs (Decidable (_ = _))

/-- The flag is off; or what the Coach page decodes has the right types, and both places
allow the same categories. -/
def Agrees : Option Json → Prop
  | none => True
  | some document =>
    flag document = false ∨
      ((coachDecode document).2 = false ∧
        ∀ category, coachAllows document category ↔ gatewayAllows document category)

def coachPolicy (raw : Option Json) : Policy :=
  fromSettings (extractDNSSecuritySettings raw).1 (extractDNSSecuritySettings raw).2

theorem coachPolicy_eq_iff :
    coachPolicy record.featuresSettings = recordPolicy record ↔ Agrees record.featuresSettings := by
  rw [recordPolicy, coachPolicy]
  cases record.featuresSettings with
  | none => exact iff_of_true rfl trivial
  | some document =>
    rw [gateway_flag, Agrees, extractDNSSecuritySettings]
    cases failed : (coachDecode document).2 with
    | true =>
      simp
      exact fromFlags_disabled_iff (flag document) _
    | false =>
      simp
      rw [coach_flag]
      exact fromFlags_eq_iff (flag document) _ _

/-- The two policies are one, so they deny the same categories. -/
def SameVerdicts (coach gateway : Policy) : Prop :=
  coach = gateway ∧ ∀ category, coach.denies category = gateway.denies category

theorem sameVerdicts_iff (coach gateway : Policy) : SameVerdicts coach gateway ↔ coach = gateway := by
  constructor
  · exact And.left
  · rintro rfl
    exact ⟨rfl, fun _ => rfl⟩

theorem mem_groupPolicies_iff (entry : GroupPolicy) :
    entry ∈ groupPolicies record ↔
      entry.groupID ≠ "" ∧ (entry.groupID = record.groupID ∨ entry.groupID = record.groupName) ∧
        entry.policy = recordPolicy record := by
  obtain ⟨key, policy⟩ := entry
  simp only [groupPolicies, mem_map, mem_recordKeys_iff, GroupPolicy.mk.injEq]
  constructor
  · grind
  · rintro ⟨nonempty, named, rfl⟩
    exact ⟨key, ⟨nonempty, named⟩, rfl, rfl⟩

theorem coach_agrees_with_gateway_iff (table : ConfigTable)
    (groupsOf : String → String → List String) (orgID deviceID : String)
    (record : ClientConfigRecord) (tenant : orgID ≠ "")
    (effective : getEffectiveForDevice table groupsOf false orgID deviceID = some record) :
    (∀ entry ∈ groupPolicies record, entry.groupID = record.groupID →
      SameVerdicts (resolvePolicy (some (getEffectiveForDevice table groupsOf false)) orgID deviceID)
        entry.policy) ↔
      record.groupID = "" ∨ Agrees record.featuresSettings := by
  have resolved : resolvePolicy (some (getEffectiveForDevice table groupsOf false)) orgID deviceID =
      coachPolicy record.featuresSettings := by
    simp [resolvePolicy, if_neg tenant, effective, coachPolicy]
  rw [resolved]
  constructor
  · intro same
    by_cases unnamed : record.groupID = ""
    · exact .inl unnamed
    · have emitted : (⟨record.groupID, recordPolicy record⟩ : GroupPolicy) ∈ groupPolicies record :=
        (mem_groupPolicies_iff record _).mpr ⟨unnamed, .inl rfl, rfl⟩
      exact .inr ((coachPolicy_eq_iff record).mp (same _ emitted rfl).1)
  · grind [mem_groupPolicies_iff, sameVerdicts_iff, coachPolicy_eq_iff]

def relaxedStaff : ClientConfigRecord where
  orgID := "acme"
  groupID := "staff"
  groupName := "Staff"
  featuresSettings := some (.obj
    [("dns_security", .bool true),
      ("dns_security_categories", .obj [("nrd", .str "allow")])])

def strictStaff : ClientConfigRecord :=
  { relaxedStaff with featuresSettings := some (.obj [("dns_security", .bool true)]) }

def staffTable (record : ClientConfigRecord) : ConfigTable := ⟨[record], by simp⟩

def staffGroups : String → String → List String := fun _ _ => ["staff"]

theorem strict_staff_agrees :
    ∃ entry ∈ groupPolicies strictStaff, entry.groupID = "staff" ∧
      SameVerdicts
        (resolvePolicy (some (getEffectiveForDevice (staffTable strictStaff) staffGroups false))
          "acme" "laptop-7") entry.policy := by
  have agrees : Agrees strictStaff.featuresSettings := by
    refine .inr ⟨by decide +kernel, ?_⟩
    intro category
    cases category <;> decide +kernel
  have emitted : (⟨"staff", recordPolicy strictStaff⟩ : GroupPolicy) ∈ groupPolicies strictStaff :=
    (mem_groupPolicies_iff strictStaff _).mpr ⟨by decide, .inl rfl, rfl⟩
  exact ⟨_, emitted, rfl, (coach_agrees_with_gateway_iff (staffTable strictStaff) staffGroups "acme"
    "laptop-7" strictStaff (by decide) rfl).mpr (.inr agrees) _ emitted rfl⟩

/-- The gateway lets a newly registered domain pass, and the Coach page says that it is
blocked. -/
theorem relaxed_staff_told_otherwise :
    ∃ entry ∈ groupPolicies relaxedStaff, entry.groupID = "staff" ∧
      getEffectiveForDevice (staffTable relaxedStaff) staffGroups false "acme" "laptop-7" =
        some relaxedStaff ∧
      entry.policy.denies "nrd" = false ∧
      (resolvePolicy (some (getEffectiveForDevice (staffTable relaxedStaff) staffGroups false))
        "acme" "laptop-7").denies "nrd" = true := by
  have emitted : (⟨"staff", recordPolicy relaxedStaff⟩ : GroupPolicy) ∈
      groupPolicies relaxedStaff :=
    (mem_groupPolicies_iff relaxedStaff _).mpr ⟨by decide, .inl rfl, rfl⟩
  exact ⟨_, emitted, rfl, rfl, by decide +kernel, by decide +kernel⟩

end ManagementPlane.Dns
