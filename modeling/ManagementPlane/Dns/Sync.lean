import ManagementPlane.Dns.Policies

/-!
# The DNS policies that gateways receive

`internal/grpc/dnssec/server.go` over `ListAll` of `internal/db/client_config_store.go`:
the configurations of all organizations become one list of policies, keyed by group id
and by group name.

The revision is a digest of the feed's revision and of the policies, a parameter here.
-/

namespace ManagementPlane.Dns

open GoJson

/-- `ORDER BY org_id, group_id` -/
def ClientConfigRecord.listedBefore (first second : ClientConfigRecord) : Prop :=
  first.orgID < second.orgID ∨ (first.orgID = second.orgID ∧ first.groupID ≤ second.groupID)

instance : DecidableRel ClientConfigRecord.listedBefore := fun _ _ =>
  inferInstanceAs (Decidable (_ ∨ _))

/-- `failure` is the error of the query, if any. -/
def listAll (table : ConfigTable) (failure : Option String) :
    Except String (List ClientConfigRecord) :=
  match failure with
  | some err => .error err
  | none => .ok (table.rows.insertionSort ClientConfigRecord.listedBefore)

theorem mem_listAll {table : ConfigTable} {records : List ClientConfigRecord}
    (listed : listAll table none = .ok records) (record : ClientConfigRecord) :
    record ∈ records ↔ record ∈ table.rows := by
  cases listed
  exact List.mem_insertionSort _

structure DNSSecurityPolicy where
  groupID : String
  enabled : Bool
  categories : List (Category × Action)

structure ThreatDomain where
  domain : String
  categories : List String

structure DNSSecuritySync where
  revision : String
  policies : List DNSSecurityPolicy := []
  domains : List ThreatDomain := []

def sentPolicy (entry : GroupPolicy) : DNSSecurityPolicy :=
  ⟨entry.groupID, entry.policy.enabled, entry.policy.categories⟩

def buildSync (entries : List GroupPolicy) (domains : List (String × List String))
    (revision : String) : DNSSecuritySync where
  revision := revision
  policies := entries.map sentPolicy
  domains := (domains.insertionSort fun first second => first.1 ≤ second.1).map fun entry =>
    ⟨entry.1, entry.2⟩

/-- The feed gives the domains with their categories and a revision. -/
abbrev Feed := Except String (List (String × List String) × String)

def getDNSSecurity (combinedRevision : String → List GroupPolicy → String) (feed : Feed)
    (listed : Except String (List ClientConfigRecord)) (sinceRevision : String) :
    Except String DNSSecuritySync :=
  match feed, listed with
  | .error err, _ => .error err
  | .ok _, .error err => .error err
  | .ok (domains, feedRevision), .ok records =>
    let revision := combinedRevision feedRevision (policies records)
    if sinceRevision ≠ "" ∧ sinceRevision = revision then .ok { revision := revision }
    else .ok (buildSync (policies records) domains revision)

theorem sentPolicy_inj {first second : GroupPolicy} (same : sentPolicy first = sentPolicy second) :
    first = second := by
  obtain ⟨firstID, firstEnabled, firstCategories⟩ := first
  obtain ⟨secondID, secondEnabled, secondCategories⟩ := second
  simp [sentPolicy, DNSSecurityPolicy.mk.injEq] at same
  obtain ⟨rfl, rfl, rfl⟩ := same
  rfl

/-- No two entries give one key different policies, and every entry under a key of a
group gives it the policy of its own configuration. -/
structure OnePolicyPerGroup (table : ConfigTable) (sent : List DNSSecurityPolicy) : Prop where
  same : ∀ first ∈ sent, ∀ second ∈ sent, first.groupID = second.groupID → first = second
  own : ∀ record ∈ table.rows, ∀ entry ∈ sent, entry.groupID ∈ recordKeys record →
    entry = sentPolicy ⟨entry.groupID, recordPolicy record⟩

/-- The flag is the same, and where it is on the same categories are allowed. -/
def SameSettings (first second : Option Json) : Prop :=
  (gatewayFeatures first).dnsSecurity = (gatewayFeatures second).dnsSecurity ∧
    ((gatewayFeatures first).dnsSecurity = true → ∀ category : Category,
      ((gatewayFeatures first).dnsSecurityCategories category.text = some "allow" ↔
        (gatewayFeatures second).dnsSecurityCategories category.text = some "allow"))

theorem fromFlags_enabled (flagEnabled : Bool) (configured : GoMap String) :
    (fromFlags flagEnabled configured).enabled = flagEnabled := by
  cases flagEnabled <;> rfl

theorem recordPolicy_eq_iff (first second : ClientConfigRecord) :
    recordPolicy first = recordPolicy second ↔
      SameSettings first.featuresSettings second.featuresSettings := by
  rw [recordPolicy, recordPolicy, SameSettings]
  constructor
  · grind [fromFlags_enabled, fromFlags_eq_iff]
  · grind [fromFlags_eq_iff]

theorem mem_sent_iff (records : List ClientConfigRecord) (sent : DNSSecurityPolicy) :
    sent ∈ (policies records).map sentPolicy ↔
      ∃ record ∈ records, sent.groupID ∈ recordKeys record ∧
        sent = sentPolicy ⟨sent.groupID, recordPolicy record⟩ := by
  simp only [policies, groupPolicies, List.mem_map, List.mem_flatMap]
  constructor
  · rintro ⟨entry, ⟨record, member, key, named, rfl⟩, rfl⟩
    exact ⟨record, member, named, rfl⟩
  · grind

theorem onePolicyPerGroup_iff {table : ConfigTable} {records : List ClientConfigRecord}
    (listed : ∀ record, record ∈ records ↔ record ∈ table.rows) :
    OnePolicyPerGroup table ((policies records).map sentPolicy) ↔
      ∀ first ∈ table.rows, ∀ second ∈ table.rows, ∀ key ∈ recordKeys first,
        key ∈ recordKeys second → SameSettings first.featuresSettings second.featuresSettings := by
  constructor
  · intro one first firstMember second secondMember key firstNamed secondNamed
    have sent := (mem_sent_iff records (sentPolicy ⟨key, recordPolicy second⟩)).mpr
      ⟨second, (listed second).mpr secondMember, secondNamed, rfl⟩
    have own := one.own first firstMember _ sent firstNamed
    have policies := congrArg GroupPolicy.policy (sentPolicy_inj own)
    exact (recordPolicy_eq_iff first second).mp policies.symm
  · intro settings
    have own : ∀ record ∈ table.rows, ∀ entry ∈ (policies records).map sentPolicy,
        entry.groupID ∈ recordKeys record →
          entry = sentPolicy ⟨entry.groupID, recordPolicy record⟩ := by
      grind [mem_sent_iff, recordPolicy_eq_iff]
    refine ⟨?_, own⟩
    grind [mem_sent_iff]

theorem one_policy_per_group_iff (table : ConfigTable)
    (combinedRevision : String → List GroupPolicy → String) :
    (∀ (feed : Feed) (sinceRevision : String) (sync : DNSSecuritySync),
      getDNSSecurity combinedRevision feed (listAll table none) sinceRevision = .ok sync →
        OnePolicyPerGroup table sync.policies) ↔
      ∀ first ∈ table.rows, ∀ second ∈ table.rows, ∀ key ∈ recordKeys first,
        key ∈ recordKeys second → SameSettings first.featuresSettings second.featuresSettings := by
  obtain ⟨records, listed⟩ : ∃ records, listAll table none = .ok records := ⟨_, rfl⟩
  have condition := onePolicyPerGroup_iff (mem_listAll listed)
  rw [listed, ← condition]
  constructor
  · intro always
    exact always (.ok ([], "")) "" _ rfl
  · intro one feed sinceRevision sync sent
    cases feed with
    | error err => cases sent
    | ok snapshot =>
      simp [getDNSSecurity] at sent
      split at sent
      · cases sent
        exact ⟨nofun, fun _ _ => nofun⟩
      · cases sent
        exact one

/-! Two tenants with their default groups, of which only the first blocks. -/

def acmeDefault : ClientConfigRecord where
  orgID := "acme"
  groupID := "default"
  groupName := "Default"
  featuresSettings := some (.obj [("dns_security", .bool true)])

def globexDefault : ClientConfigRecord where
  orgID := "globex"
  groupID := "default"
  groupName := "Default"
  featuresSettings := some (.obj [("dns_security", .bool false)])

def twoDefaults : ConfigTable := ⟨[acmeDefault, globexDefault], by decide⟩

theorem default_groups_collide :
    ∃ sync, getDNSSecurity (fun _ _ => "r1") (.ok ([], "")) (listAll twoDefaults none) "" =
        .ok sync ∧
      sync.policies.map (fun entry => (entry.groupID, entry.enabled)) =
        [("default", true), ("Default", true), ("default", false), ("Default", false)] ∧
      ¬ OnePolicyPerGroup twoDefaults sync.policies := by
  refine ⟨_, rfl, by decide +kernel, ?_⟩
  intro one
  have settings := (onePolicyPerGroup_iff (mem_listAll rfl)).mp one
    acmeDefault (by simp [twoDefaults]) globexDefault (by simp [twoDefaults]) "default"
    (by decide) (by decide)
  exact absurd settings.1 (by decide +kernel)

end ManagementPlane.Dns
