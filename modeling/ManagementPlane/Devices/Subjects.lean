import ManagementPlane.Gateway.Identity
import ManagementPlane.Lib.Pkix

/-!
# The common name in a written subject

Device grants, `GatewayAuth` and the gRPC server take the common name of a client
certificate from the text of its subject. `extractCN` and `certificateSubjectIdentity`
cut the text at every comma, also at an escaped one, and do not undo escapes; the first
takes the first component that starts with `CN=`, the second the last one whose key is
`CN` in any case.
-/

namespace ManagementPlane.Devices

open GoStrings Interleave Pkix List
open String (ofList toList_ofList)
open Gateway (Peer certGatewayID decodedSubject gatewayIDFromALBMTLSMetadata
  gatewayIDFromPeerCertificate subjectCN subjectKeys)

def exactName (component : List Char) : Option String :=
  let part := trimSpace (String.ofList component)
  if hasPrefix part "CN=" then some (trimPrefix part "CN=") else none

def looseName (component : List Char) : Option String :=
  match cut (trimSpace (String.ofList component)) '=' with
  | none => none
  | some (key, value) => if toUpper (trimSpace key) = "CN" then some (trimSpace value) else none

theorem extractCN_eq (subject : String) :
    extractCN subject = ((subject.toList.splitOn ',').filterMap exactName).head?.getD "" := by
  rw [extractCN, split, map_map]
  induction subject.toList.splitOn ',' with
  | nil => rfl
  | cons component rest ih =>
    rw [map_cons, find?_cons, filterMap_cons]
    cases starts : hasPrefix (trimSpace (ofList component)) "CN=" with
    | true => simp [exactName, starts]
    | false =>
      simp only [Function.comp_apply, starts, exactName, Bool.false_eq_true, if_false]
      exact ih

theorem subjectComponent_fst (identity : String × List String) (component : List Char) :
    (subjectComponent identity (ofList component)).1 = (looseName component).getD identity.1 := by
  rw [subjectComponent, looseName]
  grind

theorem certificateSubjectIdentity_eq (subject : String) :
    (certificateSubjectIdentity subject).1 =
      ((subject.toList.splitOn ',').filterMap looseName).getLast?.getD "" := by
  have fold : ∀ (components : List (List Char)) (identity : String × List String),
      ((components.map ofList).foldl subjectComponent identity).1 =
        (components.filterMap looseName).getLast?.getD identity.1 := by
    intro components
    induction components with
    | nil => exact fun _ => rfl
    | cons component rest ih =>
      intro identity
      rw [map_cons, foldl_cons, ih, subjectComponent_fst, filterMap_cons]
      cases looseName component with
      | none => rfl
      | some name => simp [getLast?_cons]
  exact fold _ ("", [])

theorem toNat_other_text {oid : List Nat} {c : Char} (inside : c ∈ (AttributeType.other oid).text) :
    45 < c.toNat ∧ c.toNat < 58 := by
  obtain rfl | digit := mem_other_text oid c inside
  · decide
  · simp [Char.isDigit] at digit
    have low : 48 ≤ c.toNat := digit.1
    have high : c.toNat ≤ 57 := digit.2
    omega

theorem upperChar_of_lt {c : Char} (small : c.toNat < 58) : upperChar c = c := by
  have notLower : ¬ (97 ≤ c.toNat) := by omega
  rw [upperChar, if_neg (by omega), if_neg (by omega)]
  exact dif_neg fun lower => notLower lower.1

theorem isSpace_type (type : AttributeType) (c : Char) (inside : c ∈ type.text) :
    isSpace c = false := by
  have visible : type.text.all (fun d => !isSpace d) = true := by
    cases type with
    | other oid =>
      rw [all_eq_true]
      intro d member
      have bounds := toNat_other_text member
      simp [isSpace]
      omega
    | _ => decide
  simpa using all_eq_true.mp visible c inside

theorem rdropWhile_append_cons (front back : List Char) (c : Char) (visible : isSpace c = false) :
    (front ++ c :: back).rdropWhile isSpace = front ++ c :: back.rdropWhile isSpace := by
  induction back using reverseRecOn with
  | nil => exact rdropWhile_concat_neg _ _ _ (by simpa using visible)
  | append_singleton back last ih =>
    rw [← cons_append, ← append_assoc, rdropWhile_concat, rdropWhile_concat, ih]
    split_ifs <;> simp

section
variable (type : AttributeType) (shown : List Char)

theorem trimSpace_component :
    (trimSpace (ofList (type.text ++ '=' :: shown))).toList =
      type.text ++ '=' :: shown.rdropWhile isSpace := by
  have first : (type.text ++ '=' :: shown).dropWhile isSpace = type.text ++ '=' :: shown := by
    rw [dropWhile_eq_self_iff_head?]
    intro c head
    cases text : type.text with
    | nil =>
      rw [text] at head
      cases head
      decide
    | cons start rest =>
      grind [isSpace_type]
  rw [toList_trimSpace, toList_ofList, first]
  exact rdropWhile_append_cons _ _ _ (by decide)

theorem takeWhile_key (rest : List Char) :
    (type.text ++ '=' :: rest).takeWhile (· ≠ '=') = type.text := by
  rw [takeWhile_append_of_pos]
  · simp
  · grind [separators_not_mem_type]

theorem commonName_of_hasPrefix
    (starts : hasPrefix (trimSpace (ofList (type.text ++ '=' :: shown))) "CN=" = true) :
    type.text = AttributeType.commonName.text := by
  rw [hasPrefix, isPrefixOf_iff_prefix, trimSpace_component] at starts
  obtain ⟨rest, whole⟩ := starts
  have keys := congrArg (List.takeWhile (· ≠ '=')) whole
  rw [takeWhile_key] at keys
  exact keys.symm.trans (takeWhile_key .commonName rest)

theorem exactName_other (other : type.text ≠ AttributeType.commonName.text) :
    exactName (type.text ++ '=' :: shown) = none := by
  rw [exactName]
  exact if_neg fun starts => other (commonName_of_hasPrefix type shown starts)

theorem exactName_own :
    exactName (AttributeType.commonName.text ++ '=' :: shown) =
      some (ofList (shown.rdropWhile isSpace)) := by
  have part : trimSpace (ofList (AttributeType.commonName.text ++ '=' :: shown)) =
      "CN=" ++ ofList (shown.rdropWhile isSpace) := by
    apply String.toList_injective
    simp only [trimSpace_component, String.toList_append, toList_ofList]
    rfl
  rw [exactName]
  grind [hasPrefix_append, trimPrefix_append]

theorem cut_component :
    cut (trimSpace (ofList (type.text ++ '=' :: shown))) '=' =
      some (ofList type.text, ofList (shown.rdropWhile isSpace)) := by
  have key := takeWhile_key type (shown.rdropWhile isSpace)
  have value : (type.text ++ '=' :: shown.rdropWhile isSpace).dropWhile (· ≠ '=') =
      '=' :: shown.rdropWhile isSpace := by
    grind [takeWhile_append_dropWhile, append_cancel_left]
  rw [cut, trimSpace_component, if_pos (by simp), key, value]
  rfl

theorem toUpper_type_eq_iff :
    toUpper (trimSpace (ofList type.text)) = "CN" ↔ type = .commonName := by
  have trimmed : trimSpace (ofList type.text) = ofList type.text := by
    rw [trimSpace_eq_self_iff, toList_ofList]
    exact ⟨fun c first => isSpace_type type c (mem_of_head? first),
      fun c last => isSpace_type type c (mem_of_getLast? last)⟩
  rw [trimmed]
  cases type with
  | other oid =>
    refine ⟨?_, fun same => nomatch same⟩
    intro upper
    -- an upper-case letter does not come from digits and dots
    have letters := congrArg String.toList upper
    rw [toUpper, toList_ofList, toList_ofList] at letters
    have capital : 'C' ∈ (AttributeType.other oid).text.map upperChar := by
      rw [letters]
      decide
    obtain ⟨c, inside, raised⟩ := mem_map.mp capital
    rw [upperChar_of_lt (toNat_other_text inside).2] at raised
    subst raised
    exact absurd (toNat_other_text inside) (by decide)
  | _ => decide

theorem looseName_other (other : type ≠ .commonName) :
    looseName (type.text ++ '=' :: shown) = none := by
  rw [looseName, cut_component]
  exact if_neg fun upper => other ((toUpper_type_eq_iff type).mp upper)

theorem looseName_own :
    looseName (AttributeType.commonName.text ++ '=' :: shown) =
      some (trimSpace (ofList (shown.rdropWhile isSpace))) := by
  rw [looseName, cut_component]
  exact if_pos ((toUpper_type_eq_iff .commonName).mpr rfl)

end

def serialNumberRDN (name : Name) : List RDN :=
  appendRDNs [] (single name.serialNumber) .serialNumber

def commonNameRDN (name : Name) : List RDN := appendRDNs [] (single name.commonName) .commonName

/-- What is written behind the common name, in the order of the sequence. -/
def furtherRDNs (name : Name) : List RDN :=
  name.otherRDNs ++ appendRDNs [] name.country .country ++
    appendRDNs [] name.organization .organization ++
    appendRDNs [] name.organizationalUnit .organizationalUnit ++
    appendRDNs [] name.locality .locality ++ appendRDNs [] name.province .province ++
    appendRDNs [] name.streetAddress .streetAddress ++
    appendRDNs [] name.postalCode .postalCode

theorem appendRDNs_eq (rdns : List RDN) (values : List String) (type : AttributeType) :
    appendRDNs rdns values type = rdns ++ appendRDNs [] values type := by
  cases values with
  | nil => exact (append_nil rdns).symm
  | cons value more => rfl

theorem reverse_appendRDNs (values : List String) (type : AttributeType) :
    (appendRDNs [] values type).reverse = appendRDNs [] values type := by
  cases values <;> rfl

theorem type_of_mem_appendRDNs (values : List String) (type : AttributeType) (rdn : RDN)
    (member : rdn ∈ appendRDNs [] values type) : rdn.first.type = type := by
  cases values with
  | nil => cases member
  | cons value more => rw [mem_singleton.mp member]

theorem reverse_rdnSequence (name : Name) :
    name.rdnSequence.reverse =
      serialNumberRDN name ++ commonNameRDN name ++ (furtherRDNs name).reverse := by
  have sequence : name.rdnSequence =
      furtherRDNs name ++ commonNameRDN name ++ serialNumberRDN name := by
    simp [Name.rdnSequence, furtherRDNs, commonNameRDN, serialNumberRDN]
    grind [appendRDNs_eq]
  rw [sequence, reverse_append, reverse_append, serialNumberRDN, commonNameRDN,
    reverse_appendRDNs, reverse_appendRDNs, append_assoc]

theorem type_of_mem_furtherRDNs (name : Name) (rdn : RDN) (member : rdn ∈ furtherRDNs name) :
    rdn.first.type ≠ .commonName := by
  have typed := fun values type => type_of_mem_appendRDNs values type rdn
  simp [furtherRDNs, Name.otherRDNs] at member
  grind

/-- The components that commas inside the serial number cut off stand in front of the
common name. -/
def ahead (name : Name) : List (List Char) := (serialNumberRDN name).flatMap RDN.cutOff

/-- Those of the common name itself and of every other attribute stand behind it. -/
def behind (name : Name) : List (List Char) :=
  (commonNameRDN name).flatMap RDN.cutOff ++ (furtherRDNs name).reverse.flatMap RDN.cutOff

/-- The common name in front of its first comma, with its escapes. -/
def shownName (name : Name) : List Char :=
  (escapeValue name.commonName.toList).takeWhile (· ≠ ',')

section
variable (read : List Char → Option String)

section
variable (skips : ∀ type shown, type ≠ AttributeType.commonName → read (type.text ++ '=' :: shown) = none)

include skips

theorem filterMap_rdns (rdns : List RDN) (others : ∀ rdn ∈ rdns, rdn.first.type ≠ .commonName) :
    (rdns.flatMap fun rdn => rdn.text.splitOn ',').filterMap read =
      (rdns.flatMap RDN.cutOff).filterMap read := by
  induction rdns with
  | nil => rfl
  | cons rdn rest ih =>
    have other := others rdn (mem_cons_self ..)
    rw [flatMap_cons, flatMap_cons, filterMap_append, filterMap_append,
      ih fun rdn member => others rdn (mem_cons_of_mem _ member), RDN.splitOn_text,
      filterMap_cons_none (skips _ _ other)]

/-- What a reader takes from a subject: from the components ahead, from the common name
and from the components behind. -/
theorem filterMap_string (blank : read [] = none) (name : Name) :
    (name.string.toList.splitOn ',').filterMap read =
      (ahead name).filterMap read ++
        (if name.commonName = "" then []
          else (read (AttributeType.commonName.text ++ '=' :: shownName name)).toList) ++
        (behind name).filterMap read := by
  have components : (name.string.toList.splitOn ',').filterMap read =
      (name.rdnSequence.reverse.flatMap fun rdn => rdn.text.splitOn ',').filterMap read := by
    rw [Name.string, toList_ofList, sequenceText]
    cases sequence : name.rdnSequence.reverse with
    | nil => simp [blank]
    | cons rdn rest =>
      rw [splitOn_intercalate_comma _ (by simp), flatMap_map]
  have own : ((commonNameRDN name).flatMap fun rdn => rdn.text.splitOn ',').filterMap read =
      (if name.commonName = "" then []
        else (read (AttributeType.commonName.text ++ '=' :: shownName name)).toList) ++
        ((commonNameRDN name).flatMap RDN.cutOff).filterMap read := by
    rw [commonNameRDN, single]
    split_ifs with unnamed
    · rfl
    · simp only [appendRDNs, nil_append, map_nil, flatMap_singleton,
        RDN.splitOn_text, filterMap_cons]
      have shown : RDN.shown ⟨⟨.commonName, name.commonName, none⟩, []⟩ = shownName name := by
        simp [RDN.shown, RDN.valueText, AttributeTypeAndValue.valueText, shownName]
      grind
  have serial := filterMap_rdns read skips (serialNumberRDN name) fun rdn member =>
    (type_of_mem_appendRDNs _ _ rdn member).trans_ne nofun
  have further := filterMap_rdns read skips (furtherRDNs name).reverse fun rdn member =>
    type_of_mem_furtherRDNs name rdn (mem_reverse.mp member)
  rw [components, reverse_rdnSequence, flatMap_append, flatMap_append,
    filterMap_append, filterMap_append, serial, own, further, ahead, behind,
    filterMap_append]
  simp

end

end

def Verbatim (name : String) : Prop := escapeValue name.toList = name.toList

theorem comma_not_mem_of_verbatim {name : String} (verbatim : Verbatim name) : ',' ∉ name.toList :=
  not_mem_of_escapeFrom_eq ',' (by decide) true name.toList verbatim

variable {name : Name}

theorem shownName_of_not_mem (clear : ',' ∉ name.commonName.toList) :
    shownName name = escapeValue name.commonName.toList := by
  rw [shownName, takeWhile_eq_self_iff]
  intro c inside
  have other : c ≠ ',' := by
    rintro rfl
    exact clear (mem_of_mem_escapeFrom ',' (by decide) true _ inside)
  simpa using other

theorem not_mem_shownName (name : Name) : ',' ∉ shownName name := by
  intro inside
  simpa using mem_takeWhile_imp inside

theorem getLast?_escapeValue {value : List Char} (visible : value.rdropWhile isSpace = value) :
    (escapeValue value).rdropWhile isSpace = escapeValue value := by
  rw [rdropWhile_eq_self_iff_getLast?] at visible ⊢
  rwa [escapeValue, getLast?_escapeFrom]

theorem shownName_end_iff (name : Name) :
    ofList ((shownName name).rdropWhile isSpace) = name.commonName ↔
      Verbatim name.commonName ∧
        name.commonName.toList.rdropWhile isSpace = name.commonName.toList := by
  rw [← String.toList_inj, toList_ofList]
  constructor
  · intro same
    have clear : ',' ∉ name.commonName.toList := by
      grind [not_mem_shownName, rdropWhile_prefix]
    have ends : name.commonName.toList.rdropWhile isSpace = name.commonName.toList := by
      rw [← same]
      exact rdropWhile_idempotent isSpace _
    rw [shownName_of_not_mem clear, getLast?_escapeValue ends] at same
    exact ⟨same, ends⟩
  · intro plain
    rw [shownName_of_not_mem (comma_not_mem_of_verbatim plain.1), getLast?_escapeValue plain.2]
    exact plain.1

theorem trimSpace_escapeValue {name : String} (trimmed : trimSpace name = name) :
    trimSpace (ofList (escapeValue name.toList)) = ofList (escapeValue name.toList) := by
  rw [trimSpace_eq_self_iff] at trimmed ⊢
  rw [toList_ofList, escapeValue, getLast?_escapeFrom]
  refine ⟨?_, trimmed.2⟩
  intro c first
  cases head?_escapeFrom true name.toList with
  | inl same =>
    rw [same] at first
    exact trimmed.1 c first
  | inr escaped =>
    rw [escaped] at first
    cases first
    decide

theorem shownName_trim_iff (name : Name) :
    trimSpace (ofList ((shownName name).rdropWhile isSpace)) = name.commonName ↔
      Verbatim name.commonName ∧ trimSpace name.commonName = name.commonName := by
  constructor
  · intro same
    have trimmed : trimSpace name.commonName = name.commonName := by
      rw [← same]
      exact trimSpace_trimSpace _
    have ends := (rdropWhile_eq_self_iff_getLast? _).mpr ((trimSpace_eq_self_iff _).mp trimmed).2
    have clear : ',' ∉ name.commonName.toList := by
      grind [toList_trimSpace, toList_ofList, rdropWhile_prefix, dropWhile_suffix,
        not_mem_shownName]
    rw [shownName_of_not_mem clear, getLast?_escapeValue ends,
      trimSpace_escapeValue trimmed] at same
    exact ⟨by simpa [Verbatim] using congrArg String.toList same, trimmed⟩
  · intro plain
    have ends := (rdropWhile_eq_self_iff_getLast? _).mpr ((trimSpace_eq_self_iff _).mp plain.2).2
    rw [shownName_of_not_mem (comma_not_mem_of_verbatim plain.1),
      getLast?_escapeValue ends, plain.1, String.ofList_toList, plain.2]

/-- The first `CN=` component says the common name: one cut out of the serial number, if
there is any, and otherwise the common name's own. -/
def FirstIsOwn (name : Name) : Prop :=
  match ((ahead name).filterMap exactName).head? with
  | some said => said = name.commonName
  | none =>
    Verbatim name.commonName ∧
      name.commonName.toList.rdropWhile isSpace = name.commonName.toList

/-- The last component with the key `CN`, in any case, says the common name: one cut out
of the common name or of an attribute behind it, if there is any. -/
def LastIsOwn (name : Name) : Prop :=
  match ((behind name).filterMap looseName).getLast? with
  | some said => said = name.commonName
  | none => Verbatim name.commonName ∧ trimSpace name.commonName = name.commonName

theorem text_ne_commonName {type : AttributeType} (other : type ≠ .commonName) :
    type.text ≠ AttributeType.commonName.text := by
  intro same
  grind [toUpper_type_eq_iff]

theorem extractCN_string_iff (named : name.commonName ≠ "") :
    extractCN name.string = name.commonName ↔ FirstIsOwn name := by
  rw [extractCN_eq, filterMap_string exactName
    (fun type shown other => exactName_other type shown (text_ne_commonName other))
    (by decide), FirstIsOwn, head?_append, head?_append]
  grind [exactName_own, shownName_end_iff]

theorem certificateSubjectIdentity_string_iff (named : name.commonName ≠ "") :
    (certificateSubjectIdentity name.string).1 = name.commonName ↔ LastIsOwn name := by
  rw [certificateSubjectIdentity_eq, filterMap_string looseName looseName_other (by decide),
    LastIsOwn, getLast?_append, getLast?_append]
  grind [looseName_own, shownName_trim_iff]

section

attribute [local irreducible] trimSpace tenantHeader extractCN

variable {env : Env} {cn : String}

def GrantedTo (cn : String) (reply : Reply) (_ : World) : Prop :=
  ∀ grant, reply.grant = some grant → grant.claims.deviceID = cn

theorem ungranted {reply : Reply} (none : reply.grant = none) (world : World) :
    GrantedTo cn reply world := by
  intro grant granted
  rw [none] at granted
  cases granted

variable (issuer : Issuer)

theorem mint_deviceID (claims : GrantClaims) (world : World) :
    Ensures (exec env) (fun _ => True)
      (fun minted _ => ∀ grant, minted = .ok grant → grant.claims.deviceID = claims.deviceID)
      (mint issuer claims) world := by
  rw [mint]
  refine ensures_check (fun _ => nofun) fun _ => ?_
  refine ensures_skip fun now world => ?_
  split
  · refine ensures_skip fun jti world => fun grant minted => ?_
    cases minted
    rfl
  · intro grant minted
    cases minted
    rfl

theorem dcScopeGrant_deviceID (deviceID appID dcHost : String) (ports : List Nat) (world : World) :
    Ensures (exec env) (fun _ => True)
      (fun minted _ => ∀ grant, minted = .ok grant → grant.claims.deviceID = deviceID)
      (dcScopeGrant issuer deviceID appID dcHost ports) world := by
  rw [dcScopeGrant]
  refine ensures_check (fun _ => nofun) fun _ => ?_
  refine ensures_check (fun _ => nofun) fun _ => ?_
  exact mint_deviceID issuer ⟨"", "", deviceID, "device", appID, dcHost, 0, ports, "tcp", 0, 0, ""⟩ world

theorem issueDCGrant_deviceID (context : DeviceContext) (world : World) :
    Ensures (exec env) (fun _ => True) (GrantedTo context.deviceCN) (issueDCGrant issuer context)
      world := by
  rw [issueDCGrant]
  refine ensures_check (fun _ => ungranted rfl world) fun _ => ?_
  refine ensures_check (fun _ => ungranted rfl world) fun _ => ?_
  refine ensures_skip fun detail world => ?_
  cases detail with
  | error err => exact ungranted rfl world
  | ok device =>
    refine ensures_check (fun _ => ungranted rfl world) fun _ => ?_
    cases resolve issuer.segments context.orgID with
    | none => exact ungranted rfl world
    | some seg =>
      refine ensures_then (dcScopeGrant_deviceID issuer _ _ _ _ world) fun minted world named => ?_
      cases minted with
      | error err => exact ungranted rfl world
      | ok grant =>
        intro granted same
        cases same
        exact named _ rfl

theorem deviceMTLSAuth_deviceCN {http : Http} {identity : DeviceMTLSIdentity}
    (presented : deviceCertificateIdentity env http = some identity) (world : World) :
    Ensures (exec env) (fun _ => True) (fun passed _ => ∀ context, passed = some context →
        context.deviceCN = extractCN identity.subject) (deviceMTLSAuth env http) world := by
  rw [deviceMTLSAuth, presented]
  refine ensures_check (fun _ => nofun) fun _ => ?_
  refine ensures_skip fun validated world => ?_
  cases validated with
  | error err => exact nofun
  | ok deviceID =>
    intro context passed
    cases passed
    rfl

theorem dcGrant_deviceID {http : Http} {identity : DeviceMTLSIdentity}
    (presented : deviceCertificateIdentity env http = some identity) (world : World) :
    Ensures (exec env) (fun _ => True) (GrantedTo (extractCN identity.subject))
      (handle env (.dcGrant http)) world := by
  rw [handle]
  cases env.grants with
  | none => exact ungranted rfl world
  | some issuer =>
    refine ensures_then (deviceMTLSAuth_deviceCN presented world) fun passed world named => ?_
    cases passed with
    | none => exact ungranted rfl world
    | some context =>
      grind [issueDCGrant_deviceID]

end

/-- The certificate of a call over gRPC is the TLS peer's, or else the one whose subject
the load balancer passes on. -/
def Presents (env : Gateway.Env) (peer : Gateway.Peer) (name : Name) : Prop :=
  (∃ certificate rest, peer.peerCertificates = certificate :: rest ∧
    certificate.subject = name.string ∧ certificate.commonName = name.commonName) ∨
  (peer.peerCertificates = [] ∧ (∃ key ∈ Gateway.subjectKeys, peer.metadata key ≠ []) ∧
    ∀ key ∈ Gateway.subjectKeys, ∀ subject, (peer.metadata key).head? = some subject →
      Gateway.decodedSubject env subject = name.string)

section
variable (named : name.commonName ≠ "") (extracted : extractCN name.string = name.commonName)

include named extracted

theorem metadata_names {env : Gateway.Env} {peer : Peer}
    (passedOn : ∃ key ∈ subjectKeys, peer.metadata key ≠ [])
    (subjects : ∀ key ∈ subjectKeys, ∀ subject, (peer.metadata key).head? = some subject →
      decodedSubject env subject = name.string) :
    gatewayIDFromALBMTLSMetadata (peer.context env) = name.commonName := by
  have read : ∀ key ∈ subjectKeys, subjectCN (peer.context env) key =
      if peer.metadata key = [] then "" else name.commonName := by
    intro key member
    have isSent : (peer.context env).metadata key = peer.metadata key := rfl
    rw [subjectCN, isSent]
    cases sent : peer.metadata key with
    | nil => rfl
    | cons subject rest =>
      have same := subjects key member subject (by rw [sent]; rfl)
      rw [if_neg (cons_ne_nil _ _)]
      change Gateway.extractCN (decodedSubject env subject) = _
      rw [same, Gateway.extractCN_eq_devices, extracted]
  have first := read _ mem_cons_self
  have second := read _ (mem_cons_of_mem _ mem_cons_self)
  rw [gatewayIDFromALBMTLSMetadata, first, second]
  obtain ⟨key, member, nonempty⟩ := passedOn
  simp [subjectKeys] at member
  grind

theorem certGatewayID_names {env : Gateway.Env} {peer : Peer}
    (presents : Presents env peer name) : certGatewayID env peer = name.commonName := by
  obtain ⟨certificate, rest, peers, -, same⟩ | ⟨none, passedOn, subjects⟩ := presents
  · have direct : gatewayIDFromPeerCertificate (peer.context env) = name.commonName := by
      rw [gatewayIDFromPeerCertificate, Peer.context, peers, ← same]
      rfl
    simp [certGatewayID, direct, if_neg named]
  · have direct : gatewayIDFromPeerCertificate (peer.context env) = "" := by
      rw [gatewayIDFromPeerCertificate, Peer.context, none]
      rfl
    simp [certGatewayID, direct]
    exact metadata_names named extracted passedOn subjects

end

/-- Whoever reads the subject of a certificate with this name calls it by its common
name. -/
structure OneName (name : Name) : Prop where
  extracted : extractCN name.string = name.commonName
  identified : (certificateSubjectIdentity name.string).1 = name.commonName
  granted : ∀ (env : Env) (http : Http) (identity : DeviceMTLSIdentity) (choices : Nat → Choice)
    (world : World) (grant : Jwt.Signed GrantClaims),
    deviceCertificateIdentity env http = some identity → identity.subject = name.string →
    ((handle env (.dcGrant http)).eval (exec env) choices world).1.grant = some grant →
      grant.claims.deviceID = name.commonName
  authenticated : ∀ (env : Gateway.Env) (header : String → String) (identity : Gateway.Identity),
    Gateway.decodedSubject env (header "X-Amzn-Mtls-Clientcert-Subject") = name.string →
    Gateway.gatewayAuth env header = some identity → identity.method = .mtls →
      identity.gatewayID = name.commonName
  authorized : ∀ (env : Gateway.Env) (peer : Gateway.Peer), Presents env peer name →
    Gateway.certGatewayID env peer = name.commonName

theorem named_of_oneName (one : OneName name) : name.commonName ≠ "" := by
  intro unnamed
  let env : Gateway.Env := ⟨false, some, ∅, true⟩
  let peer : Peer :=
    ⟨[⟨[], name.string, name.commonName, [], "", 0⟩], fun _ => ["CN=ap-southeast-1"]⟩
  have same := one.authorized env peer (.inl ⟨_, _, rfl, rfl, rfl⟩)
  have metadata : certGatewayID env peer = "ap-southeast-1" := by
    have direct : gatewayIDFromPeerCertificate (peer.context env) = "" := unnamed
    have passedOn : Gateway.extractCN "CN=ap-southeast-1" = "ap-southeast-1" := by decide +kernel
    have read : ∀ key, subjectCN (peer.context env) key = "ap-southeast-1" := fun _ => passedOn
    simp only [certGatewayID, direct, if_true, gatewayIDFromALBMTLSMetadata, read]
    rfl
  rw [metadata, unnamed] at same
  revert same
  decide

theorem one_name_iff (name : Name) :
    OneName name ↔ name.commonName ≠ "" ∧ FirstIsOwn name ∧ LastIsOwn name := by
  constructor
  · intro one
    have named := named_of_oneName one
    exact ⟨named, (extractCN_string_iff named).mp one.extracted,
      (certificateSubjectIdentity_string_iff named).mp one.identified⟩
  · rintro ⟨named, first, last⟩
    have extracted := (extractCN_string_iff named).mpr first
    refine ⟨extracted, (certificateSubjectIdentity_string_iff named).mpr last, ?_, ?_, ?_⟩
    · intro env http identity choices world grant presented subject granted
      have ensured := eval_ensures choices (fun _ => trivial) (dcGrant_deviceID presented world)
      rw [ensured grant granted, subject, extracted]
    · intro env header identity subject authenticated mtls
      rw [Gateway.gatewayAuth_mtls_extractCN authenticated mtls, subject, extracted]
    · grind [certGatewayID_names]

/-- A kiosk whose serial number and organization carry the name of a laptop. -/
def kiosk : Name where
  commonName := "kiosk"
  serialNumber := "1,CN=laptop-7"
  organization := ["Acme,cn=laptop-7"]

example : kiosk.string = "SERIALNUMBER=1\\,CN=laptop-7,CN=kiosk,O=Acme\\,cn=laptop-7" := by
  decide +kernel

theorem kiosk_read_as_laptop :
    extractCN kiosk.string = "laptop-7" ∧
      (certificateSubjectIdentity kiosk.string).1 = "laptop-7" ∧ ¬ OneName kiosk := by
  have extracted : extractCN kiosk.string = "laptop-7" := by decide +kernel
  refine ⟨extracted, by decide +kernel, ?_⟩
  intro one
  have same := one.extracted
  rw [extracted] at same
  revert same
  decide

end ManagementPlane.Devices
