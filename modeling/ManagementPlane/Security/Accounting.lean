import ManagementPlane.Lib.Alone
import ManagementPlane.Security.Enrollment

/-!
# Uses of enrolment tokens

The count of a token and the agents enrolled with it change together, under one lock, so they agree
in every state. A token that is revoked stays so, and the time of a call does not go back, so a
call that starts too late enrols nobody.
-/

namespace ManagementPlane.Security.Enrollment

open Interleave Policy Runs Tables Option
open List hiding lookup_eq_some_iff

abbrev EnrollPool := Pool World Request Op Op.Ans Reply

abbrev Entry := Nat × Event

def Event.drawnID : Event → Option String
  | ⟨.drawToken, .ok drawn⟩ => some drawn.id
  | _ => none

def Event.storedID : Event → Option String
  | ⟨.storeToken token, _⟩ => some token.id
  | _ => none

def Event.enrolledID : Event → Option String
  | ⟨.enrollAgent _, (.ok agent, _)⟩ => some agent.id
  | _ => none

/-- The ids that the calls have generated. -/
structure Distinct (trace : List Entry) : Prop where
  tokenIDs : (trace.filterMap fun entry => Event.drawnID entry.2).Nodup
  agentIDs : (trace.filterMap fun entry => Event.enrolledID entry.2).Nodup

theorem distinct_of_append {trace more : List Entry} (distinct : Distinct (trace ++ more)) :
    Distinct trace := by
  obtain ⟨tokenIDs, agentIDs⟩ := distinct
  rw [filterMap_append] at tokenIDs agentIDs
  exact ⟨tokenIDs.of_append_left, agentIDs.of_append_left⟩

/-! ## What an operation does -/

def EnrollmentToken.terms (token : EnrollmentToken) :
    String × String × String × String × Time × Int :=
  (token.id, token.groupID, token.groupName, token.createdBy, token.expiresAt, token.maxUses)

section
variable {token other : EnrollmentToken} (terms : token.terms = other.terms)

include terms

theorem terms_owner : token.groupID = other.groupID ∧ token.groupName = other.groupName ∧
    token.createdBy = other.createdBy := by
  simp [EnrollmentToken.terms] at terms
  exact ⟨terms.2.1, terms.2.2.1, terms.2.2.2.1⟩

theorem terms_expiresAt : token.expiresAt = other.expiresAt := by
  simp [EnrollmentToken.terms] at terms
  exact terms.2.2.2.2.1

theorem terms_maxUses : token.maxUses = other.maxUses := by
  simp [EnrollmentToken.terms] at terms
  exact terms.2.2.2.2.2

end

/-- The token that an agent is enrolled with, as it was found. -/
structure Uses (world : World) (agent : EnrolledAgent) (now : Time) (key : String)
    (token : EnrollmentToken) : Prop where
  found : world.tokens.lookup key = some token
  notRevoked : token.revoked = false
  inTime : ¬ token.expiresAt < now
  left : token.usedCount < token.maxUses
  tokenID : agent.tokenID = token.id
  groupID : agent.groupID = token.groupID
  groupName : agent.groupName = token.groupName
  enrolledBy : agent.enrolledBy = token.createdBy

inductive Change (before after : World) (event : Event) : Prop where
  | same (same : after = before) (notStored : Event.storedID event = none)
      (notEnrolled : Event.enrolledID event = none)
  | stored (token : EnrollmentToken) (called : event = ⟨.storeToken token, ()⟩)
      (tokens : after.tokens = before.tokens.insert token.id token)
      (agents : after.agents = before.agents)
  | enrolled (req : EnrollAgentRequest) (agent : EnrolledAgent) (now : Time) (key : String)
      (token : EnrollmentToken) (use : EnrollmentToken → EnrollmentToken)
      (called : event = ⟨.enrollAgent req, (.ok agent, now)⟩)
      (uses : Uses before agent now key token)
      (tokens : after.tokens = updateRow key use before.tokens)
      (keeps : ∀ old, (use old).terms = old.terms ∧ (use old).revoked = old.revoked ∧
        (use old).usedCount = old.usedCount + 1)
      (agents : after.agents = before.agents.insert agent.id agent)
  | revoked (key : String) (notStored : Event.storedID event = none)
      (notEnrolled : Event.enrolledID event = none)
      (tokens : after.tokens =
        updateRow key (fun token => { token with revoked := true }) before.tokens)
      (agents : after.agents = before.agents)
  | deactivated (key : String) (notStored : Event.storedID event = none)
      (notEnrolled : Event.enrolledID event = none) (tokens : after.tokens = before.tokens)
      (agents : after.agents =
        updateRow key (fun agent => { agent with active := false }) before.agents)

variable {token : EnrollmentToken}

theorem mem_entries {world : World} {key : String}
    (member : (key, token) ∈ world.entries) : world.tokens.lookup key = some token := by
  obtain ⟨entry, held, ⟨⟩⟩ := List.mem_map.mp member
  exact lookup_eq_some_iff.mpr held

theorem change_enrollAgent (choice : Choice) (world : World) (req : EnrollAgentRequest) :
    Change world (enrollAgent world choice req).2
      ⟨.enrollAgent req, ((enrollAgent world choice req).1, choice.clock 0)⟩ := by
  unfold enrollAgent
  cases search : (choice.order.visit world.entries).find? fun entry => entry.2.token = req.token with
  | none => exact .same rfl rfl rfl
  | some entry =>
    obtain ⟨key, token⟩ := entry
    have found := mem_entries ((choice.order.perm _).mem_iff.mp (mem_of_find?_eq_some search))
    dsimp only
    split_ifs with revoked late used
    iterate 3 exact .same rfl rfl rfl
    cases choice.failure with
    | some err => exact .same rfl rfl rfl
    | none =>
      exact .enrolled req _ _ key token _ rfl
        ⟨found, Bool.eq_false_iff.mpr revoked, late, lt_of_not_ge used, rfl, rfl, rfl, rfl⟩ rfl
        (fun _ => ⟨rfl, rfl, rfl⟩) rfl

theorem exec_change (choice : Choice) (world : World) (op : Op) :
    Change world (exec choice world op).2 ⟨op, (exec choice world op).1⟩ := by
  cases op with
  | drawToken | signDeviceCSR agentID csrPEM validDays => exact .same rfl rfl rfl
  | storeToken token => exact .stored token rfl rfl rfl
  | enrollAgent req => exact change_enrollAgent choice world req
  | revokeToken tokenID =>
    simp [exec, revokeToken]
    cases world.tokens.lookup tokenID with
    | none => exact .same rfl rfl rfl
    | some token => exact .revoked tokenID rfl rfl rfl rfl
  | deactivateAgent agentID =>
    simp [exec, deactivateAgent]
    cases world.agents.lookup agentID with
    | none => exact .same rfl rfl rfl
    | some agent => exact .deactivated agentID rfl rfl rfl rfl

section
variable {before after : World} {event : Event}

section
variable (change : Change before after event)

include change

theorem token_kept (fresh : ∀ id, Event.storedID event = some id → before.tokens.lookup id = none)
    {id : String} (found : before.tokens.lookup id = some token) :
    ∃ later, after.tokens.lookup id = some later ∧ later.terms = token.terms ∧
      (token.revoked = true → later.revoked = true) := by
  cases change with
  | same same | deactivated key _ _ tokens =>
    grind
  | stored new called tokens =>
    have other : id ≠ new.id := by
      rintro rfl
      rw [called] at fresh
      rw [fresh new.id rfl] at found
      cases found
    grind [lookup_insert_if]
  | enrolled req agent now key used use called uses tokens keeps =>
    grind [lookup_updateRow]
  | revoked key _ _ tokens =>
    rw [tokens, lookup_updateRow, found]
    split_ifs
    · exact ⟨_, rfl, rfl, fun _ => rfl⟩
    · exact ⟨token, rfl, rfl, fun revoked => revoked⟩

theorem token_from {id : String} (found : after.tokens.lookup id = some token) :
    (∃ old, before.tokens.lookup id = some old ∧ token.terms = old.terms) ∨
      event = ⟨.storeToken token, ()⟩ ∧ token.id = id := by
  cases change with
  | same same =>
    rw [same] at found
    exact .inl ⟨token, found, rfl⟩
  | stored new called tokens =>
    grind [lookup_insert_if]
  | enrolled req agent now key used use called uses tokens keeps =>
    grind [lookup_updateRow, map_eq_some_iff]
  | revoked key _ _ tokens =>
    rw [tokens, lookup_updateRow] at found
    split_ifs at found
    · obtain ⟨old, foundOld, rfl⟩ := map_eq_some_iff.mp found
      exact .inl ⟨old, foundOld, rfl⟩
    · exact .inl ⟨token, found, rfl⟩
  | deactivated key _ _ tokens =>
    rw [tokens] at found
    exact .inl ⟨token, found, rfl⟩

theorem agent_from {id : String} {agent : EnrolledAgent}
    (found : after.agents.lookup id = some agent) :
    (∃ old, before.agents.lookup id = some old ∧ agent.tokenID = old.tokenID ∧
        agent.groupID = old.groupID ∧ agent.groupName = old.groupName ∧
        agent.enrolledBy = old.enrolledBy) ∨
      agent.id = id ∧ ∃ req now key token, event = ⟨.enrollAgent req, (.ok agent, now)⟩ ∧
        Uses before agent now key token := by
  cases change with
  | same same | stored new called tokens agents | revoked key _ _ tokens agents =>
    grind
  | enrolled req new now key token use called uses tokens keeps agents =>
    grind [lookup_insert_if]
  | deactivated key _ _ tokens agents =>
    grind [lookup_updateRow, map_eq_some_iff]

end

theorem uses_of_enrolled {req : EnrollAgentRequest} {agent : EnrolledAgent} {now : Time}
    (change : Change before after ⟨.enrollAgent req, (.ok agent, now)⟩) :
    ∃ key token, Uses before agent now key token := by
  cases change with
  | same _ _ notEnrolled | revoked _ _ notEnrolled | deactivated _ _ notEnrolled =>
    cases notEnrolled
  | stored _ called => cases called
  | enrolled _ _ _ key token _ called uses =>
    cases called
    exact ⟨key, token, uses⟩

end

/-- A token is stored by a `CreateToken` that has drawn it and done nothing else. -/
def Guard (request : Request) (past : List Event) : Op → Prop
  | .storeToken token => ∃ req createdBy drawn, request.call = .createToken req createdBy ∧
      past = [⟨.drawToken, .ok drawn⟩] ∧ token = tokenOf req createdBy drawn
  | _ => True

theorem handle_keeps (caCertPEM : Option String) (request : Request) :
    Keeps (Guard request) (fun _ _ => True) (handle caCertPEM request) [] := by
  unfold handle
  cases call : request.call with
  | createToken req createdBy =>
    refine keeps_call.mpr ⟨trivial, ?_⟩
    intro outcome
    cases outcome with
    | error err => trivial
    | ok drawn => exact keeps_call.mpr ⟨⟨req, createdBy, drawn, call, rfl, rfl⟩, fun _ => trivial⟩
  | enrollAgent req =>
    refine keeps_call.mpr ⟨trivial, ?_⟩
    rintro ⟨outcome, now⟩
    cases outcome <;> trivial
  | enrollDeviceCertificate req =>
    cases caCertPEM with
    | none => trivial
    | some caCertPEM =>
      refine keeps_call.mpr ⟨trivial, ?_⟩
      rintro ⟨outcome, now⟩
      cases outcome with
      | error err => trivial
      | ok agent =>
        refine keeps_call.mpr ⟨trivial, ?_⟩
        intro outcome
        cases outcome <;> trivial
  | revokeToken tokenID | deactivateAgent agentID =>
    exact keeps_call.mpr ⟨trivial, fun _ => trivial⟩

/-! ## Accounting -/

def enrolledWith (id : String) (world : World) : Nat :=
  rowCount (fun agent => agent.tokenID = id) world.agents

structure Accounted (world : World) : Prop where
  counted : ∀ id token, world.tokens.lookup id = some token →
    token.usedCount = enrolledWith id world ∧ token.usedCount ≤ token.maxUses
  carried : ∀ id agent, world.agents.lookup id = some agent →
    ∃ token, world.tokens.lookup agent.tokenID = some token ∧ agent.groupID = token.groupID ∧
      agent.groupName = token.groupName ∧ agent.enrolledBy = token.createdBy

/-- The tables hold what the calls have generated, and nobody was enrolled too late. -/
structure Recorded (world : World) (trace : List Entry) : Prop where
  drawn : ∀ entry ∈ trace, ∀ id, Event.storedID entry.2 = some id →
    ∃ event, (entry.1, event) ∈ trace ∧ Event.drawnID event = some id
  tokens : ∀ id token, world.tokens.lookup id = some token →
    token.id = id ∧ ∃ entry ∈ trace, Event.storedID entry.2 = some id
  agents : ∀ id agent, world.agents.lookup id = some agent →
    id ∈ trace.filterMap fun entry => Event.enrolledID entry.2
  inTime : ∀ i req agent now, (i, (⟨.enrollAgent req, (.ok agent, now)⟩ : Event)) ∈ trace →
    ∃ token, world.tokens.lookup agent.tokenID = some token ∧ ¬ token.expiresAt < now

section
variable {before after : World} {trace : List Entry} {i : Nat} {event : Event} {request : Request}

variable {id : String}

theorem storedID_eq_some (stored : Event.storedID event = some id) :
    ∃ token, event = ⟨.storeToken token, ()⟩ ∧ token.id = id := by
  unfold Event.storedID at stored
  grind

variable (event) in
theorem store_fresh (guarded : Guard request (past trace i) event.op)
    (distinct : Distinct trace) (recorded : Recorded before trace) (id : String)
    (stored : Event.storedID event = some id) : before.tokens.lookup id = none := by
  obtain ⟨token, rfl, rfl⟩ := storedID_eq_some stored
  obtain ⟨req, createdBy, drawn, _, pastEq, rfl⟩ := guarded
  have unused := stored_fresh Event.drawnID Event.storedID distinct.tokenIDs recorded.drawn
    (i := i) (k := drawn.id) ⟨_, by rw [pastEq]; exact mem_singleton_self _, rfl⟩ (by
      intro event member
      rw [pastEq] at member
      rw [mem_singleton.mp member]
      rfl)
  cases found : before.tokens.lookup (tokenOf req createdBy drawn).id with
  | none => rfl
  | some old =>
    obtain ⟨entry, member, isStored⟩ := (recorded.tokens _ old found).2
    exact absurd isStored (unused entry member)

theorem enrol_fresh (distinct : Distinct (trace ++ [(i, event)])) (recorded : Recorded before trace)
    (enrolled : Event.enrolledID event = some id) : before.agents.lookup id = none := by
  cases found : before.agents.lookup id with
  | none => rfl
  | some old =>
    have ids := distinct.agentIDs
    rw [filterMap_append] at ids
    have twice := (nodup_append'.mp ids).2.2 (recorded.agents id old found)
    simp [enrolled] at twice

theorem token_used (change : Change before after event)
    (fresh : ∀ id, Event.storedID event = some id → before.tokens.lookup id = none)
    (recorded : Recorded before trace) {req : EnrollAgentRequest} {agent : EnrolledAgent} {now : Time}
    (called : event = ⟨.enrollAgent req, (.ok agent, now)⟩) :
    ∃ token later, Uses before agent now agent.tokenID token ∧
      after.tokens.lookup agent.tokenID = some later ∧ later.terms = token.terms := by
  subst called
  obtain ⟨key, token, uses⟩ := uses_of_enrolled change
  have keyEq : key = agent.tokenID := by
    rw [uses.tokenID, (recorded.tokens key token uses.found).1]
  subst keyEq
  obtain ⟨later, foundLater, terms, _⟩ := token_kept change fresh uses.found
  exact ⟨token, later, uses, foundLater, terms⟩

variable (change : Change before after event)

include change

section
variable (guarded : Guard request (past trace i) event.op)

include guarded

theorem recorded_change (distinct : Distinct trace) (recorded : Recorded before trace) :
    Recorded after (trace ++ [(i, event)]) where
  drawn := by
    intro entry member id stored
    rcases mem_append.mp member with old | new
    · obtain ⟨drew, done, isDrawn⟩ := recorded.drawn entry old id stored
      exact ⟨drew, mem_append_left _ done, isDrawn⟩
    · rw [mem_singleton.mp new] at stored ⊢
      obtain ⟨token, rfl, rfl⟩ := storedID_eq_some stored
      obtain ⟨req, createdBy, drawn, _, pastEq, rfl⟩ := guarded
      refine ⟨⟨.drawToken, .ok drawn⟩, mem_append_left _ ?_, rfl⟩
      rw [← mem_past_iff, pastEq]
      exact mem_singleton_self _
  tokens := by
    intro id token found
    rcases token_from change found with ⟨old, foundOld, terms⟩ | ⟨called, named⟩
    · obtain ⟨named, entry, member, stored⟩ := recorded.tokens id old foundOld
      exact ⟨(congrArg Prod.fst terms).trans named, entry, mem_append_left _ member, stored⟩
    · refine ⟨named, (i, event), mem_append_right _ (mem_singleton_self _), ?_⟩
      rw [called, ← named]
      rfl
  agents := by
    intro id agent found
    rw [filterMap_append]
    rcases agent_from change found with ⟨old, foundOld, _⟩ | ⟨named, req, now, key, token, called, _⟩
    · exact mem_append_left _ (recorded.agents id old foundOld)
    · refine mem_append_right _ ?_
      simp [called, Event.enrolledID, named]
  inTime := by
    intro k req agent now member
    have fresh := store_fresh event guarded distinct recorded
    rw [mem_append, mem_singleton, Prod.mk.injEq] at member
    rcases member with old | ⟨_, new⟩
    · obtain ⟨token, found, inTime⟩ := recorded.inTime k req agent now old
      obtain ⟨later, foundLater, terms, _⟩ := token_kept change fresh found
      refine ⟨later, foundLater, ?_⟩
      rwa [terms_expiresAt terms]
    · obtain ⟨token, later, uses, foundLater, terms⟩ := token_used change fresh recorded new.symm
      refine ⟨later, foundLater, ?_⟩
      rw [terms_expiresAt terms]
      exact uses.inTime

theorem carried_change
    (distinct : Distinct trace) (recorded : Recorded before trace) (accounted : Accounted before)
    {agent : EnrolledAgent} (found : after.agents.lookup id = some agent) :
    ∃ token, after.tokens.lookup agent.tokenID = some token ∧ agent.groupID = token.groupID ∧
      agent.groupName = token.groupName ∧ agent.enrolledBy = token.createdBy := by
  have fresh := store_fresh event guarded distinct recorded
  rcases agent_from change found with
    ⟨old, foundOld, tokenID, groupID, groupName, enrolledBy⟩ | ⟨_, req, now, _, _, called, _⟩
  · obtain ⟨token, foundToken, sameGroup, sameName, sameCreator⟩ := accounted.carried id old foundOld
    grind [token_kept, terms_owner]
  · obtain ⟨token, later, uses, foundLater, terms⟩ := token_used change fresh recorded called
    obtain ⟨laterGroup, laterName, laterCreator⟩ := terms_owner terms
    refine ⟨later, foundLater, ?_, ?_, ?_⟩
    · rw [uses.groupID, laterGroup]
    · rw [uses.groupName, laterName]
    · rw [uses.enrolledBy, laterCreator]

theorem counted_change
    (distinct : Distinct (trace ++ [(i, event)])) (recorded : Recorded before trace)
    (accounted : Accounted before) (found : after.tokens.lookup id = some token) :
    token.usedCount = enrolledWith id after ∧ token.usedCount ≤ token.maxUses := by
  cases change with
  | same same =>
    rw [same] at found ⊢
    exact accounted.counted id token found
  | stored new called tokens agents =>
    rw [enrolledWith, agents]
    rw [tokens, lookup_insert_if] at found
    split_ifs at found with here
    · -- nobody can have been enrolled with a token that was not there
      cases found
      subst called
      have absent := store_fresh _ guarded (distinct_of_append distinct) recorded token.id rfl
      obtain ⟨req, createdBy, drawn, _, _, rfl⟩ := guarded
      have nobody : rowCount (fun agent => decide (agent.tokenID = id)) before.agents = 0 := by
        rw [rowCount_eq_zero_iff]
        intro agentID agent foundAgent
        obtain ⟨owner, foundOwner, _⟩ := accounted.carried agentID agent foundAgent
        rw [decide_eq_false_iff_not]
        intro same
        rw [same, here, absent] at foundOwner
        cases foundOwner
      grind [tokenOf]
    · exact accounted.counted id token found
  | enrolled req agent now key used use called uses tokens keeps agents =>
    have absent := enrol_fresh distinct recorded (by rw [called]; rfl)
    have owner : agent.tokenID = key := by
      rw [uses.tokenID, (recorded.tokens key used uses.found).1]
    rw [enrolledWith, agents, rowCount_insert_new _ _ absent, owner]
    rw [tokens, lookup_updateRow] at found
    split_ifs at found with here
    · subst here
      rw [uses.found] at found
      cases found
      obtain ⟨count, _⟩ := accounted.counted id used uses.found
      obtain ⟨terms, _, uses1⟩ := keeps used
      have left := uses.left
      rw [uses1, terms_maxUses terms, count]
      refine ⟨by simp [enrolledWith], ?_⟩
      omega
    · have otherKey : ¬ key = id := fun same => here same.symm
      simp [otherKey]
      exact accounted.counted id token found
  | revoked key _ _ tokens agents =>
    rw [enrolledWith, agents]
    rw [tokens, lookup_updateRow] at found
    split_ifs at found
    · obtain ⟨old, foundOld, rfl⟩ := map_eq_some_iff.mp found
      exact accounted.counted id old foundOld
    · exact accounted.counted id token found
  | deactivated key _ _ tokens agents =>
    have sameCount : enrolledWith id after = enrolledWith id before := by
      simp_all [enrolledWith, rowCount_updateRow]
    rw [sameCount]
    rw [tokens] at found
    exact accounted.counted id token found

end

end

/-! ## Runs -/

def Timely (pool : EnrollPool) : Input Request Choice → Prop
  | .spawn _ => True
  | .step i choice => ∀ request, pool.requestAt i = some request → request.started ≤ choice.clock 0

instance (pool : EnrollPool) (input : Input Request Choice) : Decidable (Timely pool input) :=
  match input with
  | .spawn _ => inferInstanceAs (Decidable True)
  | .step i choice =>
    inferInstanceAs (Decidable (∀ request ∈ pool.requestAt i, request.started ≤ choice.clock 0))

structure Consistent (pool : EnrollPool) : Prop where
  accounted : Accounted pool.world
  recorded : Recorded pool.world pool.trace

section
variable (caCertPEM : Option String) {pool : EnrollPool} {choice : Choice} {request : Request}

theorem consistent_advance {i : Nat}
    {op : Op} {next : op.Ans → Prog Op Op.Ans Reply} (guarded : Guard request (past pool.trace i) op)
    (distinct : Distinct (advance exec pool i choice request op next).trace)
    (inv : Consistent pool) : Consistent (advance exec pool i choice request op next) := by
  have change := exec_change choice pool.world op
  have before := distinct_of_append distinct
  refine ⟨⟨?_, ?_⟩, recorded_change change guarded before inv.recorded⟩
  · intro id token found
    exact counted_change change guarded distinct inv.recorded inv.accounted found
  · intro id agent found
    exact carried_change change guarded before inv.recorded inv.accounted found

/-- The call that has enrolled an agent had started by the time it checked the expiry. -/
def StartedBefore (pool : EnrollPool) : Prop :=
  ∀ i req agent now, (i, (⟨.enrollAgent req, (.ok agent, now)⟩ : Event)) ∈ pool.trace →
    ∀ request, pool.requestAt i = some request → request.started ≤ now

theorem startedBefore_spawn
    (numbered : ∀ entry ∈ pool.trace, entry.1 < pool.threads.length) (before : StartedBefore pool) :
    StartedBefore (step exec (handle caCertPEM) pool (.spawn request)) := by
  intro i req agent now member asked found
  rw [requestAt_spawn exec (handle caCertPEM) request (numbered _ member)] at found
  exact before i req agent now member asked found

theorem consistent_initial : Consistent (initial emptyWorld) where
  accounted := by
    constructor
    · intro id token found
      cases found
    · intro id agent found
      cases found
  recorded := by
    refine ⟨?_, ?_, ?_, ?_⟩
    · intro entry member
      cases member
    · intro id token found
      cases found
    · intro id agent found
      cases found
    · intro i req agent now member
      cases member

theorem startedBefore_advance {i : Nat} {op : Op} {next : op.Ans → Prog Op Op.Ans Reply}
    (calling : pool.threads[i]? = some ⟨request, .call op next⟩)
    (timely : Timely pool (.step i choice)) (before : StartedBefore pool) :
    StartedBefore (advance exec pool i choice request op next) := by
  intro k req agent now member asked found
  rw [requestAt_advance exec k choice calling] at found
  rcases mem_trace_advance member with old | ⟨rfl, new⟩
  · exact before k req agent now old asked found
  · obtain ⟨rfl, answered⟩ :=
      (event_eq_iff (fun op => (exec choice pool.world op).1) op (.enrollAgent req) _).mp new.symm
    have reading : choice.clock 0 = now := congrArg Prod.snd answered
    rw [← reading]
    exact timely asked found

/-- The token is revoked, and the request has enrolled nobody with it. -/
structure Barred (n : Nat) (id : String) (pool : EnrollPool) : Prop where
  recorded : Recorded pool.world pool.trace
  revoked : ∃ token, pool.world.tokens.lookup id = some token ∧ token.revoked = true
  nobody : ∀ req agent now, (n, (⟨.enrollAgent req, (.ok agent, now)⟩ : Event)) ∈ pool.trace →
    agent.tokenID ≠ id

theorem barred_advance {n : Nat} {id : String} {i : Nat}
    {op : Op} {next : op.Ans → Prog Op Op.Ans Reply}
    (guarded : Guard request (past pool.trace i) op) (distinct : Distinct pool.trace)
    (barred : Barred n id pool) : Barred n id (advance exec pool i choice request op next) := by
  have change := exec_change choice pool.world op
  obtain ⟨token, found, revoked⟩ := barred.revoked
  have fresh := store_fresh ⟨op, (exec choice pool.world op).1⟩ guarded distinct barred.recorded
  refine ⟨recorded_change change guarded distinct barred.recorded, ?_, ?_⟩
  · obtain ⟨later, foundLater, _, stays⟩ := token_kept change fresh found
    exact ⟨later, foundLater, stays revoked⟩
  · intro req agent now member
    rcases mem_trace_advance member with old | ⟨_, new⟩
    · exact barred.nobody req agent now old
    · obtain ⟨used, _, uses, _⟩ := token_used change fresh barred.recorded new.symm
      intro same
      have usedFound := uses.found
      rw [same, found] at usedFound
      cases usedFound
      rw [uses.notRevoked] at revoked
      cases revoked

theorem token_uses_accounted (steps : List (Input Request Choice))
    (distinct : Distinct (run (step exec (handle caCertPEM)) (initial emptyWorld) steps).trace)
    (timely : ∀ visit ∈ visits (step exec (handle caCertPEM)) (initial emptyWorld) steps,
      Timely visit.1 visit.2) :
    Accounted (run (step exec (handle caCertPEM)) (initial emptyWorld) steps).world ∧
      (∀ i request req agent now token,
        (run (step exec (handle caCertPEM)) (initial emptyWorld) steps).requestAt i = some request →
        (i, (⟨.enrollAgent req, (.ok agent, now)⟩ : Event)) ∈
          (run (step exec (handle caCertPEM)) (initial emptyWorld) steps).trace →
        (run (step exec (handle caCertPEM)) (initial emptyWorld) steps).world.tokens.lookup
          agent.tokenID = some token → ¬ token.expiresAt < request.started) ∧
      ∀ before request after id token, steps = before ++ .spawn request :: after →
        (run (step exec (handle caCertPEM)) (initial emptyWorld) before).world.tokens.lookup id =
          some token → token.revoked = true →
        ∀ req agent now,
          ((run (step exec (handle caCertPEM)) (initial emptyWorld) before).threads.length,
              (⟨.enrollAgent req, (.ok agent, now)⟩ : Event)) ∈
            (run (step exec (handle caCertPEM)) (initial emptyWorld) steps).trace →
          agent.tokenID ≠ id := by
  have invariant := pool_invariant exec (handle_keeps caCertPEM) Timely
    (fun pool => (Distinct pool.trace → Consistent pool) ∧ StartedBefore pool)
    (fun pool request kept inv => ⟨fun distinct => ⟨(inv.1 distinct).accounted, (inv.1 distinct).recorded⟩,
      startedBefore_spawn caCertPEM kept.numbered inv.2⟩)
    (fun pool i choice request op next _ calling timely guarded inv =>
      ⟨fun distinct => consistent_advance guarded distinct (inv.1 (distinct_of_append distinct)),
        startedBefore_advance calling timely inv.2⟩)
    emptyWorld ⟨fun _ => consistent_initial, by intro i req agent now member; cases member⟩ steps
    timely
  obtain ⟨_, consistent, started⟩ := invariant _ run_mem_states
  refine ⟨(consistent distinct).accounted, ?_, ?_⟩
  · intro i request req agent now token asked enrolled found late
    have began := started i req agent now enrolled request asked
    obtain ⟨held, foundHeld, inTime⟩ := (consistent distinct).recorded.inTime i req agent now enrolled
    rw [found] at foundHeld
    cases foundHeld
    exact inTime (lt_of_lt_of_le late began)
  · intro before request after id token split found revoked
    subst split
    obtain ⟨more, grown⟩ := trace_run exec (handle caCertPEM)
      (run (step exec (handle caCertPEM)) (initial emptyWorld) before) (.spawn request :: after)
    rw [run_append] at distinct ⊢
    have distinctBefore := distinct
    rw [grown] at distinctBefore
    obtain ⟨kept, consistentBefore, _⟩ := invariant
      (run (step exec (handle caCertPEM)) (initial emptyWorld) before)
      ((mem_states_iff ..).mpr ⟨before, _, rfl, rfl⟩)
    have recorded := (consistentBefore (distinct_of_append distinctBefore)).recorded
    have barred : Barred
        (run (step exec (handle caCertPEM)) (initial emptyWorld) before).threads.length id
        (run (step exec (handle caCertPEM)) (initial emptyWorld) before) := by
      refine ⟨recorded, ⟨token, found, revoked⟩, ?_⟩
      intro req agent now member
      exact absurd (kept.numbered _ member) (lt_irrefl _)
    refine (pool_invariant_from exec (handle_keeps caCertPEM) (fun _ _ => True)
      (fun pool => Distinct pool.trace → Barred _ id pool) (fun pool request _ inv => ?_)
      (fun pool i choice request op next _ _ _ guarded inv distinct =>
        barred_advance guarded (distinct_of_append distinct) (inv (distinct_of_append distinct)))
      _ kept (fun _ => barred) (.spawn request :: after) (fun _ _ => trivial) _
      run_mem_states).2 distinct |>.nobody
    intro distinct
    exact ⟨(inv distinct).recorded, (inv distinct).revoked, (inv distinct).nobody⟩

end

def demoChoice (id : UInt8) (now : Time) : Choice where
  bytes := fun _ => 1
  id := some fun _ => id
  clock := fun _ => now

def demoDevice : EnrollAgentRequest where
  token := "0101010101010101010101010101010101010101010101010101010101010101"
  deviceName := "laptop"
  deviceOS := "linux"
  deviceArch := ""

/-- Two calls use a token that is good for one; then it is revoked and used once more. -/
def demoSteps : List (Input Request Choice) :=
  [.spawn ⟨.createToken ⟨"lab", "g1", "Lab", 1, 1⟩ "admin", 0⟩, .step 0 (demoChoice 2 1),
    .step 0 (demoChoice 2 1), .spawn ⟨.enrollAgent demoDevice, 2⟩,
    .spawn ⟨.enrollDeviceCertificate ⟨demoDevice, "csr", 0⟩, 2⟩, .step 2 (demoChoice 3 3),
    .step 1 (demoChoice 4 4), .spawn ⟨.revokeToken "etk-0202020202020202", 5⟩,
    .step 3 (demoChoice 0 6), .spawn ⟨.enrollAgent demoDevice, 7⟩, .step 4 (demoChoice 5 8)]

def demoPool : EnrollPool := run (step exec (handle (some "ca"))) (initial emptyWorld) demoSteps

theorem token_used_once :
    Accounted demoPool.world ∧
      (demoPool.world.tokens.lookup "etk-0202020202020202").map EnrollmentToken.usedCount = some 1 ∧
      demoPool.answerAt 1 = some (⟨.enrollAgent demoDevice, 2⟩,
        .error "enrollment token has reached maximum uses") ∧
      demoPool.answerAt 4 = some (⟨.enrollAgent demoDevice, 7⟩,
        .error "enrollment token has been revoked") := by
  refine ⟨(token_uses_accounted (some "ca") demoSteps ?_ ?_).1, ?_, ?_, ?_⟩
  · constructor
    all_goals decide +kernel
  all_goals decide +kernel

/-! ## Enrolments that fail -/

theorem enrollAgent_same_iff (world : World) (choice : Choice) (req : EnrollAgentRequest) :
    (enrollAgent world choice req).2 = world ↔ (enrollAgent world choice req).1.isOk = false := by
  unfold enrollAgent
  cases search : (choice.order.visit world.entries).find? fun entry => entry.2.token = req.token with
  | none => simp [Except.isOk, Except.toBool]
  | some entry =>
    obtain ⟨key, token⟩ := entry
    have found := mem_entries ((choice.order.perm _).mem_iff.mp (mem_of_find?_eq_some search))
    dsimp only
    split_ifs
    iterate 3 simp [Except.isOk, Except.toBool]
    cases choice.failure with
    | some err => simp [Except.isOk, Except.toBool]
    | none =>
      simp [Except.isOk, Except.toBool]
      intro same
      -- the token has one use more than before
      have counted := congrArg (fun w => (w.tokens.lookup key).map EnrollmentToken.usedCount) same
      simp [lookup_updateRow, found] at counted

/-- A failed certificate enrolment costs nothing exactly when no agent is enrolled whose request
is then not signed. -/
theorem enrollDevice_costs_nothing_iff (ca : Option String) (req : EnrollDeviceCertificateRequest)
    (choices : Nat → Choice) (world : World) :
    (∀ err, ((enrollDevice ca req).eval exec choices world).1 = .error err →
        ((enrollDevice ca req).eval exec choices world).2 = world) ↔
      ¬ (ca.isSome ∧ (enrollAgent world (choices 0) req.toEnrollAgentRequest).1.isOk ∧
        (choices 1).failure.isSome) := by
  have same := enrollAgent_same_iff world (choices 0) req.toEnrollAgentRequest
  cases ca with
  | none => exact iff_of_true (fun _ _ => rfl) (by simp)
  | some cert =>
    simp only [enrollDevice, eval_call, exec]
    cases outcome : (enrollAgent world (choices 0) req.toEnrollAgentRequest).1 with
    | error err =>
      rw [outcome] at same
      exact iff_of_true (fun _ _ => same.mpr rfl) (by simp [Except.isOk, Except.toBool])
    | ok agent =>
      rw [outcome] at same
      cases signed : (choices 1).failure with
      | none =>
        simp only [eval_call, exec, Nat.zero_add, signed]
        exact iff_of_true nofun (by simp)
      | some err =>
        simp [eval_call, exec, signed]
        refine iff_of_false (fun kept => ?_) (by simp [Except.isOk, Except.toBool])
        cases same.mp (kept err rfl)

/-- A token for one device, and a certificate request that cannot be signed. -/
theorem unsigned_request_uses_token : ∃ err,
    let ended := (enrollDevice (some "ca") ⟨demoDevice, "", 0⟩).eval exec
      (fun n => if n = 0 then demoChoice 3 3 else { demoChoice 3 3 with failure := some "CSR" })
      (run (step exec (handle (some "ca"))) (initial emptyWorld) (demoSteps.take 3)).world
    ended.1 = .error err ∧
      (ended.2.tokens.lookup "etk-0202020202020202").map EnrollmentToken.usedCount = some 1 := by
  exact ⟨"CSR", by decide +kernel⟩

end ManagementPlane.Security.Enrollment
