import ManagementPlane.Lib.Alone
import ManagementPlane.Sso.Authorize

/-!
# State values are used once

Every callback that gets past the validation of its state has taken an entry that one
`Authorize` request has put there, no other callback has taken that entry, and the callback
works with what the entry records. This holds in every interleaving of `Authorize`,
`CallbackRedirect`, `Callback` and the clean-up loop, whatever the clock and the random
source deliver.
-/

namespace ManagementPlane.Sso

open GoStrings Interleave Runs Tables List
open Policy (Time minute)

abbrev HandlerEvent := Event Op Op.Ans

/-- The callback has taken the entry of its state and found it young enough. -/
def Validated (req : CallbackRequest) (pending : PendingAuth) (past : List HandlerEvent) : Prop :=
  ∃ now rest, past = ⟨.takePending req.state, some pending⟩ :: ⟨.now, now⟩ :: rest ∧
    now - pending.createdAt ≤ 10 * minute

def Follows (req : CallbackRequest) (pending : PendingAuth) (past : List HandlerEvent) : Op → Prop
  | .takePending _ => False
  | .getIdP id => id = pending.idpID
  | .exchangeCode idp _ code redirectURI =>
    ⟨.getIdP pending.idpID, some idp⟩ ∈ past ∧ code = req.code ∧
      redirectURI = pending.callbackURI
  | .validateOIDCToken idp _ => ⟨.getIdP pending.idpID, some idp⟩ ∈ past
  | _ => True

def CallbackGuard (req : CallbackRequest) (past : List HandlerEvent) (op : Op) : Prop :=
  (past = [] ∧ op = .takePending req.state) ∨
    (∃ pending, past = [⟨.takePending req.state, some pending⟩] ∧ op = .now) ∨
    ∃ pending, Validated req pending past ∧ Follows req pending past op

/-- The operations at the end of a login, when the user is known to the identity provider. -/
def Op.endsLogin : Op → Bool
  | .takePending _ => false
  | .getIdP _ => false
  | .exchangeCode .. => false
  | .validateOIDCToken .. => false
  | _ => true

def LoginEnd (op : Op) : Prop := op.endsLogin = true

section

attribute [local simp] forall_except Option.forall LoginEnd Op.endsLogin

theorem calls_portalLogin (env : Env) (idp : IdPConfig) (subject email : String) :
    Calls LoginEnd (portalLogin env idp subject email) := by
  have finds : Calls LoginEnd
      (findAndLinkProvisionedClientUser idp.providerType subject email idp.orgID) := by
    simp [findAndLinkProvisionedClientUser]
  have issues : ∀ user, Calls LoginEnd (issuePortalToken user) := by
    simp [issuePortalToken]
  simp [portalLogin, finds, issues]

theorem calls_administratorLogin (req : CallbackRequest) (idp : IdPConfig)
    (subject email name : String) :
    Calls LoginEnd (administratorLogin req idp subject email name) := by
  have resolves : Calls LoginEnd (resolveOrgID idp.orgID) := by simp [resolveOrgID]
  have provisions : Calls LoginEnd
      (autoProvisionUser idp.providerType subject email name idp.orgID) := by
    simp [autoProvisionUser, resolves]
  have issues : ∀ user, Calls LoginEnd (issueIfActive req user) := by
    simp [issueIfActive, issueTokens, generateAccessToken, generateRefreshToken]
  simp [administratorLogin, findOrCreateOAuthUser, provisions, issues]

end

variable {pending : PendingAuth} {req : CallbackRequest}

theorem Validated.mono
    {past now : List HandlerEvent} (validated : Validated req pending past) (later : past <+: now) :
    Validated req pending now := by
  obtain ⟨read, rest, rfl, young⟩ := validated
  obtain ⟨more, rfl⟩ := later
  exact ⟨read, rest ++ more, rfl, young⟩

theorem keeps_of_endsLogin
    {past : List HandlerEvent} (validated : Validated req pending past) {p : Handled Reply}
    (ends : Calls LoginEnd p) : Keeps (CallbackGuard req) (fun _ _ => True) p past := by
  refine keeps_mono ?_ (fun _ _ _ => trivial) p past (keeps_from (keeps_of_calls ends past))
  intro now op guarded
  refine .inr (.inr ⟨pending, validated.mono guarded.1, ?_⟩)
  have isEnd := guarded.2
  cases op with
  | takePending state | getIdP id | exchangeCode idp tokenEndpoint code redirectURI
  | validateOIDCToken idp idToken => cases isEnd
  | _ => trivial

theorem keeps_callback (env : Env) (req : CallbackRequest) :
    Keeps (CallbackGuard req) (fun _ _ => True) (callback env req) [] := by
  refine keeps_check trivial fun _ => keeps_call.mpr ⟨.inl ⟨rfl, rfl⟩, ?_⟩
  intro taken
  cases taken with
  | none => trivial
  | some pending =>
    refine keeps_call.mpr ⟨.inr (.inl ⟨pending, rfl, rfl⟩), fun now => ?_⟩
    refine keeps_check trivial fun young => ?_
    have validated : ∀ rest, Validated req pending
        (⟨.takePending req.state, some pending⟩ :: ⟨.now, now⟩ :: rest) :=
      fun rest => ⟨now, rest, rfl, Int.not_lt.mp young⟩
    refine keeps_call.mpr ⟨.inr (.inr ⟨pending, validated [], rfl⟩), ?_⟩
    intro found
    cases found with
    | none => trivial
    | some idp =>
      refine keeps_check trivial fun _ => keeps_call.mpr
        ⟨.inr (.inr ⟨pending, validated _, by simp [Follows]⟩), fun exchanged => ?_⟩
      cases exchanged with
      | error err => trivial
      | ok idToken =>
        refine keeps_call.mpr
          ⟨.inr (.inr ⟨pending, validated _, by simp [Follows]⟩), fun checked => ?_⟩
        cases checked with
        | error err => trivial
        | ok claims =>
          refine keeps_check trivial fun _ => ?_
          grind [keeps_of_endsLogin, calls_portalLogin, calls_administratorLogin]

def widen (event : HandlerEvent) : LoginEvent := ⟨.handler event.op, event.ans⟩

def storeEvent (state : String) (pending : PendingAuth) : LoginEvent :=
  ⟨.storePending state pending.idpID pending.redirectURI pending.callbackURI pending.audience,
    pending.createdAt⟩

def takeEvent (state : String) (pending : PendingAuth) : LoginEvent :=
  ⟨.handler (.takePending state), some pending⟩

def AuthorizeGuard (site : Site) (req : AuthorizeRequest) (past : List LoginEvent) : LoginOp → Prop
  | .handler op => op = .getIdP req.idpID
  | .drawState => True
  | .storePending _ idpID _ callbackURI _ =>
    (∀ state pending, storeEvent state pending ∉ past) ∧ idpID = req.idpID ∧
      callbackURI = callbackURL site req
  | _ => False

def LoginGuard (site : Site) : LoginRequest → List LoginEvent → LoginOp → Prop
  | .authorize req, past, op => AuthorizeGuard site req past op
  | .callbackRedirect _ state, _, op => op = .readPending state ∨ op = .handler .now
  | .callback req, past, op => ∃ before handled, past = before.map widen ∧
      op = .handler handled ∧ CallbackGuard req before handled
  | .cleanup, _, op => op = .sweep

/-- `Authorize` answers with the state under which it has put an entry. -/
def LoginPost : LoginRequest → List LoginEvent → LoginReply → Prop
  | .authorize _, past, .authorization _ state => ∃ pending, storeEvent state pending ∈ past
  | _, _, _ => True

theorem keeps_authorize (site : Site) (req : AuthorizeRequest) :
    Keeps (LoginGuard site (.authorize req)) (LoginPost (.authorize req)) (authorize site req)
      [] := by
  refine keeps_call.mpr ⟨rfl, fun found => ?_⟩
  cases found with
  | none => trivial
  | some idp =>
    refine keeps_check trivial fun _ => keeps_check trivial fun _ => ?_
    refine keeps_call.mpr ⟨trivial, fun drawn => ?_⟩
    cases drawn with
    | error err => trivial
    | ok state =>
      refine keeps_call.mpr ⟨⟨?_, rfl, rfl⟩, fun createdAt => ?_⟩
      · intro other pending member
        simp [storeEvent] at member
      · refine ⟨⟨req.idpID, redirectURI site req, callbackURL site req, trimSpace req.audience,
          createdAt⟩, ?_⟩
        simp [storeEvent]

theorem keeps_callbackRedirect (site : Site) (code state : String) :
    Keeps (LoginGuard site (.callbackRedirect code state))
      (LoginPost (.callbackRedirect code state)) (callbackRedirect site code state) [] := by
  refine keeps_check trivial fun _ => keeps_call.mpr ⟨.inl rfl, fun found => ?_⟩
  cases found with
  | none => trivial
  | some pending =>
    refine keeps_call.mpr ⟨.inr rfl, fun now => keeps_check trivial fun _ => ?_⟩
    cases site.setCodeAndState pending.redirectURI code state with
    | none | some location => trivial

theorem keeps_loginProgram (site : Site) (env : Env) (request : LoginRequest) :
    Keeps (LoginGuard site request) (LoginPost request) (loginProgram site env request) [] := by
  cases request with
  | authorize req => exact keeps_authorize site req
  | callbackRedirect code state => exact keeps_callbackRedirect site code state
  | callback req =>
    have lifted : Keeps (LoginGuard site (.callback req)) (fun _ _ => True)
        (onHandler (callback env req)) [] :=
      keeps_lift widen (fun _ _ => rfl) (fun past op guarded => ⟨past, op, rfl, rfl, guarded⟩)
        (fun _ _ _ => trivial) _ [] (keeps_callback env req)
    exact keeps_then lifted fun now reply _ _ => trivial
  | cleanup => exact ⟨rfl, fun _ => trivial⟩

/-! ## The pending map -/

section
variable (env : Env)

theorem insertUser_pending {world after : World} {id orgID email name provider subject : String}
    {now : Time}
    (inserted : insertUser env world id orgID email name provider subject now = .ok after) :
    after.pending = world.pending := by
  unfold insertUser at inserted
  split at inserted
  · cases inserted
  · obtain ⟨users, registered, ⟨⟩⟩ := bind_ok inserted
    rfl

theorem exec_pending (choice : Choice) (world : World) {op : Op}
    (other : ∀ state, op ≠ .takePending state) :
    (exec env choice world op).2.pending = world.pending := by
  have users : ∀ written : Except String (Accounts AdminDetails),
      (execute choice world () (writeUsers world written)).2.pending = world.pending := by
    intro written
    refine execute_keeps choice world () _ (fun after => after.pending = world.pending) rfl ?_
    grind [writeUsers_ok]
  have clientUsers : ∀ written : Except String (Accounts ClientDetails),
      (execute choice world () (writeClientUsers world written)).2.pending = world.pending := by
    intro written
    refine execute_keeps choice world () _ (fun after => after.pending = world.pending) rfl ?_
    grind [writeClientUsers_ok]
  cases op with
  | takePending state => exact absurd rfl (other state)
  | touchUser id | linkUser id provider subject => exact users _
  | touchClientUser id | linkClientUser id provider subject => exact clientUsers _
  | insertUser orgID email name provider subject =>
    exact execute_keeps choice world _ _ (fun after => after.pending = world.pending) rfl
      fun after inserted => insertUser_pending env inserted
  | insertSession session =>
    refine execute_keeps choice world () _ (fun after => after.pending = world.pending) rfl ?_
    intro after succeeded
    cases succeeded
    rfl
  | _ => rfl

/-- The event neither puts an entry nor takes one. -/
def LoginEvent.neutral : LoginEvent → Prop
  | ⟨.storePending .., _⟩ => False
  | ⟨.handler (.takePending _), some _⟩ => False
  | _ => True

theorem neutral_or (event : LoginEvent) : (∃ state pending, event = storeEvent state pending) ∨
    (∃ state pending, event = takeEvent state pending) ∨ event.neutral := by
  unfold LoginEvent.neutral
  split
  · rename_i state idpID redirectURI callbackURI audience createdAt
    exact .inl ⟨state, ⟨idpID, redirectURI, callbackURI, audience, createdAt⟩, rfl⟩
  · rename_i state pending
    exact .inr (.inl ⟨state, pending, rfl⟩)
  · exact .inr (.inr trivial)

variable {choice : LoginChoice}

theorem store_pending {world : World} {op : LoginOp} {state : String}
    (stored : (⟨op, (execLogin env choice world op).1⟩ : LoginEvent) = storeEvent state pending) :
    (execLogin env choice world op).2.pending = world.pending.insert state pending := by
  obtain ⟨rfl, createdAt⟩ :=
    (event_eq_iff (fun op => (execLogin env choice world op).1) op _ _).mp stored
  obtain ⟨idpID, redirectURI, callbackURI, audience, time⟩ := pending
  cases createdAt
  rfl

theorem take_pending {world : World} {op : LoginOp} {state : String}
    (took : (⟨op, (execLogin env choice world op).1⟩ : LoginEvent) = takeEvent state pending) :
    world.pending.lookup state = some pending ∧
      (execLogin env choice world op).2.pending = world.pending.erase state := by
  obtain ⟨rfl, found⟩ :=
    (event_eq_iff (fun op => (execLogin env choice world op).1) op _ _).mp took
  exact ⟨found, rfl⟩

theorem neutral_pending {world : World} {op : LoginOp} {state : String}
    (neutral : LoginEvent.neutral ⟨op, (execLogin env choice world op).1⟩)
    (found : (execLogin env choice world op).2.pending.lookup state = some pending) :
    world.pending.lookup state = some pending := by
  cases op with
  | storePending state idpID redirectURI callbackURI audience => exact neutral.elim
  | drawState | readPending read => exact found
  | sweep =>
    simp [execLogin, lookup_updateAll, Option.bind_eq_some_iff] at found
    grind
  | handler op =>
    by_cases takes : ∃ state, op = .takePending state
    · obtain ⟨taken, rfl⟩ := takes
      simp only [execLogin, exec, lookup_erase_if] at found
      split_ifs at found
      exact found
    · rw [execLogin, exec_pending env _ _ fun state same => takes ⟨state, same⟩] at found
      exact found

end

/-! ## The ledger

`holder` says who has put the entry that is under a state after a trace. Every entry that is
held or taken is the one of its holder. -/

abbrev LoginEntry := Nat × LoginEvent

def holder (trace : List LoginEntry) (state : String) : Option Nat :=
  trace.foldl (fun held entry =>
    match entry.2 with
    | ⟨.storePending other .., _⟩ => if other = state then some entry.1 else held
    | ⟨.handler (.takePending other), some _⟩ => if other = state then none else held
    | _ => held) none

section
variable {trace : List LoginEntry} {i : Nat} {state other : String} {pending : PendingAuth}

theorem holder_store : holder (trace ++ [(i, storeEvent other pending)]) state =
    if other = state then some i else holder trace state := by
  rw [holder, foldl_append]
  rfl

theorem holder_take : holder (trace ++ [(i, takeEvent other pending)]) state =
    if other = state then none else holder trace state := by
  rw [holder, foldl_append]
  rfl

theorem holder_neutral {event : LoginEvent} (neutral : event.neutral) :
    holder (trace ++ [(i, event)]) state = holder trace state := by
  rw [holder, foldl_append, foldl_cons, foldl_nil]
  unfold LoginEvent.neutral at neutral
  split at neutral
  · exact neutral.elim
  · exact neutral.elim
  · rfl

theorem holder_append {late : List LoginEntry} {j : Nat}
    (held : holder (trace ++ late) state = some j) :
    holder trace state = some j ∨ ∃ pending, (j, storeEvent state pending) ∈ late := by
  induction late using reverseRecOn with
  | nil => exact .inl (by rwa [append_nil] at held)
  | append_singleton late last ih =>
    obtain ⟨i, event⟩ := last
    rw [← append_assoc] at held
    have earlier : holder (trace ++ late) state = some j → holder trace state = some j ∨
        ∃ pending, (j, storeEvent state pending) ∈ late ++ [(i, event)] := by
      grind
    rcases neutral_or event with ⟨put, pending, rfl⟩ | ⟨taken, pending, rfl⟩ | neutral
    · grind [holder_store, mem_append_right, mem_singleton_self]
    · grind [holder_take]
    · rw [holder_neutral neutral] at held
      exact earlier held

end

section
variable (site : Site)

/-- The entry records what the `Authorize` request asked for. -/
def IssuedBy (asked : Nat → Option LoginRequest) (j : Nat) (pending : PendingAuth) : Prop :=
  ∃ req, asked j = some (.authorize req) ∧ pending.idpID = req.idpID ∧
    pending.callbackURI = callbackURL site req

structure Holds (asked : Nat → Option LoginRequest) (trace : List LoginEntry) (state : String)
    (pending : PendingAuth) (j : Nat) : Prop where
  held : holder trace state = some j
  stored : (j, storeEvent state pending) ∈ trace
  issued : IssuedBy site asked j pending

structure Ledger (asked : Nat → Option LoginRequest) (world : World) (trace : List LoginEntry) :
    Prop where
  held : ∀ state pending, world.pending.lookup state = some pending →
    ∃ j, Holds site asked trace state pending j
  taken : Stepwise (fun early entry => ∀ state pending, entry.2 = takeEvent state pending →
    ∃ j, Holds site asked early state pending j) trace

variable {site} {asked : Nat → Option LoginRequest} {world : World} {trace : List LoginEntry}

theorem Holds.concat {state : String} {j : Nat} {entry : LoginEntry}
    (holds : Holds site asked trace state pending j)
    (same : holder (trace ++ [entry]) state = holder trace state) :
    Holds site asked (trace ++ [entry]) state pending j :=
  ⟨same.trans holds.held, mem_append_left _ holds.stored, holds.issued⟩

theorem store_guard {request : LoginRequest} {past : List LoginEvent} {state : String}
    (guarded : LoginGuard site request past (storeEvent state pending).op) :
    ∃ req, request = .authorize req ∧ (∀ state pending, storeEvent state pending ∉ past) ∧
      pending.idpID = req.idpID ∧ pending.callbackURI = callbackURL site req := by
  cases request with
  | authorize req => exact ⟨req, rfl, guarded⟩
  | callbackRedirect code asked => rcases guarded with same | same <;> cases same
  | callback req =>
    obtain ⟨_, _, _, same, _⟩ := guarded
    cases same
  | cleanup => cases guarded

variable {env : Env} {i : Nat} {choice : LoginChoice} {request : LoginRequest} {op : LoginOp}

section
variable (calling : asked i = some request) (guarded : LoginGuard site request (past trace i) op)
  (ledger : Ledger site asked world trace)

include calling guarded ledger

theorem held_step {state : String}
    (found : (execLogin env choice world op).2.pending.lookup state = some pending) :
    ∃ j, Holds site asked (trace ++ [(i, ⟨op, (execLogin env choice world op).1⟩)]) state pending
      j := by
  rcases neutral_or ⟨op, (execLogin env choice world op).1⟩ with
    ⟨put, entry, stored⟩ | ⟨taken, entry, took⟩ | neutral
  · rw [store_pending env stored, lookup_insert_if] at found
    have opEq : op = (storeEvent put entry).op := congrArg Event.op stored
    rw [stored]
    split_ifs at found with here
    · cases found
      subst here
      rw [opEq] at guarded
      obtain ⟨req, rfl, _, fields⟩ := store_guard guarded
      exact ⟨i, by rw [holder_store, if_pos rfl],
        mem_append_right _ (mem_singleton_self _), req, calling, fields⟩
    · obtain ⟨j, holds⟩ := ledger.held state pending found
      exact ⟨j, holds.concat (by rw [holder_store, if_neg (Ne.symm here)])⟩
  · rw [(take_pending env took).2, lookup_erase_if] at found
    rw [took]
    split_ifs at found with here
    obtain ⟨j, holds⟩ := ledger.held state pending found
    exact ⟨j, holds.concat (by rw [holder_take, if_neg (Ne.symm here)])⟩
  · obtain ⟨j, holds⟩ := ledger.held state pending (neutral_pending env neutral found)
    exact ⟨j, holds.concat (holder_neutral neutral)⟩

theorem ledger_step :
    Ledger site asked (execLogin env choice world op).2
      (trace ++ [(i, ⟨op, (execLogin env choice world op).1⟩)]) where
  held := fun _ _ found => held_step calling guarded ledger found
  taken := by
    refine (stepwise_concat ..).mpr ⟨ledger.taken, ?_⟩
    intro state pending took
    exact ledger.held state pending (take_pending env took).1

end

theorem ledger_agree (site : Site) (asked other : Nat → Option LoginRequest) (world : World)
    (trace : List LoginEntry) (agree : ∀ entry ∈ trace, other entry.1 = asked entry.1)
    (ledger : Ledger site asked world trace) : Ledger site other world trace := by
  have still : ∀ early state pending j, early ⊆ trace →
      Holds site asked early state pending j → Holds site other early state pending j := by
    rintro early state pending j inside ⟨held, stored, req, isRequest, fields⟩
    exact ⟨held, stored, req, (agree _ (inside stored)).trans isRequest, fields⟩
  constructor
  · intro state pending found
    obtain ⟨j, holds⟩ := ledger.held state pending found
    exact ⟨j, still _ _ _ _ (List.Subset.refl _) holds⟩
  · intro early entry late split state pending took
    obtain ⟨j, holds⟩ := ledger.taken early entry late split state pending took
    grind

theorem ledger_reached {world : World} {actions : List LoginAction} :
    ∀ reached ∈ states (serveLogins site env) (newSSOHandler world) actions,
      Kept (LoginGuard site) LoginPost reached ∧
        Ledger site reached.requestAt reached.world reached.trace :=
  history_invariant (execLogin env)
    (keeps_loginProgram site env) (fun _ _ _ _ => True) (Ledger site) (ledger_agree site)
    (fun _ _ _ _ _ _ _ calling guarded _ ledger => ledger_step calling guarded ledger) _
    ⟨fun _ _ found => (by cases found), stepwise_nil _⟩ actions (fun _ _ _ _ _ _ _ _ _ => trivial)

end

/-! ## Callbacks that get past the validation -/

/-- The callback is past the validation of its state: it asks, or has asked, for its identity
provider. -/
def Proceeds (server : LoginServer) (i : Nat) (req : CallbackRequest) : Prop :=
  ∃ rest id, server.threads[i]? = some ⟨.callback req, rest⟩ ∧
    ((∃ next, rest = .call (.handler (.getIdP id)) next) ∨
      ∃ found, (i, ⟨.handler (.getIdP id), found⟩) ∈ server.trace)

/-- Callback `i` uses the entry that `Authorize` request `j` has put under its state. -/
structure UsesEntry (site : Site) (server : LoginServer) (i : Nat) (req : CallbackRequest) (j : Nat)
    (auth : AuthorizeRequest) (pending : PendingAuth) : Prop where
  issuer : server.requestAt j = some (.authorize auth)
  returned : ∀ url state,
    server.threads[j]? = some ⟨.authorize auth, .done (.authorization url state)⟩ → state = req.state
  order : ∃ early late, server.trace = early ++ late ∧
    (j, storeEvent req.state pending) ∈ early ∧ (i, takeEvent req.state pending) ∈ late
  inTime : ∃ now, (past server.trace i).take 2 =
      [takeEvent req.state pending, ⟨.handler .now, now⟩] ∧
    now - pending.createdAt ≤ 10 * minute
  provider : ∀ id found, (i, ⟨.handler (.getIdP id), found⟩) ∈ server.trace → id = auth.idpID
  exchange : ∀ idp tokenEndpoint code redirectURI answer,
    (i, ⟨.handler (.exchangeCode idp tokenEndpoint code redirectURI), answer⟩) ∈ server.trace →
    (i, ⟨.handler (.getIdP auth.idpID), some idp⟩) ∈ server.trace ∧ code = req.code ∧
      redirectURI = callbackURL site auth

def ValidatedPast (req : CallbackRequest) (pending : PendingAuth) (past : List LoginEvent) : Prop :=
  ∃ now rest, past = takeEvent req.state pending :: ⟨.handler .now, now⟩ :: rest ∧
    now - pending.createdAt ≤ 10 * minute

theorem ValidatedPast.unique {pending other : PendingAuth}
    {past now : List LoginEvent} (validated : ValidatedPast req pending past)
    (otherwise : ValidatedPast req other now) (earlier : past <+: now) : other = pending := by
  obtain ⟨read, rest, rfl, _⟩ := validated
  obtain ⟨otherRead, otherRest, rfl, _⟩ := otherwise
  obtain ⟨more, same⟩ := earlier
  have first := (List.cons.inj same).1
  simp [takeEvent, Event.mk.injEq] at first
  exact first.symm

theorem ValidatedPast.mono {past now : List LoginEvent} (validated : ValidatedPast req pending past)
    (later : past <+: now) : ValidatedPast req pending now := by
  obtain ⟨read, rest, rfl, young⟩ := validated
  obtain ⟨more, rfl⟩ := later
  exact ⟨read, rest ++ more, rfl, young⟩

theorem callback_guard {site : Site} {past : List LoginEvent} {op : Op}
    (guarded : LoginGuard site (.callback req) past (.handler op))
    (later : op.endsLogin = false) (notTake : ∀ state, op ≠ .takePending state) :
    ∃ pending before, past = before.map widen ∧ ValidatedPast req pending past ∧
      Follows req pending before op := by
  obtain ⟨before, handled, rfl, same, calls⟩ := guarded
  cases same
  rcases calls with ⟨_, takes⟩ | ⟨_, _, clock⟩ | ⟨pending, ⟨now, rest, rfl, young⟩, follows⟩
  · exact absurd takes (notTake _)
  · subst clock
    cases later
  · exact ⟨pending, _, rfl, ⟨now, rest.map widen, rfl, young⟩, follows⟩

theorem past_prefix (early late : List (Nat × LoginEvent)) (i : Nat) :
    past early i <+: past (early ++ late) i := by
  simp [past]

section
variable (site : Site) {server : LoginServer}
variable (kept : Kept (LoginGuard site) LoginPost server)
variable (guarded : ∀ early i event late, server.trace = early ++ (i, event) :: late →
  ∃ request, server.requestAt i = some request ∧ LoginGuard site request (past early i) event.op)

include guarded

theorem performed_follows {i : Nat} (asked : server.requestAt i = some (.callback req)) {op : Op}
    {ans : op.Ans} (later : op.endsLogin = false) (notTake : ∀ state, op ≠ .takePending state)
    (member : (i, (⟨.handler op, ans⟩ : LoginEvent)) ∈ server.trace) :
    ∃ pending before, before.map widen <+: past server.trace i ∧
      ValidatedPast req pending (past server.trace i) ∧ Follows req pending before op := by
  obtain ⟨early, late, split⟩ := append_of_mem member
  obtain ⟨request, found, guard⟩ := guarded early i _ late split
  rw [asked, Option.some.injEq] at found
  subst found
  obtain ⟨pending, before, same, validated, follows⟩ :=
    callback_guard guard later notTake
  have earlier : past early i <+: past server.trace i := by
    rw [split]
    exact past_prefix early _ i
  exact ⟨pending, before, same ▸ earlier, validated.mono earlier, follows⟩

include kept

theorem validated_of_proceeds {i : Nat} (proceeds : Proceeds server i req) :
    ∃ pending, ValidatedPast req pending (past server.trace i) := by
  obtain ⟨rest, id, found, ⟨next, rfl⟩ | ⟨answer, member⟩⟩ := proceeds
  · obtain ⟨pending, _, _, validated, _⟩ := callback_guard
      (kept.keeps i _ found).1 rfl (fun _ same => by cases same)
    exact ⟨pending, validated⟩
  · have asked : server.requestAt i = some (.callback req) := by rw [Pool.requestAt, found]; rfl
    obtain ⟨pending, _, _, validated, _⟩ := performed_follows site guarded asked rfl
      (fun _ same => by cases same) member
    exact ⟨pending, validated⟩

omit kept in
/-- An `Authorize` request puts one entry. -/
theorem fresh_store {early late : List LoginEntry} {j : Nat} {state : String}
    (split : server.trace = early ++ (j, storeEvent state pending) :: late) (other : String)
    (entry : PendingAuth) : (j, storeEvent other entry) ∉ early := by
  intro member
  grind [store_guard, mem_past_iff]

omit kept in
theorem store_once {j : Nat} {state other : String} {pending entry : PendingAuth}
    (first : (j, storeEvent state pending) ∈ server.trace)
    (second : (j, storeEvent other entry) ∈ server.trace) : state = other := by
  obtain ⟨early, late, split⟩ := append_of_mem first
  rw [split, mem_append, mem_cons] at second
  rcases second with before | same | after
  · exact absurd before (fresh_store site guarded split other entry)
  · exact (LoginOp.storePending.inj (congrArg (fun e => e.2.op) same)).1.symm
  · obtain ⟨mid, rest, rfl⟩ := append_of_mem after
    rw [← cons_append, ← append_assoc] at split
    exact absurd (mem_append_right _ mem_cons_self) (fresh_store site guarded split state pending)

omit kept in
/-- After a state is taken its holder is another request. -/
theorem taken_once {early mid late : List LoginEntry} {i j : Nat} {state : String}
    (split : server.trace = early ++ (i, takeEvent state pending) :: mid ++ late)
    (stored : (j, storeEvent state pending) ∈ early) :
    holder (early ++ (i, takeEvent state pending) :: mid) state ≠ some j := by
  intro held
  rw [← singleton_append, ← append_assoc] at held
  rcases holder_append held with before | ⟨entry, again⟩
  · rw [holder_take, if_pos rfl] at before
    cases before
  · obtain ⟨first, rest, rfl⟩ := append_of_mem again
    have splitAgain : server.trace = (early ++ (i, takeEvent state pending) :: first) ++
        (j, storeEvent state entry) :: (rest ++ late) := by
      simpa using split
    exact fresh_store site guarded splitAgain state pending (mem_append_left _ stored)

omit kept in
theorem holder_injective {early late earlier later : List LoginEntry} {i k j : Nat}
    {state other : String} {pending entry : PendingAuth}
    (split : server.trace = early ++ (i, takeEvent state pending) :: late)
    (splitOther : server.trace = earlier ++ (k, takeEvent other entry) :: later)
    (holds : Holds site server.requestAt early state pending j)
    (holdsOther : Holds site server.requestAt earlier other entry j) : i = k := by
  have stored : (j, storeEvent state pending) ∈ server.trace := by
    rw [split]
    exact mem_append_left _ holds.stored
  have storedOther : (j, storeEvent other entry) ∈ server.trace := by
    rw [splitOther]
    exact mem_append_left _ holdsOther.stored
  have same := store_once site guarded stored storedOther
  subst same
  rcases append_eq_append_iff.mp (split.symm.trans splitOther) with
    ⟨mid, rfl, rest⟩ | ⟨mid, rfl, rest⟩
  · cases mid with
    | nil => exact congrArg Prod.fst (List.cons.inj rest).1
    | cons first mid =>
      cases rest
      exact absurd holdsOther.held
        (taken_once site guarded (by simpa using splitOther) holds.stored)
  · cases mid with
    | nil => exact (congrArg Prod.fst (List.cons.inj rest).1).symm
    | cons first mid =>
      cases rest
      exact absurd holds.held (taken_once site guarded (by simpa using split) holdsOther.stored)

/-- A callback that proceeds uses the entry it has taken. -/
theorem usesEntry_of_holds {i j : Nat}
    {early late : List LoginEntry} (asked : server.requestAt i = some (.callback req))
    (validated : ValidatedPast req pending (past server.trace i))
    (split : server.trace = early ++ (i, takeEvent req.state pending) :: late)
    (holds : Holds site server.requestAt early req.state pending j) :
    ∃ auth, UsesEntry site server i req j auth pending := by
  obtain ⟨_, stored, auth, issuer, sameIdP, sameURI⟩ := holds
  have unique : ∀ other, ValidatedPast req other (past server.trace i) → other = pending :=
    fun other otherwise => validated.unique otherwise prefix_rfl
  refine ⟨auth, issuer, ?_, ⟨early, _, split, stored, mem_cons_self⟩, ?_, ?_, ?_⟩
  · intro url state finished
    obtain ⟨answered, storedThen⟩ : ∃ answered, storeEvent state answered ∈ past server.trace j :=
      kept.keeps j _ finished
    have storedHere : (j, storeEvent req.state pending) ∈ server.trace := by
      rw [split]
      exact mem_append_left _ stored
    exact store_once site guarded (mem_past_iff.mp storedThen) storedHere
  · obtain ⟨now, rest, same, young⟩ := validated
    exact ⟨now, by rw [same]; rfl, young⟩
  · intro id found member
    obtain ⟨other, _, _, otherwise, follows⟩ :=
      performed_follows site guarded asked rfl (fun _ same => by cases same) member
    rw [unique other otherwise] at follows
    exact follows.trans sameIdP
  · intro idp tokenEndpoint code uri answer member
    obtain ⟨other, before, earlier, otherwise, asksIdP, sameCode, uriEq⟩ :=
      performed_follows site guarded asked rfl (fun _ same => by cases same) member
    rw [unique other otherwise] at asksIdP uriEq
    rw [← sameIdP, ← sameURI]
    refine ⟨?_, sameCode, uriEq⟩
    rw [← mem_past_iff]
    exact earlier.subset (mem_map_of_mem asksIdP)

end

/-- In every interleaving of authorizations, redirects, callbacks and clean-ups, the callbacks
that get past the validation of their state are matched one to one with `Authorize` requests:
each uses the entry that its request has put under that very state, at most ten minutes old. -/
theorem sso_states_used_once (site : Site) (env : Env) (world : World)
    (actions : List LoginAction) :
    ∀ reached ∈ states (serveLogins site env) (newSSOHandler world) actions, ∃ origin : Nat → Nat,
        (∀ i j req other, Proceeds reached i req → Proceeds reached j other →
          origin i = origin j → i = j) ∧
        ∀ i req, Proceeds reached i req →
          ∃ auth pending, UsesEntry site reached i req (origin i) auth pending := by
  intro reached member
  obtain ⟨kept, ledger⟩ := ledger_reached reached member
  have guarded := pool_guarded (execLogin env)
    (keeps_loginProgram site env) _ actions reached member
  have origins : ∀ i, ∃ j, ∀ req, Proceeds reached i req → ∃ pending early late,
      ValidatedPast req pending (past reached.trace i) ∧
        reached.trace = early ++ (i, takeEvent req.state pending) :: late ∧
        Holds site reached.requestAt early req.state pending j := by
    intro i
    by_cases some : ∃ req, Proceeds reached i req
    · obtain ⟨req, proceeds⟩ := some
      obtain ⟨pending, now, rest, same, young⟩ := validated_of_proceeds site kept guarded proceeds
      have taken : (i, takeEvent req.state pending) ∈ reached.trace := by
        rw [← mem_past_iff, same]
        exact mem_cons_self
      obtain ⟨early, late, split⟩ := append_of_mem taken
      obtain ⟨j, holds⟩ := ledger.taken early _ late split req.state pending rfl
      refine ⟨j, fun other proceedsOther => ?_⟩
      obtain ⟨_, _, found, _⟩ := proceeds
      obtain ⟨_, _, foundOther, _⟩ := proceedsOther
      cases found.symm.trans foundOther
      exact ⟨pending, early, late, ⟨now, rest, same, young⟩, split, holds⟩
    · exact ⟨0, fun req proceeds => absurd ⟨req, proceeds⟩ some⟩
  choose origin uses using origins
  refine ⟨origin, ?_, ?_⟩
  · grind [holder_injective]
  · intro i req proceeds
    obtain ⟨pending, early, late, validated, split, holds⟩ := uses i req proceeds
    obtain ⟨rest, id, found, _⟩ := proceeds
    have asked : reached.requestAt i = some (.callback req) := by rw [Pool.requestAt, found]; rfl
    obtain ⟨auth, entry⟩ := usesEntry_of_holds site kept guarded asked validated split holds
    exact ⟨auth, pending, entry⟩

def cloudSite : Site where
  publicAPIURLs := []
  deployMode := "cloud"
  webUIPublicURL := ""
  userPortalLoginURL := ""
  desktopLoginCallbackURL := ""
  scopes := fun _ => []
  queryEscape := fun text => text
  setCodeAndState := fun _ _ _ => none

def oneProvider : World where
  pending := ∅
  idps := (∅ : Table String IdPConfig).insert "okta-1"
    { id := "okta-1"
      orgID := "org-1"
      providerType := "okta"
      enabled := true
      clientID := "client"
      issuerURL := "https://idp.example"
      tokenEndpoint := ""
      scimEnabled := false }
  organizations := ["org-1"]
  users := .empty
  clientUsers := .empty
  loginSessions := []

/-- One authorization, and two callbacks that present its state at the same time. -/
def twoCallbacks : List LoginAction :=
  let presents := LoginRequest.callback { code := "code", state := drawnState {} }
  [.spawn (.authorize { idpID := "okta-1" }), .step 0 {}, .step 0 {}, .step 0 {}, .spawn presents,
    .spawn presents, .step 1 {}, .step 2 {}, .step 1 {}, .step 2 {}, .step 1 {}, .step 2 {}]

def LoginEvent.asksProvider : LoginEvent → Bool
  | ⟨.handler (.getIdP _), _⟩ => true
  | _ => false

def twoCallbacksServed : LoginServer :=
  run (serveLogins cloudSite ⟨fun _ => true, toLower, "secret", true⟩) (newSSOHandler oneProvider)
    twoCallbacks

/-- The second callback does not get to the identity provider, the first one does. -/
theorem one_of_two_callbacks :
    (twoCallbacksServed.trace.filter fun entry => LoginEvent.asksProvider entry.2).map Prod.fst =
        [0, 1] ∧
      ∃ origin : Nat → Nat,
        (∀ i j req other, Proceeds twoCallbacksServed i req → Proceeds twoCallbacksServed j other →
          origin i = origin j → i = j) ∧
        ∀ i req, Proceeds twoCallbacksServed i req →
          ∃ auth pending, UsesEntry cloudSite twoCallbacksServed i req (origin i) auth pending := by
  refine ⟨by decide +kernel, ?_⟩
  exact sso_states_used_once cloudSite ⟨fun _ => true, toLower, "secret", true⟩ oneProvider
    twoCallbacks twoCallbacksServed run_mem_states

end ManagementPlane.Sso
