import ManagementPlane.Dot1x.Authenticator

/-!
# Sessions of accepted supplicants

Whether every accepted supplicant has a session of its own depends on the id alone: the ids of two
authentications are equal exactly when the joined texts of switch and port and the milliseconds
are. Without such a pair no call touches a session other than the one it names.

Ending a session only writes its state. `Authorize` does not read it, and a start record writes it
back, so a session stays ended exactly while neither comes.
-/

namespace ManagementPlane.Dot1x

open GoBinary Policy Tables List Option

def reach (env : Env) (inputs : List Input) : Authenticator :=
  Runs.run (step env) newAuthenticator inputs

theorem reach_concat (env : Env) (inputs : List Input) (input : Input) :
    reach env (inputs ++ [input]) = step env (reach env inputs) input :=
  Runs.run_concat ..

def Login.milli (login : Login) : Int :=
  unixMilli (sessionClock login.choice login.request 0)

def signOf (n : Int) : Bytes := if n < 0 then text "-" else []

/-- What the id tells of an authentication; before 1970 a hyphen is the sign of the millisecond. -/
def Login.mark (login : Login) : Bytes × Nat :=
  (login.request.switchID ++ text "-" ++ login.request.portID ++ signOf login.milli,
    login.milli.natAbs)

theorem text_hyphen : text "-" = [45] := by decide

theorem hyphen_signedDecimal (n : Int) :
    text "-" ++ signedDecimal n = signOf n ++ 45 :: decimal n.natAbs := by
  rw [text_hyphen]
  cases n with
  | ofNat n =>
    have positive : ¬ Int.ofNat n < 0 := by simp
    rw [signOf, if_neg positive]
    rfl
  | negSucc n =>
    have negative : Int.negSucc n < 0 := Int.negSucc_lt_zero n
    rw [signOf, if_pos negative, text_hyphen]
    rfl

theorem session_id_eq (login : Login) :
    login.session.id = text "dot1x-" ++ login.mark.1 ++ 45 :: decimal login.mark.2 := by
  have tail := hyphen_signedDecimal login.milli
  change text "dot1x-" ++ login.request.switchID ++ text "-" ++ login.request.portID ++ text "-" ++
    signedDecimal login.milli = _
  simp [Login.mark] at tail ⊢
  rw [tail]

/-! ## Accepted supplicants -/

section
variable (env : Env)

def logins (inputs : List Input) : List Login :=
  (Runs.visits (step env) newAuthenticator inputs).filterMap fun visit =>
    accepted env visit.1 visit.2

theorem logins_concat (inputs : List Input) (input : Input) :
    logins env (inputs ++ [input]) =
      logins env inputs ++ (accepted env (reach env inputs) input).toList := by
  rw [logins, Runs.visits_concat, filterMap_append, filterMap_cons, filterMap_nil]
  simp [reach]
  cases accepted env _ input <;> rfl

theorem logins_append (before after : List Input) :
    (logins env before).Sublist (logins env (before ++ after)) := by
  rw [logins, logins, Runs.visits_append, filterMap_append]
  exact sublist_append_left ..

theorem logins_named {inputs : List Input} {login : Login} (member : login ∈ logins env inputs) :
    login.response.sessionID = login.session.id := by
  obtain ⟨visit, _, successful⟩ := mem_filterMap.mp member
  cases step_sessions env visit.1 visit.2 with
  | added other otherSuccessful untargeted named success lookup =>
    grind
  | changed unsuccessful lookup =>
    rw [unsuccessful] at successful
    cases successful

theorem logins_ids (inputs : List Input) :
    ((logins env inputs).Pairwise fun x y => x.response.sessionID ≠ y.response.sessionID) ↔
      (logins env inputs).Pairwise fun x y => x.mark ≠ y.mark := by
  apply List.Pairwise.iff_of_mem
  intro x y memberX memberY
  have parts := append_last_inj 45 (text "dot1x-" ++ x.mark.1) (text "dot1x-" ++ y.mark.1) _ _
    (hyphen_not_mem_decimal x.mark.2) (hyphen_not_mem_decimal y.mark.2)
  rw [logins_named env memberX, logins_named env memberY, session_id_eq, session_id_eq, ne_eq, parts,
    append_cancel_left_eq, decimal_injective.eq_iff, ne_eq, Prod.ext_iff]

/-- The id of an authentication is mapped to its user, MAC address and organization. -/
def Mapped (a : Authenticator) (login : Login) : Prop :=
  ∃ sess, getSession a login.response.sessionID = some sess ∧
    sess.username = login.response.username ∧
    sess.macAddress = normalizeMAC login.request.macAddress ∧
    sess.orgID = login.request.orgID

/-- A call about the session of the first leaves the session of the second alone. -/
def Spares (a : Authenticator) (input : Input) (x y : Login) : Prop :=
  input.call.target = some x.response.sessionID →
    getSession (step env a input) y.response.sessionID = getSession a y.response.sessionID

/-- Every accepted supplicant has a session of its own, all along the run. -/
structure OwnSessions (inputs : List Input) : Prop where
  distinct : (logins env inputs).Pairwise fun x y => x.response.sessionID ≠ y.response.sessionID
  mapped : ∀ before after, inputs = before ++ after → ∀ login ∈ logins env before,
    Mapped (reach env before) login
  separate : ∀ before input after, inputs = before ++ input :: after →
    (logins env before).Pairwise fun x y =>
      Spares env (reach env before) input x y ∧ Spares env (reach env before) input y x

theorem step_getSession_of_ne (a : Authenticator) (input : Input) (id : Bytes)
    (elsewhere : input.call.target ≠ some id)
    (other : ∀ login, accepted env a input = some login → login.session.id ≠ id) :
    getSession (step env a input) id = getSession a id := by
  cases step_sessions env a input with
  | added login successful untargeted named success lookup =>
    exact (lookup id).trans (if_neg (other login successful).symm)
  | changed unsuccessful lookup => exact (lookup id).trans (if_neg elsewhere)

theorem spares_of_ne (a : Authenticator) (input : Input) {x y : Login}
    (different : x.response.sessionID ≠ y.response.sessionID) : Spares env a input x y := by
  intro targeted
  apply step_getSession_of_ne
  · rwa [targeted, ne_eq, some.injEq]
  · intro login successful
    cases step_sessions env a input with
    | added other otherSuccessful untargeted named success lookup =>
      rw [targeted] at untargeted
      cases untargeted
    | changed unsuccessful lookup =>
      rw [unsuccessful] at successful
      cases successful

theorem mapped_step {a : Authenticator} {input : Input} {login : Login} (mapped : Mapped a login)
    (other : ∀ next, accepted env a input = some next →
      login.response.sessionID ≠ next.session.id) : Mapped (step env a input) login := by
  obtain ⟨sess, found, owner⟩ := mapped
  cases step_sessions env a input with
  | added next successful untargeted named success lookup =>
    refine ⟨sess, ?_, owner⟩
    exact ((lookup _).trans (if_neg (other next successful))).trans found
  | changed unsuccessful lookup =>
    by_cases targeted : input.call.target = some login.response.sessionID
    · obtain ⟨sameUser, sameMAC, sameOrg⟩ := change_owner input sess
      refine ⟨input.change sess, ?_, ?_⟩
      · refine ((lookup _).trans (if_pos targeted)).trans ?_
        change (getSession a _).map _ = _
        rw [found, map_some]
      · rwa [sameUser, sameMAC, sameOrg]
    · exact ⟨sess, ((lookup _).trans (if_neg targeted)).trans found, owner⟩

theorem mapped_run {inputs : List Input} (distinct : (logins env inputs).Pairwise fun x y =>
      x.response.sessionID ≠ y.response.sessionID) :
    ∀ login ∈ logins env inputs, Mapped (reach env inputs) login := by
  induction inputs using reverseRecOn with
  | nil =>
    intro login member
    cases member
  | append_singleton inputs input ih =>
    rw [logins_concat, pairwise_append] at distinct
    obtain ⟨before, _, across⟩ := distinct
    rw [logins_concat, reach_concat]
    intro login member
    rcases mem_append.mp member with earlier | now
    · apply mapped_step env (ih before login earlier)
      intro next successful
      have listed : next ∈ logins env (inputs ++ [input]) := by
        rw [logins_concat, successful]
        simp
      rw [← logins_named env listed]
      exact across login earlier next (by rw [successful]; simp)
    · have successful : accepted env (reach env inputs) input = some login := by simpa using now
      cases step_sessions env (reach env inputs) input with
      | added other otherSuccessful untargeted named success lookup =>
        rw [successful] at otherSuccessful
        cases otherSuccessful
        exact ⟨login.session, by rw [named, getSession, lookup, if_pos rfl], rfl, rfl, rfl⟩
      | changed unsuccessful lookup =>
        rw [unsuccessful] at successful
        cases successful

/-- Supplicants have sessions of their own exactly when no two are accepted in one millisecond with
one joined text of switch and port. -/
theorem own_sessions_iff (inputs : List Input) :
    OwnSessions env inputs ↔ (logins env inputs).Pairwise fun x y => x.mark ≠ y.mark := by
  rw [← logins_ids]
  constructor
  · intro own
    exact own.distinct
  · intro distinct
    refine ⟨distinct, ?_, ?_⟩
    · grind [mapped_run, logins_append]
    · rintro before input after rfl
      apply (distinct.sublist (logins_append env before _)).imp
      grind [spares_of_ne]

end

/-- Certificates whose raw bytes are the common name, and no user store, as the server starts. -/
def demoEnv : Env where
  decodePEM := some
  encodePEM := id
  parseCertificate := fun raw => some ⟨0, 4000000000000000000, raw⟩
  hasUsers := false

def demoChoice (milli : Int) : Choice where
  clock := fun n => milli * 1000000 + n

def demoDecide (name mac : Bytes) : Input where
  call := .decide ⟨name, name, []⟩ (text "ap-7") mac (text "acme")
  choice := demoChoice 1700000000000

/-- Two devices behind one access point, accepted in one millisecond. -/
def demoRoaming : List Input :=
  [demoDecide (text "alice") (text "00:11:22:33:44:55"),
   demoDecide (text "bob") (text "66-77-88-99-AA-BB")]

/-- Both have the same session id, and the session is the second device's. -/
theorem roaming_session_shared :
    (logins demoEnv demoRoaming).map (fun login => login.response.username) =
        [text "alice", text "bob"] ∧
      (∀ login ∈ logins demoEnv demoRoaming,
        login.response.sessionID = text "dot1x-ap-7-radsec-1700000000000" ∧
          (getSession (reach demoEnv demoRoaming) login.response.sessionID).map
            (fun sess => (sess.username, sess.macAddress)) =
              some (text "bob", text "66:77:88:99:aa:bb")) ∧
      ¬ OwnSessions demoEnv demoRoaming := by
  have shared : ∀ login ∈ logins demoEnv demoRoaming,
      login.response.sessionID = text "dot1x-ap-7-radsec-1700000000000" ∧
        (getSession (reach demoEnv demoRoaming) login.response.sessionID).map
          (fun sess => (sess.username, sess.macAddress)) =
            some (text "bob", text "66:77:88:99:aa:bb") := by decide
  refine ⟨by decide, shared, ?_⟩
  intro own
  have distinct := own.distinct
  revert distinct
  decide

section
variable (env : Env)

def stateOf (a : Authenticator) (id : Bytes) : Option SessionState :=
  (getSession a id).map Session.state

/-- The call ends an existing session: a disconnection or a stop record. -/
def Ends (a : Authenticator) (input : Input) (id : Bytes) : Prop :=
  (getSession a id).isSome ∧
    match input.call with
    | .disconnectSession name => name = id
    | .recordAccounting req => req.sessionID = id ∧ req.type = .stop
    | _ => False

/-- Authorization is refused, and an accounting record does not bring the state back. -/
def Respects (a : Authenticator) (input : Input) (id : Bytes) : Prop :=
  match input.call with
  | .authorize req =>
    req.sessionID = id → ∃ resp, authorize env a input.choice req = some resp ∧ resp.allowed = false
  | .recordAccounting req =>
    req.sessionID = id → stateOf (step env a input) id = some .authenticated →
      stateOf a id = some .authenticated
  | _ => True

/-- No authorization is asked for, and no start record comes while the state is not authenticated. -/
def Avoids (a : Authenticator) (input : Input) (id : Bytes) : Prop :=
  match input.call with
  | .authorize req => req.sessionID ≠ id
  | .recordAccounting req =>
    req.sessionID = id → req.type = .start → stateOf a id = some .authenticated
  | _ => True

def AfterEnd (inputs : List Input) (id : Bytes) (P : Authenticator → Input → Prop) : Prop :=
  ∀ before ending later input after, inputs = before ++ ending :: (later ++ input :: after) →
    Ends (reach env before) ending id → P (reach env (before ++ ending :: later)) input

theorem foldl_applyGroup_allowed (groups : List Bytes) (resp : AuthzResponse) :
    (groups.foldl applyGroup resp).allowed = resp.allowed := by
  induction groups generalizing resp with
  | nil => rfl
  | cons group rest ih =>
    rw [foldl_cons, ih]
    unfold applyGroup
    split_ifs <;> rfl

theorem authorize_present {a : Authenticator} {choice : Choice} {req : AuthzRequest}
    {resp : AuthzResponse} (present : (getSession a req.sessionID).isSome)
    (answered : authorize env a choice req = some resp) : resp.allowed = true := by
  obtain ⟨sess, found⟩ := isSome_iff_exists.mp present
  change a.sessions.lookup req.sessionID = some sess at found
  rw [authorize, found] at answered
  grind [foldl_applyGroup_allowed]

variable (a : Authenticator)

theorem stateOf_recordAccounting (choice : Choice) (req : AcctRequest) :
    stateOf (step env a ⟨.recordAccounting req, choice⟩) req.sessionID =
      (getSession a req.sessionID).map fun sess => (account (choice.clock 0) req sess).state := by
  have row := lookup_updateRow req.sessionID (account (choice.clock 0) req) a.sessions req.sessionID
  rw [if_pos rfl] at row
  change Option.map Session.state (AList.lookup _ (updateRow ..)) = _
  rw [row, Option.map_map]
  rfl

theorem account_authenticated_iff (now : Time) (req : AcctRequest) (sess : Session) :
    (account now req sess).state = .authenticated ↔
      req.type = .start ∨ req.type ≠ .stop ∧ sess.state = .authenticated := by
  unfold account
  cases req.type <;> simp

theorem respects_iff (input : Input) (id : Bytes)
    (present : (getSession a id).isSome) : Respects env a input id ↔ Avoids a input id := by
  obtain ⟨call, choice⟩ := input
  cases call with
  | authorize req =>
    simp [Respects, Avoids]
    grind [authorize_present]
  | recordAccounting req =>
    simp [Respects, Avoids]
    apply imp_congr_right
    rintro rfl
    obtain ⟨sess, found⟩ := isSome_iff_exists.mp present
    rw [stateOf_recordAccounting, stateOf, found]
    simp [account_authenticated_iff]
    tauto
  | _ => exact Iff.rfl

theorem run_isSome (inputs : List Input) (id : Bytes) (present : (getSession a id).isSome) :
    (getSession (Runs.run (step env) a inputs) id).isSome := by
  induction inputs generalizing a with
  | nil => exact present
  | cons input rest ih => exact ih _ (step_isSome env a input id present)

/-- A session stays ended exactly when no authorization is asked for it afterwards and no start
record comes for it while it is disconnected. -/
theorem ended_sessions_iff (inputs : List Input) (id : Bytes) :
    AfterEnd env inputs id (fun a input => Respects env a input id) ↔
      AfterEnd env inputs id (fun a input => Avoids a input id) := by
  have pointwise : ∀ before ending later input, Ends (reach env before) ending id →
      (Respects env (reach env (before ++ ending :: later)) input id ↔
        Avoids (reach env (before ++ ending :: later)) input id) := by
    intro before ending later input ended
    apply respects_iff
    rw [reach, Runs.run_append]
    exact run_isSome env _ _ id ended.1
  constructor
  · intro respected before ending later input after split ended
    exact (pointwise before ending later input ended).mp
      (respected before ending later input after split ended)
  · intro avoided before ending later input after split ended
    exact (pointwise before ending later input ended).mpr
      (avoided before ending later input after split ended)

end

def demoMAC : Bytes := text "00:11:22:33:44:55"

def demoID : Bytes := text "dot1x-sw1-p1-5"

/-- A printer is registered, accepted and disconnected; a start record arrives late. -/
def demoPrinter : List Input :=
  [⟨.registerMAC ⟨demoMAC, text "printer", text "printer", 20, text "iot", text "acme", 0⟩,
      demoChoice 4⟩,
   ⟨.authenticate
      { switchID := text "sw1", portID := text "p1", macAddress := demoMAC, eapMethod := .mab
        orgID := text "acme" }, demoChoice 5⟩,
   ⟨.disconnectSession demoID, demoChoice 6⟩,
   ⟨.recordAccounting { sessionID := demoID, type := .start }, demoChoice 7⟩]

/-- The late record brings the session back; with a user store the session is authorized even while
it is disconnected. -/
theorem printer_back_after_disconnect :
    stateOf (reach demoEnv (demoPrinter.take 3)) demoID = some .disconnected ∧
      stateOf (reach demoEnv demoPrinter) demoID = some .authenticated ∧
      authorize { demoEnv with hasUsers := true } (reach demoEnv (demoPrinter.take 3)) (demoChoice 8)
          ⟨demoID, text "mab:printer", text "acme"⟩ =
        some { allowed := true, vlan := 100, segmentGroup := text "default" } ∧
      ¬ AfterEnd demoEnv demoPrinter demoID (fun a input => Respects demoEnv a input demoID) := by
  have before : stateOf (reach demoEnv (demoPrinter.take 3)) demoID = some .disconnected := by decide
  have after : stateOf (reach demoEnv demoPrinter) demoID = some .authenticated := by decide
  refine ⟨before, after, by decide, ?_⟩
  intro respected
  have ended : Ends (reach demoEnv (demoPrinter.take 2)) ⟨.disconnectSession demoID, demoChoice 6⟩
      demoID := ⟨by decide, rfl⟩
  have back := respected (demoPrinter.take 2) _ [] _ [] rfl ended rfl after
  rw [show reach demoEnv (demoPrinter.take 2 ++ [⟨.disconnectSession demoID, demoChoice 6⟩]) =
    reach demoEnv (demoPrinter.take 3) from rfl, before] at back
  cases back

end ManagementPlane.Dot1x
