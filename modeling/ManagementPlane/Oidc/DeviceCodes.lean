import ManagementPlane.Oidc.DeviceFlow

/-!
# Device codes are not consumed

`handleDeviceCodeToken` reads the record of a device code and changes nothing in it, so it is
answered alike every time. A device code is exchanged at most once when at most one request
presents it for its client, authorized and before its expiry.
-/

namespace ManagementPlane.Oidc

open Interleave Runs Tables

def Request.clientID : Request → String
  | .token req => req.clientID
  | _ => ""

def deviceCodeRead (code : String) : Event → Option DeviceCodeRecord
  | ⟨.getDeviceCode read, .ok dc⟩ => if read = code then some dc else none
  | _ => none

def clockRead : Event → Option Policy.Time
  | ⟨.now, time⟩ => some time
  | _ => none

/-- The request has read the record of the device code authorized, for its own client and, by its
clock, before the expiry. -/
def Presented (request : Request) (past : List Event) (code : String) : Prop :=
  request.grant = some (.deviceCode code) ∧
    ∃ dc ∈ past.filterMap (deviceCodeRead code), ∃ time ∈ past.filterMap clockRead,
      ¬ dc.expiresAt < time ∧ dc.clientID = request.clientID ∧ dc.userAuthorized = true

instance (request : Request) (past : List Event) (code : String) :
    Decidable (Presented request past code) :=
  inferInstanceAs (Decidable (_ ∧ _))

def PresentedBy (server : Server) (i : Nat) (code : String) : Prop :=
  ∃ request, server.requestAt i = some request ∧ Presented request (past server.trace i) code

instance (server : Server) (i : Nat) (code : String) : Decidable (PresentedBy server i code) :=
  match found : server.requestAt i with
  | some request =>
    decidable_of_iff (Presented request (past server.trace i) code)
      ⟨fun presented => ⟨request, found, presented⟩, by
        rintro ⟨other, isOther, presented⟩
        rw [found, Option.some.injEq] at isOther
        rw [isOther]
        exact presented⟩
  | none => .isFalse (by
      rintro ⟨other, isOther, _⟩
      rw [found] at isOther
      cases isOther)

/-- The step does not make a request one that has presented a device code which another request
has presented before. -/
def FirstPresentation (env : Env) (server : Server) : Action → Prop
  | .spawn _ => True
  | .step i choice =>
    match server.threads[i]? with
    | some ⟨request, .call op _⟩ =>
      match request.grant with
      | some (.deviceCode code) =>
        Presented request
            (past server.trace i ++ [⟨op, (exec env choice server.world op).1⟩]) code →
          ∀ j < server.threads.length, j ≠ i → ¬ PresentedBy server j code
      | _ => True
    | _ => True

instance (env : Env) (server : Server) (action : Action) :
    Decidable (FirstPresentation env server action) := by
  unfold FirstPresentation
  rcases action with _ | ⟨i, choice⟩
  · infer_instance
  · dsimp only
    rcases server.threads[i]? with _ | ⟨request, _ | ⟨op, _⟩⟩
    · infer_instance
    · infer_instance
    · dsimp only
      rcases request.grant with _ | grant
      · infer_instance
      · rcases grant with ⟨⟩ <;> infer_instance

/-- The request presented the device code and is answered with tokens. -/
def DeviceCodeExchanged (server : Server) (i : Nat) (code : String) : Prop :=
  match server.threads[i]? with
  | some ⟨request, .done (.tokens _)⟩ => request.grant = some (.deviceCode code)
  | _ => False

instance (server : Server) (i : Nat) (code : String) :
    Decidable (DeviceCodeExchanged server i code) := by
  unfold DeviceCodeExchanged
  rcases server.threads[i]? with _ | ⟨_, reply | _⟩
  · infer_instance
  · rcases reply with ⟨⟩ <;> infer_instance
  · infer_instance

theorem deviceCodeExchanged_iff (server : Server) (i : Nat) (code : String) :
    DeviceCodeExchanged server i code ↔ ∃ request response,
      server.threads[i]? = some ⟨request, .done (.tokens response)⟩ ∧
        request.grant = some (.deviceCode code) := by
  unfold DeviceCodeExchanged
  grind

def DeviceCodesOnce (server : Server) : Prop :=
  ∀ code i j, DeviceCodeExchanged server i code → DeviceCodeExchanged server j code → i = j

def PostDevice (request : Request) (past : List Event) : Reply → Prop
  | .tokens _ => ∀ code, request.grant = some (.deviceCode code) → Presented request past code
  | _ => True

section
variable (env : Env)

theorem Presented.mono (request : Request) (before now : List Event) (later : before ⊆ now)
    (code : String) (presented : Presented request before code) : Presented request now code := by
  obtain ⟨presents, dc, read, time, clock, valid⟩ := presented
  refine ⟨presents, dc, ?_, time, ?_, valid⟩
  all_goals grind

theorem keepsDevice_handleDeviceCodeToken {req : TokenRequest}
    (presents : Request.grant (.token req) = some (.deviceCode req.deviceCode)) :
    Keeps (fun _ _ => True) (PostDevice (.token req)) (handleDeviceCodeToken env req) [] := by
  refine keeps_check trivial fun _ => ?_
  rw [keeps_call]
  refine ⟨trivial, fun deviceAnswer => ?_⟩
  cases deviceAnswer with
  | error err => exact trivial
  | ok dc =>
  rw [keeps_call]
  refine ⟨trivial, fun time => keeps_check trivial fun unexpired => ?_⟩
  refine keeps_check trivial fun sameClient => keeps_check trivial fun authorized => ?_
  have presented : Presented (.token req)
      ([] ++ [⟨.getDeviceCode req.deviceCode, .ok dc⟩] ++ [⟨.now, time⟩]) req.deviceCode :=
    ⟨presents, dc, by simp [deviceCodeRead], time, by simp [clockRead], unexpired,
      not_not.mp sameClient, by simpa using authorized⟩
  -- what follows only adds to the past
  refine keeps_mono (fun _ _ _ => trivial) ?_ _ _ (keeps_from (keeps_always
    (fun _ _ => trivial) (fun _ _ => trivial) _ _))
  rintro now reply ⟨starts, _⟩
  cases reply with
  | tokens response =>
    intro code isCode
    rw [presents] at isCode
    cases isCode
    exact presented.mono _ _ _ starts.subset
  | _ => exact trivial

theorem keepsDevice_handle (request : Request) :
    Keeps (fun _ _ => True) (PostDevice request) (handle env request) [] := by
  by_cases device : ∃ code, request.grant = some (.deviceCode code)
  · obtain ⟨code, presents⟩ := device
    cases request with
    | token req =>
      have grantType : req.grantType = "device_code" := by
        dsimp [Request.grant] at presents
        grind
      have isCode : Request.grant (.token req) = some (.deviceCode req.deviceCode) := by
        simp [Request.grant, grantType]
      simp [handle, token, grantType]
      grind [keepsDevice_handleDeviceCodeToken]
    | _ => cases presents
  · apply keeps_always
    · intro past op
      trivial
    · intro past reply
      cases reply with
      | tokens response =>
        intro code presents
        exact absurd ⟨code, presents⟩ device
      | _ => exact trivial

end

section
variable (env : Env)

def OnePresenter (server : Server) : Prop :=
  ∀ code i j, PresentedBy server i code → PresentedBy server j code → i = j

variable {server : Server}

theorem presentedBy_advance {i : Nat} {choice : Choice} {request : Request}
    {op : Op} {next : op.Ans → Handled Reply}
    (calling : server.threads[i]? = some ⟨request, .call op next⟩) {j : Nat} {code : String}
    (presented : PresentedBy (advance (exec env) server i choice request op next) j code) :
    PresentedBy server j code ∨ j = i ∧ Presented request
      (past server.trace i ++ [⟨op, (exec env choice server.world op).1⟩]) code := by
  obtain ⟨asked, isAsked, presented⟩ := presented
  rw [requestAt_advance (exec env) j choice calling] at isAsked
  by_cases here : i = j
  · subst here
    rw [Pool.requestAt, calling, Option.map_some, Option.some.injEq] at isAsked
    subst isAsked
    simp [advance, past_concat_self] at presented
    exact .inr ⟨rfl, presented⟩
  · simp [advance, past_concat_other here] at presented
    exact .inl ⟨asked, isAsked, presented⟩

theorem presentedBy_lt (kept : Kept (fun _ _ _ => True) PostDevice server)
    {i : Nat} {code : String} (presented : PresentedBy server i code) :
    i < server.threads.length := by
  obtain ⟨_, _, _, dc, read, _⟩ := presented
  obtain ⟨event, member, _⟩ := List.mem_filterMap.mp read
  exact kept.numbered _ (mem_past_iff.mp member)

theorem onePresenter_advance {i : Nat} {choice : Choice} {request : Request}
    {op : Op} {next : op.Ans → Handled Reply} (kept : Kept (fun _ _ _ => True) PostDevice server)
    (calling : server.threads[i]? = some ⟨request, .call op next⟩)
    (first : FirstPresentation env server (.step i choice)) (one : OnePresenter server) :
    OnePresenter (advance (exec env) server i choice request op next) := by
  have alone : ∀ code, Presented request
      (past server.trace i ++ [⟨op, (exec env choice server.world op).1⟩]) code →
      ∀ j, PresentedBy server j code → j = i := by
    intro code presented j presentedJ
    simp [FirstPresentation, calling, presented.1] at first
    grind [presentedBy_lt]
  intro code j k presentedJ presentedK
  rcases presentedBy_advance env calling presentedJ with
    beforeJ | ⟨hereJ, nowJ⟩
  · rcases presentedBy_advance env calling presentedK with
      beforeK | ⟨hereK, nowK⟩
    · exact one code j k beforeJ beforeK
    · rw [alone code nowK j beforeJ, hereK]
  · rcases presentedBy_advance env calling presentedK with
      beforeK | ⟨hereK, _⟩
    · rw [alone code nowJ k beforeK, hereJ]
    · rw [hereJ, hereK]

theorem onePresenter_spawn (request : Request)
    (kept : Kept (fun _ _ _ => True) PostDevice server) (one : OnePresenter server) :
    OnePresenter (serve env server (.spawn request)) := by
  have before : ∀ code i, PresentedBy (serve env server (.spawn request)) i code →
      PresentedBy server i code := by
    rintro code i ⟨asked, isAsked, presented⟩
    have inside : i < server.threads.length := by
      obtain ⟨event, member, _⟩ := List.mem_filterMap.mp presented.2.choose_spec.1
      exact kept.numbered _ (mem_past_iff.mp member)
    rw [serve, requestAt_spawn (exec env) (handle env) request inside] at isAsked
    exact ⟨asked, isAsked, presented⟩
  intro code i j presentedI presentedJ
  exact one code i j (before code i presentedI) (before code j presentedJ)

end

/-- In every interleaving of any requests in which no device code is presented twice, every device
code is exchanged at most once. -/
theorem device_code_single_use (env : Env) (s : OIDCDRSStore) (actions : List Action)
    (first : ∀ visit ∈ visits (serve env) (initial s) actions,
      FirstPresentation env visit.1 visit.2) :
    ∀ reached ∈ states (serve env) (initial s) actions, DeviceCodesOnce reached := by
  intro reached member code i j exchangedI exchangedJ
  have invariant := pool_invariant (exec env)
    (keepsDevice_handle env) (FirstPresentation env) OnePresenter
    (fun server request kept one => onePresenter_spawn env request kept one)
    (fun server i choice request op next kept calling isFirst _ one =>
      onePresenter_advance env kept calling isFirst one)
    s (by rintro code i j ⟨_, isRequest, _⟩; cases isRequest) actions first
  obtain ⟨kept, one⟩ := invariant reached member
  have presented : ∀ k, DeviceCodeExchanged reached k code → PresentedBy reached k code := by
    intro k exchanged
    obtain ⟨request, response, found, presents⟩ :=
      (deviceCodeExchanged_iff reached k code).mp exchanged
    have post := kept.keeps k _ found
    exact ⟨request, by rw [Pool.requestAt, found, Option.map_some], post code presents⟩
  exact one code i j (presented i exchangedI) (presented j exchangedJ)

def shortEnv : Env := { demoEnv with signedString := fun _ => "header.claims.signature" }

def demoCode : String := (generateDeviceCode {}).1

-- the states below are long to compute: they are evaluated by `decide` only
attribute [local irreducible] DeviceCodeExchanged

def authorizeDevice : List Action :=
  .spawn (.deviceCode "app" "") :: steps 0 4 ++
    .spawn (.deviceVerify demoCode "user@apexaegis.app" "allmine") :: steps 1 4

/-- The device asks for its tokens, and another client presents the code too. -/
def askOnce : List Action :=
  authorizeDevice ++ .spawn (deviceGrant "app" demoCode) :: steps 2 9 ++
    .spawn (deviceGrant "other" demoCode) :: steps 3 9

theorem device_code_asked_once :
    (∀ visit ∈ visits (serve shortEnv) (initial ⟨demoClients, demoUsers, ∅, ∅⟩) askOnce,
        FirstPresentation shortEnv visit.1 visit.2) ∧
      DeviceCodeExchanged (run (serve shortEnv) (initial ⟨demoClients, demoUsers, ∅, ∅⟩) askOnce) 2
        demoCode ∧
      DeviceCodesOnce (run (serve shortEnv) (initial ⟨demoClients, demoUsers, ∅, ∅⟩) askOnce) := by
  have first : ∀ visit ∈ visits (serve shortEnv) (initial ⟨demoClients, demoUsers, ∅, ∅⟩) askOnce,
      FirstPresentation shortEnv visit.1 visit.2 := by
    decide +kernel
  have exchanged : DeviceCodeExchanged
      (run (serve shortEnv) (initial ⟨demoClients, demoUsers, ∅, ∅⟩) askOnce) 2 demoCode := by
    decide +kernel
  have once := device_code_single_use shortEnv ⟨demoClients, demoUsers, ∅, ∅⟩ askOnce first _
    run_mem_states
  exact ⟨first, exchanged, once⟩

def askTwice : List Action :=
  authorizeDevice ++ .spawn (deviceGrant "app" demoCode) :: steps 2 9 ++
    .spawn (deviceGrant "app" demoCode) :: steps 3 9

theorem device_code_exchanged_twice :
    (DeviceCodeExchanged (run (serve shortEnv) (initial ⟨demoClients, demoUsers, ∅, ∅⟩) askTwice) 2
        demoCode ∧
      DeviceCodeExchanged (run (serve shortEnv) (initial ⟨demoClients, demoUsers, ∅, ∅⟩) askTwice) 3
        demoCode) ∧
    ¬ DeviceCodesOnce
      (run (serve shortEnv) (initial ⟨demoClients, demoUsers, ∅, ∅⟩) askTwice) := by
  have first : DeviceCodeExchanged
      (run (serve shortEnv) (initial ⟨demoClients, demoUsers, ∅, ∅⟩) askTwice) 2 demoCode := by
    decide +kernel
  have second : DeviceCodeExchanged
      (run (serve shortEnv) (initial ⟨demoClients, demoUsers, ∅, ∅⟩) askTwice) 3 demoCode := by
    decide +kernel
  refine ⟨⟨first, second⟩, fun once => ?_⟩
  exact absurd (once demoCode 2 3 first second) (by decide)

end ManagementPlane.Oidc
