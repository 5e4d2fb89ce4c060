import ManagementPlane.Policy.Store
import ManagementPlane.Grpc.PolicyStream
import ManagementPlane.Push.Hub

/-!
# Fanning policy changes out

`cmd/server/main.go` starts two consumers of the policy store's one change
channel: `Hub.Run`, which pushes to the WebSocket clients, and `broadcastLoop` of
the gRPC server, which pushes to the policy streams. A notification that one of
them receives is gone for the other, and a commit that finds the channel full
drops its notification.

A step settles a version when its notification leaves the channel or is dropped.
Everybody who listens is told at every settling step exactly when the hub only
receives while no stream listens, the loop only while no WebSocket client listens
and every listening stream is subscribed, and no commit drops a notification while
anybody listens.

The store is any store under version control: the results hold for the in-memory
and for the SQL one.
-/

namespace ManagementPlane.Push

open GoChan Tables Runs Policy

structure Server (P : Type) where
  store : Versioned P
  hub : Hub
  hubRunning : Bool
  grpc : Grpc.Server
  loopRunning : Bool

def newServer {P : Type} (store : Versioned P) (registry : Gateway.Registry) : Server P :=
  ⟨store, newHub, true, Grpc.newServer registry, true⟩

inductive Step (Call : Type) where
  | store (call : Call)
  | hubReceive (time : Time)
  | hubHeartbeat (time : Time)
  | hubDone
  | loopReceive (time : Time)
  | loopHeartbeat (time : Time)
  | loopDone
  | register (gatewayID : String)
  | readVersion (i : Nat)
  | greet (i : Nat) (time : Time)
  | pump (i : Nat)
  | unregister (i : Nat)
  | connect (gatewayID : String) (now : Time)
  | subscribe (i : Nat)
  | forward (i : Nat)
  | unsubscribe (i : Nat)
  | disconnect (i : Nat) (now : Time)
  | registry (op : Gateway.Op)

section
variable {P Call : Type} (applyStore : Versioned P → Call → Versioned P)

def Server.crashed (s : Server P) : Bool := s.hub.panicked || s.grpc.panicked

def hubReceive (s : Server P) (time : Time) : Server P :=
  match s.store.onChange with
  | [] => s
  | version :: rest =>
    { s with
      store := { s.store with onChange := rest }
      hub := broadcast s.hub ⟨.policyUpdate, version, time⟩ }

def loopReceive (s : Server P) (time : Time) : Server P :=
  match s.store.onChange with
  | [] => s
  | version :: rest =>
    { s with
      store := { s.store with onChange := rest }
      grpc := Grpc.broadcastEvent s.grpc ⟨.policyUpdate, version, time⟩ }

def liveStep (s : Server P) : Step Call → Server P
  | .store call => { s with store := applyStore s.store call }
  | .hubReceive time => if s.hubRunning then hubReceive s time else s
  | .hubHeartbeat time =>
    if s.hubRunning then
      { s with hub := broadcast s.hub ⟨.heartbeat, s.store.version, time⟩ }
    else s
  | .hubDone => if s.hubRunning then { s with hub := closeAll s.hub, hubRunning := false } else s
  | .loopReceive time => if s.loopRunning then loopReceive s time else s
  | .loopHeartbeat time =>
    if s.loopRunning then
      { s with grpc := Grpc.broadcastEvent s.grpc ⟨.heartbeat, s.store.version, time⟩ }
    else s
  | .loopDone => { s with loopRunning := false }
  | .register gatewayID => { s with hub := register s.hub gatewayID }
  | .readVersion i => { s with hub := readVersion s.hub i s.store.version }
  | .greet i time => { s with hub := greet s.hub i time }
  | .pump i => { s with hub := pump s.hub i }
  | .unregister i => { s with hub := unregister s.hub i }
  | .connect gatewayID now => { s with grpc := Grpc.step s.grpc (.connect gatewayID now) }
  | .subscribe i => { s with grpc := Grpc.step s.grpc (.subscribe i) }
  | .forward i => { s with grpc := Grpc.step s.grpc (.forward i) }
  | .unsubscribe i => { s with grpc := Grpc.step s.grpc (.unsubscribe i) }
  | .disconnect i now => { s with grpc := Grpc.step s.grpc (.disconnect i now) }
  | .registry op => { s with grpc := Grpc.step s.grpc (.registry op) }

def step (s : Server P) (input : Step Call) : Server P :=
  if s.crashed then s else liveStep applyStore s input

/-- The version whose notification this step takes out of the channel, or commits
without getting it into the channel. -/
def settled (s : Server P) (input : Step Call) : Option Int :=
  if s.crashed then none
  else
    match input with
    | .store call =>
      let after := applyStore s.store call
      if after.version ≠ s.store.version ∧ after.version ∉ after.onChange then
        some after.version
      else none
    | .hubReceive _ => if s.hubRunning then s.store.onChange.head? else none
    | .loopReceive _ => if s.loopRunning then s.store.onChange.head? else none
    | _ => none

def GotUpdate (before after : Chan Event) (version : Int) : Prop :=
  ∃ event, event.type = .policyUpdate ∧ event.version = version ∧
    after.sent = before.sent ++ [event]

def ClientListens (s : Server P) (i : Nat) (cl : Client) : Prop :=
  s.hub.clients[i]? = some cl ∧ cl.registered = true ∧ cl.send.HasRoom clientCap

def StreamListens (s : Server P) (i : Nat) (stream : Grpc.Stream) : Prop :=
  s.grpc.streams[i]? = some stream ∧ stream.phase = .subscribed ∧
    stream.events.HasRoom Grpc.streamCap

/-- Every registered client and every open stream with room gets the update. -/
def Delivered (s next : Server P) (version : Int) : Prop :=
  (∀ i cl, ClientListens s i cl →
    ∃ told, next.hub.clients[i]? = some told ∧ GotUpdate cl.send told.send version) ∧
  ∀ i stream, StreamListens s i stream →
    ∃ told, next.grpc.streams[i]? = some told ∧ GotUpdate stream.events told.events version

def FansOut (s : Server P) (input : Step Call) : Prop :=
  ∀ version, settled applyStore s input = some version →
    Delivered s (step applyStore s input) version

/-- Whoever listens is served by the consumer that takes the notification. -/
def ServedByTaker (s : Server P) : Step Call → Prop
  | .hubReceive _ => ∀ i stream, ¬ StreamListens s i stream
  | .loopReceive _ => (∀ i cl, ¬ ClientListens s i cl) ∧
      ∀ i stream, StreamListens s i stream → i ∈ values s.grpc.subs
  | _ => (∀ i cl, ¬ ClientListens s i cl) ∧ ∀ i stream, ¬ StreamListens s i stream

def Sound (s : Server P) : Prop := s.hub.Sound ∧ s.grpc.Sound

theorem sound_step (s : Server P) (input : Step Call) (sound : Sound s) :
    Sound (step applyStore s input) := by
  rw [step]
  split
  · exact sound
  · obtain ⟨hubSound, grpcSound⟩ := sound
    cases input with
    | store call | loopDone => exact ⟨hubSound, grpcSound⟩
    | hubReceive time =>
      simp [liveStep, hubReceive]
      split
      · split
        · exact ⟨hubSound, grpcSound⟩
        · exact ⟨sound_broadcast _ hubSound, grpcSound⟩
      · exact ⟨hubSound, grpcSound⟩
    | hubHeartbeat time =>
      simp [liveStep]
      split
      · exact ⟨sound_broadcast _ hubSound, grpcSound⟩
      · exact ⟨hubSound, grpcSound⟩
    | hubDone =>
      simp [liveStep]
      split
      · exact ⟨sound_closeAll hubSound, grpcSound⟩
      · exact ⟨hubSound, grpcSound⟩
    | loopReceive time =>
      simp [liveStep, loopReceive]
      split
      · split
        · exact ⟨hubSound, grpcSound⟩
        · exact ⟨hubSound, Grpc.sound_step s.grpc (.broadcast _) grpcSound⟩
      · exact ⟨hubSound, grpcSound⟩
    | loopHeartbeat time =>
      simp [liveStep]
      split
      · exact ⟨hubSound, Grpc.sound_step s.grpc (.broadcast _) grpcSound⟩
      · exact ⟨hubSound, grpcSound⟩
    | register gatewayID => exact ⟨sound_register gatewayID hubSound, grpcSound⟩
    | readVersion i => exact ⟨sound_readVersion i _ hubSound, grpcSound⟩
    | greet i time => exact ⟨sound_greet i time hubSound, grpcSound⟩
    | pump i => exact ⟨sound_pump i hubSound, grpcSound⟩
    | unregister i => exact ⟨sound_unregister i hubSound, grpcSound⟩
    | connect gatewayID now | subscribe i | forward i | unsubscribe i | disconnect i now
    | registry op => exact ⟨hubSound, Grpc.sound_step s.grpc _ grpcSound⟩

/-! ## One settling step -/

theorem not_gotUpdate_self (ch : Chan Event) (version : Int) : ¬ GotUpdate ch ch version := by
  rintro ⟨event, _, _, grown⟩
  simp at grown

/-- Where the receivers are as they were, an update has reached all of them only if there are
none. -/
theorem untold_iff {α : Type} {receivers : List α} {Listens : Nat → α → Prop}
    (chan : α → Chan Event) (version : Int) (same : ∀ i x, Listens i x → receivers[i]? = some x) :
    (∀ i x, Listens i x →
      ∃ told, receivers[i]? = some told ∧ GotUpdate (chan x) (chan told) version) ↔
    ∀ i x, ¬ Listens i x := by
  constructor
  · intro delivered i x listens
    obtain ⟨told, found, got⟩ := delivered i x listens
    rw [same i x listens, Option.some.injEq] at found
    subst found
    exact not_gotUpdate_self (chan x) version got
  · exact fun nobody i x listens => absurd listens (nobody i x)

variable {version : Int}

theorem delivered_by_hub {s next : Server P} {time : Time} (sound : Sound s)
    (hubNext : next.hub = broadcast s.hub ⟨.policyUpdate, version, time⟩)
    (grpcNext : next.grpc = s.grpc) :
    Delivered s next version ↔ ∀ i stream, ¬ StreamListens s i stream := by
  rw [Delivered, untold_iff Grpc.Stream.events version fun _ _ listens => grpcNext ▸ listens.1]
  constructor
  · intro delivered
    exact delivered.2
  · intro nobody
    refine ⟨?_, nobody⟩
    rintro i cl ⟨found, registered, room⟩
    rw [hubNext]
    exact ⟨_, broadcast_reaches _ sound.1 found registered room, _, rfl, rfl, rfl⟩

theorem delivered_by_loop {s next : Server P} {time : Time} (sound : Sound s)
    (hubNext : next.hub = s.hub)
    (grpcNext : next.grpc = Grpc.broadcastEvent s.grpc ⟨.policyUpdate, version, time⟩) :
    Delivered s next version ↔
      (∀ i cl, ¬ ClientListens s i cl) ∧
        ∀ i stream, StreamListens s i stream → i ∈ values s.grpc.subs := by
  rw [Delivered, untold_iff Client.send version fun _ _ listens => hubNext ▸ listens.1]
  apply and_congr_right
  intro _
  have after : ∀ i stream, s.grpc.streams[i]? = some stream →
      next.grpc.streams[i]? =
        some (Grpc.offerTo s.grpc ⟨.policyUpdate, version, time⟩ i stream) := by
    intro i stream found
    rw [grpcNext, Grpc.broadcastEvent, List.getElem?_mapIdx, found, Option.map_some]
  constructor
  · intro delivered i stream listens
    obtain ⟨told, found, got⟩ := delivered i stream listens
    rw [after i stream listens.1, Option.some.injEq] at found
    subst found
    by_contra unsubscribed
    rw [Grpc.offerTo, if_neg unsubscribed] at got
    exact not_gotUpdate_self stream.events version got
  · rintro subscribed i stream ⟨found, opened, room⟩
    have isOpen := sound.2 stream (List.mem_of_getElem? found) (.inr opened)
    refine ⟨_, after i stream found, ⟨.policyUpdate, version, time⟩, rfl, rfl, ?_⟩
    rw [Grpc.offerTo, if_pos (subscribed i stream ⟨found, opened, room⟩),
      Chan.offer_of_room Grpc.streamCap stream.events _ isOpen room]
    rfl

theorem settled_receive {s : Server P} {running : Bool}
    (taken : (if running then s.store.onChange.head? else none) = some version) :
    running = true ∧ ∃ rest, s.store.onChange = version :: rest := by
  cases running with
  | false => cases taken
  | true => exact ⟨rfl, List.head?_eq_some_iff.mp taken⟩

/-- At a step that settles a version, everybody is told exactly when everybody who
listens is served by the taker. -/
theorem delivered_iff {s : Server P} {input : Step Call} (sound : Sound s)
    (settles : settled applyStore s input = some version) :
    Delivered s (step applyStore s input) version ↔ ServedByTaker s input := by
  have alive : s.crashed = false := by
    cases crashed : s.crashed with
    | false => rfl
    | true => simp [settled, crashed] at settles
  have moves : step applyStore s input = liveStep applyStore s input := by
    simp [step, alive]
  simp [settled, alive] at settles
  rw [moves]
  cases input with
  | store call =>
    exact and_congr (untold_iff _ version fun _ _ listens => listens.1)
      (untold_iff _ version fun _ _ listens => listens.1)
  | hubReceive time =>
    obtain ⟨running, rest, queued⟩ := settled_receive settles
    have received : liveStep applyStore s (.hubReceive time) =
        { s with
          store := { s.store with onChange := rest }
          hub := broadcast s.hub ⟨.policyUpdate, version, time⟩ } := by
      simp [liveStep, running, hubReceive, queued]
    rw [received]
    exact delivered_by_hub sound rfl rfl
  | loopReceive time =>
    obtain ⟨running, rest, queued⟩ := settled_receive settles
    have received : liveStep applyStore s (.loopReceive time) =
        { s with
          store := { s.store with onChange := rest }
          grpc := Grpc.broadcastEvent s.grpc ⟨.policyUpdate, version, time⟩ } := by
      simp [liveStep, running, loopReceive, queued]
    rw [received]
    exact delivered_by_loop sound rfl rfl
  | _ => cases settles

theorem fansOut_iff (s : Server P) (input : Step Call) (sound : Sound s) :
    FansOut applyStore s input ↔ ((settled applyStore s input).isSome → ServedByTaker s input) := by
  constructor
  · intro fansOut settles
    obtain ⟨version, settledEq⟩ := Option.isSome_iff_exists.mp settles
    exact (delivered_iff applyStore sound settledEq).mp (fansOut version settledEq)
  · intro served version settledEq
    grind [delivered_iff]

/-- Over every interleaving: every settled notification reaches every listening
client and stream exactly when each of them is settled by a taker that serves
everybody who listens. -/
theorem every_change_fans_out_iff (store : Versioned P) (registry : Gateway.Registry)
    (steps : List (Step Call)) :
    (∀ visit ∈ visits (step applyStore) (newServer store registry) steps,
      FansOut applyStore visit.1 visit.2) ↔
    ∀ visit ∈ visits (step applyStore) (newServer store registry) steps,
      (settled applyStore visit.1 visit.2).isSome → ServedByTaker visit.1 visit.2 := by
  have start : Sound (newServer store registry) := by
    refine ⟨?_, ?_⟩ <;> intro _ member <;> cases member
  have sound := visits_invariant (step applyStore) Sound (sound_step applyStore)
    (newServer store registry) steps start
  grind [fansOut_iff]

end

/-- A WebSocket client and a policy stream are both there when a policy is created,
and the hub wins the receive. -/
def hubWins : List (Step Call) :=
  [.register "gw-1", .readVersion 0, .greet 0 0, .connect "gw-2" 0, .subscribe 0,
    .store ⟨0, .create { id := "p1", name := "Allow" } "alice" .asStored 0⟩, .hubReceive 1]

theorem hubWins_misses_stream :
    ¬ ∀ visit ∈ visits (step apply) (newServer newStore Gateway.newRegistry) hubWins,
      FansOut apply visit.1 visit.2 := by
  intro fansOut
  have last := fansOut
    (run (step apply) (newServer newStore Gateway.newRegistry) (hubWins.take 6), .hubReceive 1)
    (by rw [mem_visits_iff]; exact ⟨hubWins.take 6, [], rfl, rfl⟩)
  have delivered := last 1 rfl
  have listens : StreamListens
      (run (step apply) (newServer newStore Gateway.newRegistry) (hubWins.take 6)) 0
      ⟨"gw-2", .subscribed, {}⟩ := ⟨rfl, rfl, by decide⟩
  obtain ⟨told, found, _, _, _, got⟩ := delivered.2 0 _ listens
  cases Option.some.inj found
  cases got

end ManagementPlane.Push
