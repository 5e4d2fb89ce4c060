import ManagementPlane.Lib.Chan
import ManagementPlane.Lib.Runs
import ManagementPlane.Gateway.Registry

/-!
# The gRPC policy stream

`PolicyStream` and `broadcastEvent` of `internal/grpcserver/server.go`. A call of
`PolicyStream` marks its gateway connected, subscribes its channel under the
gateway's id, forwards events, and on its way out deletes the subscription,
closes the channel and clears the mark. Each of these takes a mutex of its own,
so they are separate steps of a stream, and streams of one gateway may overlap.

The deferred part does not check that the subscription and the mark are its own, and
the statements that the cleanup loop runs in the database do not look at the marks.
A gateway with an open stream stays subscribed, marked and online exactly when no
stream of it is torn down while another one is open or about to subscribe, and the
statements do not select its row.
-/

namespace ManagementPlane.Grpc

open GoChan Tables Runs Policy Gateway List Option AList

inductive Phase where
  | connected
  | subscribed
  | unsubscribed
  | closed
  deriving DecidableEq

structure Stream where
  gatewayID : String
  phase : Phase
  events : Chan Event

def streamCap : Nat := 32

/-- The index of a stream stands for its channel; `opened` lists the streams in the
order in which they subscribed. -/
structure Server where
  streams : List Stream
  subs : Table String Nat
  opened : List Nat
  registry : Registry
  panicked : Bool

def newServer (registry : Registry) : Server := ⟨[], ∅, [], registry, false⟩

def atPhase (s : Server) (i : Nat) (phase : Phase) (next : Stream → Server) : Server :=
  match s.streams[i]? with
  | none => s
  | some stream => if stream.phase = phase then next stream else s

def connect (s : Server) (gatewayID : String) (now : Time) : Server :=
  { s with
    streams := s.streams ++ [⟨gatewayID, .connected, {}⟩]
    registry := setStreamConnected s.registry gatewayID true now }

def subscribe (s : Server) (i : Nat) : Server :=
  atPhase s i .connected fun stream =>
    { s with
      streams := s.streams.modify i fun st => { st with phase := .subscribed }
      subs := s.subs.insert stream.gatewayID i
      opened := s.opened ++ [i] }

def forward (s : Server) (i : Nat) : Server :=
  atPhase s i .subscribed fun _ =>
    { s with streams := s.streams.modify i fun st => { st with events := st.events.receive } }

def unsubscribe (s : Server) (i : Nat) : Server :=
  atPhase s i .subscribed fun stream =>
    { s with
      streams := s.streams.modify i fun st =>
        { st with phase := .unsubscribed, events := st.events.close }
      subs := s.subs.erase stream.gatewayID }

def disconnect (s : Server) (i : Nat) (now : Time) : Server :=
  atPhase s i .unsubscribed fun stream =>
    { s with
      streams := s.streams.modify i fun st => { st with phase := .closed }
      registry := setStreamConnected s.registry stream.gatewayID false now }

def offerTo (s : Server) (event : Event) (i : Nat) (stream : Stream) : Stream :=
  if i ∈ values s.subs then { stream with events := stream.events.offer streamCap event }
  else stream

def broadcastEvent (s : Server) (event : Event) : Server :=
  { s with
    streams := s.streams.mapIdx (offerTo s event)
    panicked := s.panicked || (values s.subs).any fun i =>
      (s.streams[i]?).any fun stream => stream.events.closed }

inductive Step where
  | connect (gatewayID : String) (now : Time)
  | subscribe (i : Nat)
  | forward (i : Nat)
  | unsubscribe (i : Nat)
  | disconnect (i : Nat) (now : Time)
  | broadcast (event : Event)
  | registry (op : Gateway.Op)

def step (s : Server) : Step → Server
  | .connect gatewayID now => connect s gatewayID now
  | .subscribe i => subscribe s i
  | .forward i => forward s i
  | .unsubscribe i => unsubscribe s i
  | .disconnect i now => disconnect s i now
  | .broadcast event => broadcastEvent s event
  | .registry op => { s with registry := Gateway.apply s.registry op }

def isOpen (streams : List Stream) (gatewayID : String) (i : Nat) : Bool :=
  (streams[i]?).any fun stream => stream.phase = .subscribed && stream.gatewayID = gatewayID

def newest (s : Server) (gatewayID : String) : Option Nat :=
  (s.opened.filter (isOpen s.streams gatewayID)).getLast?

/-- A gateway with an open stream has the channel of its newest one subscribed, is
marked connected, and is left alone by every cleanup tick. -/
def StaysSubscribed (s : Server) : Prop :=
  ∀ gatewayID, (∃ i, isOpen s.streams gatewayID i) →
    ∃ i, newest s gatewayID = some i ∧ s.subs.lookup gatewayID = some i ∧
      gatewayID ∈ s.registry.streamConnected ∧
      ∀ clock, (cleanup s.registry clock).gateways.lookup gatewayID =
        s.registry.gateways.lookup gatewayID

/-- The statements of a cleanup tick leave the rows of gateways with an open stream alone. -/
def RowsSpared (s : Server) : Step → Prop
  | .registry (.persist write) =>
    (∃ now, write = .markOffline now ∨ write = .deleteStale now) →
      ∀ rows, s.registry.store = some rows → ∀ gatewayID, (∃ i, isOpen s.streams gatewayID i) →
        (persist rows write).lookup gatewayID = rows.lookup gatewayID
  | _ => True

/-- The step does not overlap with another stream of the same gateway, and does not select the
row of a gateway with an open stream for its last heartbeat. -/
def Orderly (s : Server) : Step → Prop
  | .subscribe i => ∀ stream, s.streams[i]? = some stream → stream.phase = .connected →
      stream.gatewayID ∈ s.registry.streamConnected
  | .unsubscribe i => ∀ stream, s.streams[i]? = some stream → stream.phase = .subscribed →
      ∀ j, isOpen s.streams stream.gatewayID j → j = i
  | .disconnect i _ => ∀ stream, s.streams[i]? = some stream → stream.phase = .unsubscribed →
      ∀ j, ¬ isOpen s.streams stream.gatewayID j
  | .registry (.persist write) => ∀ rows, s.registry.store = some rows →
      ∀ gatewayID, (∃ i, isOpen s.streams gatewayID i) →
        ∀ row, rows.lookup gatewayID = some row → write.selects row = false
  | _ => True

variable {i : Nat} {stream : Stream} {streams : List Stream}

theorem isOpen_of_found (gatewayID : String) (found : streams[i]? = some stream) :
    isOpen streams gatewayID i =
      (decide (stream.phase = .subscribed) && decide (stream.gatewayID = gatewayID)) := by
  rw [isOpen, found]
  rfl

theorem isOpen_modify_ne (streams : List Stream) (f : Stream → Stream) (gatewayID : String)
    {i j : Nat} (other : i ≠ j) :
    isOpen (streams.modify i f) gatewayID j = isOpen streams gatewayID j := by
  simp only [isOpen, getElem?_modify, if_neg other, Option.map_eq_map, Option.map_id']

theorem isOpen_modify_eq (f : Stream → Stream) (gatewayID : String)
    (found : streams[i]? = some stream) :
    isOpen (streams.modify i f) gatewayID i =
      (decide ((f stream).phase = .subscribed) && decide ((f stream).gatewayID = gatewayID)) := by
  apply isOpen_of_found
  rw [getElem?_modify, found]
  simp

/-- A change that keeps the phase and the gateway of a stream, or that changes a
stream which is not open before nor after, is invisible. -/
theorem isOpen_modify_same {f : Stream → Stream} (found : streams[i]? = some stream)
    (sameGateway : (f stream).gatewayID = stream.gatewayID)
    (samePhase : (f stream).phase = .subscribed ↔ stream.phase = .subscribed)
    (gatewayID : String) (j : Nat) :
    isOpen (streams.modify i f) gatewayID j = isOpen streams gatewayID j := by
  by_cases here : i = j
  · grind [isOpen_modify_eq, isOpen_of_found]
  · exact isOpen_modify_ne streams f gatewayID here

variable (s : Server)

theorem atPhase_cases (i : Nat) (phase : Phase) (next : Stream → Server) :
    atPhase s i phase next = s ∨
      ∃ stream, s.streams[i]? = some stream ∧ stream.phase = phase ∧
        atPhase s i phase next = next stream := by
  simp [atPhase]
  grind

theorem atPhase_of {s : Server} {phase : Phase} (next : Stream → Server)
    (found : s.streams[i]? = some stream) (reached : stream.phase = phase) :
    atPhase s i phase next = next stream := by
  rw [atPhase, found]
  exact if_pos reached

def Stream.Sound (stream : Stream) : Prop :=
  stream.phase = .connected ∨ stream.phase = .subscribed → stream.events.closed = false

def Server.Sound (s : Server) : Prop := ∀ stream ∈ s.streams, stream.Sound

theorem sound_atPhase {s : Server} {phase : Phase} {next : Stream → Server} {f : Stream → Stream}
    (sound : s.Sound) (streams : ∀ stream, (next stream).streams = s.streams.modify i f)
    (keeps : ∀ stream : Stream, stream.phase = phase → stream.Sound → (f stream).Sound) :
    (atPhase s i phase next).Sound := by
  rcases atPhase_cases s i phase next with same | ⟨stream, found, reached, moved⟩
  · rwa [same]
  · rw [moved]
    intro changed member
    rw [streams] at member
    rcases mem_modify member with old | ⟨before, beforeFound, rfl⟩
    · exact sound changed old
    · rw [found, some.injEq] at beforeFound
      subst beforeFound
      exact keeps stream reached (sound stream (mem_of_getElem? found))

theorem sound_step (input : Step) (sound : s.Sound) : (step s input).Sound := by
  cases input with
  | connect gatewayID now =>
    intro stream member
    rcases mem_append.mp member with old | new
    · exact sound stream old
    · rw [mem_singleton.mp new]
      intro _
      rfl
  | subscribe i =>
    refine sound_atPhase sound (fun _ => rfl) fun stream reached streamSound _ => ?_
    exact streamSound (.inl reached)
  | forward i =>
    refine sound_atPhase sound (fun _ => rfl) fun stream _ streamSound => ?_
    exact streamSound
  | unsubscribe i | disconnect i now =>
    refine sound_atPhase sound (fun _ => rfl) fun stream _ _ waiting => ?_
    rcases waiting with waiting | waiting <;> cases waiting
  | broadcast event =>
    intro stream member
    obtain ⟨i, bound, rfl⟩ := mem_mapIdx.mp member
    have before := sound _ (getElem_mem bound)
    rw [offerTo]
    split
    · intro waiting
      rw [Chan.closed_offer]
      exact before waiting
    · exact before
  | registry op => exact sound

/-! ## The invariant of orderly runs -/

structure Tracked (s : Server) : Prop where
  listed : ∀ gatewayID i, isOpen s.streams gatewayID i → i ∈ s.opened
  subscribed : ∀ gatewayID i, newest s gatewayID = some i → s.subs.lookup gatewayID = some i
  marked : ∀ gatewayID i, isOpen s.streams gatewayID i → gatewayID ∈ s.registry.streamConnected

theorem tracked_stays (tracked : Tracked s) : StaysSubscribed s := by
  rintro gatewayID ⟨i, opened⟩
  have member := mem_filter.mpr ⟨tracked.listed gatewayID i opened, opened⟩
  have nonempty := ne_nil_of_mem member
  refine ⟨_, getLast?_eq_some_getLast nonempty, ?_, ?_, ?_⟩
  · exact tracked.subscribed gatewayID _ (getLast?_eq_some_getLast nonempty)
  · exact tracked.marked gatewayID i opened
  · intro clock
    exact cleanup_keeps_connected clock (tracked.marked gatewayID i opened)

theorem newest_congr {s next : Server} {gatewayID : String} (sameOpened : next.opened = s.opened)
    (sameOpen : ∀ j ∈ s.opened, isOpen next.streams gatewayID j = isOpen s.streams gatewayID j) :
    newest next gatewayID = newest s gatewayID := by
  rw [newest, newest, sameOpened, filter_congr sameOpen]

theorem tracked_frame {s next : Server} (tracked : Tracked s)
    (sameOpen : ∀ gatewayID j, isOpen next.streams gatewayID j = isOpen s.streams gatewayID j)
    (sameSubs : next.subs = s.subs) (sameOpened : next.opened = s.opened)
    (stillMarked : ∀ gatewayID j, isOpen s.streams gatewayID j →
      gatewayID ∈ s.registry.streamConnected → gatewayID ∈ next.registry.streamConnected) :
    Tracked next where
  listed := by
    intro gatewayID i opened
    rw [sameOpen] at opened
    rw [sameOpened]
    exact tracked.listed gatewayID i opened
  subscribed := by
    intro gatewayID i found
    rw [newest_congr sameOpened fun j _ => sameOpen gatewayID j] at found
    rw [sameSubs]
    exact tracked.subscribed gatewayID i found
  marked := by
    intro gatewayID i opened
    rw [sameOpen] at opened
    exact stillMarked gatewayID i opened (tracked.marked gatewayID i opened)

theorem tracked_subscribe {s : Server} (tracked : Tracked s)
    (orderly : Orderly s (.subscribe i)) : Tracked (subscribe s i) := by
  rcases atPhase_cases s i .connected _ with same | ⟨stream, found, waiting, subscribed⟩
  · rwa [subscribe, same]
  · rw [subscribe, subscribed]
    have marked := orderly stream found waiting
    have openHere : ∀ gatewayID,
        isOpen (s.streams.modify i fun st => { st with phase := .subscribed }) gatewayID i =
          decide (stream.gatewayID = gatewayID) := by
      grind [isOpen_modify_eq]
    have closedBefore : ∀ gatewayID, isOpen s.streams gatewayID i = false := by
      grind [isOpen_of_found]
    refine ⟨?_, ?_, ?_⟩
    · intro gatewayID j opened
      by_cases here : i = j
      · rw [here]
        simp
      · rw [isOpen_modify_ne _ _ _ here] at opened
        exact mem_append_left _ (tracked.listed gatewayID j opened)
    · intro gatewayID j newestIs
      simp only [newest, filter_append, filter_singleton, openHere] at newestIs
      by_cases own : stream.gatewayID = gatewayID
      · grind [List.getLast, some.injEq, lookup_insert]
      · simp only [own, decide_false, cond_false, append_nil] at newestIs
        have before : newest s gatewayID = some j := by
          rw [newest, ← newestIs]
          grind [filter_congr, isOpen_modify_ne]
        rw [lookup_insert_ne (Ne.symm own)]
        exact tracked.subscribed gatewayID j before
    · intro gatewayID j opened
      by_cases here : i = j
      · grind
      · rw [isOpen_modify_ne _ _ _ here] at opened
        exact tracked.marked gatewayID j opened

theorem tracked_unsubscribe {s : Server} (tracked : Tracked s)
    (orderly : Orderly s (.unsubscribe i)) : Tracked (unsubscribe s i) := by
  rcases atPhase_cases s i .subscribed _ with same | ⟨stream, found, waiting, unsubscribed⟩
  · rwa [unsubscribe, same]
  · rw [unsubscribe, unsubscribed]
    have alone := orderly stream found waiting
    have closedHere : ∀ gatewayID,
        isOpen (s.streams.modify i fun st =>
          { st with phase := .unsubscribed, events := st.events.close }) gatewayID i = false := by
      grind [isOpen_modify_eq]
    have openBefore : ∀ gatewayID j,
        isOpen (s.streams.modify i fun st =>
          { st with phase := .unsubscribed, events := st.events.close }) gatewayID j = true →
        isOpen s.streams gatewayID j = true ∧ gatewayID ≠ stream.gatewayID := by
      grind [isOpen_modify_ne]
    refine ⟨?_, ?_, ?_⟩
    · intro gatewayID j opened
      exact tracked.listed gatewayID j (openBefore gatewayID j opened).1
    · intro gatewayID j newestIs
      have other := (openBefore gatewayID j  (mem_filter.mp (mem_of_getLast? newestIs)).2).2
      have sameNewest : newest s gatewayID = some j := by
        rw [← newestIs]
        symm
        apply newest_congr
        · rfl
        · intro k _
          by_cases here : i = k
          · subst here
            rw [closedHere, isOpen_of_found gatewayID found,
              decide_eq_false (Ne.symm other), Bool.and_false]
          · exact isOpen_modify_ne _ _ _ here
      rw [lookup_erase_ne other]
      exact tracked.subscribed gatewayID j sameNewest
    · intro gatewayID j opened
      exact tracked.marked gatewayID j (openBefore gatewayID j opened).1

theorem tracked_disconnect {s : Server} {now : Time} (tracked : Tracked s)
    (orderly : Orderly s (.disconnect i now)) : Tracked (disconnect s i now) := by
  rcases atPhase_cases s i .unsubscribed _ with same | ⟨stream, found, waiting, disconnected⟩
  · rwa [disconnect, same]
  · rw [disconnect, disconnected]
    have noneOpen := orderly stream found waiting
    refine tracked_frame tracked ?_ rfl rfl ?_
    · apply isOpen_modify_same found rfl
      simp [waiting]
    · intro gatewayID j opened member
      have other : gatewayID ≠ stream.gatewayID := by
        grind
      exact Finset.mem_erase.mpr ⟨other, member⟩

theorem isOpen_connect (gatewayID : String) (now : Time) (other : String) (j : Nat) :
    isOpen (connect s gatewayID now).streams other j = isOpen s.streams other j := by
  simp [connect, isOpen]
  grind

theorem isOpen_broadcastEvent (event : Event) (gatewayID : String) (j : Nat) :
    isOpen (broadcastEvent s event).streams gatewayID j = isOpen s.streams gatewayID j := by
  simp [broadcastEvent, isOpen]
  cases s.streams[j]? with
  | none => rfl
  | some stream =>
    simp [offerTo]
    split <;> rfl

theorem tracked_step (input : Step) (tracked : Tracked s)
    (orderly : Orderly s input) : Tracked (step s input) := by
  cases input with
  | connect gatewayID now =>
    refine tracked_frame tracked (isOpen_connect s gatewayID now) rfl rfl fun other j _ member => ?_
    simp only [step, connect, streamConnected_set]
    exact Finset.mem_insert_of_mem member
  | subscribe i => exact tracked_subscribe tracked orderly
  | forward i =>
    rcases atPhase_cases s i .subscribed _ with same | ⟨stream, found, _, forwarded⟩
    · rwa [step, forward, same]
    · rw [step, forward, forwarded]
      refine tracked_frame tracked ?_ rfl rfl (fun _ _ _ member => member)
      exact isOpen_modify_same found rfl Iff.rfl
  | unsubscribe i => exact tracked_unsubscribe tracked orderly
  | disconnect i now => exact tracked_disconnect tracked orderly
  | broadcast event =>
    exact tracked_frame tracked (isOpen_broadcastEvent s event) rfl rfl (fun _ _ _ member => member)
  | registry op =>
    refine tracked_frame tracked (fun _ _ => rfl) rfl rfl fun gatewayID j _ member => ?_
    simp [step, streamConnected_apply]
    exact member

theorem rowsSpared_of_orderly {s : Server} {input : Step} (orderly : Orderly s input) :
    RowsSpared s input := by
  unfold RowsSpared
  split
  · intro cleans rows stored gatewayID opened
    exact (lookup_persist_iff rows gatewayID cleans).mpr (orderly rows stored gatewayID opened)
  · trivial

theorem orderly_of_stays {s : Server} {input : Step} (stays : StaysSubscribed (step s input))
    (spared : RowsSpared s input) : Orderly s input := by
  cases input with
  | registry op =>
    cases op with
    | persist write =>
      intro rows stored gatewayID opened row found
      cases write with
      | markOffline now | deleteStale now =>
        have cleans := spared ⟨now, by simp⟩ rows stored gatewayID opened
        exact (lookup_persist_iff rows gatewayID ⟨now, by simp⟩).mp cleans row found
      | upsert gw | updateHeartbeat id policyVersion now | markMTLSIssued id notAfter => rfl
    | register node now registeredNow | heartbeat id policyVersion now
    | markMTLSIssued id notAfter | cleanup clock => trivial
  | subscribe i =>
    intro stream found waiting
    rw [step, subscribe, atPhase_of _ found waiting] at stays
    have opened : isOpen (s.streams.modify i fun st => { st with phase := .subscribed })
        stream.gatewayID i = true := by
      rw [isOpen_modify_eq _ _ found]
      simp
    obtain ⟨_, _, _, marked, _⟩ := stays stream.gatewayID ⟨i, opened⟩
    exact marked
  | unsubscribe i =>
    intro stream found waiting j opened
    by_contra other
    rw [step, unsubscribe, atPhase_of _ found waiting] at stays
    have stillOpen : isOpen (s.streams.modify i fun st =>
        { st with phase := .unsubscribed, events := st.events.close })
        stream.gatewayID j = true := by
      rwa [isOpen_modify_ne _ _ _ (Ne.symm other)]
    obtain ⟨_, _, subscribed, _, _⟩ := stays stream.gatewayID ⟨j, stillOpen⟩
    rw [lookup_erase] at subscribed
    cases subscribed
  | disconnect i now =>
    intro stream found waiting j opened
    rw [step, disconnect, atPhase_of _ found waiting] at stays
    have stillOpen : isOpen (s.streams.modify i fun st => { st with phase := .closed })
        stream.gatewayID j = true := by
      grind [isOpen_modify_same]
    obtain ⟨_, _, _, marked, _⟩ := stays stream.gatewayID ⟨j, stillOpen⟩
    simp at marked
  | connect gatewayID now | forward i | broadcast event => trivial

/-- Over every interleaving: open streams stay subscribed in every state of the run and online in
every tick of the cleanup loop exactly when every step of the run is orderly. -/
theorem streams_stay_subscribed_iff (registry : Registry) (steps : List Step) :
    ((∀ reached ∈ states step (newServer registry) steps, StaysSubscribed reached) ∧
      ∀ visit ∈ visits step (newServer registry) steps, RowsSpared visit.1 visit.2) ↔
      ∀ visit ∈ visits step (newServer registry) steps, Orderly visit.1 visit.2 := by
  constructor
  · rintro ⟨stays, spared⟩ visit member
    exact orderly_of_stays (stays _ (step_mem_states member)) (spared visit member)
  · intro orderly
    refine ⟨?_, fun visit member => rowsSpared_of_orderly (orderly visit member)⟩
    intro reached member
    apply tracked_stays
    have start : Tracked (newServer registry) := by
      refine ⟨?_, ?_, ?_⟩ <;> intro gatewayID i found <;> cases found
    exact states_invariant_of step Orderly Tracked tracked_step _ steps start orderly reached member

def overlappingReconnect : List Step :=
  [.connect "gw-1" 0, .subscribe 0, .connect "gw-1" 1, .subscribe 1, .unsubscribe 0]

def silentGateway : Registry :=
  { newRegistry with store := some (AList.singleton "gw-1" { id := "gw-1" }) }

/-- The channel of the open stream is unsubscribed; and the row of a gateway with an open stream
and no heartbeat for six minutes is set offline. -/
theorem overlappingReconnect_unsubscribes :
    (¬ ∀ reached ∈ states step (newServer newRegistry) overlappingReconnect,
      StaysSubscribed reached) ∧
    ¬ ∀ visit ∈ visits step (newServer silentGateway)
        [.connect "gw-1" 0, .subscribe 0, .registry (.persist (.markOffline (6 * minute)))],
      RowsSpared visit.1 visit.2 := by
  refine ⟨?_, ?_⟩
  · intro stays
    have last := stays _ run_mem_states
    obtain ⟨i, _, subscribed, _⟩ := last "gw-1" ⟨1, by decide⟩
    have gone : (run step (newServer newRegistry) overlappingReconnect).subs.lookup "gw-1" = none :=
      rfl
    rw [gone] at subscribed
    cases subscribed
  · intro spared
    have last := spared _ (mem_cons_of_mem _ (mem_cons_of_mem _ (mem_cons_self ..)))
    have same := last ⟨6 * minute, .inl rfl⟩ _ rfl "gw-1" ⟨0, by decide⟩
    have row := (lookup_persist_iff _ "gw-1" ⟨6 * minute, .inl rfl⟩).mp same _ rfl
    exact absurd row (by decide)

end ManagementPlane.Grpc
