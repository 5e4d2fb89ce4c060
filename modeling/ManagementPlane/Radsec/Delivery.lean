import ManagementPlane.Radsec.Sessions

/-!
# What reaches the two TLS engines

The bytes that a conversation carries between the TLS engine of the server and that of
the peer: what one frame does to the buffers of its session, and what a whole exchange of
fragments delivers in either direction.
-/

namespace ManagementPlane.Radsec

open GoBinary Tables Policy Runs List Option

/-- The buffers of a session and what its engine has been given. -/
def Undisturbed (sess sess' : Session) : Prop :=
  sess'.reassembly = sess.reassembly ∧ sess'.outFrags = sess.outFrags ∧
    sess'.outOffset = sess.outOffset ∧ sess'.es.fed = sess.es.fed

theorem fragmentSent_disturbs (sess : Session) (pending : sess.outOffset < sess.outFrags.length) :
    ¬ Undisturbed sess (fragmentSent sess) := by
  rintro ⟨_, frags, offset, _⟩
  have positive : 0 < eapFragmentSize := by decide
  unfold fragmentSent buildEAPTLSFragment at frags offset
  grind

variable (choice : Choice) (sess sess' : Session)

theorem feed_disturbs (tls : Bytes) (some : tls ≠ [])
    (moved : feed choice { sess with reassembly := sess.reassembly ++ tls } = .fragment sess') :
    ¬ Undisturbed sess (fragmentSent sess') := by
  rintro ⟨_, _, _, fed⟩
  obtain ⟨_, _, _, session, _⟩ :=
    session_feed choice { sess with reassembly := sess.reassembly ++ tls }
  rw [moved] at session
  have engine : (fragmentSent sess').es = sess'.es := by
    unfold fragmentSent
    simp only
    split <;> rfl
  have after : sess'.es = fedEngine choice { sess with reassembly := sess.reassembly ++ tls } :=
    congrArg Session.es session
  grind [fed_fedEngine, length_pos_iff, length_append]

theorem feed_not_acknowledge : feed choice sess ≠ .acknowledge sess' := by
  unfold feed
  grind

theorem advanced_more (sess : Session) (eap : EapPacket) (tls : Bytes)
    (start : Bool) (frame : eapTLSData eap.data = some ⟨tls, start, true⟩) :
    advanced choice sess eap = some { sess with
      reassembly := sess.reassembly ++ tls
      eapID := sess.eapID + 1 } := by
  simp [advanced, progress, frame]

theorem advanced_ack (sess : Session) (eap : EapPacket) (start : Bool)
    (frame : eapTLSData eap.data = some ⟨[], start, false⟩) :
    advanced choice sess eap =
      if sess.outOffset < sess.outFrags.length then some (fragmentSent sess) else none := by
  simp [advanced, progress, frame]
  grind

theorem advanced_last (eap : EapPacket) (tls : Bytes)
    (start : Bool) (frame : eapTLSData eap.data = some ⟨tls, start, false⟩) (nonempty : tls ≠ [])
    (moved : advanced choice sess eap = some sess') :
    ∃ sent, feed choice { sess with reassembly := sess.reassembly ++ tls } = .fragment sent ∧
      sess' = fragmentSent sent := by
  simp [advanced, progress, frame, nonempty] at moved
  grind [feed_not_acknowledge]

theorem advanced_undisturbed_iff (sess : Session) (eap : EapPacket) :
    (∃ sess', advanced choice sess eap = some sess' ∧ Undisturbed sess sess') ↔
      ∃ start, eapTLSData eap.data = some ⟨[], start, true⟩ := by
  constructor
  · rintro ⟨sess', moved, undisturbed⟩
    rcases progress_cases choice sess eap with
      ⟨_, found⟩ | ⟨start, frame, _⟩ | ⟨tls, start, frame, _⟩ | ⟨tls, start, frame, some, _⟩
    · rw [advanced, found] at moved
      cases moved
    · grind [advanced_ack, fragmentSent_disturbs]
    · rw [advanced_more choice sess eap tls start frame] at moved
      cases moved
      have same := undisturbed.1
      have empty : tls = [] := append_right_eq_self.mp same
      rw [empty] at frame
      exact ⟨start, frame⟩
    · grind [advanced_last, feed_disturbs]
  · rintro ⟨start, frame⟩
    refine ⟨_, advanced_more choice sess eap [] start frame, ?_⟩
    exact ⟨append_nil _, rfl, rfl, rfl⟩

theorem stale_frame_ignored_iff (hashes : Hashes) (before : List Input) (conn : Conn) (p : Packet)
    (choice : Choice) (sess : Session) (eap : EapPacket)
    (known : (run (step hashes) newServer before).sessions.lookup (p.first attrState) = some sess)
    (parsed : parseEAP (collectEAPMessage p) = some eap) (_stale : eap.identifier ≠ sess.eapID) :
    (∃ sess', (run (step hashes) newServer (before ++ [.request conn p choice])).sessions.lookup
        (p.first attrState) = some sess' ∧
      sess'.reassembly = sess.reassembly ∧ sess'.outFrags = sess.outFrags ∧
      sess'.outOffset = sess.outOffset ∧ sess'.es.fed = sess.es.fed) ↔
    eap.type ≠ eapTypeTLS ∨ ∃ start, eapTLSData eap.data = some ⟨[], start, true⟩ := by
  have sound := reachable_sound hashes before _ _ known
  rw [run_concat]
  by_cases typed : eap.type = eapTypeTLS
  · have continues : Continues (run (step hashes) newServer before) p sess eap :=
      ⟨sound.token, known, parsed, typed⟩
    rw [lookup_continued hashes _ conn p choice (reachable_sound hashes before).ownTokens continues]
    have frame := advanced_undisturbed_iff choice sess eap
    constructor
    · intro kept
      exact .inr (frame.mp kept)
    · intro either
      rcases either with other | empty
      · exact absurd typed other
      · exact frame.mpr empty
  · have other : ∀ found, parseEAP (collectEAPMessage p) = some found →
        found.type ≠ eapTypeTLS := by
      grind
    rw [step, handle_notTLS hashes _ conn p choice sound.token known other]
    grind

/-- An empty fragment with an Identifier that is out of date, in the middle of a message. -/
theorem stale_frame_ignored_empty :
    let stale := demoFrame 7 [eapTLSFlagMore]
    let before := [demoStart, .request 1 (demoFrame 1 [eapTLSFlagMore, 1]) demoChoice]
    ∃ sess sess', (run (step demoHashes) newServer before).sessions.lookup demoToken =
        some sess ∧ (7 : UInt8) ≠ sess.eapID ∧ sess.reassembly = [1] ∧
      (run (step demoHashes) newServer (before ++ [.request 1 stale demoChoice])).sessions.lookup
        demoToken = some sess' ∧
      sess'.reassembly = [1] ∧ sess'.es.fed = sess.es.fed := by
  intro stale before
  have present : ((run (step demoHashes) newServer before).sessions.lookup demoToken).map
      (fun sess => (sess.eapID, sess.reassembly)) = some (2, [1]) := by decide +kernel
  obtain ⟨sess, known, fields⟩ := map_eq_some_iff.mp present
  obtain ⟨identifier, buffer⟩ := Prod.mk.inj fields
  have parsed : parseEAP (collectEAPMessage stale) =
      some ⟨eapResponse, 7, eapTypeTLS, [eapTLSFlagMore]⟩ := by decide +kernel
  have token : stale.first attrState = demoToken := first_peerRequest ..
  have outdated : (7 : UInt8) ≠ sess.eapID := by
    rw [identifier]
    decide
  have ignored := stale_frame_ignored_iff demoHashes before 1 stale demoChoice sess _
    (by rw [token]; exact known) parsed outdated
  obtain ⟨sess', after, reassembly, _, _, fed⟩ := ignored.mpr (.inr ⟨false, by decide⟩)
  exact ⟨sess, sess', known, outdated, buffer, after, reassembly.trans buffer, fed⟩

/-- The first of two fragments arrives twice, and the engine is given its bytes twice. -/
theorem duplicated_fragment_fed_twice :
    let first : Input := .request 1 (demoFrame 1 [eapTLSFlagMore, 1]) demoChoice
    let last : Input := .request 1 (demoFrame 2 [0, 2])
      { demoChoice with waiting := [.read 9, .write [9], .read 9] }
    let sessionAfter := fun inputs =>
      (run (step demoHashes) newServer inputs).sessions.lookup demoToken
    (sessionAfter [demoStart, first]).map (fun sess => (sess.eapID, sess.reassembly)) =
        some (2, [1]) ∧
      (sessionAfter [demoStart, first, first]).map Session.reassembly = some [1, 1] ∧
      (sessionAfter [demoStart, first, first, last]).map (fun sess => sess.es.fed) =
        some [1, 1, 2] ∧
      (sessionAfter [demoStart, first, last]).map (fun sess => sess.es.fed) = some [1, 2] := by
  decide +kernel

/-- A reply as a peer decodes it: the frame, and the message length if the L flag is set. -/
def decodeReply (raw : Bytes) : Option (TLSData × Option Nat) :=
  match parsePacket raw with
  | .error _ => none
  | .ok q =>
    match parseEAP (collectEAPMessage q) with
    | none => none
    | some eap =>
      (eapTLSData eap.data).map fun data => (data, (messageLength eap.data).map ofBigEndian)

/-- The fragment of a flight that begins at `offset`, as a peer should see it. -/
def fragmentAt (flight : Bytes) (offset : Nat) : TLSData × Option Nat :=
  (⟨(flight.drop offset).take eapFragmentSize, false,
      decide (eapFragmentSize < flight.length - offset)⟩,
    if offset = 0 then some (flight.length % 2 ^ 32) else none)

variable (hashes : Hashes)

theorem decodeReply_fragment (p : Packet) {sess : Session} (id : UInt8)
    (flight : Bytes) (offset : Nat) (short : sess.id.length ≤ 253) :
    decodeReply (challenge hashes p sess (buildEAPTLSFragment id flight offset).pkt) =
      some (fragmentAt flight offset) := by
  have dataLength := length_fragmentData flight offset
  have eapLength : (buildEAPTLSFragment id flight offset).pkt.length ≤ 10000 := by
    rw [buildEAPTLSFragment, length_encodeEAP]
    simp only
    omega
  obtain ⟨q, parsed, _, _, message⟩ := parsePacket_challenge hashes p sess _ short eapLength
  have eap : parseEAP (buildEAPTLSFragment id flight offset).pkt =
      some ⟨eapRequest, id, eapTypeTLS, fragmentData flight offset⟩ := by
    apply parseEAP_encode
    · exact .inl rfl
    · simp only
      omega
  have length : (if offset = 0 then some (bigEndian 4 flight.length) else none).map ofBigEndian =
      if offset = 0 then some (flight.length % 2 ^ 32) else none := by
    split
    · rw [map_some, ofBigEndian_bigEndian]
      rfl
    · rfl
  simp [decodeReply, parsed, message, eap, eapTLSData_fragmentData, messageLength_fragmentData,
    length, fragmentAt]

/-- The fragments from `offset` on. There are no more of them than there are bytes. -/
def fragmentsFrom (flight : Bytes) : (fuel offset : Nat) → List (TLSData × Option Nat)
  | 0, _ => []
  | fuel + 1, offset =>
    if flight.length ≤ offset then []
    else fragmentAt flight offset :: fragmentsFrom flight fuel (offset + eapFragmentSize)

section
variable (flight : Bytes)

theorem fragmentsFrom_beyond (fuel offset : Nat) (beyond : flight.length ≤ offset) :
    fragmentsFrom flight fuel offset = [] := by
  cases fuel with
  | zero => rfl
  | succ fuel => rw [fragmentsFrom, if_pos beyond]

theorem tls_fragmentsFrom (fuel : Nat) : ∀ offset, flight.length ≤ offset + fuel →
    (fragmentsFrom flight fuel offset).map (fun fragment => fragment.1.tls) =
      chunks eapFragmentSize (flight.drop offset) := by
  induction fuel with
  | zero =>
    intro offset enough
    rw [drop_eq_nil_of_le (by omega)]
    rfl
  | succ fuel ih =>
    intro offset enough
    by_cases beyond : flight.length ≤ offset
    · rw [fragmentsFrom_beyond flight _ offset beyond, drop_eq_nil_of_le beyond]
      rfl
    · have positive : 0 < eapFragmentSize := by decide
      have left : flight.drop offset ≠ [] := by
        simp [beyond]
      rw [fragmentsFrom, if_neg beyond, map_cons, ih (offset + eapFragmentSize) (by omega),
        chunks_cons positive left, drop_drop]
      rfl

theorem more_fragmentsFrom (fuel : Nat) : ∀ offset, flight.length ≤ offset + fuel →
    offset < flight.length →
    (fragmentsFrom flight fuel offset).map (fun fragment => fragment.1.more) =
      List.replicate ((fragmentsFrom flight fuel offset).length - 1) true ++ [false] := by
  induction fuel with
  | zero =>
    intro offset enough inside
    omega
  | succ fuel ih =>
    intro offset enough inside
    have positive : 0 < eapFragmentSize := by decide
    rw [fragmentsFrom, if_neg (by omega), map_cons, length_cons, Nat.add_sub_cancel]
    by_cases more : eapFragmentSize < flight.length - offset
    · have rest := ih (offset + eapFragmentSize) (by omega) (by omega)
      have count : 0 < (fragmentsFrom flight fuel (offset + eapFragmentSize)).length := by
        grind [length_singleton]
      obtain ⟨others, othersEq⟩ := Nat.exists_eq_add_of_lt count
      rw [rest, othersEq, fragmentAt, decide_eq_true more]
      simp [replicate_succ]
    · have none := fragmentsFrom_beyond flight fuel (offset + eapFragmentSize) (by omega)
      rw [none, fragmentAt, decide_eq_false more]
      rfl

theorem lengths_fragmentsFrom (fuel : Nat) : ∀ offset, 0 < offset →
    (fragmentsFrom flight fuel offset).map (fun fragment => fragment.2) =
      List.replicate (fragmentsFrom flight fuel offset).length none := by
  induction fuel with
  | zero =>
    intro offset _
    rfl
  | succ fuel ih =>
    intro offset later
    rw [fragmentsFrom]
    split
    · rfl
    · rw [map_cons, ih (offset + eapFragmentSize) (by omega), fragmentAt,
        if_neg (by omega), length_cons, replicate_succ]

theorem lengths_fragments {fuel : Nat} (some : 0 < flight.length) (fuelSome : 0 < fuel) :
    (fragmentsFrom flight fuel 0).map (fun fragment => fragment.2) =
      .some (flight.length % 2 ^ 32) ::
        List.replicate ((fragmentsFrom flight fuel 0).length - 1) none := by
  cases fuel with
  | zero => omega
  | succ fuel =>
    have later := lengths_fragmentsFrom flight fuel (0 + eapFragmentSize) (by decide)
    rw [fragmentsFrom, if_neg (by omega), map_cons, length_cons, Nat.add_sub_cancel,
      later, fragmentAt, if_pos rfl]

end

/-! ## Exchanges of fragments -/

def frameOf : Input → Option TLSData
  | .request _ p _ =>
    match parseEAP (collectEAPMessage p) with
    | none => none
    | some eap => if eap.type = eapTypeTLS then eapTLSData eap.data else none
  | _ => none

/-- An input that does not end or replace the conversation under a token: other than by
carrying the token, it can only advance the engine. -/
def Spares (tok : Bytes) (created : Time) : Input → Prop
  | .request conn p choice => issuedToken (.request conn p choice) ≠ some tok
  | .reap now => ¬ created < now - 2 * minute
  | .engine _ _ => True

def repliesTo (hashes : Hashes) (tok : Bytes) (s : Server) (inputs : List Input) : List Bytes :=
  (visits (step hashes) s inputs).filterMap fun visit =>
    if carries tok visit.2 then reply hashes visit.1 visit.2 else none

def piecesOf (tok : Bytes) (inputs : List Input) : List Bytes :=
  inputs.filterMap fun input =>
    if carries tok input then (frameOf input).map TLSData.tls else none

section
variable (hashes : Hashes) (tok : Bytes) (s : Server) (sess : Session)

theorem frameOf_request {conn : Conn} {p : Packet} {choice : Choice} {data : TLSData}
    (sound : Sound (fun _ => True) tok sess) (known : s.sessions.lookup tok = some sess)
    (carried : p.first attrState = tok) (frame : frameOf (.request conn p choice) = some data) :
    ∃ eap, Continues s p sess eap ∧ eapTLSData eap.data = some data := by
  simp [frameOf] at frame
  cases parsed : parseEAP (collectEAPMessage p) with
  | none =>
    rw [parsed] at frame
    cases frame
  | some eap =>
    simp [parsed] at frame
    subst carried
    exact ⟨eap, ⟨sound.token, known, parsed, frame.1⟩, frame.2⟩

theorem spared {input : Input} (own : s.OwnTokens) (known : s.sessions.lookup tok = some sess)
    (other : carries tok input = false) (spares : Spares tok sess.created input) :
    ∃ es, (step hashes s input).sessions.lookup tok = some { sess with es := es } ∧
      es.fed = sess.es.fed := by
  have row := step_row hashes own input tok
  generalize (step hashes s input).sessions.lookup tok = after at row
  cases row with
  | same input => exact ⟨sess.es, known, rfl⟩
  | opened conn p choice eap fresh issued => exact absurd issued spares
  | continued conn p choice sess eap carried continues =>
    exact absurd carried (by simpa [carries] using other)
  | reaped now stale => exact absurd (stale sess known) spares
  | engine steps found foundHere =>
    grind [fed_performAll]

theorem fragmentsFrom_fragmentSent (fuel : Nat) :
    fragmentsFrom (fragmentSent sess).outFrags fuel (fragmentSent sess).outOffset =
      fragmentsFrom sess.outFrags fuel (sess.outOffset + eapFragmentSize) := by
  unfold fragmentSent buildEAPTLSFragment
  simp only
  split
  · rename_i finished
    have beyond : sess.outFrags.length ≤ sess.outOffset + eapFragmentSize := by omega
    rw [fragmentsFrom_beyond sess.outFrags fuel _ beyond]
    exact fragmentsFrom_beyond [] fuel 0 (Nat.le_refl _)
  · grind

theorem reply_fragment (conn : Conn) {p : Packet} {choice : Choice} {eap : EapPacket}
    {sent : Session} (continues : Continues s p sess eap)
    (moved : progress choice sess eap = .fragment sent) :
    reply hashes s (.request conn p choice) =
      some (challenge hashes p (fragmentSent sent)
        (buildEAPTLSFragment (sent.eapID + 1) sent.outFrags sent.outOffset).pkt) := by
  rw [reply, handle_continues hashes s conn p choice continues, advance, moved]
  rfl

theorem repliesTo_cons (input : Input) (rest : List Input) :
    repliesTo hashes tok s (input :: rest) =
      (if carries tok input then (reply hashes s input).toList else []) ++
        repliesTo hashes tok (step hashes s input) rest := by
  rw [repliesTo, visits, filterMap_cons]
  by_cases carried : carries tok input = true
  · simp [if_pos carried]
    cases reply hashes s input <;> rfl
  · simp [if_neg carried]
    rfl

end

theorem acks_delivered (tok : Bytes) (after : List Input) :
    ∀ (s : Server) (sess : Session) (fuel : Nat), s.Sound (fun _ => True) →
    s.sessions.lookup tok = some sess →
    (∀ input ∈ after, carries tok input = true → ∃ start, frameOf input = some ⟨[], start, false⟩) →
    (∀ input ∈ after, Spares tok sess.created input) →
    after.countP (carries tok) ≤ (fragmentsFrom sess.outFrags fuel sess.outOffset).length →
    (repliesTo hashes tok s after).map decodeReply =
      ((fragmentsFrom sess.outFrags fuel sess.outOffset).take (after.countP (carries tok))).map
        some := by
  induction after with
  | nil =>
    intro s sess fuel _ _ _ _ _
    rw [countP_nil, take_zero]
    rfl
  | cons input rest ih =>
    intro s sess fuel sound known acks spares enough
    have nextSound := sound_step hashes _ s input sound (vouches_trivial input)
    have acksLater := fun later member => acks later (mem_cons_of_mem _ member)
    have sparesLater := fun later member => spares later (mem_cons_of_mem _ member)
    rw [repliesTo_cons]
    by_cases carried : carries tok input = true
    · rw [countP_cons_of_pos carried] at enough ⊢
      rw [if_pos carried]
      obtain ⟨start, frame⟩ := acks input (mem_cons_self ..) carried
      cases input with
      | reap now | engine token steps => cases carried
      | request conn p choice =>
        have mine : p.first attrState = tok := by simpa [carries] using carried
        obtain ⟨eap, continues, data⟩ :=
          frameOf_request tok s sess (sound tok sess known) known mine frame
        -- There is a fragment left, so the cursor is inside the flight.
        cases fuel with
        | zero =>
          rw [fragmentsFrom, length_nil] at enough
          omega
        | succ fuel =>
          by_cases beyond : sess.outFrags.length ≤ sess.outOffset
          · grind [fragmentsFrom_beyond]
          · have pending : sess.outOffset < sess.outFrags.length := by omega
            have moved : progress choice sess eap = .fragment sess := by
              simp [progress, data, if_pos pending]
            have row := lookup_continued hashes s conn p choice sound.ownTokens continues
            rw [advanced_ack choice sess eap start data, if_pos pending, mine] at row
            have short : (fragmentSent sess).id.length ≤ 253 := by
              rw [id_fragmentSent, (sound tok sess known).id]
              exact (sound tok sess known).short
            have created : (fragmentSent sess).created = sess.created := by
              unfold fragmentSent
              simp only
              split <;> rfl
            rw [fragmentsFrom, if_neg beyond] at enough ⊢
            rw [length_cons] at enough
            have later := ih _ (fragmentSent sess) fuel nextSound row acksLater
              (by rw [created]; exact sparesLater)
              (by rw [fragmentsFrom_fragmentSent]; omega)
            rw [fragmentsFrom_fragmentSent] at later
            rw [reply_fragment hashes s sess conn continues moved,
              toList_some, singleton_append, map_cons, later,
              decodeReply_fragment hashes p _ _ _ short, take_succ_cons, map_cons]
    · rw [countP_cons_of_neg carried] at enough ⊢
      rw [if_neg carried, nil_append]
      obtain ⟨es, row, _⟩ := spared hashes tok s sess sound.ownTokens known
        (Bool.eq_false_iff.mpr carried) (spares input (mem_cons_self ..))
      exact ih _ { sess with es := es } fuel nextSound row acksLater sparesLater enough

theorem fragments_reassembled (tok : Bytes) (middle : List Input) :
    ∀ (s : Server) (sess : Session), s.Sound (fun _ => True) →
    s.sessions.lookup tok = some sess →
    (∀ input ∈ middle, carries tok input = true →
      ∃ tls start, frameOf input = some ⟨tls, start, true⟩) →
    (∀ input ∈ middle, Spares tok sess.created input) →
    ∃ sess', (run (step hashes) s middle).sessions.lookup tok = some sess' ∧
      sess'.reassembly = sess.reassembly ++ (piecesOf tok middle).flatten ∧
      sess'.es.fed = sess.es.fed := by
  induction middle with
  | nil =>
    intro s sess _ known _ _
    exact ⟨sess, known, (append_nil _).symm, rfl⟩
  | cons input rest ih =>
    intro s sess sound known fragments spares
    have nextSound := sound_step hashes _ s input sound (vouches_trivial input)
    have fragmentsLater := fun later member => fragments later (mem_cons_of_mem _ member)
    have sparesLater := fun later member => spares later (mem_cons_of_mem _ member)
    by_cases carried : carries tok input = true
    · obtain ⟨tls, start, frame⟩ := fragments input (mem_cons_self ..) carried
      have piece : piecesOf tok (input :: rest) = tls :: piecesOf tok rest := by
        simp only [piecesOf, filterMap_cons, if_pos carried, frame, map_some]
      cases input with
      | reap now | engine token steps => cases carried
      | request conn p choice =>
        have mine : p.first attrState = tok := by simpa [carries] using carried
        obtain ⟨eap, continues, data⟩ :=
          frameOf_request tok s sess (sound tok sess known) known mine frame
        have row := lookup_continued hashes s conn p choice sound.ownTokens continues
        rw [advanced_more choice sess eap tls start data, mine] at row
        obtain ⟨sess', last, buffer, fed⟩ := ih _ _ nextSound row fragmentsLater sparesLater
        refine ⟨sess', last, ?_, fed⟩
        rw [buffer, piece, flatten_cons, append_assoc]
    · have piece : piecesOf tok (input :: rest) = piecesOf tok rest := by
        simp only [piecesOf, filterMap_cons, if_neg carried]
      obtain ⟨es, row, fed⟩ := spared hashes tok s sess sound.ownTokens known
        (Bool.eq_false_iff.mpr carried) (spares input (mem_cons_self ..))
      obtain ⟨sess', last, buffer, fed'⟩ := ih _ _ nextSound row fragmentsLater sparesLater
      refine ⟨sess', last, ?_, fed'.trans fed⟩
      rw [buffer, piece]

/-- The TLS engine has ended the handshake with an error when the server looks. -/
def HandshakeFailed (choice : Choice) (sess : Session) : Prop :=
  (fedEngine choice sess).done = true ∧ (fedEngine choice sess).hsErr ≠ none

def serverFlight (choice : Choice) (sess : Session) : Bytes :=
  ((sess.es.push sess.reassembly).collectOutbound choice.waiting).2

theorem feed_fragment {choice : Choice} {sess : Session} (going : ¬ HandshakeFailed choice sess)
    (flight : serverFlight choice sess ≠ []) :
    ∃ sent, feed choice sess = .fragment sent ∧ sent.outFrags = serverFlight choice sess ∧
      sent.outOffset = 0 ∧ sent.id = sess.id ∧ sent.created = sess.created := by
  unfold HandshakeFailed at going
  unfold serverFlight at flight ⊢
  exact ⟨_, (if_neg going).trans (if_neg flight), rfl, rfl, rfl, rfl⟩

theorem feed_reject {choice : Choice} {sess : Session} (failed : HandshakeFailed choice sess) :
    ∃ sess', feed choice sess = .reject sess' :=
  ⟨_, if_pos failed⟩

theorem progress_last (sess : Session) {eap : EapPacket} {tls : Bytes}
    {start : Bool} (frame : eapTLSData eap.data = some ⟨tls, start, false⟩) (nonempty : tls ≠ []) :
    progress choice sess eap = feed choice { sess with reassembly := sess.reassembly ++ tls } := by
  simp [progress, frame, nonempty]

theorem flight_delivered {tok : Bytes} {s : Server} {sess sent : Session}
    (conn : Conn) {p : Packet} {choice : Choice} {eap : EapPacket} {after : List Input}
    (sound : s.Sound fun _ => True) (mine : p.first attrState = tok)
    (continues : Continues s p sess eap) (moved : progress choice sess eap = .fragment sent)
    (whole : sent.outOffset = 0) (nonempty : sent.outFrags ≠ [])
    (same : sent.id = sess.id) (created : sent.created = sess.created)
    (acks : ∀ input ∈ after, carries tok input = true →
      ∃ start, frameOf input = some ⟨[], start, false⟩)
    (spares : ∀ input ∈ after, Spares tok sess.created input)
    (count : after.countP (carries tok) + 1 = (chunks eapFragmentSize sent.outFrags).length) :
    (repliesTo hashes tok s (.request conn p choice :: after)).map decodeReply =
      (fragmentsFrom sent.outFrags sent.outFrags.length 0).map some := by
  have carried : carries tok (.request conn p choice) = true := decide_eq_true mine
  have positive := length_pos_iff.mpr nonempty
  have rowSound := sound _ _ continues.known
  obtain ⟨fuel, fuelEq⟩ : ∃ fuel, sent.outFrags.length = fuel + 1 :=
    ⟨sent.outFrags.length - 1, by omega⟩
  have short : (fragmentSent sent).id.length ≤ 253 := by
    rw [id_fragmentSent, same, rowSound.id]
    exact rowSound.short
  have row := lookup_continued hashes s conn p choice sound.ownTokens continues
  rw [advanced, moved, mine] at row
  have createdSent : (fragmentSent sent).created = sess.created := by
    rw [← created]
    unfold fragmentSent
    simp only
    split <;> rfl
  have total := congrArg List.length
    (tls_fragmentsFrom sent.outFrags sent.outFrags.length 0 (by omega))
  rw [length_map, drop_zero, ← count, fuelEq, fragmentsFrom, if_neg (by omega), length_cons,
    Nat.zero_add] at total
  have rest := acks_delivered hashes tok after _ (fragmentSent sent) fuel
    (sound_step hashes _ s _ sound (vouches_trivial _)) row acks
    (by rw [createdSent]; exact spares)
    (by rw [fragmentsFrom_fragmentSent, whole, Nat.zero_add]; omega)
  rw [fragmentsFrom_fragmentSent, whole, Nat.zero_add, take_of_length_le (by omega)] at rest
  rw [repliesTo_cons, if_pos carried,
    reply_fragment hashes s sess conn continues moved, toList_some,
    singleton_append, map_cons, rest, decodeReply_fragment hashes p _ _ _ short, whole,
    fuelEq, fragmentsFrom, if_neg (by omega), map_cons, Nat.zero_add]

/-- A flight of the server reaches the peer unless the handshake has failed, which is answered
with an Access-Reject; a flight of the peer reaches the engine. -/
theorem eapTLS_delivery (hashes : Hashes) (before : List Input) (tok : Bytes) (sess : Session)
    (known : (run (step hashes) newServer before).sessions.lookup tok = some sess) :
    (∀ conn p choice tls start, p.first attrState = tok →
      frameOf (.request conn p choice) = some ⟨tls, start, false⟩ → tls ≠ [] →
      let fed := { sess with reassembly := sess.reassembly ++ tls }
      let flight := serverFlight choice fed
      (HandshakeFailed choice fed → (handleAccessRequest hashes
        (run (step hashes) newServer before) conn p choice).2 = reject hashes p) ∧
      (¬ HandshakeFailed choice fed → flight ≠ [] → ∀ after : List Input,
        (∀ input ∈ after, carries tok input = true →
          ∃ start, frameOf input = some ⟨[], start, false⟩) →
        (∀ input ∈ after, Spares tok sess.created input) →
        after.countP (carries tok) + 1 = (chunks eapFragmentSize flight).length →
        ∃ fragments : List (TLSData × Option Nat),
          (repliesTo hashes tok (run (step hashes) newServer before)
            (.request conn p choice :: after)).map decodeReply = fragments.map some ∧
          (fragments.map fun fragment => fragment.1.tls).flatten = flight ∧
          (fragments.map fun fragment => fragment.1.more) =
            List.replicate (fragments.length - 1) true ++ [false] ∧
          (fragments.map fun fragment => fragment.2) =
            some (flight.length % 2 ^ 32) :: List.replicate (fragments.length - 1) none ∧
          ∀ fragment ∈ fragments, fragment.1.tls.length ≤ 1000)) ∧
    (∀ middle conn p choice tls start, sess.reassembly = [] →
      (∀ input ∈ middle, carries tok input = true →
        ∃ tls start, frameOf input = some ⟨tls, start, true⟩) →
      (∀ input ∈ middle, Spares tok sess.created input) →
      p.first attrState = tok → frameOf (.request conn p choice) = some ⟨tls, start, false⟩ →
      tls ≠ [] →
      ∃ sess' eap, (run (step hashes) newServer (before ++ middle)).sessions.lookup tok =
          some sess' ∧ parseEAP (collectEAPMessage p) = some eap ∧
        sess'.es.fed = sess.es.fed ∧
        (progress choice sess' eap).session.es.fed =
          sess.es.fed ++ (piecesOf tok (middle ++ [.request conn p choice])).flatten) := by
  have sound := reachable_sound hashes before
  refine ⟨?_, ?_⟩
  · intro conn p choice tls start mine frame nonempty fed flight
    obtain ⟨eap, continues, data⟩ := frameOf_request tok _ sess
      (sound tok sess known) known mine frame
    have progressed : progress choice sess eap = feed choice fed :=
      progress_last choice sess data nonempty
    refine ⟨?_, ?_⟩
    · intro failed
      obtain ⟨sess', rejected⟩ := feed_reject failed
      rw [handle_continues hashes _ conn p choice continues, advance, progressed, rejected]
      rfl
    · intro going some after acks spares count
      obtain ⟨sent, moved, isFlight, whole, same, created⟩ := feed_fragment going some
      have pieces := tls_fragmentsFrom flight flight.length 0 (by omega)
      have inside := length_pos_iff.mpr some
      rw [drop_zero] at pieces
      refine ⟨fragmentsFrom flight flight.length 0, ?_, ?_, ?_, ?_, ?_⟩
      · have out : flight = sent.outFrags := isFlight.symm
        rw [out] at count some ⊢
        exact flight_delivered hashes conn sound mine continues
          (progressed.trans moved) whole some same created acks spares count
      · rw [pieces, flatten_chunks (by decide)]
      · exact more_fragmentsFrom _ _ _ (by omega) inside
      · exact lengths_fragments _ inside inside
      · intro fragment member
        have piece := mem_map_of_mem (f := fun fragment => fragment.1.tls) member
        rw [pieces] at piece
        exact (length_mem_chunks (by decide) _ piece).2
  · intro middle conn p choice tls start empty fragments spares mine frame nonempty
    obtain ⟨sess', last, buffer, fed⟩ := fragments_reassembled hashes tok middle _ sess sound known
      fragments spares
    rw [← run_append] at last
    have soundLast := reachable_sound hashes (before ++ middle)
    obtain ⟨eap, continues, data⟩ := frameOf_request tok _ sess'
      (soundLast tok sess' last) last mine frame
    have carried : carries tok (.request conn p choice) = true := decide_eq_true mine
    have pieces : piecesOf tok (middle ++ [.request conn p choice]) =
        piecesOf tok middle ++ [tls] := by
      simp only [piecesOf, filterMap_append, filterMap_cons, if_pos carried, frame,
        map_some, filterMap_nil]
    obtain ⟨_, _, _, session, _⟩ :=
      session_feed choice { sess' with reassembly := sess'.reassembly ++ tls }
    refine ⟨sess', eap, last, continues.parsed, fed, ?_⟩
    rw [progress_last choice sess' data nonempty, session, fed_fedEngine]
    rw [fed, buffer, empty, nil_append, pieces, flatten_append, flatten_singleton]

/-- A flight of 1001 bytes in two fragments, and a flight of the peer in two. -/
theorem eapTLS_delivery_demo :
    let flight := List.replicate 1001 (7 : UInt8)
    let last : Packet := demoFrame 2 [0, 2]
    let answering := { demoChoice with waiting := [.read 9, .write flight, .read 9] }
    let ack : Input := .request 1 (demoFrame 2 [0]) demoChoice
    let first : Input := .request 1 (demoFrame 1 [eapTLSFlagMore, 1]) demoChoice
    (∃ fragments : List (TLSData × Option Nat),
      (repliesTo demoHashes demoToken (run (step demoHashes) newServer [demoStart])
        [.request 1 last answering, ack]).map decodeReply = fragments.map some ∧
      (fragments.map fun fragment => fragment.1.tls).flatten = flight) ∧
    (∃ sess' eap, (run (step demoHashes) newServer ([demoStart] ++ [first])).sessions.lookup
        demoToken = some sess' ∧
      (progress answering sess' eap).session.es.fed =
        (piecesOf demoToken ([first] ++ [.request 1 last answering])).flatten) := by
  intro flight last answering ack first
  have known : (run (step demoHashes) newServer [demoStart]).sessions.lookup demoToken =
      some { id := demoToken, eapID := 1 } := by decide +kernel
  have token : last.first attrState = demoToken := first_peerRequest ..
  have lastFrame : frameOf (.request 1 last answering) = some ⟨[2], false, false⟩ := by
    decide +kernel
  have delivery := eapTLS_delivery demoHashes [demoStart] demoToken _ known
  refine ⟨?_, ?_⟩
  · have going : ¬ HandshakeFailed answering { id := demoToken, eapID := 1, reassembly := [2] } := by
      unfold HandshakeFailed
      decide +kernel
    have sent := (delivery.1 1 last answering [2] false token lastFrame (by decide)).2
      going (by decide +kernel) [ack]
    obtain ⟨fragments, replies, whole, _⟩ := sent
      (fun input member _ => by
        rw [mem_singleton.mp member]
        exact ⟨false, by decide +kernel⟩)
      (fun input member => by
        rw [mem_singleton.mp member]
        exact (by decide +kernel : issuedToken ack ≠ some demoToken))
      (by decide +kernel)
    exact ⟨fragments, replies, whole⟩
  · have fed := delivery.2 [first] 1 last answering [2] false rfl
      (fun input member _ => by
        rw [mem_singleton.mp member]
        exact ⟨[1], false, by decide +kernel⟩)
      (fun input member => by
        rw [mem_singleton.mp member]
        exact (by decide +kernel : issuedToken first ≠ some demoToken))
      token lastFrame (by decide)
    obtain ⟨sess', eap, there, _, _, bytes⟩ := fed
    exact ⟨sess', eap, there, bytes⟩

/-- The engine writes an alert and ends the handshake with an error: the alert is not sent. -/
theorem alert_not_delivered :
    let failing := { demoChoice with
      waiting := [.read 9, .write [21, 2, 42], .finish (some "bad certificate") {}] }
    serverFlight failing { id := demoToken, eapID := 1, reassembly := [2] } = [21, 2, 42] ∧
      (repliesTo demoHashes demoToken (run (step demoHashes) newServer [demoStart])
        [.request 1 (demoFrame 1 [0, 2]) failing]).map decodeReply = [none] := by
  decide +kernel

end ManagementPlane.Radsec
