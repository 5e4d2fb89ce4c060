import ManagementPlane.Lib.Binary

/-!
# The connection between the RADIUS loop and the TLS engine

`internal/radsec/conn.go`: an in-memory connection that `crypto/tls` reads from and
writes to while the RADIUS loop feeds and drains it. What the handshake goroutine does
next is not up to this program: it comes as a list of steps, and a step that the
goroutine cannot take where it stands has no effect.
-/

namespace ManagementPlane.Radsec

open GoBinary List

structure Certificate where
  raw : Bytes
  commonName : Bytes
  organization : List Bytes
  deriving DecidableEq

/-- `keyingMaterial` is what `ExportKeyingMaterial` returns for the EAP-TLS label. -/
structure ConnectionState where
  peerCertificates : List Certificate := []
  keyingMaterial : Option Bytes := none
  deriving DecidableEq

structure MemConn where
  inbound : Bytes := []
  outbound : Bytes := []
  readWaiting : Bool := false
  closed : Bool := false
  deriving DecidableEq

/-- `done` is the closed channel, and `received` is what the engine has read so far. -/
structure EapSession where
  mc : MemConn := {}
  connectionState : ConnectionState := {}
  done : Bool := false
  hsErr : Option String := none
  received : Bytes := []
  deriving DecidableEq

/-- What the handshake goroutine does with its connection. -/
inductive TlsStep where
  | read (size : Nat)
  | write (data : Bytes)
  | finish (err : Option String) (state : ConnectionState)

def MemConn.pushInbound (c : MemConn) (b : Bytes) : MemConn := { c with inbound := c.inbound ++ b }

/-- The goroutine is inside `Read` and cannot leave it but by reading. -/
def MemConn.blocked (c : MemConn) : Bool := c.readWaiting && !(c.closed && c.inbound.isEmpty)

def EapSession.perform (es : EapSession) (step : TlsStep) : EapSession :=
  if es.done then es
  else
    match step with
    | .read size =>
      if es.mc.inbound = [] then
        if es.mc.closed then es else { es with mc := { es.mc with readWaiting := true } }
      else
        { es with
          mc := { es.mc with readWaiting := false, inbound := es.mc.inbound.drop size }
          received := es.received ++ es.mc.inbound.take size }
    | .write data =>
      if es.mc.blocked || es.mc.closed then es
      else { es with mc := { es.mc with outbound := es.mc.outbound ++ data } }
    | .finish err state =>
      if es.mc.blocked then es
      else { es with done := true, hsErr := err, connectionState := state }

def EapSession.performAll (es : EapSession) (steps : List TlsStep) : EapSession :=
  steps.foldl EapSession.perform es

def EapSession.push (es : EapSession) (b : Bytes) : EapSession :=
  { es with mc := es.mc.pushInbound b }

def EapSession.flightReady (es : EapSession) : Bool :=
  es.done || (!es.mc.outbound.isEmpty && es.mc.readWaiting) || es.mc.closed

def EapSession.collectOutbound (es : EapSession) : List TlsStep → EapSession × Bytes
  | [] => ({ es with mc := { es.mc with outbound := [] } }, es.mc.outbound)
  | step :: later =>
    if es.flightReady then ({ es with mc := { es.mc with outbound := [] } }, es.mc.outbound)
    else (es.perform step).collectOutbound later

/-- All bytes pushed so far: those it has read and those that wait for it. -/
def EapSession.fed (es : EapSession) : Bytes := es.received ++ es.mc.inbound

variable (es : EapSession)

theorem fed_perform (step : TlsStep) : (es.perform step).fed = es.fed := by
  unfold EapSession.perform
  split
  · rfl
  · cases step with
    | read size =>
      simp only
      split
      · split <;> rfl
      · simp [EapSession.fed]
    | write data | finish err state =>
      simp only
      split <;> rfl

theorem fed_performAll (steps : List TlsStep) : (es.performAll steps).fed = es.fed := by
  induction steps generalizing es with
  | nil => rfl
  | cons step later ih =>
    have rest := ih (es.perform step)
    rw [fed_perform] at rest
    exact rest

theorem fed_push (b : Bytes) : (es.push b).fed = es.fed ++ b := by
  simp [EapSession.fed, EapSession.push, MemConn.pushInbound]

theorem fed_collectOutbound (steps : List TlsStep) : (es.collectOutbound steps).1.fed = es.fed := by
  induction steps generalizing es with
  | nil => rfl
  | cons step later ih =>
    rw [EapSession.collectOutbound]
    split
    · rfl
    · rw [ih, fed_perform]

/-- The handshake is over with this error, or without one, and in this state. -/
def EapSession.Ended (es : EapSession) (err : Option String) (state : ConnectionState) : Prop :=
  es.done = true ∧ es.hsErr = err ∧ es.connectionState = state

section
variable (es : EapSession) (err : Option String) (state : ConnectionState)

theorem ended_performAll (steps : List TlsStep) (ended : es.Ended err state) :
    (es.performAll steps).Ended err state := by
  induction steps with
  | nil => exact ended
  | cons step later ih =>
    have idle : es.perform step = es := by
      unfold EapSession.perform
      rw [if_pos ended.1]
    rwa [EapSession.performAll, foldl_cons, idle]

theorem ended_collectOutbound (steps : List TlsStep) (ended : es.Ended err state) :
    (es.collectOutbound steps).1.Ended err state := by
  have ready : es.flightReady = true := by simp [EapSession.flightReady, ended.1]
  cases steps with
  | nil => exact ended
  | cons step later =>
    rwa [EapSession.collectOutbound, if_pos ready]

end

def EapSession.Vouched (verified : ConnectionState → Prop) (es : EapSession) : Prop :=
  es.done = true → es.hsErr = none → verified es.connectionState

def TlsStep.Vouches (verified : ConnectionState → Prop) : TlsStep → Prop
  | .finish none state => verified state
  | _ => True

variable (verified : ConnectionState → Prop) (es : EapSession)

theorem vouched_perform (step : TlsStep) (before : es.Vouched verified)
    (sound : step.Vouches verified) : (es.perform step).Vouched verified := by
  unfold EapSession.perform
  by_cases done : es.done = true
  · rwa [if_pos done]
  · rw [if_neg done]
    cases step with
    | read size =>
      simp only
      split
      · split <;> exact before
      · exact before
    | write data =>
      simp only
      split <;> exact before
    | finish err state =>
      simp only
      split
      · exact before
      · intro _ noError
        subst noError
        exact sound

theorem vouched_performAll (steps : List TlsStep) (before : es.Vouched verified)
    (sound : ∀ step ∈ steps, step.Vouches verified) : (es.performAll steps).Vouched verified := by
  induction steps generalizing es with
  | nil => exact before
  | cons step later ih =>
    have here := vouched_perform verified es step before (sound step (mem_cons_self ..))
    exact ih (es.perform step) here fun s member => sound s (mem_cons_of_mem _ member)

theorem vouched_collectOutbound (steps : List TlsStep)
    (before : es.Vouched verified) (sound : ∀ step ∈ steps, step.Vouches verified) :
    (es.collectOutbound steps).1.Vouched verified := by
  induction steps generalizing es with
  | nil => exact before
  | cons step later ih =>
    rw [EapSession.collectOutbound]
    split
    · exact before
    · grind [vouched_perform]

end ManagementPlane.Radsec
