import ManagementPlane.Lib.Chan
import ManagementPlane.Lib.Tables
import ManagementPlane.Policy.Types

/-!
# The WebSocket hub

`internal/websocket/hub.go`: the clients of the hub and the steps that touch them.
`HandleSubscribe` registers a client, reads the store's version and sends it as a
greeting, each step on its own; only then do the pumps of the client start, so
only then can it unregister. The hub's map of clients is the `registered` mark.
A send on a closed channel panics.
-/

namespace ManagementPlane.Push

open GoChan Tables Policy List

inductive Greeting where
  | pending
  | read (version : Int)
  | sent

structure Client where
  gatewayID : String
  registered : Bool
  send : Chan Event
  greeting : Greeting

def clientCap : Nat := 64

/-- The index of a client stands for its pointer. -/
structure Hub where
  clients : List Client
  panicked : Bool

def newHub : Hub := ⟨[], false⟩

def register (h : Hub) (gatewayID : String) : Hub :=
  { h with clients := h.clients ++ [⟨gatewayID, true, {}, .pending⟩] }

def readVersion (h : Hub) (i : Nat) (version : Int) : Hub :=
  { h with
    clients := h.clients.modify i fun cl =>
      match cl.greeting with
      | .pending => { cl with greeting := .read version }
      | _ => cl }

/-- The greeting is a plain send: it waits while the buffer is full. -/
def greetClient (time : Time) (cl : Client) : Client :=
  match cl.greeting with
  | .read version =>
    if cl.send.closed = false ∧ cl.send.HasRoom clientCap then
      { cl with send := cl.send.send ⟨.policyUpdate, version, time⟩, greeting := .sent }
    else cl
  | _ => cl

def greetsClosed (cl : Client) : Bool :=
  match cl.greeting with
  | .read _ => cl.send.closed
  | _ => false

def greet (h : Hub) (i : Nat) (time : Time) : Hub :=
  { clients := h.clients.modify i (greetClient time)
    panicked := h.panicked || (h.clients[i]?).any greetsClosed }

def pump (h : Hub) (i : Nat) : Hub :=
  { h with
    clients := h.clients.modify i fun cl =>
      match cl.greeting with
      | .sent => { cl with send := cl.send.receive }
      | _ => cl }

def closeClient (cl : Client) : Client :=
  if cl.registered then { cl with registered := false, send := cl.send.close } else cl

def unregister (h : Hub) (i : Nat) : Hub :=
  { h with
    clients := h.clients.modify i fun cl =>
      match cl.greeting with
      | .sent => closeClient cl
      | _ => cl }

def closeAll (h : Hub) : Hub := { h with clients := h.clients.map closeClient }

def pushTo (event : Event) (cl : Client) : Client :=
  if cl.registered then { cl with send := cl.send.offer clientCap event } else cl

def broadcast (h : Hub) (event : Event) : Hub :=
  { clients := h.clients.map (pushTo event)
    panicked := h.panicked || h.clients.any fun cl => cl.registered && cl.send.closed }

def Client.Sound (cl : Client) : Prop := cl.registered = true → cl.send.closed = false

def Hub.Sound (h : Hub) : Prop := ∀ cl ∈ h.clients, cl.Sound

variable {h : Hub}

theorem sound_modify {i : Nat} {f : Client → Client} (sound : h.Sound)
    (keeps : ∀ cl : Client, cl.Sound → (f cl).Sound) : ∀ cl ∈ h.clients.modify i f, cl.Sound := by
  intro cl member
  rcases mem_modify member with old | ⟨before, found, rfl⟩
  · exact sound cl old
  · exact keeps before (sound before (mem_of_getElem? found))

theorem sound_register (gatewayID : String) (sound : h.Sound) : (register h gatewayID).Sound := by
  intro cl member
  rcases mem_append.mp member with old | new
  · exact sound cl old
  · rw [mem_singleton.mp new]
    intro _
    rfl

theorem sound_readVersion (i : Nat) (version : Int) (sound : h.Sound) :
    (readVersion h i version).Sound := by
  apply sound_modify sound
  intro cl clientSound
  split <;> exact clientSound

theorem sound_greet (i : Nat) (time : Time) (sound : h.Sound) : (greet h i time).Sound := by
  apply sound_modify sound
  intro cl clientSound
  rw [greetClient]
  split
  · split <;> exact clientSound
  · exact clientSound

theorem sound_pump (i : Nat) (sound : h.Sound) : (pump h i).Sound := by
  apply sound_modify sound
  intro cl clientSound
  split <;> exact clientSound

theorem closeClient_sound {cl : Client} (clientSound : cl.Sound) : (closeClient cl).Sound := by
  rw [closeClient]
  split
  · nofun
  · exact clientSound

theorem sound_unregister (i : Nat) (sound : h.Sound) : (unregister h i).Sound := by
  apply sound_modify sound
  grind [closeClient_sound]

theorem sound_closeAll (sound : h.Sound) : (closeAll h).Sound := by
  intro cl member
  obtain ⟨before, beforeMember, rfl⟩ := mem_map.mp member
  exact closeClient_sound (sound before beforeMember)

theorem sound_broadcast (event : Event) (sound : h.Sound) : (broadcast h event).Sound := by
  intro cl member
  obtain ⟨before, beforeMember, rfl⟩ := mem_map.mp member
  intro registered
  have clientSound := sound before beforeMember
  rw [pushTo] at registered ⊢
  split at registered
  · rename_i isRegistered
    rw [if_pos isRegistered, Chan.closed_offer]
    exact clientSound isRegistered
  · grind

theorem broadcast_reaches (event : Event) (sound : h.Sound) {i : Nat} {cl : Client}
    (found : h.clients[i]? = some cl) (registered : cl.registered = true)
    (room : cl.send.HasRoom clientCap) :
    (broadcast h event).clients[i]? = some { cl with send := cl.send.send event } := by
  have isOpen := sound cl (mem_of_getElem? found) registered
  rw [broadcast, getElem?_map, found, Option.map_some, pushTo, if_pos registered,
    Chan.offer_of_room clientCap cl.send event isOpen room]

end ManagementPlane.Push
