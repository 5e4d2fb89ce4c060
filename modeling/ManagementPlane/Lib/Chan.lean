import Mathlib.Data.List.Basic

/-!
# Buffered channels

A Go channel with a buffer, together with everything that was ever sent on it.
`offer` is a `select` between a send and a `default`, which drops the value when
the buffer is full; `receive` takes the oldest value. A send on a closed channel
panics: the channel stays as it is and the sender has to account for the panic.
-/

namespace GoChan

structure Chan (α : Type) where
  buffer : List α := []
  sent : List α := []
  closed : Bool := false

variable {α : Type} (cap : Nat)

def Chan.HasRoom (ch : Chan α) : Prop := ch.buffer.length < cap

instance (ch : Chan α) : Decidable (ch.HasRoom cap) :=
  inferInstanceAs (Decidable (ch.buffer.length < cap))

def Chan.send (ch : Chan α) (a : α) : Chan α :=
  { ch with buffer := ch.buffer ++ [a], sent := ch.sent ++ [a] }

def Chan.offer (ch : Chan α) (a : α) : Chan α :=
  if ch.closed = false ∧ ch.HasRoom cap then ch.send a else ch

def Chan.receive (ch : Chan α) : Chan α := { ch with buffer := ch.buffer.tail }

def Chan.close (ch : Chan α) : Chan α := { ch with closed := true }

theorem Chan.offer_of_room (ch : Chan α) (a : α) (isOpen : ch.closed = false)
    (room : ch.HasRoom cap) : ch.offer cap a = ch.send a :=
  if_pos ⟨isOpen, room⟩

@[simp]
theorem Chan.closed_offer (ch : Chan α) (a : α) : (ch.offer cap a).closed = ch.closed := by
  rw [Chan.offer]
  split <;> rfl

end GoChan
