import ActivityRelay.Proofs.Task.Alone

/-! What leaves a relay: nothing is handed to the control channel but the text of a message, as it
came, when the message is heard. -/
namespace ActivityRelay

namespace Relay

/-- The control channel with all that was ever handed to it. -/
def outbox (r : Relay) : ControlChannel × List String := (r.channel, r.forwarded)

@[simp] theorem outbox_note (r : Relay) (rec : Record) : (r.note rec).outbox = r.outbox := rfl

@[simp] theorem outbox_drop (r : Relay) (c : Option Connection) :
    (r.drop c).outbox = r.outbox := by cases c <;> rfl

@[simp] theorem outbox_hear (r : Relay) (origin : ClientId) (raw : String) :
    (r.hear origin raw).outbox = (r.channel, r.forwarded ++ [raw]) := by
  unfold hear forward
  split <;> rfl

@[simp] theorem outbox_remove (r : Relay) (id : ClientId) :
    (r.remove id).1.outbox = r.outbox := by
  unfold remove
  cases r.registry.find? id <;> rfl

@[simp] theorem outbox_clear (r : Relay) (rec : Record) (id : ClientId) :
    (r.clear rec id).1.outbox = r.outbox := by simp [clear]

@[simp] theorem outbox_register (r : Relay) (c : Connection) :
    (r.register c).1.outbox = r.outbox := by
  unfold register
  cases r.registry.insert? c <;> rfl

@[simp] theorem outbox_deliver (r : Relay) (c : Connection) (event : Event) :
    (r.deliver c event).1.outbox = r.outbox := by
  obtain ⟨queues, h⟩ := r.deliver_frame c event
  rw [h, outbox, outbox]

@[simp] theorem outbox_deliverTo (r : Relay) (id : ClientId) (event : Event) :
    (r.deliverTo id event).1.outbox = r.outbox := by
  obtain ⟨queues, h⟩ := r.deliverTo_frame id event
  rw [h, outbox, outbox]

@[simp] theorem outbox_deliverAll (r : Relay) (event : Event) (exclude : Option ClientId) :
    (r.deliverAll event exclude).1.outbox = r.outbox := by
  obtain ⟨queues, h⟩ := r.deliverAll_frame event exclude
  rw [h, outbox, outbox]

theorem outbox_disconnect (r : Relay) (id : ClientId) : (r.disconnect id).outbox = r.outbox := by
  rw [← r.outbox_remove id, disconnect]
  rcases r.remove id with ⟨r', _ | c⟩ <;> simp

theorem outbox_sendTo (r : Relay) (id : ClientId) (event : Event) :
    (r.sendTo id event).1.outbox = r.outbox := by
  unfold sendTo
  cases r.registry.find? id with
  | none => rfl
  | some c =>
    have hd := r.outbox_deliverTo id event
    generalize r.deliverTo id event = d at hd
    obtain ⟨r', _ | e⟩ := d
    · exact hd
    · exact (outbox_drop _ _).trans ((outbox_clear _ _ _).trans hd)

theorem outbox_clearAll (r : Relay) (failed : List Failure) :
    (r.clearAll failed).outbox = r.outbox := by
  induction failed generalizing r with
  | nil => rfl
  | cons f failed ih =>
    obtain ⟨id, e⟩ := f
    simp only [clearAll]
    rw [ih, outbox_drop, outbox_clear]

end Relay
end ActivityRelay
