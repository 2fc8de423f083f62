import ActivityRelay.Proofs.Relay.Delivery

/-! The operations of a relay by what they decide on: their answers, and the view they leave. -/
namespace ActivityRelay
namespace Relay

theorem connect_refused {r : Relay} {id : ClientId} {queue : Nat}
    (h : r.registry.insert? (r.newConnection id queue).2 = none) :
    (r.connect id queue).1.view = { r.view with created := r.created + 1 } ∧
      (r.connect id queue).2 = .error (.duplicate id) := by
  simp only [connect, register_known (r := (r.newConnection id queue).1) h]
  exact ⟨view_release _ _, trivial⟩

theorem sendTo_delivered {r : Relay} {id : ClientId} {c : Connection} {event : Event}
    (hc : r.registry.find? id = some c) (ok : (r.deliver c event).2 = none) :
    r.sendTo id event = ((r.deliver c event).1, none) := by
  simp only [sendTo, hc, deliverTo_some event hc]
  generalize r.deliver c event = d at ok
  obtain ⟨r', failure⟩ := d
  cases ok
  rfl

theorem sendTo_failed {r : Relay} {id : ClientId} {c : Connection} {event : Event}
    {e : DeliveryError} (hc : r.registry.find? id = some c)
    (bad : (r.deliver c event).2 = some e) :
    (r.sendTo id event).1.view = { r.view with registry := r.registry.erase id } ∧
      (r.sendTo id event).2 = some e := by
  have hr : (r.deliver c event).1 = r := deliver_failed (by simp [bad])
  simp only [sendTo, hc, deliverTo_some event hc]
  generalize r.deliver c event = d at bad hr
  obtain ⟨r', failure⟩ := d
  cases bad
  subst hr
  exact ⟨by rw [view_drop, view_clear], rfl⟩

section connect
variable {r a : Relay} {id : ClientId} {queue : Nat} {c : Connection}

/-- A connect goes on as from any relay that is the same after the registration. -/
theorem connect_registered (hc : r.registry.find? id = some c)
    (made : c = ⟨id, queue, r.created - 1, r.now⟩) (hr : 1 ≤ r.created)
    (ha : a.view = { r.view with registry := r.registry.erase id, created := r.created - 1 }) :
    ∃ r' : Relay, r'.view = r.view ∧ a.connect id queue =
      match r'.sendTo id (.game r.activity) with
      | (r', some e) => (r', .error e)
      | (r', none) => (r'.note (.greeted id r.activity), .ok r.activity) := by
  have hactivity : a.activity = r.activity := congrArg View.activity ha
  have hregistry : a.registry = r.registry.erase id := congrArg View.registry ha
  have hcreated : a.created = r.created - 1 := congrArg View.created ha
  have hnow : a.now = r.now := congrArg View.now ha
  have hqueues : a.view.queues = r.view.queues := by rw [ha]
  have hnew : (a.newConnection id queue).2 = c := by rw [made, ← hcreated, ← hnow]; rfl
  have hi : (a.newConnection id queue).1.registry.insert? (a.newConnection id queue).2 =
      some r.registry := by
    rw [hnew, show (a.newConnection id queue).1.registry = a.registry from rfl, hregistry]
    exact Registry.insert?_erase hc
  refine ⟨note { (a.newConnection id queue).1 with registry := r.registry }
    (.registered id r.registry.size), ?_, ?_⟩
  · have hone : a.created + 1 = r.created := by omega
    rw [view_note, view, view, View.mk.injEq]
    exact ⟨hactivity, rfl, congrArg View.order ha, hqueues, hone, hnow⟩
  · simp only [connect, register_new hi, hactivity]
    rfl

theorem connect_greeted (hc : r.registry.find? id = some c)
    (made : c = ⟨id, queue, r.created - 1, r.now⟩) (hr : 1 ≤ r.created)
    (ha : a.view = { r.view with registry := r.registry.erase id, created := r.created - 1 })
    (ok : (r.deliver c (.game r.activity)).2 = none) :
    (a.connect id queue).1.view = (r.deliver c (.game r.activity)).1.view ∧
      (a.connect id queue).2 = .ok r.activity := by
  obtain ⟨r', hv, hconnect⟩ := connect_registered hc made hr ha
  obtain ⟨hd, hf⟩ := deliver_congr hv c (.game r.activity)
  have hc' : r'.registry.find? id = some c := by
    rw [← hc]
    exact congrArg (·.registry.find? id) hv
  rw [hconnect, sendTo_delivered hc' (hf.trans ok)]
  exact ⟨by rw [view_note, hd], rfl⟩

theorem connect_failed {e : DeliveryError} (hc : r.registry.find? id = some c)
    (made : c = ⟨id, queue, r.created - 1, r.now⟩) (hr : 1 ≤ r.created)
    (ha : a.view = { r.view with registry := r.registry.erase id, created := r.created - 1 })
    (bad : (r.deliver c (.game r.activity)).2 = some e) :
    (a.connect id queue).1.view = { r.view with registry := r.registry.erase id } ∧
      (a.connect id queue).2 = .error e := by
  obtain ⟨r', hv, hconnect⟩ := connect_registered hc made hr ha
  obtain ⟨-, hf⟩ := deliver_congr hv c (.game r.activity)
  have hregistry : r'.registry = r.registry := congrArg View.registry hv
  obtain ⟨hs, he⟩ := sendTo_failed (by rw [hregistry, hc]) (hf.trans bad)
  rw [hconnect]
  generalize r'.sendTo id (.game r.activity) = sent at hs he
  obtain ⟨r'', failure⟩ := sent
  cases he
  exact ⟨by rw [hs, hv, hregistry], rfl⟩

end connect

theorem dispatch_plain {r : Relay} {origin : ClientId} {raw text : String}
    (h : Command.classify raw = .plain text) :
    r.dispatch origin raw = (r.hear origin raw, .plain) := by
  simp [dispatch, h]

theorem addressees_congr {r a : Relay} (h : r.view = a.view) (exclude : Option ClientId) :
    r.addressees exclude = a.addressees exclude := by
  have hregistry : r.registry = a.registry := congrArg View.registry h
  have horder : r.order = a.order := congrArg View.order h
  rw [addressees, addressees, walk, walk, hregistry, horder]

theorem deliverAll_congr {r a : Relay} (h : r.view = a.view) (event : Event)
    (exclude : Option ClientId) :
    (r.deliverAll event exclude).1.view = (a.deliverAll event exclude).1.view ∧
      (r.deliverAll event exclude).2 = (a.deliverAll event exclude).2 := by
  rw [deliverAll, deliverAll, addressees_congr h]
  exact deliverEach_congr h event _

/-- A command tells all others and drops those who do not take the event, as seen from any relay
with the view that the command leaves behind its commit. -/
theorem dispatch_changed {r a : Relay} {origin : ClientId} {raw value : String}
    (h : Command.classify raw = .setActivity value)
    (ha : a.view = { r.view with activity := value }) :
    (r.dispatch origin raw).1.view =
        { (a.deliverAll (.game value) (some origin)).1.view with
          registry := a.registry.eraseAll
            ((a.deliverAll (.game value) (some origin)).2.2.map (·.1)) } ∧
      (r.dispatch origin raw).2 =
        .changed value (a.deliverAll (.game value) (some origin)).2.1 := by
  have hv : ((r.hear origin raw).commit value).1.view = a.view := by
    rw [view_commit, view_hear, ha]
  obtain ⟨hd, hf⟩ := deliverAll_congr hv (.game value) (some origin)
  obtain ⟨queues, hq⟩ := a.deliverEach_frame (.game value) (a.addressees (some origin))
  have hreg : (((r.hear origin raw).commit value).1.deliverAll (.game value)
      (some origin)).1.registry = a.registry := by
    refine (congrArg View.registry hd).trans ?_
    rw [deliverAll, hq]
    rfl
  simp only [dispatch, h, broadcast]
  rw [view_note, view_clearAll, hd, hreg]
  exact ⟨by simp only [hf], by simp only [hf]⟩

end Relay
end ActivityRelay
