import ActivityRelay.Proofs.Task.Forwarding
import ActivityRelay.Proofs.Viewer.Life

/-! What passes through a session: each text that it takes from its socket is handed to the control
channel before it takes the next one, and what it writes to its socket are the events of its queue
one after the other. -/
namespace ActivityRelay

/-- The text that one of some tasks hands to the control channel. -/
def Mark.forwardedBy? (mine : List Nat) : Mark → Option String
  | .forwarded task raw => if task ∈ mine then some raw else none
  | _ => none

namespace Phase

theorem filterMap_marks (mine : List Nat) (me : Nat) (s : Shared) (p : Phase) :
    (p.marks me s).filterMap (Mark.forwardedBy? mine) =
      if me ∈ mine then p.unsent?.toList else [] := by
  have hm (xs : List Mark) : xs.filterMap (Mark.forwardedBy? mine) =
      (handedIn xs).filterMap fun message => if message.1 ∈ mine then some message.2 else none := by
    rw [handedIn, List.filterMap_filterMap]
    refine List.filterMap_congr fun m _ => ?_
    cases m <;> rfl
  rw [hm, handedIn_marks]
  cases p.unsent? with
  | none => simp
  | some raw => by_cases h : me ∈ mine <;> simp [h]

theorem forwarded_mem_marks {me task : Nat} {s : Shared} {p : Phase} {raw : String}
    (h : .forwarded task raw ∈ p.marks me s) : task = me := by
  unfold marks at h
  split at h
  · simp_all
  · simp at h
  · split at h <;> simp at h
  · simp at h
  · simp at h

end Phase

namespace Viewer
namespace Life
variable {l l' : Life} {r : Relay}

/-- The texts that the session handed to the control channel. -/
def forwarded (l : Life) : List String :=
  l.system.history.filterMap (Mark.forwardedBy? l.dispatches)

/-- The text that is taken from the socket and not yet handed on. -/
def pending (l : Life) : List String :=
  match l.stage with
  | .dispatching task => ((l.system.tasks[task]?).bind Phase.unsent?).toList
  | _ => []

/-- The texts that were taken from the socket. -/
def texts (l : Life) : List String := l.taken.filterMap Inbound.text?

/-- What is under way is decided by the task that the session waits for. -/
theorem pending_congr {system : System} (h : ∀ task, l.stage = .dispatching task →
    system.tasks[task]? = l.system.tasks[task]?) : pending { l with system } = l.pending := by
  unfold pending
  cases hs : l.stage with
  | dispatching task => simp only [h task hs]
  | _ => rfl

theorem pending_eq_nil (h : ∀ task, l.stage ≠ .dispatching task) : l.pending = [] := by
  unfold pending
  split
  · next task hs => exact absurd hs (h task)
  · rfl

/-- What became of the texts that a session took from its socket. -/
structure Forwards (l : Life) : Prop where
  texts : l.forwarded ++ l.pending = l.texts
  mine : ∀ task ∈ l.dispatches, task < l.system.tasks.length
  begun : ∀ task ∈ l.dispatches, ∀ p raw, l.system.tasks[task]? = some p →
    p.unsent? = some raw → l.stage = .dispatching task
  current : ∀ task, l.stage = .dispatching task → task ∈ l.dispatches
  numbered : ∀ task raw, .forwarded task raw ∈ l.system.history → task < l.system.tasks.length

/-- A step of the task that is about to hand on a text does so, and no other step does. -/
theorem forwards_advance (f : Forwards l) {i : Nat} {system : System}
    (h : l.system.advance i = some system) : Forwards { l with system } := by
  obtain ⟨p, p', hp, hs, ht, hh⟩ := System.advance_cases h
  have hphase := System.getElem?_set_task hp p'
  have hlength : system.tasks.length = l.system.tasks.length := by rw [ht, List.length_set]
  have hnew := p.filterMap_marks l.dispatches i l.system.shared
  have hforwarded : forwarded { l with system } =
      l.forwarded ++ if i ∈ l.dispatches then p.unsent?.toList else [] := by
    rw [forwarded, hh, List.filterMap_append, hnew]
    rfl
  constructor
  · rw [hforwarded]
    refine Eq.trans ?_ f.texts
    by_cases hb : l.stage = .dispatching i
    · rw [if_pos (f.current i hb)]
      simp [pending, hb, ht, hphase, hp, Phase.unsent?_of_step hs]
    · have hpending : pending { l with system } = l.pending := pending_congr fun task hs => by
        rw [ht, hphase, if_neg fun he => hb (by rw [hs, he])]
      have hquiet : (if i ∈ l.dispatches then p.unsent?.toList else []) = [] := by
        split
        · next hi =>
          cases hu : p.unsent? with
          | none => rfl
          | some raw => exact absurd (f.begun i hi p raw hp hu) hb
        · rfl
      rw [hpending, hquiet, List.append_nil]
  · intro task htask
    rw [hlength]
    exact f.mine task htask
  · intro task htask q raw hq hu
    rw [ht, hphase] at hq
    split at hq
    · cases hq
      simp [Phase.unsent?_of_step hs] at hu
    · exact f.begun task htask q raw hq hu
  · exact f.current
  · intro task raw hm
    rw [hlength]
    rw [hh, List.mem_append] at hm
    rcases hm with hm | hm
    · exact f.numbered task raw hm
    · rw [Phase.forwarded_mem_marks hm]
      exact (List.getElem?_eq_some_iff.1 hp).1

theorem forwards_move (f : Forwards l) {m : Move} {system : System}
    (hm : l.system.move m = some system) : Forwards { l with system } := by
  rcases System.move_cases hm with ⟨i, h⟩ | hn
  · exact forwards_advance f h
  · obtain ⟨marks, a⟩ := System.aside_of_move hn hm
    have hforwarded : forwarded { l with system } = l.forwarded := by
      rw [forwarded, a.history, List.filterMap_append, a.filterMap_marks fun _ _ => rfl,
        List.append_nil]
      rfl
    have hpending : pending { l with system } = l.pending :=
      pending_congr fun task _ => by rw [a.tasks]
    constructor
    · rw [hforwarded, hpending]
      exact f.texts
    · simpa only [a.tasks] using f.mine
    · simpa only [a.tasks] using f.begun
    · exact f.current
    · intro task raw hm
      rw [a.history, List.mem_append] at hm
      rw [a.tasks]
      refine hm.elim (f.numbered task raw) fun hm => ?_
      obtain ⟨q, e, he⟩ := a.marks.2 _ hm
      simp at he

theorem Forwards.receive (f : Forwards l) :
    Forwards { l with system := l.system.receive l.session.queue } :=
  forwards_move f (m := .receive l.session.queue) rfl

/-- A session that waits for no dispatch has handed on all that it took. -/
theorem Forwards.complete (f : Forwards l) (h : ∀ task, l.stage ≠ .dispatching task) :
    l.forwarded = l.texts := by
  rw [← f.texts, pending_eq_nil h, List.append_nil]

theorem Forwards.sent (f : Forwards l) (h : ∀ task, l.stage ≠ .dispatching task) :
    ∀ task ∈ l.dispatches, ∀ p, l.system.tasks[task]? = some p → p.unsent? = none := by
  intro task htask p hp
  cases hu : p.unsent? with
  | none => rfl
  | some raw => exact absurd (f.begun task htask p raw hp hu) (h task)

/-- A session that has no message under way, and begins with none. -/
theorem Forwards.keep (f : Forwards l) (complete : l.forwarded = l.texts)
    (sent : ∀ task ∈ l.dispatches, ∀ p, l.system.tasks[task]? = some p → p.unsent? = none)
    (stage : ∀ task, l'.stage ≠ .dispatching task) (hd : l'.dispatches = l.dispatches)
    (ht : l'.texts = l.texts) (hh : l'.system.history = l.system.history)
    (more : ∃ new, l'.system.tasks = l.system.tasks ++ new) : Forwards l' := by
  obtain ⟨new, htasks⟩ := more
  have hlength : l.system.tasks.length ≤ l'.system.tasks.length := by simp [htasks]
  constructor
  · rw [pending_eq_nil stage, List.append_nil, ht, ← complete, forwarded, hh, hd]
    rfl
  · intro task htask
    rw [hd] at htask
    exact (f.mine task htask).trans_le hlength
  · intro task htask p raw hp hu
    rw [hd] at htask
    rw [htasks, List.getElem?_append_left (f.mine task htask)] at hp
    rw [sent task htask p hp] at hu
    simp at hu
  · exact fun task hs => absurd hs (stage task)
  · intro task raw hm
    rw [hh] at hm
    exact (f.numbered task raw hm).trans_le hlength

theorem forwards_spawn (f : Forwards l) (op : Operation) :
    Forwards { l with system := l.system.spawn op } := by
  have old {task : Nat} (htask : task ∈ l.dispatches) :
      (l.system.spawn op).tasks[task]? = l.system.tasks[task]? := by
    rw [System.getElem?_spawn, if_neg (f.mine task htask).ne]
  have hlength : l.system.tasks.length ≤ (l.system.spawn op).tasks.length := by
    simp [System.spawn]
  constructor
  · exact (congrArg (l.forwarded ++ ·) (pending_congr fun task hs => old (f.current task hs))).trans
      f.texts
  · exact fun task htask => (f.mine task htask).trans_le hlength
  · intro task htask p raw hp hu
    exact f.begun task htask p raw ((old htask).symm.trans hp) hu
  · exact f.current
  · exact fun task raw hm => (f.numbered task raw hm).trans_le hlength

/-- A text that is taken from the socket is under way. -/
theorem forwards_text (f : Forwards l) (stage : l.stage = .listening) (raw : String) :
    Forwards { ask { l with taken := l.taken ++ [.message (.text raw)] }
        (.dispatch l.session.id raw) .dispatching with
      dispatches := l.dispatches ++ [l.system.tasks.length] } := by
  have complete := f.complete fun task hs => by simp [stage] at hs
  have hlength : l.system.tasks.length <
      (l.system.spawn (.dispatch l.session.id raw)).tasks.length := by simp [System.spawn]
  constructor
  · have hforwarded : l.system.history.filterMap
        (Mark.forwardedBy? (l.dispatches ++ [l.system.tasks.length])) = l.forwarded := by
      refine List.filterMap_congr fun m hm => ?_
      cases m with
      | forwarded task text =>
        have hne : task ≠ l.system.tasks.length := (f.numbered task text hm).ne
        simp [Mark.forwardedBy?, hne]
      | _ => rfl
    have hpending : ((l.system.spawn (.dispatch l.session.id raw)).tasks[
        l.system.tasks.length]?).bind Phase.unsent? = some raw := by
      rw [System.getElem?_spawn, if_pos rfl]
      rfl
    have htexts : texts { l with taken := l.taken ++ [.message (.text raw)] } =
        l.texts ++ [raw] := by simp [texts, Inbound.text?]
    exact (congrArg₂ (· ++ ·) (hforwarded.trans complete)
      (congrArg Option.toList hpending)).trans htexts.symm
  · intro task htask
    rcases List.mem_append.1 htask with htask | htask
    · exact (f.mine task htask).trans hlength
    · rw [List.mem_singleton.1 htask]
      exact hlength
  · intro task htask p text hp hu
    rcases List.mem_append.1 htask with htask | htask
    · change (l.system.spawn _).tasks[task]? = some p at hp
      rw [System.getElem?_spawn, if_neg (f.mine task htask).ne] at hp
      simp [f.begun task htask p text hp hu] at stage
    · rw [List.mem_singleton.1 htask]
      rfl
  · intro task hs
    rw [← Stage.dispatching.inj hs]
    simp
  · exact fun task text hm => (f.numbered task text hm).trans hlength

theorem text?_of_isLast {i : Inbound} (h : i.isLast = true) : i.text? = none := by
  rcases i with (_ | _ | _ | _ | _) | _ | _ <;> simp_all [Inbound.isLast, Inbound.text?]

theorem texts_append_of_text? {i : Inbound} (h : i.text? = none) (l : Life) :
    texts { l with taken := l.taken ++ [i] } = l.texts := by
  simp [texts, h]

theorem forwards_step (f : Forwards l) (hs : Step l l') : Forwards l' := by
  have idle {m : Life} (stage : m.stage = .listening) (task : Nat) :
      m.stage ≠ .dispatching task := by simp [stage]
  have same {m : Life} : ∃ new, m.system.tasks = m.system.tasks ++ new := ⟨[], by simp⟩
  cases hs with
  | move leaves hm => exact forwards_move f hm
  | begin foreign => exact forwards_spawn f _
  | connected stage done =>
    have before (task : Nat) : l.stage ≠ .dispatching task := by simp [stage]
    exact f.keep (f.complete before) (f.sent before) (by simp) rfl rfl rfl same
  | refused stage done | left stage done =>
    have before (task : Nat) : l.stage ≠ .dispatching task := by simp [stage]
    exact f.keep (f.complete before) (f.sent before) (by simp [finish]) rfl rfl rfl same
  | @dispatched task o stage done =>
    have complete : l.forwarded = l.texts := by
      have ht := f.texts
      simpa [pending, stage, done, Phase.unsent?] using ht
    refine f.keep complete (fun t ht p hp => ?_) (by simp) rfl rfl rfl same
    cases hu : p.unsent? with
    | none => rfl
    | some raw =>
      obtain rfl := Stage.dispatching.inj (stage.symm.trans (f.begun t ht p raw hp hu))
      cases done.symm.trans hp
      simp [Phase.unsent?] at hu
  | text stage => exact forwards_text f stage _
  | last stage hi =>
    exact f.keep (f.complete (idle stage)) (f.sent (idle stage)) (by simp [leave, ask]) rfl
      (texts_append_of_text? (text?_of_isLast hi) l) rfl ⟨_, rfl⟩
  | other stage hi ht =>
    exact f.keep (f.complete (idle stage)) (f.sent (idle stage)) (idle stage) rfl
      (texts_append_of_text? ht l) rfl same
  | wrote stage =>
    exact f.receive.keep (f.receive.complete (idle stage)) (f.receive.sent (idle stage))
      (idle stage) rfl rfl rfl same
  | lost stage | ended stage =>
    exact f.receive.keep (f.receive.complete (idle stage)) (f.receive.sent (idle stage))
      (by simp [leave, ask]) rfl rfl rfl ⟨_, rfl⟩
  | idle stage => exact f.receive

/-- Whatever happens, the loop of a session that is left is left for good. -/
theorem isClosing_step (hs : Step l l') (h : l.stage.isClosing = true) :
    l'.stage.isClosing = true := by
  cases hs with
  | move | begin => exact h
  | refused | left => rfl
  | connected stage | dispatched stage => simp [stage, Stage.isClosing] at h
  | text stage | last stage | other stage | wrote stage | lost stage | ended stage
    | idle stage => simp [stage, Stage.isClosing] at h

/-- What a session wrote to its socket are the events that it took from its queue, but for one that
its socket did not accept any more. -/
def Wrote (l : Life) : Prop :=
  ∃ events lost, l.system.relay.received l.session.queue = events ++ lost ∧
    l.session.written = events.map Event.json ∧ lost.length ≤ 1 ∧
    (lost ≠ [] → l.stage.isClosing = true)

theorem Wrote.keep (w : Wrote l) (hq : l'.system.relay.received l'.session.queue =
    l.system.relay.received l.session.queue) (hw : l'.session.written = l.session.written)
    (closing : l.stage.isClosing = true → l'.stage.isClosing = true) : Wrote l' := by
  obtain ⟨events, lost, hr, he, hl, hc⟩ := w
  exact ⟨events, lost, hq.trans hr, hw.trans he, hl, fun h => closing (hc h)⟩

theorem Wrote.received_of_listening (w : Wrote l) (stage : l.stage = .listening) :
    ∃ events, l.system.relay.received l.session.queue = events ∧
      l.session.written = events.map Event.json := by
  obtain ⟨events, lost, hr, he, -, hc⟩ := w
  cases lost with
  | nil => exact ⟨events, by rw [hr, List.append_nil], he⟩
  | cons event lost => simp [stage, Stage.isClosing] at hc

theorem received_receive (s : System) (queue : Nat) : (s.receive queue).relay.received queue =
    s.relay.received queue ++ (s.relay.receive queue).2.toList := by
  rw [System.relay_receive, (s.relay.content_receive queue queue).2, if_pos rfl]

theorem received_close (r : Relay) (queue other : Nat) :
    (r.onQueue queue Queue.close).received other = r.received other :=
  (r.content_onQueue queue (f := Queue.close) (fun _ => ⟨rfl, rfl⟩) other).2

theorem received_shut (r : Relay) (queue other : Nat) :
    (r.onQueue queue Queue.shut).received other = r.received other := by
  refine (r.content_onQueue queue (fun x => ?_) other).2
  unfold Queue.shut
  split <;> exact ⟨rfl, rfl⟩

theorem received_move {s t : System} {m : Move} {queue : Nat} (leaves : m.leaves queue = true)
    (h : s.move m = some t) : t.relay.received queue = s.relay.received queue := by
  cases m with
  | task i =>
    obtain ⟨p, p', -, hs, -, -⟩ := System.advance_cases h
    exact Phase.received_step hs queue
  | shuffle order => cases h; rfl
  | receive q =>
    have hne : q ≠ queue := by simpa [Move.leaves] using leaves
    cases h
    rw [System.relay_receive, (s.relay.content_receive q queue).2, if_neg hne, List.append_nil]
  | shut q =>
    cases h
    exact received_shut s.relay q queue
  | close q =>
    cases h
    exact received_close s.relay q queue

theorem wrote_step (w : Wrote l) (hs : Step l l') : Wrote l' := by
  have closing := isClosing_step hs
  cases hs with
  | move leaves hm => exact w.keep (received_move leaves hm) rfl id
  | begin | connected | dispatched | text | last | other => exact w.keep rfl rfl closing
  | refused | left => exact w.keep (received_close _ _ _) rfl closing
  | @wrote event stage he =>
    obtain ⟨events, hr, hw⟩ := w.received_of_listening stage
    refine ⟨events ++ [event], [], ?_, by simp [hw], by simp, by simp⟩
    refine (received_receive l.system l.session.queue).trans ?_
    rw [he, hr, List.append_nil]
    rfl
  | @lost event stage he =>
    obtain ⟨events, hr, hw⟩ := w.received_of_listening stage
    refine ⟨events, [event], ?_, hw, by simp, fun _ => rfl⟩
    refine (received_receive l.system l.session.queue).trans ?_
    rw [he, hr]
    rfl
  | ended stage he | idle stage he =>
    refine w.keep ((received_receive l.system l.session.queue).trans ?_) rfl closing
    rw [he]
    exact List.append_nil _

/-- All that is handed to the control channel is remembered in the history. -/
theorem forwarded_move {s t : System} {m : Move} {texts : List String} (h : s.move m = some t)
    (hf : s.relay.forwarded = texts ++ forwardedIn s.history) :
    t.relay.forwarded = texts ++ forwardedIn t.history := by
  rcases System.move_cases h with ⟨i, h⟩ | hm
  · obtain ⟨p, p', -, hs, -, hh⟩ := System.advance_cases h
    rw [hh, forwardedIn_append, ← List.append_assoc]
    exact (Phase.forwarded_step hs).trans (congrArg (· ++ _) hf)
  · obtain ⟨marks, a⟩ := System.aside_of_move hm h
    obtain ⟨queues, order, hr⟩ := a.frame
    rw [hr, forwardedIn, a.handedIn_eq]
    exact hf

theorem forwardedIn_step {texts : List String}
    (hf : l.system.relay.forwarded = texts ++ forwardedIn l.system.history) (hs : Step l l') :
    l'.system.relay.forwarded = texts ++ forwardedIn l'.system.history := by
  have receiving : (l.system.receive l.session.queue).relay.forwarded =
      texts ++ forwardedIn (l.system.receive l.session.queue).history :=
    forwarded_move (m := .receive l.session.queue) rfl hf
  cases hs with
  | move leaves hm => exact forwarded_move hm hf
  | wrote | lost | ended | idle => exact receiving
  | _ => exact hf

/-- Nothing is taken from the socket after it was closed, failed or ended. -/
structure Ends (l : Life) : Prop where
  before : ∀ i ∈ l.taken.dropLast, i.isLast = false
  last : ∀ i, l.taken.getLast? = some i → i.isLast = true → l.stage.isClosing = true

theorem Ends.take (e : Ends l) (stage : l.stage = .listening) (i : Inbound)
    (ht : l'.taken = l.taken ++ [i]) (hl : i.isLast = true → l'.stage.isClosing = true) :
    Ends l' where
  before j hj := by
    rw [ht, List.dropLast_concat] at hj
    rcases List.eq_nil_or_concat l.taken with hn | ⟨init, k, hk⟩
    · simp [hn] at hj
    · have before := e.before
      have last := e.last k
      simp only [hk, List.concat_eq_append, List.dropLast_concat, List.getLast?_append,
        List.mem_append, List.mem_singleton] at before last hj
      rcases hj with hj | rfl
      · exact before j hj
      · simpa [stage, Stage.isClosing] using last
  last j hj h := by
    rw [ht, List.getLast?_append] at hj
    obtain rfl : i = j := by simpa using hj
    exact hl h

theorem ends_step (e : Ends l) (hs : Step l l') : Ends l' := by
  have keep {m : Life} (ht : m.taken = l.taken)
      (closing : l.stage.isClosing = true → m.stage.isClosing = true) : Ends m :=
    ⟨by rw [ht]; exact e.before, fun i hi hl => closing (e.last i (ht ▸ hi) hl)⟩
  have closing := isClosing_step hs
  cases hs with
  | text stage => exact e.take stage _ rfl (by simp [Inbound.isLast])
  | last stage hi => exact e.take stage _ rfl fun _ => rfl
  | other stage hi => exact e.take stage _ rfl (by simp [hi])
  | _ => exact keep rfl closing

end Life
end Viewer
end ActivityRelay
