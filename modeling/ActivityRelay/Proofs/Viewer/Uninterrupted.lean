import ActivityRelay.Proofs.Viewer.Leaving

/-! A session that nobody interrupts: what its tasks do step by step is what the session does at
one stroke, turn after turn. -/
namespace ActivityRelay.Viewer

namespace Life
variable {l : Life} {r : Relay}

/-- Between two turns of a session that nobody interrupts. -/
structure AtRest (l : Life) : Prop where
  line : l.system.line = []
  stage : l.stage = .listening ∧ l.session.running = true ∨
    l.stage = .returned ∧ l.session.running = false

/-- A task of the session, from its first step to its last. -/
theorem ask_alone (free : l.system.line = []) (op : Operation) (stage : Nat → Stage) :
    ∃ n system, (l.ask op stage).run
        (List.replicate n (.move (.task l.system.tasks.length))) =
        some { l.ask op stage with system } ∧
      system.shared = ⟨(l.system.relay.perform op).1, []⟩ ∧
      system.outcome? l.system.tasks.length = some (l.system.relay.perform op).2 := by
  have hp : (l.ask op stage).system.tasks[l.system.tasks.length]? = some (.start op) := by
    simp [ask, System.getElem?_spawn]
  have hs : (l.ask op stage).system.shared = ⟨l.system.relay, []⟩ := by
    rw [← free]
    rfl
  have halone := Phase.run_alone l.system.relay l.system.tasks.length op
  rw [← hs] at halone
  obtain ⟨n, system, hrun, hshared, hout⟩ := await hp (congrArg Prod.snd halone)
  exact ⟨n, system, hrun, hshared.trans (congrArg Prod.fst halone), hout⟩

theorem run_cons {x : Act} {acts : List Act} {m l' : Life} (hx : l.act x = some m)
    (h : m.run acts = some l') : l.run (x :: acts) = some l' :=
  run_cons_iff.2 ⟨m, hx, h⟩

/-- Leaving at one stroke. -/
theorem leave_alone (free : l.system.line = []) : ∃ n l',
    l.leave.run (List.replicate n (.move (.task l.system.tasks.length)) ++ [.resume]) = some l' ∧
      AtRest l' ∧ (l'.system.relay, l'.session) = l.session.finish l.system.relay := by
  obtain ⟨n, system, hrun, hshared, hout⟩ :=
    ask_alone free (.disconnect l.session.id) .leaving
  have hresume : resume { l.leave with system } =
      some (finish { l.leave with system } (.viewerDisconnected l.session.id)) := by
    simp only [resume, leave, ask, hout]
    rfl
  have hrelay : system.relay = l.system.relay.disconnect l.session.id :=
    congrArg Shared.relay hshared
  refine ⟨n, _, run_resume hrun hresume, ⟨congrArg Shared.line hshared, .inr ⟨rfl, rfl⟩⟩, ?_⟩
  rw [Session.finish, ← hrelay]
  rfl

theorem act_take (stage : l.stage = .listening) (i : Inbound) :
    l.act (.take i) = some (l.take i) := if_pos stage

theorem act_flush (stage : l.stage = .listening) (writable : Bool) :
    l.act (.flush writable) = some (l.flush writable) := if_pos stage

theorem receive_alone (rest : AtRest l) (stage : l.stage = .listening) (i : Inbound) :
    ∃ acts l', l.run acts = some l' ∧ AtRest l' ∧
      (l'.system.relay, l'.session) = l.session.receive l.system.relay i := by
  have last (h : l.take i = leave { l with taken := l.taken ++ [i] })
      (hs : l.session.receive l.system.relay i = l.session.finish l.system.relay) :
      ∃ acts l', l.run acts = some l' ∧ AtRest l' ∧
        (l'.system.relay, l'.session) = l.session.receive l.system.relay i := by
    obtain ⟨n, l', hrun, hrest, hl⟩ :=
      leave_alone (l := { l with taken := l.taken ++ [i] }) rest.line
    exact ⟨_, l', run_cons ((act_take stage i).trans (congrArg some h)) hrun, hrest,
      hl.trans hs.symm⟩
  have other (h : l.take i = { l with taken := l.taken ++ [i] })
      (hs : l.session.receive l.system.relay i = (l.system.relay, l.session)) :
      ∃ acts l', l.run acts = some l' ∧ AtRest l' ∧
        (l'.system.relay, l'.session) = l.session.receive l.system.relay i :=
    ⟨[.take i], { l with taken := l.taken ++ [i] },
      run_cons ((act_take stage i).trans (congrArg some h)) rfl, ⟨rest.line, rest.stage⟩, hs.symm⟩
  rcases i with (raw | bytes | bytes | bytes | _) | _ | _
  · have running : l.session.running = true := by simpa [stage] using rest.stage
    let m : Life := { l with
      taken := l.taken ++ [.message (.text raw)]
      dispatches := l.dispatches ++ [l.system.tasks.length] }
    obtain ⟨n, system, hrun, hshared, hout⟩ :=
      ask_alone (l := m) rest.line (.dispatch l.session.id raw) .dispatching
    have htake : l.act (.take (.message (.text raw))) =
        some (m.ask (.dispatch l.session.id raw) .dispatching) := act_take stage _
    have hresume : resume { m.ask (.dispatch l.session.id raw) .dispatching with system } =
        some { m with system, stage := .listening } := by
      simp only [resume, ask, hout]
      rfl
    have hrelay : system.relay = (l.system.relay.dispatch l.session.id raw).1 :=
      congrArg Shared.relay hshared
    refine ⟨_, _, run_cons htake (run_resume hrun hresume),
      ⟨congrArg Shared.line hshared, .inl ⟨rfl, running⟩⟩, ?_⟩
    simp only [Session.receive, m, ← hrelay]
  · exact other rfl rfl
  · exact other rfl rfl
  · exact other rfl rfl
  · exact last rfl rfl
  · exact last rfl rfl
  · exact last rfl rfl

theorem flush_alone (rest : AtRest l) (stage : l.stage = .listening) (writable : Bool) :
    ∃ acts l', l.run acts = some l' ∧ AtRest l' ∧
      (l'.system.relay, l'.session) = l.session.flush l.system.relay writable := by
  have hrelay := l.system.relay_receive l.session.queue
  have hline : (l.system.receive l.session.queue).line = [] := by
    obtain ⟨marks, a⟩ := l.system.aside_receive l.session.queue
    rw [a.line, rest.line]
  have hflush := act_flush stage writable
  unfold flush at hflush
  unfold Session.flush
  rcases he : l.system.relay.receive l.session.queue with ⟨relay, event | _ | _⟩
  · simp only [he] at hrelay hflush ⊢
    have hnote : ((l.system.receive l.session.queue).note (.eventSent event)).relay =
        relay.note (.eventSent event) := congrArg (·.note (.eventSent event)) hrelay
    cases writable with
    | true =>
      let m : Life := { l with
        system := (l.system.receive l.session.queue).note (.eventSent event)
        session := { l.session with written := l.session.written ++ [event.json] } }
      have hm : l.act (.flush true) = some m := by simpa using hflush
      exact ⟨[.flush true], m, run_cons hm rfl, ⟨hline, rest.stage⟩, by simp only [m, hnote]; rfl⟩
    | false =>
      let m : Life := { l with
        system := (l.system.receive l.session.queue).note (.eventSent event) }
      have hm : l.act (.flush false) = some m.leave := by simpa using hflush
      obtain ⟨n, l', hrun, hrest, hl⟩ := leave_alone (l := m) hline
      exact ⟨_, l', run_cons hm hrun, hrest, by rw [hl]; simp only [m, hnote]; rfl⟩
  · simp only [he] at hrelay hflush ⊢
    exact ⟨[.flush writable], _, run_cons hflush rfl, ⟨hline, rest.stage⟩,
      by simp only [hrelay]⟩
  · simp only [he] at hrelay hflush ⊢
    let m : Life := { l with system := l.system.receive l.session.queue }
    obtain ⟨n, l', hrun, hrest, hl⟩ := leave_alone (l := m) hline
    exact ⟨_, l', run_cons hflush hrun, hrest, by rw [hl]; simp only [m, hrelay]⟩

/-- A turn of a session that nobody interrupts. -/
theorem turn_alone (rest : AtRest l) (t : Session.Turn) : ∃ acts l', l.run acts = some l' ∧
    AtRest l' ∧ (l'.system.relay, l'.session) = l.session.turn l.system.relay t := by
  rcases rest.stage with ⟨stage, running⟩ | ⟨-, stopped⟩
  · unfold Session.turn
    rw [if_pos running]
    cases t with
    | inbound i => exact receive_alone rest stage i
    | event writable => exact flush_alone rest stage writable
  · exact ⟨[], l, rfl, rest, by simp [Session.turn, stopped]⟩

theorem start_alone {id : ClientId} {capacity : Nat} (h : start r id capacity = .ok l) :
    ∃ acts l', l.run acts = some l' ∧ AtRest l' ∧
      Session.start r id capacity = .ok (l'.system.relay, l'.session) := by
  unfold start at h
  unfold Session.start
  cases ho : r.openQueue capacity with
  | error e => simp [ho] at h
  | ok made =>
    obtain ⟨relay, queue⟩ := made
    simp only [ho, Except.ok.injEq] at h ⊢
    have halone := Phase.run_alone relay 0 (.connect id queue)
    have hp : l.system.tasks[0]? = some (.start (.connect id queue)) := by rw [← h]; rfl
    have hs : l.system.shared = ⟨relay, []⟩ := by rw [← h]; rfl
    rw [← hs] at halone
    obtain ⟨n, system, hrun, hshared, hout⟩ := await hp (congrArg Prod.snd halone)
    have hshared := hshared.trans (congrArg Prod.fst halone)
    have hrelay : system.relay = (relay.connect id queue).1 := congrArg Shared.relay hshared
    have hout : system.outcome? 0 = some (.connected (relay.connect id queue).2) := hout
    generalize relay.connect id queue = answer at hrelay hout
    have hstage : l.stage = .connecting 0 := by rw [← h]
    have hsession : l.session = { id, queue } := by rw [← h]
    obtain ⟨relay', e | greeting⟩ := answer
    · have hresume : resume { l with system } =
          some (finish { l with system } (.greetingFailed id e)) := by
        simp only [resume, hstage, hout, hsession]
      refine ⟨_, _, run_resume hrun hresume,
        ⟨congrArg Shared.line hshared, .inr ⟨rfl, rfl⟩⟩, ?_⟩
      simp only [finish, hsession, hrelay]
      rfl
    · have hresume : resume { l with system } =
          some { l with system := system.note (.viewerConnected id), stage := .listening } := by
        simp only [resume, hstage, hout, hsession]
      refine ⟨_, _, run_resume hrun hresume,
        ⟨congrArg Shared.line hshared, .inl ⟨rfl, by rw [hsession]⟩⟩, ?_⟩
      have hnote : (system.note (.viewerConnected id)).relay =
          relay'.note (.viewerConnected id) := congrArg (·.note (.viewerConnected id)) hrelay
      simp only [hsession, hnote]

/-- Turn after turn. -/
theorem turns_alone (rest : AtRest l) (turns : List Session.Turn) : ∃ acts l',
    l.run acts = some l' ∧ AtRest l' ∧ (l'.system.relay, l'.session) =
      turns.foldl (fun x t => x.2.turn x.1 t) (l.system.relay, l.session) := by
  induction turns generalizing l with
  | nil => exact ⟨[], l, rfl, rest, rfl⟩
  | cons t turns ih =>
    obtain ⟨acts, m, hrun, hrest, hm⟩ := turn_alone rest t
    obtain ⟨acts', l', hrun', hrest', hl⟩ := ih hrest
    refine ⟨acts ++ acts', l', ?_, hrest', ?_⟩
    · rw [run_append, hrun]
      exact hrun'
    · rw [hl, hm]
      rfl

/-- A session that nobody interrupts, from its start through any turns. -/
theorem session_alone {id : ClientId} {capacity : Nat} (h : start r id capacity = .ok l)
    (turns : List Session.Turn) : ∃ first acts l', Session.start r id capacity = .ok first ∧
      l.run acts = some l' ∧
      (l'.system.relay, l'.session) = turns.foldl (fun x t => x.2.turn x.1 t) first := by
  obtain ⟨acts, m, hrun, hrest, hm⟩ := start_alone h
  obtain ⟨acts', l', hrun', -, hl⟩ := turns_alone hrest turns
  refine ⟨_, acts ++ acts', l', hm, ?_, hl⟩
  rw [run_append, hrun]
  exact hrun'

end Life
end ActivityRelay.Viewer
