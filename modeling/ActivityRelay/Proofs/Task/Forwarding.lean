import ActivityRelay.Proofs.Relay.Outbox
import ActivityRelay.Proofs.Task.Lock

/-! Commands on their way from the control channel to the activity. They are forwarded before they
ask for the activity lock, and committed in the order in which they ask. -/
namespace ActivityRelay
namespace Mark

/-- The task and the text of a message that is handed to the control channel. -/
def handed? : Mark → Option (Nat × String)
  | .forwarded task raw => some (task, raw)
  | _ => none

/-- The task that asks for the lock to commit a value. -/
def asked? : Mark → Option Nat
  | .asked task => some task
  | _ => none

/-- The task and the value of a commit. -/
def commit? : Mark → Option (Nat × String)
  | .committed task _ value => some (task, value)
  | _ => none

end Mark

/-- The value that the message of a task names. -/
def command? (message : Nat × String) : Option (Nat × String) :=
  match Command.classify message.2 with
  | .setActivity value => some (message.1, value)
  | .plain _ => none

def handedIn (history : List Mark) : List (Nat × String) := history.filterMap Mark.handed?

def forwardedIn (history : List Mark) : List String := (handedIn history).map (·.2)

def commandsIn (history : List Mark) : List (Nat × String) := (handedIn history).filterMap command?

def askedIn (history : List Mark) : List Nat := history.filterMap Mark.asked?

def commitsIn (history : List Mark) : List (Nat × String) := history.filterMap Mark.commit?

theorem handedIn_append (xs ys : List Mark) : handedIn (xs ++ ys) = handedIn xs ++ handedIn ys :=
  List.filterMap_append

theorem forwardedIn_append (xs ys : List Mark) :
    forwardedIn (xs ++ ys) = forwardedIn xs ++ forwardedIn ys := by
  rw [forwardedIn, handedIn_append, List.map_append]
  rfl

theorem commandsIn_append (xs ys : List Mark) :
    commandsIn (xs ++ ys) = commandsIn xs ++ commandsIn ys := by
  rw [commandsIn, handedIn_append, List.filterMap_append]
  rfl

theorem askedIn_append (xs ys : List Mark) : askedIn (xs ++ ys) = askedIn xs ++ askedIn ys :=
  List.filterMap_append

theorem commitsIn_append (xs ys : List Mark) :
    commitsIn (xs ++ ys) = commitsIn xs ++ commitsIn ys := List.filterMap_append

theorem activityAfter_eq_last (initial : String) (history : List Mark) :
    activityAfter initial history = ((commitsIn history).getLast?.map (·.2)).getD initial := by
  induction history using List.reverseRecOn with
  | nil => rfl
  | append_singleton history m ih =>
    rw [activityAfter_append, commitsIn_append, ih]
    cases m <;> simp [commitsIn, Mark.commit?, activityAfter, Mark.value?]

theorem mem_commandsIn {i : Nat} {raw value : String} {history : List Mark}
    (h : .forwarded i raw ∈ history) (hc : Command.classify raw = .setActivity value) :
    (i, value) ∈ commandsIn history :=
  List.mem_filterMap.2 ⟨(i, raw), List.mem_filterMap.2 ⟨_, h, rfl⟩, by simp [command?, hc]⟩

theorem mem_askedIn {i : Nat} {history : List Mark} : i ∈ askedIn history ↔ .asked i ∈ history := by
  simp only [askedIn, List.mem_filterMap]
  constructor
  · rintro ⟨m, hm, ha⟩
    cases m <;> simp_all [Mark.asked?]
  · exact fun h => ⟨_, h, rfl⟩

/-- What is found in the members of a list, with their places, the first one with the number
given. -/
def numbered {α β : Type} (f : α → Option β) (first : Nat) : List α → List (Nat × β)
  | [] => []
  | a :: as => ((f a).map (first, ·)).toList ++ numbered f (first + 1) as

section numbered
variable {α β γ : Type} {f : α → Option β} {as : List α} {a : α} {i : Nat}

/-- Another member in a place puts what is found in it in the place of what was. -/
theorem numbered_set (h : as[i]? = some a) (first : Nat) (a' : α) :
    (numbered f first (as.set i a') ++ ((f a).map (first + i, ·)).toList).Perm
      (numbered f first as ++ ((f a').map (first + i, ·)).toList) := by
  induction as generalizing first i with
  | nil => simp at h
  | cons b as ih =>
    cases i with
    | zero =>
      cases h
      rw [List.set_cons_zero, numbered, numbered, Nat.add_zero,
        List.append_assoc ((f a).map _).toList]
      exact List.perm_append_comm.trans (.append_left _ List.perm_append_comm)
    | succ i =>
      have hstep : first + (i + 1) = first + 1 + i := by omega
      rw [List.set_cons_succ, numbered, numbered, List.append_assoc, List.append_assoc, hstep]
      exact (ih h (first + 1)).append_left _

theorem mem_numbered {b : β} (h : as[i]? = some a) (hb : f a = some b) (first : Nat) :
    (first + i, b) ∈ numbered f first as := by
  induction as generalizing first i with
  | nil => simp at h
  | cons c as ih =>
    rw [numbered, List.mem_append]
    cases i with
    | zero =>
      cases h
      exact .inl (by simp [hb])
    | succ i =>
      have hstep : first + (i + 1) = first + 1 + i := by omega
      rw [hstep]
      exact .inr (ih h (first + 1))

theorem numbered_eq_nil (h : ∀ a ∈ as, f a = none) (first : Nat) : numbered f first as = [] := by
  induction as generalizing first with
  | nil => rfl
  | cons a as ih =>
    rw [List.forall_mem_cons] at h
    rw [numbered, ih h.2, h.1]
    rfl

theorem numbered_map (g : γ → α) (first : Nat) (cs : List γ) :
    numbered f first (cs.map g) = numbered (f ∘ g) first cs := by
  induction cs generalizing first with
  | nil => rfl
  | cons c cs ih =>
    rw [List.map_cons, numbered, numbered, ih]
    rfl

/-- No place is numbered twice. -/
theorem nodup_numbered (f : α → Option β) (first : Nat) (as : List α) :
    ((numbered f first as).map (·.1)).Nodup := by
  have places : ((numbered f first as).map (·.1)).Sublist (List.range' first as.length) := by
    induction as generalizing first with
    | nil => exact .slnil
    | cons a as ih =>
      rw [List.length_cons, List.range'_succ, numbered, List.map_append]
      cases f a with
      | none => exact (ih (first + 1)).cons first
      | some b => exact (ih (first + 1)).cons_cons first
  exact places.nodup List.nodup_range'

end numbered

theorem command?_sublist (messages : List (Nat × String)) :
    ((messages.filterMap command?).map (·.1)).Sublist (messages.map (·.1)) := by
  induction messages with
  | nil => exact .slnil
  | cons message messages ih =>
    rw [List.filterMap_cons, command?]
    cases Command.classify message.2 with
    | plain text => exact ih.cons message.1
    | setActivity value => exact ih.cons_cons message.1

/-- The text of a message that is to be dispatched. -/
def Operation.text? : Operation → Option String
  | .dispatch _ raw => some raw
  | _ => none

/-- The messages that are to be dispatched, with the numbers of their tasks. -/
def messages (ops : List Operation) : List (Nat × String) := numbered Operation.text? 0 ops

namespace Phase
variable {me : Nat} {s s' : Shared} {p p' : Phase}

/-- The text of a message that is not yet handed to the control channel. -/
def unsent? : Phase → Option String
  | .start op => op.text?
  | _ => none

theorem unsent?_of_step (h : Step me s p s' p') : p'.unsent? = none := by
  cases h <;> rfl

/-- What a task has to hand over it hands over in its first step. -/
theorem handedIn_marks (me : Nat) (s : Shared) (p : Phase) :
    handedIn (p.marks me s) = (p.unsent?.map (me, ·)).toList := by
  unfold marks
  split
  · rfl
  · rfl
  · split <;> rfl
  · rfl
  · cases p with
    | start op => cases op <;> simp_all [handedIn, unsent?, Operation.text?]
    | _ => rfl

/-- The value of a command that is forwarded and not yet committed. -/
def pending? : Phase → Option String
  | .asking (.change _ value) | .waiting (.change _ value) => some value
  | _ => none

def pending (me : Nat) (p : Phase) : List (Nat × String) := (p.pending?.map (me, ·)).toList

/-- Whether a task stands in line to commit a value. -/
def awaits : Phase → Bool
  | .waiting (.change ..) => true
  | _ => false

theorem pending?_of_awaits (h : p.awaits = true) : ∃ value, p.pending? = some value := by
  unfold awaits at h
  split at h
  · exact ⟨_, rfl⟩
  · simp at h

theorem awaits_of_holds (h : p.holds = true) : p.awaits = false := by
  cases p <;> simp_all [holds, awaits]

/-- A command becomes pending when it is forwarded and is so until its value is committed. -/
theorem pending_step (h : Step me s p s' p') :
    commandsIn (p.marks me s) ++ p.pending me = commitsIn (p.marks me s) ++ p'.pending me := by
  cases h with
  | plain hc | command hc =>
    simp [marks, commandsIn, handedIn, commitsIn, Mark.handed?, command?, Mark.commit?, hc, pending,
      pending?]
  | ask work => cases work <;> rfl
  | registers front hi => rw [marks_of_registers hi]; rfl
  | refuses front hi => rw [marks_of_refuses hi]; rfl
  | _ => rfl

/-- Who asks stands last in line, and who commits stands first. -/
theorem asked_step (h : Step me s p s' p') :
    (p.inLine = false ∧ s'.line = s.line ++ [me] ∧ commitsIn (p.marks me s) = [] ∧
      askedIn (p.marks me s) = if p'.awaits then [me] else []) ∨
    (p.awaits = true ∧ p'.awaits = false ∧ s.line.head? = some me ∧ s'.line = s.line ∧
      (commitsIn (p.marks me s)).map (·.1) = [me] ∧ askedIn (p.marks me s) = []) ∨
    (p.holds = true ∧ p'.awaits = false ∧ s'.line = s.line.tail ∧
      commitsIn (p.marks me s) = [] ∧ askedIn (p.marks me s) = []) ∨
    (p'.awaits = p.awaits ∧ s'.line = s.line ∧
      commitsIn (p.marks me s) = [] ∧ askedIn (p.marks me s) = []) := by
  cases h with
  | connect | current | commit => exact .inl ⟨rfl, rfl, rfl, rfl⟩
  | ask work => exact .inl ⟨rfl, rfl, by cases work <;> rfl, by cases work <;> rfl⟩
  | changes origin value front => exact .inr (.inl ⟨rfl, rfl, front, rfl, rfl, rfl⟩)
  | registers front hi =>
    rw [marks_of_registers hi]
    exact .inr (.inr (.inr ⟨rfl, rfl, rfl, rfl⟩))
  | refuses front hi =>
    rw [marks_of_refuses hi]
    exact .inr (.inr (.inr ⟨rfl, rfl, rfl, rfl⟩))
  | finishes e =>
    by_cases hl : e.locked = true
    · exact .inr (.inr (.inl ⟨hl, rfl, if_pos hl, rfl, rfl⟩))
    · exact .inr (.inr (.inr ⟨rfl, if_neg hl, rfl, rfl⟩))
  | _ => exact .inr (.inr (.inr ⟨rfl, rfl, rfl, rfl⟩))

theorem forwarded_step (h : Step me s p s' p') :
    s'.relay.forwarded = s.relay.forwarded ++ forwardedIn (p.marks me s) := by
  have same {r : Relay} (hr : r.outbox = s.relay.outbox) :
      r.forwarded = s.relay.forwarded ++ [] := by
    rw [List.append_nil]
    exact congrArg Prod.snd hr
  cases h with
  | disconnect id | unregister id => exact same (s.relay.outbox_remove id)
  | register c => exact same (s.relay.outbox_register c)
  | clears id record failed ending => exact same (s.relay.outbox_clear record id)
  | sendTo id value failed => exact same (s.relay.outbox_deliverTo id (.game value))
  | broadcast value exclude => exact same (s.relay.outbox_deliverAll (.game value) exclude)
  | tells origin previous value =>
    exact same (s.relay.outbox_deliverAll (.game value) (some origin))
  | @greets id c activity hc ok => exact same (s.relay.outbox_deliver c (.game activity))
  | plain hc | command hc => exact congrArg Prod.snd (s.relay.outbox_hear _ _)
  | ask work => cases work <;> exact same rfl
  | registers front hi => rw [marks_of_registers hi]; exact same rfl
  | refuses front hi => rw [marks_of_refuses hi]; exact same rfl
  | drops c last failed ending => exact same (by cases last <;> cases c <;> rfl)
  | finishes e => exact same (by cases e.last <;> rfl)
  | _ => exact same rfl

end Phase

theorem eq_of_perm_of_map_eq {α β : Type} {f : α → β} {xs ys : List α} (hp : xs.Perm ys)
    (once : (xs.map f).Nodup) (h : xs.map f = ys.map f) : xs = ys := by
  refine List.ext_getElem hp.length_eq fun n hx hy => ?_
  have hn := congrArg (·[n]?) h
  simp only [List.getElem?_map, List.getElem?_eq_getElem hx, List.getElem?_eq_getElem hy,
    Option.map_some, Option.some.injEq] at hn
  exact List.inj_on_of_nodup_map once (List.getElem_mem hx) (hp.mem_iff.2 (List.getElem_mem hy)) hn

namespace System
variable {s t : System} {i : Nat} {ops : List Operation} {r : Relay}

/-- Whether a task stands in line to commit a value. -/
def awaits (s : System) (i : Nat) : Bool := (s.tasks[i]?).any Phase.awaits

/-- What became of the messages: each is either still to be handed to the control channel or was
handed to it, and each command that was is pending or committed. -/
structure Handled (r : Relay) (ops : List Operation) (s : System) : Prop where
  orderly : s.Orderly
  forwarded : s.relay.forwarded = r.forwarded ++ forwardedIn s.history
  handed : (handedIn s.history ++ numbered Phase.unsent? 0 s.tasks).Perm (messages ops)
  commands : (commandsIn s.history).Perm (commitsIn s.history ++ numbered Phase.pending? 0 s.tasks)
  asked : askedIn s.history = (commitsIn s.history).map (·.1) ++ s.line.filter s.awaits

theorem handled_start (r : Relay) (ops : List Operation) : Handled r ops (start r ops) where
  orderly := orderly_start r ops
  forwarded := (List.append_nil _).symm
  handed := .of_eq (numbered_map Phase.start 0 ops)
  commands := by
    rw [numbered_eq_nil]
    · exact .refl _
    · intro p hp
      obtain ⟨op, -, rfl⟩ := List.mem_map.1 hp
      rfl
  asked := rfl

theorem awaits_advance {p p' : Phase} (hp : s.tasks[i]? = some p) (ht : t.tasks = s.tasks.set i p')
    (j : Nat) : t.awaits j = if j = i then p'.awaits else s.awaits j := by
  rw [awaits, ht, getElem?_set_task hp]
  split <;> rfl

/-- The line for the lock loses and gains those who commit and those who ask. -/
theorem asked_advance {p p' : Phase} (o : Orderly s) (hp : s.tasks[i]? = some p)
    (ht : t.tasks = s.tasks.set i p') (hs : Phase.Step i s.shared p t.shared p') :
    s.line.filter s.awaits ++ askedIn (p.marks i s.shared) =
      (commitsIn (p.marks i s.shared)).map (·.1) ++ t.line.filter t.awaits := by
  have haw := awaits_advance hp ht
  have hself : s.awaits i = p.awaits := by rw [awaits, hp]; rfl
  have hother (line : List Nat) (hn : i ∉ line) : line.filter t.awaits = line.filter s.awaits := by
    refine List.filter_congr fun j hj => ?_
    have hj : j ≠ i := fun he => hn (he ▸ hj)
    rw [haw, if_neg hj]
  have hi : i ∈ s.line ↔ p.inLine = true := by simp [o.inLine, hp]
  rcases Phase.asked_step hs with ⟨hout, hl, hc, ha⟩ | ⟨hwas, hnot, front, hl, hc, ha⟩ |
    ⟨hh, hnot, hl, hc, ha⟩ | ⟨hsame, hl, hc, ha⟩
  · have hn : i ∉ s.line := by simp [hi, hout]
    have hl : t.line = s.line ++ [i] := hl
    rw [hl, hc, ha, List.filter_append, hother _ hn]
    cases hw : p'.awaits <;> simp [haw, hw]
  · obtain ⟨rest, hrest⟩ : ∃ rest, s.line = i :: rest := List.head?_eq_some_iff.1 front
    have hn : i ∉ rest := (List.nodup_cons.1 (hrest ▸ o.nodup)).1
    have hl : t.line = i :: rest := hl.trans hrest
    rw [hl, hc, ha, hrest, List.filter_cons, List.filter_cons, hother _ hn]
    simp [hself, hwas, haw, hnot]
  · have hf := o.front i p hp hh
    obtain ⟨rest, hrest⟩ : ∃ rest, s.line = i :: rest := List.head?_eq_some_iff.1 hf
    have hn : i ∉ rest := (List.nodup_cons.1 (hrest ▸ o.nodup)).1
    have hl : t.line = rest := hl.trans (congrArg List.tail hrest)
    rw [hl, hc, ha, hrest, List.filter_cons, hother _ hn]
    simp [hself, Phase.awaits_of_holds hh]
  · have hl : t.line = s.line := hl
    rw [hl, hc, ha, List.append_nil]
    refine List.filter_congr fun j hj => ?_
    rw [haw]
    split
    · next he => rw [he, hself, hsame]
    · rfl

theorem handled_advance (hd : Handled r ops s) (h : s.advance i = some t) : Handled r ops t := by
  have orderly := orderly_advance hd.orderly h
  obtain ⟨p, p', hp, hs, ht, hh⟩ := advance_cases h
  refine ⟨orderly, ?_, ?_, ?_, ?_⟩
  · rw [hh, forwardedIn_append, ← List.append_assoc]
    refine (Phase.forwarded_step hs).trans ?_
    exact congrArg (· ++ _) hd.forwarded
  · refine List.Perm.trans ?_ hd.handed
    have hset := numbered_set (f := Phase.unsent?) hp 0 p'
    rw [Phase.unsent?_of_step hs, Option.map_none, Option.toList_none, List.append_nil] at hset
    rw [hh, ht, handedIn_append, Phase.handedIn_marks, List.append_assoc]
    refine .append_left _ (List.perm_append_comm.trans ?_)
    simpa only [Nat.zero_add] using hset
  · have hset := numbered_set (f := Phase.pending?) hp 0 p'
    have hstep := Phase.pending_step hs
    rw [hh, ht, commandsIn_append, commitsIn_append, List.perm_iff_count]
    intro c
    have hc := hd.commands.count_eq c
    have hset := hset.count_eq c
    have hstep := congrArg (List.count c) hstep
    simp only [List.count_append, Nat.zero_add, Phase.pending] at hc hset hstep ⊢
    omega
  · rw [hh, askedIn_append, commitsIn_append, hd.asked, List.map_append, List.append_assoc,
      List.append_assoc, asked_advance hd.orderly hp ht hs]

/-- What viewers do commits nothing. -/
theorem Aside.commitsIn_eq {marks : List Mark} (a : Aside s t marks) :
    commitsIn t.history = commitsIn s.history := by
  rw [a.history, commitsIn_append, commitsIn, commitsIn, a.filterMap_marks fun _ _ => rfl,
    List.append_nil]

/-- Nor does it hand anything to the control channel. -/
theorem Aside.handedIn_eq {marks : List Mark} (a : Aside s t marks) :
    handedIn t.history = handedIn s.history := by
  rw [a.history, handedIn_append, handedIn, handedIn, a.filterMap_marks fun _ _ => rfl,
    List.append_nil]

theorem handled_move {m : Move} (hd : Handled r ops s) (h : s.move m = some t) :
    Handled r ops t := by
  rcases move_cases h with ⟨i, h⟩ | hm
  · exact handled_advance hd h
  obtain ⟨marks, a⟩ := aside_of_move hm h
  obtain ⟨queues, order, hr⟩ := a.frame
  have hforwarded := a.handedIn_eq
  have hcommits := a.commitsIn_eq
  refine ⟨orderly_move hd.orderly h, ?_, ?_, ?_, ?_⟩
  · rw [hr, forwardedIn, hforwarded]
    exact hd.forwarded
  · rw [hforwarded, a.tasks]
    exact hd.handed
  · rw [commandsIn, hforwarded, hcommits, a.tasks]
    exact hd.commands
  · have haw : t.awaits = s.awaits := by
      funext j
      rw [awaits, awaits, a.tasks]
    rw [hcommits, a.line, haw, a.history, askedIn, List.filterMap_append,
      a.filterMap_marks fun _ _ => rfl, List.append_nil]
    exact hd.asked

theorem handled_run {moves : List Move} (h : (start r ops).run moves = some s) :
    Handled r ops s :=
  run_invariant (fun _ _ _ hm hd => handled_move hd hm) (handled_start r ops) h

/-- No task hands over two messages, so none hands over two commands. -/
theorem Handled.once (hd : Handled r ops s) : ((commandsIn s.history).map (·.1)).Nodup := by
  have places := (hd.handed.map (·.1)).nodup_iff.2 (nodup_numbered Operation.text? 0 ops)
  rw [List.map_append] at places
  exact (List.nodup_append.1 places).1.sublist (command?_sublist _)

/-- A command is forwarded before it asks for the lock. -/
theorem Handled.forwarded_of_asked (hd : Handled r ops s) (h : i ∈ askedIn s.history) :
    i ∈ (commandsIn s.history).map (·.1) := by
  have hmem := fun c => hd.commands.mem_iff (a := c)
  rw [hd.asked, List.mem_append] at h
  rcases h with h | h
  · obtain ⟨c, hc, rfl⟩ := List.mem_map.1 h
    exact List.mem_map.2 ⟨c, (hmem c).2 (List.mem_append_left _ hc), rfl⟩
  · obtain ⟨p, hp, haw⟩ := (Option.any_eq_true ..).1 (List.mem_filter.1 h).2
    obtain ⟨value, hv⟩ := Phase.pending?_of_awaits haw
    have hi := mem_numbered hp hv 0
    rw [Nat.zero_add] at hi
    exact List.mem_map.2 ⟨(i, value), (hmem _).2 (List.mem_append_right _ hi), rfl⟩

/-- When all tasks are done, each message was forwarded and each command committed, in the order of
asking. -/
theorem Handled.finished (hd : Handled r ops s)
    (done : ∀ p ∈ s.tasks, p.outcome?.isSome = true) :
    (handedIn s.history).Perm (messages ops) ∧
      (commandsIn s.history).Perm (commitsIn s.history) ∧
      (commitsIn s.history).map (·.1) = askedIn s.history := by
  have idle : ∀ p ∈ s.tasks, p.unsent? = none ∧ p.pending? = none ∧ p.awaits = false := by
    intro p hp
    have hdone := done p hp
    cases p <;> simp_all [Phase.outcome?, Phase.unsent?, Phase.pending?, Phase.awaits]
  have hmessages := hd.handed
  have hcommands := hd.commands
  have hasked := hd.asked
  have hnone : s.line.filter s.awaits = [] := by
    refine List.filter_eq_nil_iff.2 fun j _ haw => ?_
    obtain ⟨p, hp, haw⟩ := (Option.any_eq_true ..).1 haw
    simp [(idle p (List.mem_of_getElem? hp)).2.2] at haw
  rw [numbered_eq_nil fun p hp => (idle p hp).1, List.append_nil] at hmessages
  rw [numbered_eq_nil fun p hp => (idle p hp).2.1, List.append_nil] at hcommands
  rw [hnone, List.append_nil] at hasked
  exact ⟨hmessages, hcommands, hasked.symm⟩

/-- A command that is forwarded when another one has asked for the lock stays behind it. -/
theorem sublist_of_forwarded_after_asked {moves : List Move} {j : Nat} {raw value : String}
    (h : (start r ops).run moves = some s) (done : ∀ p ∈ s.tasks, p.outcome?.isSome = true)
    (hs : [.asked i, .forwarded j raw].Sublist s.history)
    (hc : Command.classify raw = .setActivity value) :
    [i, j].Sublist ((commandsIn s.history).map (·.1)) ∧
      [i, j].Sublist ((commitsIn s.history).map (·.1)) := by
  have hd := handled_run h
  obtain ⟨-, hperm, hasked⟩ := hd.finished done
  obtain ⟨before, after, hh, hi, hj⟩ := List.cons_sublist_iff.1 hs
  -- what is said of a finished history holds of its first part as well, at an earlier point
  obtain ⟨earlier, u, -, hu, rfl⟩ := exists_earlier h List.nil_prefix (hh ▸ List.prefix_append ..)
  have hfirst := fun k => (handled_run hu).forwarded_of_asked (i := k)
  have hi := mem_askedIn.2 hi
  have hj : (j, value) ∈ commandsIn after := mem_commandsIn (List.singleton_sublist.1 hj) hc
  have hjmap : j ∈ (commandsIn after).map (·.1) := List.mem_map.2 ⟨_, hj, rfl⟩
  have both {xs ys : List Nat} (hx : i ∈ xs) (hy : j ∈ ys) : [i, j].Sublist (xs ++ ys) :=
    (List.singleton_sublist.2 hx).append (List.singleton_sublist.2 hy)
  have honce := hd.once
  have hjasked : j ∈ askedIn s.history := by
    rw [← hasked]
    refine List.mem_map.2 ⟨(j, value), hperm.mem_iff.1 ?_, rfl⟩
    rw [hh, commandsIn_append]
    exact List.mem_append_right _ hj
  rw [hh, commandsIn_append, List.map_append] at honce ⊢
  refine ⟨both (hfirst i hi) hjmap, ?_⟩
  rw [← hh, hasked, hh, askedIn_append]
  rw [hh, askedIn_append, List.mem_append] at hjasked
  refine both hi (hjasked.resolve_left fun hbefore => ?_)
  exact (List.nodup_append.1 honce).2.2 j (hfirst j hbefore) j hjmap rfl

/-- Each message is forwarded once, as it came, and each command among them is committed once, with
its value. Commands are committed in the order in which they ask for the activity lock. If that is
the order in which they were forwarded, the activity ends as the value of the last one forwarded;
and one that is forwarded when another has asked never overtakes it. -/
theorem controller_order {moves : List Move} (isPublic : ∀ op ∈ ops, op.isPublic = true)
    (h : (start r ops).run moves = some s) (done : ∀ p ∈ s.tasks, p.outcome?.isSome = true) :
    s.relay.forwarded = r.forwarded ++ forwardedIn s.history ∧
    (handedIn s.history).Perm (messages ops) ∧
    (commitsIn s.history).Perm ((messages ops).filterMap command?) ∧
    (commandsIn s.history).Perm (commitsIn s.history) ∧
    (commitsIn s.history).map (·.1) = askedIn s.history ∧
    s.relay.activity = ((commitsIn s.history).getLast?.map (·.2)).getD r.activity ∧
    ((commandsIn s.history).map (·.1) = askedIn s.history ↔
      commandsIn s.history = commitsIn s.history) ∧
    ((commandsIn s.history).map (·.1) = askedIn s.history →
      s.relay.activity = ((commandsIn s.history).getLast?.map (·.2)).getD r.activity) ∧
    ∀ i j raw value, [.asked i, .forwarded j raw].Sublist s.history →
      Command.classify raw = .setActivity value →
      [i, j].Sublist ((commandsIn s.history).map (·.1)) ∧
        [i, j].Sublist ((commitsIn s.history).map (·.1)) := by
  have hd := handled_run h
  obtain ⟨hmessages, hperm, hasked⟩ := hd.finished done
  have hnamed : (commandsIn s.history).Perm ((messages ops).filterMap command?) :=
    hmessages.filterMap command?
  have hact : s.relay.activity = ((commitsIn s.history).getLast?.map (·.2)).getD r.activity := by
    rw [activity_run isPublic h, activityAfter_eq_last]
  have hagree : (commandsIn s.history).map (·.1) = askedIn s.history ↔
      commandsIn s.history = commitsIn s.history := by
    rw [← hasked]
    refine ⟨fun he => ?_, fun he => by rw [he]⟩
    exact eq_of_perm_of_map_eq hperm hd.once he
  refine ⟨hd.forwarded, hmessages, hperm.symm.trans hnamed, hperm, hasked, hact, hagree,
    fun he => ?_, ?_⟩
  · rw [hagree.1 he, hact]
  · intro i j raw value hs hc
    exact sublist_of_forwarded_after_asked h done hs hc

def overtakingOps : List Operation := [.dispatch ⟨1⟩ "aag n A", .dispatch ⟨2⟩ "aag n B"]

/-- The second command is forwarded after the first one, and asks before it. -/
def overtakingMoves : List Move :=
  [.task 0] ++ List.replicate 6 (.task 1) ++ List.replicate 5 (.task 0)

theorem controller_order_of_overtaking : ∃ s,
    (start (.fresh "Z" []) overtakingOps).run overtakingMoves = some s ∧
    commandsIn s.history = [(0, "A"), (1, "B")] ∧ askedIn s.history = [1, 0] ∧
    (handedIn s.history).Perm [(0, "aag n A"), (1, "aag n B")] ∧
    (commitsIn s.history).Perm [(0, "A"), (1, "B")] ∧
    (commandsIn s.history).Perm (commitsIn s.history) ∧
    (commitsIn s.history).map (·.1) = askedIn s.history ∧
    s.relay.activity = ((commitsIn s.history).getLast?.map (·.2)).getD "Z" := by
  have hr : ((start (.fresh "Z" []) overtakingOps).run overtakingMoves).map (fun s =>
      (s.tasks.all (·.outcome?.isSome), commandsIn s.history, askedIn s.history)) =
      some (true, [(0, "A"), (1, "B")], [1, 0]) := by decide
  obtain ⟨s, hs, hv⟩ := Option.map_eq_some_iff.1 hr
  simp only [Prod.mk.injEq] at hv
  obtain ⟨hdone, hcommands, hasked⟩ := hv
  obtain ⟨-, hmessages, hnamed, hperm, horder, hact, -⟩ :=
    controller_order (by decide) hs fun p hp => List.all_eq_true.1 hdone p hp
  have values : (messages overtakingOps).filterMap command? = [(0, "A"), (1, "B")] := by decide
  exact ⟨s, hs, hcommands, hasked, hmessages, values ▸ hnamed, hperm, horder, hact⟩

/-- Dispatches may commit in another order than they forward, and then the last command that the
control channel got need not be the activity. -/
theorem controller_overtaken : ¬ ∀ (r : Relay) (ops : List Operation) (moves : List Move)
    (s : System), (∀ op ∈ ops, ∃ origin raw, op = .dispatch origin raw) →
    (start r ops).run moves = some s → (∀ p ∈ s.tasks, p.outcome?.isSome = true) →
    (commandsIn s.history).map (·.1) = (commitsIn s.history).map (·.1) ∨
      (commandsIn s.history).getLast?.map (·.2) = some s.relay.activity := by
  intro claim
  have hr : ((start (.fresh "Z" []) overtakingOps).run overtakingMoves).map (fun s =>
      (s.tasks.all (·.outcome?.isSome), commandsIn s.history, commitsIn s.history,
        s.relay.activity)) =
      some (true, [(0, "A"), (1, "B")], [(1, "B"), (0, "A")], "A") := by decide
  obtain ⟨s, hs, hv⟩ := Option.map_eq_some_iff.1 hr
  simp only [Prod.mk.injEq] at hv
  obtain ⟨hdone, hcommands, hcommits, hact⟩ := hv
  have hk := claim _ overtakingOps overtakingMoves s (by simp [overtakingOps]) hs
    fun p hp => List.all_eq_true.1 hdone p hp
  rw [hcommands, hcommits, hact] at hk
  exact absurd hk (by decide)

end System
end ActivityRelay
