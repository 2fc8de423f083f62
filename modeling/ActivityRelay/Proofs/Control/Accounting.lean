import ActivityRelay.Proofs.Control.Framing
import Mathlib.Data.List.Basic
import Mathlib.Data.List.Perm.Basic
import Mathlib.Logic.Relation

/-! Every message that was handed over stands in a ledger, in the order of handing over, with what
has become of it. What the worker and its queue hold is what the ledger says. -/
namespace ActivityRelay.Control

/-- What has become of a message. -/
inductive Fate where
  | queued
  | writing
  | written
  | refused (why : Queue.Refusal)
  | failed (fault : Fault)
  /-- The worker was ended from outside before it had delivered the message. -/
  | lost
  deriving DecidableEq, Repr

namespace Fate

/-- How a message moves from one fate to the next. -/
inductive Next : Fate → Fate → Prop
  | take : Next .queued .writing
  | deliver : Next .writing .written
  | fail (fault : Fault) : Next .writing (.failed fault)
  | loseQueued : Next .queued .lost
  | loseWriting : Next .writing .lost

def ofDelivery : Option Fault → Fate
  | none => .written
  | some fault => .failed fault

def isSettled : Fate → Bool
  | .written => true
  | .refused _ => true
  | .failed _ => true
  | _ => false

/-- Whether the worker has taken the message to deliver it. -/
def isAttempted : Fate → Bool
  | .writing => true
  | .written => true
  | .failed _ => true
  | _ => false

def refusal? : Fate → Option Queue.Refusal
  | .refused why => some why
  | _ => none

def fault? : Fate → Option Fault
  | .failed fault => some fault
  | _ => none

/-- The warning that a message of this fate was given, on its way to an address. -/
def warning? (addr : String) : Fate → Option Notice
  | .refused why => some (.dropped addr why)
  | .failed fault => some (.forwardFailed addr fault)
  | _ => none

variable {fate later : Fate}

@[simp] theorem refusal?_refused (why : Queue.Refusal) : (refused why).refusal? = some why := rfl

theorem isSettled_ofDelivery (fault : Option Fault) : (ofDelivery fault).isSettled := by
  cases fault <;> rfl

theorem refusal?_ofDelivery (fault : Option Fault) : (ofDelivery fault).refusal? = none := by
  cases fault <;> rfl

theorem refusal?_of_isAttempted (h : fate.isAttempted) : fate.refusal? = none := by
  cases fate <;> first | rfl | simp [isAttempted] at h

theorem isSettled_of_refused (h : fate.refusal? ≠ none) : fate.isSettled := by
  cases fate <;> first | rfl | simp [refusal?] at h

theorem eq_of_isSettled (settled : fate.isSettled) (h : Relation.ReflTransGen Next fate later) :
    later = fate := by
  induction h with
  | refl => rfl
  | tail _ next ih =>
    subst ih
    cases next <;> simp [isSettled] at settled

end Fate

namespace Worker
variable {w w' : Worker} {marks more : List Mark}

/-- The messages handed over, each with its fate; of those that the queue took, the first has the
fate at zero. -/
def entries : List Mark → (Nat → Fate) → List (String × Fate)
  | [], _ => []
  | .handed raw none :: marks, fate => (raw, fate 0) :: entries marks fun k => fate (k + 1)
  | .handed raw (some why) :: marks, fate => (raw, .refused why) :: entries marks fate
  | .tried .. :: marks, fate => entries marks fate

theorem entries_texts (marks : List Mark) (fate : Nat → Fate) :
    (entries marks fate).map (·.1) = marks.filterMap Mark.handed? := by
  induction marks generalizing fate with
  | nil => rfl
  | cons mark marks ih =>
    cases mark with
    | tried raw fault => exact ih fate
    | handed raw refusal => cases refusal <;> simp [entries, ih, Mark.handed?]

/-- The messages that the queue did not take. -/
def refusals (entries : List (String × Fate)) : List (String × Queue.Refusal) :=
  entries.filterMap fun e => e.2.refusal?.map (e.1, ·)

theorem entries_refused {fate : Nat → Fate} (taken : ∀ k, (fate k).refusal? = none)
    (marks : List Mark) : refusals (entries marks fate) = marks.filterMap Mark.refused? := by
  unfold refusals
  induction marks generalizing fate with
  | nil => rfl
  | cons mark marks ih =>
    cases mark with
    | tried raw fault => exact ih taken
    | handed raw refusal =>
      cases refusal with
      | none =>
        have hrest := ih fun k => taken (k + 1)
        simpa [entries, List.filterMap_cons, taken, Mark.refused?] using hrest
      | some why => simp [entries, ih taken, Mark.refused?]

theorem entries_accepted {fate : Nat → Fate} (taken : ∀ k, (fate k).refusal? = none)
    (marks : List Mark) : (entries marks fate).filter (·.2.refusal?.isNone) =
      (marks.filterMap Mark.accepted?).mapIdx fun k raw => (raw, fate k) := by
  induction marks generalizing fate with
  | nil => rfl
  | cons mark marks ih =>
    cases mark with
    | tried raw fault => exact ih taken
    | handed raw refusal =>
      cases refusal with
      | none =>
        have hrest := ih fun k => taken (k + 1)
        simpa [entries, taken, Mark.accepted?, List.mapIdx_cons] using hrest
      | some why =>
        simpa [entries, List.filterMap_cons, Mark.accepted?] using ih taken

/-- Marks that come later only add messages at the end. -/
theorem entries_moves {fate fate' : Nat → Fate} {marks : List Mark}
    (moves : ∀ k < (marks.filterMap Mark.accepted?).length,
      Relation.ReflTransGen Fate.Next (fate k) (fate' k)) (more : List Mark)
    {i : Nat} {raw : String} {now : Fate} (h : (entries marks fate)[i]? = some (raw, now)) :
    ∃ later, (entries (marks ++ more) fate')[i]? = some (raw, later) ∧
      Relation.ReflTransGen Fate.Next now later := by
  induction marks generalizing fate fate' i with
  | nil => simp [entries] at h
  | cons mark marks ih =>
    cases mark with
    | tried other fault => exact ih moves h
    | handed other refusal =>
      cases refusal with
      | none =>
        cases i with
        | zero =>
          cases h
          exact ⟨_, rfl, moves 0 (Nat.succ_pos _)⟩
        | succ i => exact ih (fun k hk => moves (k + 1) (Nat.succ_lt_succ hk)) h
      | some why =>
        cases i with
        | zero =>
          cases h
          exact ⟨_, rfl, .refl⟩
        | succ i => exact ih moves h

/-- The messages of one fate. -/
def texts (fate : Fate) (entries : List (String × Fate)) : List String :=
  (entries.filter (·.2 = fate)).map (·.1)

theorem texts_append (fate : Fate) (xs ys : List (String × Fate)) :
    texts fate (xs ++ ys) = texts fate xs ++ texts fate ys := by
  simp [texts]

theorem texts_map (fate other : Fate) (raws : List String) :
    texts fate (raws.map (·, other)) = if other = fate then raws else [] := by
  induction raws with
  | nil => simp [texts]
  | cons raw raws ih =>
    rw [List.map_cons, ← List.singleton_append, texts_append, ih]
    by_cases h : other = fate <;> simp [texts, h]

/-- Messages that the queue did not take have only one fate. -/
theorem texts_accepted {fate : Fate} (taken : fate.refusal? = none) (es : List (String × Fate)) :
    texts fate (es.filter (·.2.refusal?.isNone)) = texts fate es := by
  simp only [texts, List.filter_filter]
  congr 1
  apply List.filter_congr
  intro e _
  by_cases h : e.2 = fate
  · simp [h, taken]
  · simp [h]

theorem texts_tried (marks : List Mark) :
    texts .written ((marks.filterMap Mark.tried?).map fun t => (t.1, Fate.ofDelivery t.2)) =
      marks.filterMap Mark.written? := by
  induction marks with
  | nil => rfl
  | cons mark marks ih =>
    cases mark with
    | handed raw refusal => exact ih
    | tried raw fault =>
      cases fault with
      | none => exact congrArg (raw :: ·) ih
      | some fault => exact ih

theorem texts_tried_open {fate : Fate} (h : fate.isSettled = false) (marks : List Mark) :
    texts fate ((marks.filterMap Mark.tried?).map fun t => (t.1, Fate.ofDelivery t.2)) = [] := by
  simp only [texts, List.map_eq_nil_iff, List.filter_eq_nil_iff, List.mem_map, decide_eq_true_eq]
  rintro e ⟨t, -, rfl⟩ rfl
  simp [Fate.isSettled_ofDelivery] at h

/-- The messages that failed in their own delivery. -/
def failures (entries : List (String × Fate)) : List (String × Fault) :=
  entries.filterMap fun e => e.2.fault?.map (e.1, ·)

theorem failures_append (xs ys : List (String × Fate)) :
    failures (xs ++ ys) = failures xs ++ failures ys := List.filterMap_append

theorem failures_map (fate : Fate) (h : fate.fault? = none) (raws : List String) :
    failures (raws.map (·, fate)) = [] := by
  simp [failures, h]

theorem failures_accepted (es : List (String × Fate)) :
    failures (es.filter (·.2.refusal?.isNone)) = failures es := by
  simp only [failures, List.filterMap_filter]
  congr 1
  funext e
  cases e.2 <;> rfl

theorem failures_tried (marks : List Mark) :
    failures ((marks.filterMap Mark.tried?).map fun t => (t.1, Fate.ofDelivery t.2)) =
      marks.filterMap Mark.failed? := by
  induction marks with
  | nil => rfl
  | cons mark marks ih =>
    cases mark with
    | handed raw refusal => exact ih
    | tried raw fault =>
      cases fault with
      | none => exact ih
      | some fault => exact congrArg ((raw, fault) :: ·) ih

/-- What still waits for the worker; nothing does once it was ended from outside. -/
def queued (w : Worker) : List String :=
  if w.phase = .killed then [] else w.queue.waiting

/-- The fates of the messages that the queue took: of those that were tried, of the one that is
being written, of those that wait. -/
def fates (w : Worker) (marks : List Mark) : List Fate :=
  (marks.filterMap Mark.tried?).map (Fate.ofDelivery ·.2) ++
    w.inHand.map (fun _ => .writing) ++ w.queued.map fun _ => .queued

def fate (w : Worker) (marks : List Mark) (k : Nat) : Fate := (w.fates marks).getD k .lost

theorem refusal?_fate (w : Worker) (marks : List Mark) (k : Nat) :
    (w.fate marks k).refusal? = none := by
  rw [fate, List.getD_eq_getElem?_getD]
  cases h : (w.fates marks)[k]? with
  | none => rfl
  | some fate =>
    have hmem := List.mem_of_getElem? h
    simp only [fates, List.mem_append, List.mem_map] at hmem
    obtain (⟨t, -, rfl⟩ | ⟨raw, -, rfl⟩) | ⟨raw, -, rfl⟩ := hmem
    · exact Fate.refusal?_ofDelivery t.2
    · rfl
    · rfl

/-- The messages handed over in a run, in their order, with what has become of them. -/
def ledger (w : Worker) (steps : List Step) : List (String × Fate) :=
  entries (w.history steps) ((w.run steps).fate (w.history steps))

theorem mapIdx_getD_append {β : Type} (f : β → String) (g : β → Fate) (taken : List β)
    (raws : List String) (fates : List Fate) :
    (taken.map f ++ raws).mapIdx (fun k raw => (raw, (taken.map g ++ fates).getD k .lost)) =
      taken.map (fun t => (f t, g t)) ++ raws.mapIdx fun k raw => (raw, fates.getD k .lost) := by
  induction taken with
  | nil => rfl
  | cons t taken ih => simpa [List.mapIdx_cons] using ih

theorem mapIdx_lost (raws : List String) :
    raws.mapIdx (fun k raw => (raw, ([] : List Fate).getD k .lost)) = raws.map (·, .lost) := by
  induction raws with
  | nil => rfl
  | cons raw raws ih => simpa [List.mapIdx_cons] using ih

/-- The messages that the queue took, with their fates: those that were tried, the one that is being
written, those that wait, and those that a worker took with it. -/
theorem Kept.entries_accepted {capacity : Nat} (k : Kept capacity w marks) :
    ∃ gone : List String, (entries marks (w.fate marks)).filter (·.2.refusal?.isNone) =
      (marks.filterMap Mark.tried?).map (fun t => (t.1, Fate.ofDelivery t.2)) ++
        (w.inHand.map (·, .writing) ++ (w.queued.map (·, .queued) ++ gone.map (·, .lost))) ∧
      (w.phase ≠ .killed → gone = []) := by
  obtain ⟨left, hleft, hcurrent⟩ := k.order
  obtain ⟨gone, hgone, hlost⟩ : ∃ gone : List String, left = w.inHand ++ (w.queued ++ gone) ∧
      (w.phase ≠ .killed → gone = []) := by
    by_cases hk : w.phase = .killed
    · exact ⟨left, by simp [inHand, queued, hk], fun h => absurd hk h⟩
    · exact ⟨[], by simp [hcurrent hk, queued, hk], fun _ => rfl⟩
  refine ⟨gone, ?_, hlost⟩
  rw [Worker.entries_accepted (refusal?_fate w marks), hleft, hgone]
  have htried := mapIdx_getD_append (·.1) (Fate.ofDelivery ·.2) (marks.filterMap Mark.tried?)
    (w.inHand ++ (w.queued ++ gone))
    (w.inHand.map (fun _ => .writing) ++ w.queued.map fun _ => .queued)
  have hhand := mapIdx_getD_append id (fun _ => Fate.writing) w.inHand (w.queued ++ gone)
    (w.queued.map fun _ => .queued)
  have hwait := mapIdx_getD_append id (fun _ => Fate.queued) w.queued gone []
  simp only [List.map_id, List.append_nil, mapIdx_lost] at hhand hwait
  simp only [fate, fates, List.append_assoc]
  rw [htried, hhand, hwait]
  rfl

namespace Kept
variable {capacity : Nat}

theorem texts_eq (k : Kept capacity w marks) {fate : Fate} (taken : fate.refusal? = none)
    (kept : fate ≠ .lost) : texts fate (entries marks (w.fate marks)) =
      texts fate ((marks.filterMap Mark.tried?).map fun t => (t.1, Fate.ofDelivery t.2)) ++
        ((if .writing = fate then w.inHand else []) ++
          if .queued = fate then w.queued else []) := by
  obtain ⟨gone, h, -⟩ := k.entries_accepted
  rw [← texts_accepted taken, h]
  simp only [texts_append, texts_map, if_neg kept.symm, List.append_nil]

theorem texts_lost (k : Kept capacity w marks) (alive : w.phase ≠ .killed) :
    texts .lost (entries marks (w.fate marks)) = [] := by
  obtain ⟨gone, h, hgone⟩ := k.entries_accepted
  have htried := texts_tried_open (rfl : Fate.lost.isSettled = false) marks
  rw [← texts_accepted rfl, h, hgone alive]
  simp [texts_append, texts_map, htried]

theorem failures_eq (k : Kept capacity w marks) :
    failures (entries marks (w.fate marks)) = w.failed := by
  obtain ⟨gone, h, -⟩ := k.entries_accepted
  rw [← failures_accepted, h]
  simp only [failures_append, failures_tried, failures_map .writing rfl, failures_map .queued rfl,
    failures_map .lost rfl, List.append_nil, k.failed]

theorem refusals_eq (k : Kept capacity w marks) :
    refusals (entries marks (w.fate marks)) = w.refused := by
  rw [entries_refused (refusal?_fate w marks), k.refused]

theorem length_fates (k : Kept capacity w marks) (alive : w.phase ≠ .killed) :
    (w.fates marks).length = (marks.filterMap Mark.accepted?).length := by
  obtain ⟨left, hleft, hcurrent⟩ := k.order
  simp only [hleft, hcurrent alive, fates, queued, if_neg alive, List.length_append,
    List.length_map]
  omega

end Kept

/-- How fates change in one place while those around it stay. -/
theorem moves_at (before behind : List Fate) {old new : Fate} (next : Fate.Next old new) (k : Nat) :
    Relation.ReflTransGen Fate.Next ((before ++ [old] ++ behind).getD k .lost)
      ((before ++ [new] ++ behind).getD k .lost) := by
  induction before generalizing k with
  | nil =>
    cases k with
    | zero => exact .single next
    | succ k => exact .refl
  | cons fate before ih =>
    cases k with
    | zero => exact .refl
    | succ k => exact ih k

/-- How the fates that are still open are cut off. -/
theorem moves_lost (before : List Fate) {behind : List Fate}
    (next : ∀ fate ∈ behind, Fate.Next fate .lost) (k : Nat) :
    Relation.ReflTransGen Fate.Next ((before ++ behind).getD k .lost)
      (before.getD k .lost) := by
  induction before generalizing k with
  | nil =>
    rw [List.nil_append, List.getD_nil, List.getD_eq_getElem?_getD]
    cases h : behind[k]? with
    | none => exact .refl
    | some fate => exact .single (next fate (List.mem_of_getElem? h))
  | cons fate before ih =>
    cases k with
    | zero => exact .refl
    | succ k => exact ih k

/-- With the worker all that was not yet tried is lost. -/
theorem moves_killed (w : Worker) (marks : List Mark) (k : Nat) :
    Relation.ReflTransGen Fate.Next (w.fate marks k)
      (((marks.filterMap Mark.tried?).map (Fate.ofDelivery ·.2)).getD k .lost) := by
  have hopen : ∀ fate ∈ (w.inHand.map fun _ => Fate.writing) ++ w.queued.map fun _ => Fate.queued,
      Fate.Next fate .lost := by
    simp only [List.mem_append, List.mem_map]
    rintro fate (⟨raw, -, rfl⟩ | ⟨raw, -, rfl⟩)
    · exact .loseWriting
    · exact .loseQueued
  have hmove := moves_lost ((marks.filterMap Mark.tried?).map (Fate.ofDelivery ·.2)) hopen k
  rwa [← List.append_assoc] at hmove

/-- What one turn of the worker does to the fates of the messages that the queue had taken. -/
theorem Turn.moves {capacity : Nat} {before : List Mark} (kept : Kept capacity w before)
    (t : Turn w marks w') {k : Nat} (hk : k < (before.filterMap Mark.accepted?).length) :
    Relation.ReflTransGen Fate.Next (w.fate before k) (w'.fate (before ++ marks) k) := by
  cases t with
  | @accepted raw queue held h =>
    obtain ⟨hr, -, hw, -⟩ := Queue.push_eq_ok h
    have alive : w.phase ≠ .killed := fun hkilled => by simp [kept.receiver, hkilled] at hr
    have hfates : Worker.fates { w with queue } (before ++ [.handed raw none]) =
        w.fates before ++ [.queued] := by
      simp [fates, inHand, queued, alive, hw, Mark.tried?]
    rw [← kept.length_fates alive] at hk
    rw [fate, fate, hfates, List.getD_eq_getElem?_getD, List.getD_eq_getElem?_getD,
      List.getElem?_append_left hk]
  | @refused raw why held h =>
    have hfates (refused : List (String × Queue.Refusal)) (log : List Notice) :
        Worker.fates { w with refused, log } (before ++ [.handed raw (some why)]) =
          w.fates before := by
      simp [fates, inHand, queued, Mark.tried?]
    rw [fate, fate, hfates]
  | released =>
    rw [List.append_nil]
    exact .refl
  | @took raw queue phase h =>
    obtain ⟨hw, -⟩ := Queue.take_eq_item h
    rw [List.append_nil]
    have hmove := moves_at ((before.filterMap Mark.tried?).map (Fate.ofDelivery ·.2))
      (queue.waiting.map fun _ => Fate.queued) .take k
    simpa [fate, fates, inHand, queued, phase, hw] using hmove
  | ended phase h =>
    rw [List.append_nil]
    simp only [fate, fates, inHand, queued, phase]
    exact .refl
  | @wrote raw phase =>
    have hmove := moves_at ((before.filterMap Mark.tried?).map (Fate.ofDelivery ·.2))
      (w.queue.waiting.map fun _ => Fate.queued) .deliver k
    simpa [fate, fates, inHand, queued, phase, Mark.tried?, Fate.ofDelivery] using hmove
  | @unopened raw fault phase closed =>
    have hmove := moves_at ((before.filterMap Mark.tried?).map (Fate.ofDelivery ·.2))
      (w.queue.waiting.map fun _ => Fate.queued) (.fail fault) k
    simpa [fate, fates, inHand, queued, phase, Mark.tried?, Fate.ofDelivery] using hmove
  | @broke raw fault phase count =>
    have hmove := moves_at ((before.filterMap Mark.tried?).map (Fate.ofDelivery ·.2))
      (w.queue.waiting.map fun _ => Fate.queued) (.fail fault) k
    simpa [fate, fates, inHand, queued, phase, Mark.tried?, Fate.ofDelivery] using hmove
  | killed going => simpa [fate, fates, inHand, queued] using w.moves_killed before k
  | cutOff phase count => simpa [fate, fates, inHand, queued] using w.moves_killed before k
  | idle =>
    rw [List.append_nil]

/-- A message keeps its place among those handed over, and its fate only moves on. -/
theorem entries_run {capacity : Nat} {before : List Mark} (kept : Kept capacity w before)
    (steps : List Step) {i : Nat} {raw : String} {now : Fate}
    (h : (entries before (w.fate before))[i]? = some (raw, now)) :
    ∃ later, (entries (before ++ w.history steps)
        ((w.run steps).fate (before ++ w.history steps)))[i]? = some (raw, later) ∧
      Relation.ReflTransGen Fate.Next now later := by
  induction steps generalizing w before now with
  | nil => exact ⟨now, by simpa [history, run] using h, .refl⟩
  | cons st steps ih =>
    have t := w.turn_step st
    obtain ⟨next, hnext, hmove⟩ := entries_moves (fun _ hk => t.moves kept hk) (w.mark? st).toList h
    obtain ⟨later, hlater, hrest⟩ := ih (kept.turn t) hnext
    rw [List.append_assoc] at hlater
    exact ⟨later, hlater, hmove.trans hrest⟩

/-- The worker has come to a message only if it is through with all that came before. -/
def InOrder (entries : List (String × Fate)) : Prop :=
  entries.Pairwise fun earlier later => later.2.isAttempted → earlier.2.isSettled

namespace InOrder
variable {xs ys : List (String × Fate)}

theorem append (settled : ∀ e ∈ xs, e.2.isSettled) (h : InOrder ys) : InOrder (xs ++ ys) := by
  induction xs with
  | nil => exact h
  | cons x xs ih =>
    rw [List.forall_mem_cons] at settled
    exact List.pairwise_cons.2 ⟨fun _ _ _ => settled.1, ih settled.2⟩

theorem cons (x : String × Fate) (h : ∀ e ∈ xs, e.2.isAttempted = false) : InOrder (x :: xs) := by
  induction xs generalizing x with
  | nil => exact List.pairwise_singleton _ x
  | cons y xs ih =>
    refine List.pairwise_cons.2 ⟨fun e he ha => ?_, ih y (List.forall_mem_cons.1 h).2⟩
    simp [h e he] at ha

/-- Messages that the queue did not take are in nobody's way. -/
theorem of_accepted (h : InOrder (xs.filter (·.2.refusal?.isNone))) : InOrder xs := by
  refine (List.pairwise_filter.1 h).imp fun {earlier later} hr ha => ?_
  rcases earlier with ⟨text, _ | _ | _ | why | fault | _⟩
  case refused => rfl
  all_goals exact hr rfl (by rw [Fate.refusal?_of_isAttempted ha]; rfl) ha

end InOrder

theorem Kept.inOrder {capacity : Nat} (k : Kept capacity w marks) :
    InOrder (entries marks (w.fate marks)) := by
  obtain ⟨gone, h, -⟩ := k.entries_accepted
  apply InOrder.of_accepted
  rw [h]
  have hrest : ∀ e ∈ w.queued.map (·, Fate.queued) ++ gone.map (·, Fate.lost),
      e.2.isAttempted = false := by
    intro e he
    rw [List.mem_append, List.mem_map, List.mem_map] at he
    obtain ⟨raw, -, rfl⟩ | ⟨raw, -, rfl⟩ := he <;> rfl
  apply InOrder.append
  · intro e he
    obtain ⟨t, -, rfl⟩ := List.mem_map.1 he
    exact Fate.isSettled_ofDelivery t.2
  · unfold inHand
    split
    · exact .cons _ hrest
    · exact (List.pairwise_cons.1 (InOrder.cons ("", .lost) hrest)).2

/-- Where nothing is left to do, everything is settled. -/
theorem Kept.settled {capacity : Nat} (k : Kept capacity w marks) (alive : w.phase ≠ .killed)
    (idle : w.inHand = []) (empty : w.queue.waiting = []) :
    ∀ e ∈ entries marks (w.fate marks), e.2.isSettled := by
  obtain ⟨gone, h, hgone⟩ := k.entries_accepted
  have hqueued : w.queued = [] := by simp [queued, empty]
  rw [idle, hqueued, hgone alive] at h
  simp only [List.map_nil, List.append_nil] at h
  intro e he
  by_cases taken : e.2.refusal? = none
  · have hmem : e ∈ (entries marks (w.fate marks)).filter (·.2.refusal?.isNone) :=
      List.mem_filter.2 ⟨he, by simpa using taken⟩
    rw [h] at hmem
    obtain ⟨t, -, rfl⟩ := List.mem_map.1 hmem
    exact Fate.isSettled_ofDelivery t.2
  · exact Fate.isSettled_of_refused taken

/-- What two functions find in a list, each in elements of its own, taken together. -/
theorem filterMap_perm_append {α β : Type} {f g h : α → Option β}
    (split : ∀ a, f a = h a ∧ g a = none ∨ f a = none ∧ g a = h a) (l : List α) :
    (l.filterMap h).Perm (l.filterMap f ++ l.filterMap g) := by
  induction l with
  | nil => exact .nil
  | cons a l ih =>
    rcases split a with ⟨hf, hg⟩ | ⟨hf, hg⟩
    · cases ha : h a with
      | none => simpa [List.filterMap_cons, hf, hg, ha] using ih
      | some b => simpa [List.filterMap_cons, hf, hg, ha] using ih
    · cases ha : h a with
      | none => simpa [List.filterMap_cons, hf, hg, ha] using ih
      | some b =>
        simp only [List.filterMap_cons, hf, hg, ha]
        exact (ih.cons b).trans List.perm_middle.symm

/-- Each message that was refused or that failed is warned of once. -/
theorem Kept.warned_once {capacity : Nat} (k : Kept capacity w marks) : w.warnings.Perm
    ((entries marks (w.fate marks)).filterMap (·.2.warning? w.sink.addr)) := by
  have hmarks := filterMap_perm_append (h := Mark.warning? w.sink.addr)
    (f := fun m => m.refused?.map fun r => .dropped w.sink.addr r.2)
    (g := fun m => m.failed?.map fun r => .forwardFailed w.sink.addr r.2) ?_ marks
  have hentries := filterMap_perm_append (h := fun e : String × Fate => e.2.warning? w.sink.addr)
    (f := fun e => (e.2.refusal?.map (e.1, ·)).map fun r => .dropped w.sink.addr r.2)
    (g := fun e => (e.2.fault?.map (e.1, ·)).map fun r => .forwardFailed w.sink.addr r.2) ?_
    (entries marks (w.fate marks))
  · rw [← List.map_filterMap, ← List.map_filterMap, ← k.refused, ← k.failed] at hmarks
    rw [← List.map_filterMap, ← List.map_filterMap] at hentries
    rw [k.warned]
    exact hmarks.trans (by rw [← k.refusals_eq, ← k.failures_eq]; exact hentries.symm)
  · rintro ⟨raw, _ | _ | _ | why | fault | _⟩ <;> simp [Fate.warning?, Fate.fault?, Fate.refusal?]
  · rintro (⟨raw, _ | why⟩ | ⟨raw, _ | fault⟩) <;>
      simp [Mark.warning?, Mark.refused?, Mark.failed?]

/-- The worker goes on for as many messages as there are answers. -/
def drain (replies : List Reply) : List Step := replies.flatMap fun reply => [.write reply, .take]

/-- Nothing is left to do, and the worker knows if there is no handle. -/
structure Drained (w : Worker) : Prop where
  alive : w.phase ≠ .killed
  idle : w.inHand = []
  empty : w.queue.waiting = []
  stopped : w.queue.senders = 0 → w.phase = .stopped

theorem write_cases (alive : w.phase ≠ .killed) (reply : Reply) :
    (w.write reply).queue = w.queue ∧
      ((w.write reply).phase = .waiting ∨ w.phase = .stopped ∧ w.write reply = w) := by
  cases phase : w.phase with
  | writing raw =>
    rcases hd : w.sink.deliver raw reply with ⟨sink, news, _ | fault⟩ <;> simp [write, phase, hd]
  | waiting => simp [write, phase]
  | stopped => simp [write, phase]
  | killed => exact absurd phase alive

theorem take_cases (phase : w.phase = .waiting) (listening : w.queue.receiver = .listening) :
    w.take.phase ≠ .killed ∧
      (Drained w.take ∨ w.take.queue.waiting.length < w.queue.waiting.length) := by
  rcases ht : w.queue.take with ⟨raw | _ | _, queue⟩
  · have hw := (Queue.take_eq_item ht).1
    simp [take, phase, ht, hw]
  · obtain ⟨-, -, hempty, hsenders⟩ := Queue.take_eq_empty ht
    have htake : w.take = w := by simp [take, phase, ht]
    rw [htake]
    refine ⟨by simp [phase], .inl ⟨by simp [phase], by simp [inHand, phase], hempty, fun h => ?_⟩⟩
    exact absurd h hsenders
  · obtain ⟨-, hend⟩ := Queue.take_eq_ended ht
    have hempty := (hend.resolve_left (by simp [listening])).1
    simp only [take, phase, ht]
    exact ⟨by simp, .inl ⟨by simp, rfl, hempty, fun _ => rfl⟩⟩

/-- Behind a delivery the next message is taken, or none is left. -/
theorem Kept.write_take {capacity : Nat} (k : Kept capacity w marks) (alive : w.phase ≠ .killed)
    (reply : Reply) : (w.write reply).take.phase ≠ .killed ∧ (Drained (w.write reply).take ∨
      (w.write reply).take.queue.waiting.length < w.queue.waiting.length) := by
  have hreceiver : w.queue.receiver = .listening := by rw [k.receiver, if_neg alive]
  obtain ⟨hqueue, hwaiting | ⟨hstopped, hidle⟩⟩ := write_cases alive reply
  · rw [← hqueue] at hreceiver ⊢
    exact take_cases hwaiting hreceiver
  · obtain ⟨-, hempty⟩ := k.ended hstopped
    have htake : w.take = w := by simp [take, hstopped]
    rw [hidle, htake]
    exact ⟨alive, .inl ⟨alive, by simp [inHand, hstopped], hempty, fun _ => hstopped⟩⟩

theorem Kept.drained {capacity : Nat} (k : Kept capacity w marks) (alive : w.phase ≠ .killed)
    {replies : List Reply} (enough : Drained w ∨ w.queue.waiting.length < replies.length) :
    Drained (w.run (drain replies)) := by
  induction replies generalizing w marks with
  | nil => exact enough.resolve_right (Nat.not_lt_zero _)
  | cons reply replies ih =>
    obtain ⟨hnext, hdone⟩ := k.write_take alive reply
    refine ih (((k.turn (w.turn_step (.write reply))).turn (turn_step _ .take))) hnext ?_
    refine hdone.imp_right fun hless => ?_
    rcases enough with hdrained | henough
    · simp [hdrained.empty] at hless
    · refine Nat.lt_of_lt_of_le hless ?_
      rw [List.length_cons] at henough
      omega

/-- All that a run of the worker keeps to. -/
structure Accounted (capacity : Nat) (w : Worker) (steps : List Step) : Prop where
  /-- Every message that was handed over stands in the ledger once, with one fate. -/
  handed : (w.ledger steps).map (·.1) = handed steps
  queued : texts .queued (w.ledger steps) = (w.run steps).queued
  writing : texts .writing (w.ledger steps) = (w.run steps).inHand
  written : texts .written (w.ledger steps) = (w.run steps).written
  /-- The messages written are those that went whole over the connections, one behind the other. -/
  carried : ∃ former messages, Framed (w.run steps).sink (w.run steps).written former messages
  refused : refusals (w.ledger steps) = (w.run steps).refused
  failed : failures (w.ledger steps) = (w.run steps).failed
  lost : texts .lost (w.ledger steps) ≠ [] → ∃ sent, .kill sent ∈ steps
  inSendOrder : ((w.run steps).written).Sublist (Worker.handed steps)
  bounded : (w.run steps).queue.waiting.length ≤ capacity
  /-- The log warns once of each refusal and of each failure, and of nothing else. -/
  warned : ((w.run steps).log.filter Notice.isWarning).Perm
    ((w.ledger steps).filterMap (·.2.warning? w.sink.addr))
  moves : ∀ (more : List Step) (i : Nat) (raw : String) (now : Fate),
    (w.ledger steps)[i]? = some (raw, now) → ∃ later,
      (w.ledger (steps ++ more))[i]? = some (raw, later) ∧
      Relation.ReflTransGen Fate.Next now later
  settled : ∀ (more : List Step) (i : Nat) (e : String × Fate),
    (w.ledger steps)[i]? = some e → e.2.isSettled → (w.ledger (steps ++ more))[i]? = some e
  inOrder : InOrder (w.ledger steps)
  /-- The worker comes to its own end only without a handle and with everything settled. -/
  stopped : (w.run steps).phase = .stopped →
    .release ∈ steps ∧ ∀ e ∈ w.ledger steps, e.2.isSettled
  /-- If the network answers, the worker gets to every message that the queue has taken, and behind
  the last handle it comes to its end. -/
  drained : (∀ sent, .kill sent ∉ steps) → ∀ replies : List Reply,
    (w.run steps).queue.waiting.length < replies.length →
    (∀ e ∈ w.ledger (steps ++ drain replies), e.2.isSettled) ∧
    (.release ∈ steps → (w.run (steps ++ drain replies)).phase = .stopped)

theorem accounted {sink : Sink} {capacity : Nat} (closed : sink.connection = none)
    (unused : sink.former = []) (made : create sink capacity = .ok w) (steps : List Step) :
    Accounted capacity w steps := by
  have hstart := create_eq_ok made
  have held : w.queue.senders = 1 := by rw [hstart]
  have alive : w.phase ≠ .killed := by simp [hstart]
  have kept (steps : List Step) : Kept capacity (w.run steps) (w.history steps) :=
    (kept_create made).run steps
  have hhanded : (w.ledger steps).map (·.1) = Worker.handed steps :=
    (entries_texts _ _).trans (history_handed held steps)
  have hwritten : texts .written (w.ledger steps) = (w.run steps).written := by
    rw [ledger, (kept steps).texts_eq rfl (by simp), texts_tried, (kept steps).written]
    simp
  have hframed : Framed w.sink w.written [] [] := by
    rw [hstart]
    exact .unused closed unused
  have hmoves : ∀ (more : List Step) (i : Nat) (raw : String) (now : Fate),
      (w.ledger steps)[i]? = some (raw, now) → ∃ later,
        (w.ledger (steps ++ more))[i]? = some (raw, later) ∧
        Relation.ReflTransGen Fate.Next now later := by
    intro more i raw now h
    rw [ledger, history_append, run_append]
    exact entries_run (kept steps) more h
  have hdrained (other : ∀ sent, .kill sent ∉ steps) (replies : List Reply)
      (enough : (w.run steps).queue.waiting.length < replies.length) :
      Drained (w.run (steps ++ drain replies)) := by
    rw [run_append]
    exact (kept steps).drained (alive_run alive other) (.inr enough)
  exact
    { handed := hhanded
      queued := by
        rw [ledger, (kept steps).texts_eq rfl (by simp), texts_tried_open rfl]
        simp
      writing := by
        rw [ledger, (kept steps).texts_eq rfl (by simp), texts_tried_open rfl]
        simp
      written := hwritten
      carried := framed_run steps hframed
      refused := (kept steps).refusals_eq
      failed := (kept steps).failures_eq
      lost := by
        intro hlost
        by_contra other
        exact hlost ((kept steps).texts_lost (alive_run alive (not_exists.1 other)))
      inSendOrder := by
        rw [← hwritten, ← hhanded]
        exact List.filter_sublist.map _
      bounded := (kept steps).capacity ▸ (w.run steps).queue.fits
      warned := by
        rw [← w.addr_run steps]
        exact (kept steps).warned_once
      moves := hmoves
      settled := by
        rintro more i ⟨raw, now⟩ h settled
        obtain ⟨later, hlater, hmove⟩ := hmoves more i raw now h
        rw [hlater, Fate.eq_of_isSettled settled hmove]
      inOrder := (kept steps).inOrder
      stopped := by
        intro hstopped
        obtain ⟨hsenders, hempty⟩ := (kept steps).ended hstopped
        rw [senders_run held] at hsenders
        refine ⟨by_contra fun h => by simp [h] at hsenders, ?_⟩
        exact (kept steps).settled (by simp [hstopped]) (by simp [inHand, hstopped]) hempty
      drained := by
        intro other replies enough
        have hdone := hdrained other replies enough
        refine ⟨(kept _).settled hdone.alive hdone.idle hdone.empty, fun hreleased => ?_⟩
        apply hdone.stopped
        rw [senders_run held, if_pos (List.mem_append_left _ hreleased)] }

/-- Whatever is sent, and however the network answers, every message is accounted for. A queue with
room for at least one message can be made up to the greatest capacity. -/
theorem messages_accounted (transport : Network.Transport) (addr : String)
    (limitMs capacity : Nat) (positive : 1 ≤ capacity) :
    (Queue.maxCapacity < capacity ∧
      create { transport, addr, limitMs } capacity = .error .tooLarge) ∨
      ∃ w, create { transport, addr, limitMs } capacity = .ok w ∧
        ∀ steps, Accounted capacity w steps := by
  by_cases h : Queue.maxCapacity < capacity
  · left
    refine ⟨h, ?_⟩
    simp [create, Queue.create, Queue.capacityError?, h, Nat.ne_of_gt positive]
  · right
    cases made : create { transport, addr, limitMs } capacity with
    | ok w => exact ⟨w, rfl, accounted rfl rfl made⟩
    | error e => simp [create, Queue.create, Queue.capacityError?, h, Nat.ne_of_gt positive] at made

/-- One message breaks off, one waits for it, one finds the queue full; then the handle is
dropped. -/
def stalledSteps : List Step :=
  [.send "a", .take, .send "b", .send "c", .write { broken := some (1, .timedOut 500) }, .release,
    .take, .write {}, .take]

theorem messages_accounted_stalled : ∃ w,
    create { transport := .tcp, addr := "", limitMs := 500 } 1 = .ok w ∧
    Accounted 1 w stalledSteps ∧ w.ledger stalledSteps =
      [("a", .failed (.timedOut 500)), ("b", .written), ("c", .refused .full)] ∧
    (w.run stalledSteps).sink.former = [[97], [98, 10]] ∧
    (w.run stalledSteps).warnings = [.dropped "" .full, .forwardFailed "" (.timedOut 500)] ∧
    (w.run stalledSteps).phase = .stopped := by
  obtain ⟨h, -⟩ | ⟨w, made, all⟩ := messages_accounted .tcp "" 500 1 (by decide)
  · exact absurd h (by decide)
  · have hstart := create_eq_ok made
    refine ⟨w, made, all stalledSteps, ?_⟩
    subst hstart
    decide

end Worker
end ActivityRelay.Control
