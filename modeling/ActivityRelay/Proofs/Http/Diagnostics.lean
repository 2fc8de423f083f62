import ActivityRelay.Proofs.Http.Report
import ActivityRelay.Proofs.Json.Document
import ActivityRelay.Proofs.Registry.Age
import ActivityRelay.Proofs.Relay.Log
import ActivityRelay.Proofs.Task.Status
import ActivityRelay.Proofs.Text.Decimal

/-! The report as a document: its reader learns the activity, how many viewers are registered, and
who they are in the order in which their connections were made. -/
namespace ActivityRelay

namespace Json
open Text

theorem integerDigits_decimal (n : Nat) : IntegerDigits (decimal n) := by
  by_cases h : n = 0
  · subst h
    exact .inl (by rw [decimal]; rfl)
  · exact .inr ⟨⟨decimal_ne_nil n, decimal_all_digits n⟩, head?_decimal h⟩

namespace Document

theorem isToken_decimal (n : Nat) : IsToken (decimal n) := by
  have h : Unsigned (decimal n ++ ([] ++ [])) := .parts (integerDigits_decimal n) .none .none
  rw [List.append_nil, List.append_nil] at h
  exact isToken_of_unsigned h

/-- The document that a body denotes. -/
def ofBytes? (body : List UInt8) : Option Document := (Utf8.decode? body).bind (read? ·.toList)

theorem ofBytes?_encode {d : Document} (h : Valid d) :
    ofBytes? (Utf8.encode (String.ofList d.write)) = some d := by
  rw [ofBytes?, Utf8.decode?_encode, Option.bind_some, String.toList_ofList, read?_write h]

end Document
end Json

namespace Http
open Text Json

def timeKey : List Char := "connected_since".toList

def viewerDocument (c : Connection) : Document :=
  .object [("id".toList, .text c.id.chars), (timeKey, .token (decimal c.since))]

/-- What a report says of an activity and of connections in some order. -/
def statusDocument (activity : String) (cs : List Connection) : Document :=
  .object [("activity".toList, .text activity.toList),
    ("connections".toList, .token (decimal cs.length)),
    ("viewers".toList, .array (cs.map viewerDocument))]

theorem valid_viewerDocument (c : Connection) : (viewerDocument c).Valid :=
  .object (by simpa using ⟨.text _, .token (Document.isToken_decimal _)⟩)

theorem valid_statusDocument (activity : String) (cs : List Connection) :
    (statusDocument activity cs).Valid := by
  have hviewers : ∀ d ∈ cs.map viewerDocument, d.Valid := by
    intro d hd
    obtain ⟨c, -, rfl⟩ := List.mem_map.1 hd
    exact valid_viewerDocument c
  exact .object (by simpa using ⟨.text _, .token (Document.isToken_decimal _), .array hviewers⟩)

/-- The status of a relay whose connections are gone through in a given order. -/
def ActivityStatus.listing (activity : String) (order : List Connection) : ActivityStatus :=
  ⟨activity, (Registry.oldestFirst order).map fun c => ⟨c.id, c.since⟩⟩

theorem ActivityStatus.of_eq_listing (r : Relay) :
    ActivityStatus.of r = listing r.activity r.registry.connections := rfl

theorem commaSeparated_map_write (ds : List Document) :
    commaSeparated (ds.map Document.write) = Document.writeItems ds := by
  induction ds with
  | nil => rfl
  | cons d ds ih =>
    cases ds with
    | nil => rfl
    | cons e ds => simpa [commaSeparated, Document.writeItems] using ih

theorem json_viewerStatus (c : Connection) :
    (ViewerStatus.mk c.id c.since).json = (viewerDocument c).write := by
  rw [viewerDocument, Document.write, Document.writeMembers, Document.writeMembers, Document.write,
    Document.write]
  simp only [ViewerStatus.json, member, List.append_assoc, List.cons_append, List.nil_append]
  rfl

theorem json_viewers (cs : List Connection) :
    commaSeparated ((cs.map fun c => ViewerStatus.mk c.id c.since).map ViewerStatus.json) =
      Document.writeItems (cs.map viewerDocument) := by
  rw [← commaSeparated_map_write, List.map_map, List.map_map]
  exact congrArg commaSeparated (List.map_congr_left fun c _ => json_viewerStatus c)

theorem json_listing (activity : String) (order : List Connection) :
    (ActivityStatus.listing activity order).json =
      (statusDocument activity (Registry.oldestFirst order)).write := by
  simp only [ActivityStatus.json, ActivityStatus.listing, json_viewers, statusDocument, member,
    Document.write, Document.writeMembers, List.length_map, List.append_assoc, List.cons_append,
    List.nil_append]

/-- The request that the report answers. -/
structure Request.AsksStatus (req : Request) : Prop where
  method : req.method = "GET"
  path : req.target.path = "/api/activity".toList

theorem decoded?_status (gzip : Coder) (r : Relay) (site : Site) {req : Request}
    (h : req.AsksStatus) : (respond r site req gzip).decoded? gzip = some (Utf8.encode
      (String.ofList (ActivityStatus.listing r.activity r.registry.connections).json)) := by
  rw [decoded?_respond gzip r site h.path h.method, ActivityStatus.of_eq_listing]

/-- The document that a reader gets to see who undoes the coding of the body. -/
def Response.document? (gzip : Coder) (response : Response) : Option Document :=
  (response.decoded? gzip).bind Document.ofBytes?

theorem document?_respond (gzip : Coder) (r : Relay) (site : Site) {req : Request}
    (h : req.AsksStatus) : (respond r site req gzip).document? gzip =
      some (statusDocument r.activity r.registry.byAge) := by
  rw [Response.document?, decoded?_status gzip r site h, Option.bind_some, json_listing]
  exact Document.ofBytes?_encode (valid_statusDocument _ _)

/-- But for the times, a report tells the activity and the ids, and nothing else tells them. -/
theorem blank_statusDocument_inj {activity other : String} {cs ds : List Connection}
    (h : (statusDocument activity cs).blank timeKey = (statusDocument other ds).blank timeKey) :
    activity = other ∧ cs.map (·.id) = ds.map (·.id) := by
  have hviewer : (fun c => (viewerDocument c).blank timeKey) =
      (fun id : ClientId => Document.object
        [("id".toList, .text id.chars), (timeKey, .object [])]) ∘ (·.id) := by
    funext c
    have hid : "id".toList ≠ timeKey := by decide
    simp only [viewerDocument, Document.blank, Document.blankMembers, hid, if_false, if_true,
      Function.comp_apply]
  have hinj : Function.Injective fun id : ClientId => Document.object
      [("id".toList, .text id.chars), (timeKey, .object [])] := by
    intro a b hab
    simp only [Document.object.injEq, List.cons.injEq, Prod.mk.injEq, Document.text.injEq] at hab
    exact ClientId.chars_injective hab.1.2
  have hactivity : "activity".toList ≠ timeKey := by decide
  have hconnections : "connections".toList ≠ timeKey := by decide
  have hviewers : "viewers".toList ≠ timeKey := by decide
  simp only [statusDocument, Document.blank, Document.blankMembers, hactivity, hconnections,
    hviewers, if_false, Document.blankItems_eq_map, List.map_map, Function.comp_def,
    Document.object.injEq, List.cons.injEq, Prod.mk.injEq, Document.text.injEq,
    Document.array.injEq, String.toList_inj] at h
  obtain ⟨⟨-, hactivity⟩, -, ⟨-, hviewers⟩, -⟩ := h
  rw [hviewer, ← List.map_map, ← List.map_map] at hviewers
  exact ⟨hactivity, List.map_injective_iff.2 hinj hviewers⟩

theorem mem_viewers_iff {r : Relay} {id : ClientId} : id ∈ r.viewers ↔ id ∈ r.ids := by
  rw [Relay.viewers, (r.registry.perm_byAge.map _).mem_iff, List.mem_map, Relay.ids,
    Registry.mem_ids_iff]

theorem nodup_viewers (r : Relay) : r.viewers.Nodup :=
  (r.registry.perm_byAge.map _).nodup_iff.2 r.registry.nodup_ids

theorem length_byAge (r : Relay) : r.registry.byAge.length = r.ids.card := by
  rw [r.registry.perm_byAge.length_eq, Relay.ids, Registry.card_ids, Registry.size]

/-- Whoever asks for the report, compressed or not, gets a document with the activity, the number of
registered viewers, and each of them once, the one whose connection was made first in front. The
order in which the connections are gone through makes no difference. From two reports that are the
same but for the times one learns of the same activity and of the same viewers in the same order.
All this if no two connections were made at the same time, as is the case when viewers only connect
and leave. While others go on beside it, a report tells of the viewers at its first step and of the
activity at the step for which it has the activity lock. -/
theorem diagnostics_report :
    (∀ (r : Relay) (site : Site) (req : Request) (gzip : Coder), req.AsksStatus →
      (r.registry.connections.map (·.created)).Nodup →
      (respond r site req gzip).document? gzip =
        some (statusDocument r.activity r.registry.byAge) ∧
      r.registry.byAge.length = r.ids.card ∧ r.viewers.Nodup ∧ (∀ id, id ∈ r.viewers ↔ id ∈ r.ids) ∧
      r.registry.byAge.Perm r.registry.connections ∧
      r.registry.byAge.Pairwise (·.created < ·.created) ∧
      ∀ order : List Connection, order.Perm r.registry.connections →
        (respond r site req gzip).decoded? gzip =
          some (Utf8.encode (String.ofList (ActivityStatus.listing r.activity order).json))) ∧
    (∀ (r r' : Relay) (site site' : Site) (req req' : Request) (gzip gzip' : Coder),
      req.AsksStatus → req'.AsksStatus →
      ((respond r site req gzip).document? gzip).map (Document.blank timeKey) =
        ((respond r' site' req' gzip').document? gzip').map (Document.blank timeKey) →
      r.activity = r'.activity ∧ r.viewers = r'.viewers) ∧
    (∀ (r : Relay) (ops : List Operation) (moves : List Move) (t : System),
      r.registry.connections = [] → (∀ op ∈ ops, op.isPublic = true) →
      (System.start r ops).run moves = some t →
      (t.relay.registry.connections.map (·.created)).Nodup) ∧
    ∀ (r : Relay) (ops : List Operation) (moves : List Move) (t : System) (i : Nat)
      (activity : String) (viewers : List ClientId),
      (System.start r ops).run moves = some t →
      t.tasks[i]? = some (.done (.status activity viewers)) →
      System.Reported r ops moves i activity viewers := by
  refine ⟨fun r site req gzip asks hnodup => ?_,
    fun r r' site site' req req' gzip gzip' asks asks' h => ?_,
    fun r ops moves t hempty isPublic h => ?_,
    fun r ops moves t i activity viewers h done => System.reported_of_done h done⟩
  · refine ⟨document?_respond gzip r site asks, length_byAge r, nodup_viewers r,
      fun _ => mem_viewers_iff, r.registry.perm_byAge, Registry.pairwise_oldestFirst hnodup,
      fun order horder => ?_⟩
    rw [decoded?_status gzip r site asks, ActivityStatus.listing, ActivityStatus.listing,
      Registry.oldestFirst_eq_of_perm horder hnodup]
  · rw [document?_respond gzip r site asks, document?_respond gzip' r' site' asks', Option.map_some,
      Option.map_some, Option.some.injEq] at h
    exact blank_statusDocument_inj h
  · have aged : Relay.Aged r := ⟨by simp [hempty], by simp [hempty]⟩
    exact (System.aged_run isPublic aged h).apart

/-- Three connections, with the time of day that the first of them was made at, registered in
another order than they were made in, and the oldest of them for a second time. -/
def reordered (day : Nat) : Relay :=
  ((Relay.fresh "say \"A\"" [1]).acts [.perform (.register ⟨⟨9⟩, 0, 0, day⟩),
    .perform (.register ⟨⟨4⟩, 0, 2, day + 2⟩), .perform (.unregister ⟨9⟩),
    .perform (.register ⟨⟨2⟩, 0, 1, day + 1⟩), .perform (.register ⟨⟨9⟩, 0, 0, day⟩)]).1

/-- A request by someone who reads compressed bodies. -/
def statusRequest : Request where
  method := "GET"
  target := { path := "/api/activity".toList }
  headers := [("accept-encoding", "gzip")]

/-- A viewer comes, and while the report waits for the activity a command is committed. -/
def lateOps : List Operation := [.connect ⟨5⟩ 0, .status, .dispatch ⟨3⟩ "aag n B"]

def lateMoves : List Move := [0, 0, 0, 0, 0, 1, 2, 2, 2, 2, 2, 2, 1, 1, 1].map .task

/-- The report goes by when the connections were made, not by their ids or their registration, and
tells the activity of the moment at which it has the lock. -/
theorem diagnostics_report_reordered :
    let viewer (id : String) (since : String) : Document :=
      .object [("id".toList, .text id.toList), (timeKey, .token since.toList)]
    let document (gzip : Coder) (r : Relay) := (respond r {} statusRequest gzip).document? gzip
    statusRequest.AsksStatus ∧ ((reordered 1700).registry.connections.map (·.created)).Nodup ∧
    (reordered 1700).registry.connections.map (·.id) = [⟨2⟩, ⟨4⟩, ⟨9⟩] ∧
    (reordered 1700).viewers = [⟨9⟩, ⟨2⟩, ⟨4⟩] ∧
    (∀ gzip, document gzip (reordered 1700) = some (.object
      [("activity".toList, .text "say \"A\"".toList), ("connections".toList, .token ['3']),
        ("viewers".toList, .array [viewer "00000000-0000-0000-0000-000000000009" "1700",
          viewer "00000000-0000-0000-0000-000000000002" "1701",
          viewer "00000000-0000-0000-0000-000000000004" "1702"])])) ∧
    (∀ gzip, (document gzip (reordered 1700)).map (Document.blank timeKey) =
      (document .plain (reordered 8)).map (Document.blank timeKey)) ∧
    (reordered 1700).viewers = (reordered 8).viewers ∧
    (∃ t, (System.start (Relay.fresh "A" [1, 1]) [.connect ⟨5⟩ 0, .connect ⟨3⟩ 1]).run
      [.task 1, .task 1, .task 1, .task 1, .task 1, .task 0, .task 0] = some t ∧
      t.relay.registry.connections.map (·.created) = [0, 1] ∧
      (t.relay.registry.connections.map (·.created)).Nodup) ∧
    ∃ t, (System.start (Relay.fresh "A" [4]) lateOps).run lateMoves = some t ∧
      t.tasks[1]? = some (.done (.status "B" [⟨5⟩])) ∧
      System.Reported (Relay.fresh "A" [4]) lateOps lateMoves 1 "B" [⟨5⟩] := by
  intro viewer document
  obtain ⟨report, same, apart, reported⟩ := diagnostics_report
  have asks : statusRequest.AsksStatus := ⟨rfl, rfl⟩
  have hnodup : ((reordered 1700).registry.connections.map (·.created)).Nodup := by decide
  have first (gzip : Coder) := report (reordered 1700) {} statusRequest gzip asks hnodup
  have second := report (reordered 8) {} statusRequest .plain asks (by decide)
  have hage : (reordered 1700).registry.byAge =
      [⟨⟨9⟩, 0, 0, 1700⟩, ⟨⟨2⟩, 0, 1, 1701⟩, ⟨⟨4⟩, 0, 2, 1702⟩] :=
    Registry.oldestFirst_eq_of_pairwise (by decide) (by decide)
  have hage' : (reordered 8).registry.byAge =
      [⟨⟨9⟩, 0, 0, 8⟩, ⟨⟨2⟩, 0, 1, 9⟩, ⟨⟨4⟩, 0, 2, 10⟩] :=
    Registry.oldestFirst_eq_of_pairwise (by decide) (by decide)
  have hblank (gzip : Coder) : (document gzip (reordered 1700)).map (Document.blank timeKey) =
      (document .plain (reordered 8)).map (Document.blank timeKey) := by
    change Option.map _ (Response.document? gzip _) = Option.map _ (Response.document? .plain _)
    rw [(first gzip).1, second.1, hage, hage']
    simp only [statusDocument, viewerDocument, decimal_eq_toDigits, List.map_cons, List.map_nil]
    rfl
  obtain ⟨t, ht⟩ : ∃ t, (System.start (Relay.fresh "A" [1, 1])
    [.connect ⟨5⟩ 0, .connect ⟨3⟩ 1]).run
      [.task 1, .task 1, .task 1, .task 1, .task 1, .task 0, .task 0] = some t := ⟨_, rfl⟩
  obtain ⟨u, hu⟩ : ∃ u, (System.start (Relay.fresh "A" [4]) lateOps).run lateMoves = some u :=
    ⟨_, rfl⟩
  have lone : Registry.oldestFirst [⟨⟨5⟩, 0, 0, 0⟩] = [⟨⟨5⟩, 0, 0, 0⟩] := List.mergeSort_singleton _
  have told : u.tasks[1]? = some (.done (.status "B" [⟨5⟩])) := by
    have looked : u.tasks[1]? = some (.done (.status "B"
      ((Registry.oldestFirst [⟨⟨5⟩, 0, 0, 0⟩]).map (·.id)))) := by cases hu; rfl
    rw [looked, lone]
    rfl
  refine ⟨asks, hnodup, by decide, by rw [Relay.viewers, hage]; rfl, fun gzip => ?_, hblank,
    (same _ _ _ _ _ _ _ _ asks asks (hblank .plain)).2,
    ⟨t, ht, by cases ht; decide, apart _ _ _ t rfl (by decide) ht⟩,
    u, hu, told, reported _ _ _ _ _ _ _ hu told⟩
  change Response.document? gzip _ = _
  rw [(first gzip).1, hage]
  simp only [statusDocument, viewerDocument, decimal_eq_toDigits, List.map_cons, List.map_nil]
  rfl

end Http
end ActivityRelay
