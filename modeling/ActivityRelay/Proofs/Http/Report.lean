import ActivityRelay.Http.Router
import ActivityRelay.Proofs.Json.Literal
import ActivityRelay.Proofs.Text.Utf8

/-! The report as its reader gets it: whatever the site and the headers of the request are, the
activity can be read back from the body. -/
namespace ActivityRelay.Http
open Text

/-- The activity that a report tells to its reader. -/
def reported? (body : List UInt8) : Option String := do
  let text ← Utf8.decode? body
  let front := "\x7b\"activity\":\"".toList
  if front.isPrefixOf text.toList then
    match Json.readLiteral (text.toList.drop front.length) with
    | .ok (activity, _) => some (String.ofList activity)
    | .error _ => none
  else none

/-- The report begins with the activity, as a quoted literal. -/
theorem json_begins (s : ActivityStatus) : ∃ rest, s.json =
    "\x7b\"activity\":\"".toList ++ (s.activity.toList.flatMap Json.escape ++ '"' :: rest) := by
  refine ⟨[','] ++ member "connections" (decimal s.viewers.length) ++ [','] ++ member "viewers"
    (['['] ++ commaSeparated (s.viewers.map ViewerStatus.json) ++ [']']) ++ ['\x7d'], ?_⟩
  simp [ActivityStatus.json, member, Json.quote]
  rfl

theorem reported?_json (s : ActivityStatus) :
    reported? (Utf8.encode (String.ofList s.json)) = some s.activity := by
  obtain ⟨rest, hjson⟩ := json_begins s
  have hprefix : "\x7b\"activity\":\"".toList.isPrefixOf s.json = true := by
    rw [hjson, List.isPrefixOf_iff_prefix]
    exact List.prefix_append ..
  simp only [reported?, Utf8.decode?_encode, Option.bind_eq_bind, Option.bind_some,
    String.toList_ofList, hprefix, if_true]
  rw [hjson, List.drop_left, Json.readLiteral_flatMap_escape]
  exact congrArg some String.ofList_toList

theorem first?_with (r : Response) {name other : String} (value : String) (h : name ≠ other) :
    (r.with name value).headers.first? other = r.headers.first? other := by
  have hne : (other == name) = false := by simpa using Ne.symm h
  simp [Response.with, Headers.first?, List.lookup_append, List.lookup_cons, hne]

theorem first?_without (hs : Headers) {name other : String} (h : hs.first? other = none) :
    (hs.without name).first? other = none := by
  rw [Headers.first?, List.lookup_eq_none_iff] at h ⊢
  exact fun p hp => h p (List.mem_filter.1 hp).1

/-- Another header does not change how the body is read. -/
theorem decoded?_with (gzip : Coder) (r : Response) {name : String} (value : String)
    (h : name ≠ "content-encoding") : (r.with name value).decoded? gzip = r.decoded? gzip := by
  rw [Response.decoded?, Response.decoded?, first?_with r value h]
  rfl

theorem decoded?_of_uncoded (gzip : Coder) {r : Response}
    (h : r.headers.first? "content-encoding" = none) : r.decoded? gzip = some r.body := by
  simp [Response.decoded?, h]

/-- Compressed or not, a body is read as it was. -/
theorem decoded?_compress (gzip : Coder) (requested : Headers) {r : Response}
    (h : r.headers.first? "content-encoding" = none) :
    (compress gzip requested r).decoded? gzip = some r.body := by
  have vary : "vary" ≠ "content-encoding" := by decide
  unfold compress
  split
  · dsimp only
    split
    · have hnone : (((r.with "vary" "accept-encoding").headers.without
          "content-length").without "accept-ranges").first? "content-encoding" = none :=
        first?_without _ (first?_without _ ((first?_with r _ vary).trans h))
      have hcoded : ∀ hs : Headers, hs.first? "content-encoding" = none →
          (Headers.first? (hs ++ [("content-encoding", "gzip")]) "content-encoding") =
            some "gzip" := by
        intro hs hn
        rw [Headers.first?] at hn
        simp [Headers.first?, List.lookup_append, hn]
      rw [Response.decoded?, Response.with, hcoded _ hnone, if_pos rfl]
      exact gzip.decode?_encode r.body
    · rw [decoded?_with gzip r _ vary, decoded?_of_uncoded gzip h]
  · exact decoded?_of_uncoded gzip h

theorem decoded?_measured (gzip : Coder) (r : Response) {method : String} (h : method ≠ "HEAD") :
    (r.measured method).decoded? gzip = r.decoded? gzip := by
  unfold Response.measured
  dsimp only
  rw [if_neg h]
  split
  · rfl
  · exact decoded?_with gzip r _ (by decide)

theorem body_measured {r : Response} (method : String) (h : r.body = []) :
    (r.measured method).body = [] := by
  unfold Response.measured
  dsimp only
  split
  · rfl
  · split
    · exact h
    · exact h

/-- The path of the report has a body for who reads it. -/
theorem decoded?_answer (gzip : Coder) (r : Relay) (site : Site) {req : Request}
    (path : req.target.path = "/api/activity".toList) (get : req.method = "GET") :
    (answer gzip r site req).decoded? gzip =
      some (Utf8.encode (String.ofList (ActivityStatus.of r).json)) := by
  have hroute : Route.of req.target.path = .status := by rw [path]; rfl
  have hget : req.method ≠ "HEAD" := by rw [get]; decide
  have hreads : reads req = true := by simp [reads, get]
  have huncoded : (Route.read r site req .status).headers.first? "content-encoding" = none := by
    simp [Route.read, Response.sized, Response.with, Headers.first?, List.lookup_cons]
  have hbody : (Route.read r site req .status).body =
      Utf8.encode (String.ofList (ActivityStatus.of r).json) := by
    simp [Route.read, Response.sized, Response.with]
  simp only [answer, hroute, hreads, hget, reduceCtorEq, if_true, if_false]
  rw [decoded?_compress gzip req.headers huncoded, hbody]

/-- It has none for anybody else. -/
theorem body_answer (gzip : Coder) (r : Relay) (site : Site) {req : Request}
    (path : req.target.path = "/api/activity".toList) (other : req.method ≠ "GET") :
    (answer gzip r site req).body = [] := by
  have hroute : Route.of req.target.path = .status := by rw [path]; rfl
  by_cases head : req.method = "HEAD"
  · simp [answer, hroute, reads, head]
  · simp [answer, hroute, reads, other, head, Response.sized, Response.with]

theorem decoded?_respond (gzip : Coder) (r : Relay) (site : Site) {req : Request}
    (path : req.target.path = "/api/activity".toList) (get : req.method = "GET") :
    (respond r site req gzip).decoded? gzip =
      some (Utf8.encode (String.ofList (ActivityStatus.of r).json)) := by
  have hget : req.method ≠ "OPTIONS" ∧ req.method ≠ "HEAD" := by rw [get]; decide
  have hanswer := decoded?_answer gzip r site path get
  unfold respond
  dsimp only
  rw [if_neg hget.1]
  split
  · rw [decoded?_with _ _ _ (by decide), decoded?_with _ _ _ (by decide), hanswer]
  · rw [decoded?_measured _ _ hget.2, decoded?_with _ _ _ (by decide),
      decoded?_with _ _ _ (by decide), hanswer]

theorem body_respond (gzip : Coder) (r : Relay) (site : Site) {req : Request}
    (path : req.target.path = "/api/activity".toList) (other : req.method ≠ "GET") :
    (respond r site req gzip).body = [] := by
  have hanswer : (if req.method = "OPTIONS" then preflight req
      else answer gzip r site req).body = [] := by
    split
    · rfl
    · exact body_answer gzip r site path other
  unfold respond
  dsimp only
  split
  · exact hanswer
  · exact body_measured _ hanswer

/-- Who reads the report is told the activity. -/
theorem reported?_respond (gzip : Coder) (r : Relay) (site : Site) {req : Request}
    (path : req.target.path = "/api/activity".toList) (get : req.method = "GET") :
    ((respond r site req gzip).decoded? gzip).bind reported? = some r.activity := by
  rw [decoded?_respond gzip r site path get, Option.bind_some]
  exact reported?_json (.of r)

end ActivityRelay.Http
