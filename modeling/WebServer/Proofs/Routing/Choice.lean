import Mathlib.Data.List.Induction
import WebServer.Proofs.Stream.Calm

/-!
# The route that answers

The table of routes is told by the calls that made it: each call registers a route or takes one
away, and each route in the table remembers the call that registered it. Of the routes that take a
request, the best is the one that captures least of the path, and among equals the one that was
registered first (`Foremost`). A request goes to that route and to no other (`routed_to_foremost`),
whatever its handler makes of it. What the handler does to the table counts only afterwards.
-/
namespace WebServer

open Http (Failure Method Request Response)

namespace Dispatcher

variable {κ γ ρ : Type}

/-- A call that changes the table of routes. -/
inductive Registration (κ : Type) where
  | add (route : Route κ)
  | remove (key : Nat)

def register (d : Dispatcher κ γ ρ) : Registration κ → Dispatcher κ γ ρ
  | .add route => d.addRoute route
  | .remove key => d.removeRoute key

/-- A route in the table, with the number of the call that registered it. -/
structure Entry (κ : Type) where
  turn : Nat
  route : Route κ

/-- What a call does to the entries. A route that is taken away is the first one with its key. -/
def enter (entries : List (Entry κ)) (call : Registration κ × Nat) : List (Entry κ) :=
  match call with
  | (.add route, turn) => entries ++ [⟨turn, route⟩]
  | (.remove key, _) => entries.eraseP (·.route.key == key)

/-- The entries behind some calls, the first one first. -/
def entries (calls : List (Registration κ)) : List (Entry κ) := calls.zipIdx.foldl enter []

theorem entries_concat (calls : List (Registration κ)) (call : Registration κ) :
    entries (calls ++ [call]) = enter (entries calls) (call, calls.length) := by
  simp [entries, List.zipIdx_append]

/-- Entries come from calls that registered them, and stand in the order of these calls. -/
structure Ordered (calls : List (Registration κ)) (entries : List (Entry κ)) : Prop where
  registered : ∀ entry ∈ entries, calls[entry.turn]? = some (.add entry.route)
  ascending : entries.Pairwise fun entry later => entry.turn < later.turn

theorem Ordered.sublist {calls : List (Registration κ)} {entries fewer : List (Entry κ)}
    (h : Ordered calls entries) (left : fewer.Sublist entries) : Ordered calls fewer :=
  ⟨fun entry member => h.registered entry (left.subset member), h.ascending.sublist left⟩

theorem Ordered.turn_lt {calls : List (Registration κ)} {entries : List (Entry κ)}
    (h : Ordered calls entries) {entry : Entry κ} (member : entry ∈ entries) :
    entry.turn < calls.length :=
  (List.getElem?_eq_some_iff.1 (h.registered entry member)).1

theorem Ordered.more {calls : List (Registration κ)} {entries : List (Entry κ)}
    (h : Ordered calls entries) (call : Registration κ) : Ordered (calls ++ [call]) entries := by
  refine ⟨fun entry member => ?_, h.ascending⟩
  rw [List.getElem?_append_left (h.turn_lt member)]
  exact h.registered entry member

theorem ordered_entries (calls : List (Registration κ)) : Ordered calls (entries calls) := by
  induction calls using List.reverseRecOn with
  | nil => exact ⟨nofun, .nil⟩
  | append_singleton calls call ih =>
    rw [entries_concat]
    cases call with
    | remove key => exact (ih.more _).sublist List.eraseP_sublist
    | add route =>
      constructor
      · intro entry member
        rcases List.mem_append.1 member with earlier | last
        · exact (ih.more _).registered entry earlier
        · rw [List.mem_singleton.1 last]
          simp
      · refine List.pairwise_append.2 ⟨ih.ascending, List.pairwise_singleton _ _, ?_⟩
        intro entry earlier last member
        rw [List.mem_singleton.1 member]
        exact ih.turn_lt earlier

theorem routes_register (d : Dispatcher κ γ ρ) (entries : List (Entry κ))
    (same : d.routes = entries.map (·.route)) (call : Registration κ) (turn : Nat) :
    (d.register call).routes = (enter entries (call, turn)).map (·.route) := by
  cases call with
  | add route => simp [register, addRoute, enter, same]
  | remove key =>
    simp only [register, removeRoute, enter, same, List.eraseP_map]
    rfl

/-- Calls one after another do to the table what they do to the entries. -/
theorem routes_foldl_register (d : Dispatcher κ γ ρ) (calls made : List (Registration κ))
    (same : d.routes = (entries calls).map (·.route)) :
    (made.foldl register d).routes = (entries (calls ++ made)).map (·.route) := by
  induction made generalizing d calls with
  | nil => simpa using same
  | cons call made ih =>
    have next : (d.register call).routes = (entries (calls ++ [call])).map (·.route) := by
      rw [entries_concat]
      exact routes_register d _ same call _
    have further := ih (d.register call) (calls ++ [call]) next
    rwa [List.append_assoc] at further

/-- The route of an entry takes requests with that method and path, and captures that of the
path. -/
def Entry.Takes (entry : Entry κ) (method : Method) (path : String) (captures : Captures) : Prop :=
  entry.route.captures? path = some captures ∧
    (entry.route.methods = [] ∨ method ∈ entry.route.methods)

/-- An entry that takes the request, and no other that does comes before it: every other has a
lower score, or the same score and a later turn. -/
structure Foremost (entries : List (Entry κ)) (method : Method) (path : String) (entry : Entry κ)
    (captures : Captures) : Prop where
  member : entry ∈ entries
  takes : entry.Takes method path captures
  first : ∀ other ∈ entries, ∀ captured, other.Takes method path captured →
    score path captured < score path captures ∨
      score path captured = score path captures ∧ entry.turn ≤ other.turn

theorem allows_iff {route : Route κ} {method : Method} :
    route.allows method = true ↔ route.methods = [] ∨ method ∈ route.methods := by
  simp [Route.allows]

/-- The candidate that an entry is for a method and a path, if its route takes them. -/
def Entry.candidate? (method : Method) (path : String) (entry : Entry κ) :
    Option (Candidate κ) :=
  if entry.route.allows method then
    (entry.route.captures? path).map fun captures =>
      ⟨entry.route, captures, WebServer.score path captures⟩
  else none

theorem Entry.candidate?_eq_some_iff {method : Method} {path : String} {entry : Entry κ}
    {candidate : Candidate κ} :
    entry.candidate? method path = some candidate ↔
      ∃ captures, entry.Takes method path captures ∧
        candidate = ⟨entry.route, captures, WebServer.score path captures⟩ := by
  unfold candidate? Takes
  rw [← allows_iff]
  split
  · rename_i allowed
    rw [Option.map_eq_some_iff]
    simp only [allowed, and_true, eq_comm (a := candidate)]
  · rename_i refused
    simp [refused]

/-- Finding the routes that match and then those that allow the method is going through the entries
once. -/
theorem filter_matching (entries : List (Entry κ)) (method : Method) (path : String) :
    (matching (entries.map (·.route)) path).filter (fun c => c.route.allows method) =
      entries.filterMap (Entry.candidate? method path) := by
  unfold matching
  rw [List.filterMap_map, List.filter_filterMap]
  refine congrArg (List.filterMap · entries) (funext fun entry => ?_)
  simp only [Function.comp_apply, Entry.candidate?]
  cases entry.route.captures? path with
  | none => simp
  | some captures => rfl

theorem best?_concat (candidates : List (Candidate κ)) (next : Candidate κ) :
    best? (candidates ++ [next]) =
      match best? candidates with
      | none => some next
      | some top => if top.score < next.score then some next else some top := by
  unfold best?
  rw [List.foldl_append]
  rfl

/-- The running maximum is the first candidate of the greatest score. -/
theorem best?_spec (candidates : List (Candidate κ)) :
    match best? candidates with
    | none => candidates = []
    | some top => ∃ before behind, candidates = before ++ top :: behind ∧
        (∀ c ∈ before, c.score < top.score) ∧ ∀ c ∈ behind, c.score ≤ top.score := by
  induction candidates using List.reverseRecOn with
  | nil => rfl
  | append_singleton candidates next ih =>
    rw [best?_concat]
    cases best : best? candidates with
    | none =>
      rw [best] at ih
      exact ⟨[], [], by rw [ih], nofun, nofun⟩
    | some top =>
      rw [best] at ih
      obtain ⟨before, behind, rfl, lower, notHigher⟩ := ih
      by_cases higher : top.score < next.score
      · simp only [if_pos higher]
        refine ⟨before ++ top :: behind, [], rfl, ?_, nofun⟩
        intro c member
        rcases List.mem_append.1 member with earlier | member
        · exact Int.lt_trans (lower c earlier) higher
        · rcases List.mem_cons.1 member with rfl | later
          · exact higher
          · exact Int.lt_of_le_of_lt (notHigher c later) higher
      · simp only [if_neg higher]
        refine ⟨before, behind ++ [next], by simp, lower, ?_⟩
        intro c member
        rcases List.mem_append.1 member with earlier | last
        · exact notHigher c earlier
        · rw [List.mem_singleton.1 last]
          exact Int.not_lt.1 higher

theorem Entry.Takes.candidate?_eq {method : Method} {path : String} {entry : Entry κ}
    {captures : Captures} (takes : entry.Takes method path captures) :
    entry.candidate? method path =
      some ⟨entry.route, captures, WebServer.score path captures⟩ :=
  candidate?_eq_some_iff.2 ⟨captures, takes, rfl⟩

/-- Among candidates in the order of their entries, the best one is that of the foremost entry. -/
theorem foremost_of_best? {calls : List (Registration κ)} {entries : List (Entry κ)}
    (ordered : Ordered calls entries) {method : Method} {path : String} {candidate : Candidate κ}
    (best : best? (entries.filterMap (Entry.candidate? method path)) = some candidate) :
    ∃ entry captures, Foremost entries method path entry captures ∧
      candidate = ⟨entry.route, captures, WebServer.score path captures⟩ := by
  have spec := best?_spec (entries.filterMap (Entry.candidate? method path))
  rw [best] at spec
  obtain ⟨before, behind, whole, lower, notHigher⟩ := spec
  obtain ⟨front, back, rfl, fromFront, fromBack⟩ := List.filterMap_eq_append_iff.1 whole
  obtain ⟨idle, entry, rest, rfl, skipped, taken, fromRest⟩ :=
    List.filterMap_eq_cons_iff.1 fromBack
  obtain ⟨captures, takes, rfl⟩ := Entry.candidate?_eq_some_iff.1 taken
  refine ⟨entry, captures, ⟨by simp, takes, ?_⟩, rfl⟩
  intro other member captured takesToo
  -- The other entry stands before the best one, with a lower score or as no candidate, or it is the
  -- best one, or it stands behind, with no higher score and a later turn.
  rcases List.mem_append.1 member with earlier | member
  · have among := List.mem_filterMap.2 ⟨other, earlier, takesToo.candidate?_eq⟩
    rw [fromFront] at among
    exact .inl (lower _ among)
  · rcases List.mem_append.1 member with between | member
    · have none := skipped other between
      rw [takesToo.candidate?_eq] at none
      cases none
    · rcases List.mem_cons.1 member with rfl | later
      · obtain rfl := Option.some.inj (takes.1.symm.trans takesToo.1)
        exact .inr ⟨rfl, Nat.le_refl _⟩
      · have among := List.mem_filterMap.2 ⟨other, later, takesToo.candidate?_eq⟩
        rw [fromRest] at among
        have turns : entry.turn < other.turn := by
          have ascending := ordered.ascending
          simp only [List.pairwise_append, List.pairwise_cons] at ascending
          exact ascending.2.1.2.1.1 other later
        rcases Int.lt_or_eq_of_le (notHigher _ among) with less | same
        · exact .inl less
        · exact .inr ⟨same, Nat.le_of_lt turns⟩

/-- Without a best candidate no entry takes the request. -/
theorem not_takes_of_best? {entries : List (Entry κ)} {method : Method} {path : String}
    (best : best? (entries.filterMap (Entry.candidate? method path)) = none) {entry : Entry κ}
    (member : entry ∈ entries) (captures : Captures) : ¬ entry.Takes method path captures := by
  intro takes
  have spec := best?_spec (entries.filterMap (Entry.candidate? method path))
  rw [best] at spec
  have unfound := List.filterMap_eq_nil_iff.1 spec entry member
  rw [takes.candidate?_eq] at unfound
  cases unfound

/-- What is chosen of ordered entries is the foremost, if there is one that takes the request. -/
theorem choose_spec {calls : List (Registration κ)} {entries : List (Entry κ)}
    (ordered : Ordered calls entries) (method : Method) (path : String) :
    match choose (entries.map (·.route)) method path with
    | .ok candidate => ∃ entry captures, Foremost entries method path entry captures ∧
        candidate = ⟨entry.route, captures, WebServer.score path captures⟩
    | .error fault => (∀ entry ∈ entries, ∀ captures, ¬ entry.Takes method path captures) ∧
        ((∀ entry ∈ entries, entry.route.captures? path = none) ∧ fault = .noRoute path ∨
          (∃ entry ∈ entries, entry.route.captures? path ≠ none) ∧
            fault = .methodNotAllowed method path) := by
  unfold choose
  simp only
  rw [filter_matching]
  cases best : best? (entries.filterMap (Entry.candidate? method path)) with
  | some candidate => exact foremost_of_best? ordered best
  | none =>
    have refused : ∀ entry ∈ entries, ∀ captures, ¬ entry.Takes method path captures :=
      fun entry member => not_takes_of_best? best member
    have empty : (matching (entries.map (·.route)) path).isEmpty = true ↔
        ∀ entry ∈ entries, entry.route.captures? path = none := by
      simp [matching, List.filterMap_eq_nil_iff]
    by_cases unmatched : ∀ entry ∈ entries, entry.route.captures? path = none
    · rw [if_pos (empty.2 unmatched)]
      exact ⟨refused, .inl ⟨unmatched, rfl⟩⟩
    · rw [if_neg (fun isEmpty => unmatched (empty.1 isEmpty))]
      refine ⟨refused, .inr ⟨?_, rfl⟩⟩
      simpa using unmatched

end Dispatcher

open Dispatcher (Entry Foremost Registration entries)

variable {app : App}

/-- The tables of an application whose routes come from these calls, in their order. Some were made
from outside, others by handlers while they answered requests. -/
inductive App.Tables.Reached : List (Registration app.Endpoint) → app.Tables → Prop where
  | empty {tables : app.Tables} (none : tables.routes = []) : Reached [] tables
  | call {calls : List (Registration app.Endpoint)} {tables : app.Tables}
    (before : Reached calls tables) (call : Registration app.Endpoint) :
    Reached (calls ++ [call]) (tables.register call)
  /-- A request is routed, and its handler makes some calls. -/
  | request {calls made : List (Registration app.Endpoint)} {tables : app.Tables}
    (before : Reached calls tables) (request : Request)
    (edits : (App.tryRoute tables request).tables.routes =
      (made.foldl Dispatcher.register tables).routes) :
    Reached (calls ++ made) (App.tryRoute tables request).tables
  /-- The other tables change. -/
  | beside {calls : List (Registration app.Endpoint)} {tables tables' : app.Tables}
    (before : Reached calls tables) (same : tables'.routes = tables.routes) :
    Reached calls tables'

namespace App

theorem Tables.Reached.routes_eq {calls : List (Registration app.Endpoint)} {tables : app.Tables}
    (h : Tables.Reached calls tables) : tables.routes = (entries calls).map (·.route) := by
  induction h with
  | empty none => exact none
  | call before call ih => exact Dispatcher.routes_foldl_register _ _ [call] ih
  | request before request edits ih =>
    rw [edits]
    exact Dispatcher.routes_foldl_register _ _ _ ih
  | beside before same ih => exact same.trans ih

/-- What a handler comes to, and with what the request is answered then. -/
inductive Comes (path : String) : Verdict → Except Failure Response → Prop where
  | responds (response : Response) : Comes path (.respond response) (.ok response)
  | declines {failure : Failure} (status : failure.status = 404)
    (message : failure.message = s!"no response for {path}") :
    Comes path .decline (.error failure)
  | fails (failure : Failure) : Comes path (.fail failure) (.error failure)
  | panics {failure : Failure} (status : failure.status = 500)
    (message : failure.message = "handler panicked") : Comes path .panic (.error failure)

/-- Where a request goes that meets tables with these entries, and what comes of it. -/
inductive Routed (entries : List (Entry app.Endpoint)) (tables : app.Tables) (request : Request)
    (tried : Dispatched app (Except Failure Response)) : Prop where
  /-- No route matches the path. -/
  | unmatched {failure : Failure}
    (none : ∀ entry ∈ entries, entry.route.captures? request.path = none)
    (uncalled : tried = ⟨.error failure, tables, []⟩) (status : failure.status = 404)
    (message : failure.message = s!"no route for {request.path}")
  /-- Some routes match the path, and none of them allows the method. -/
  | unallowed {failure : Failure}
    (some : ∃ entry ∈ entries, entry.route.captures? request.path ≠ none)
    (none : ∀ entry ∈ entries, ∀ captures, ¬ entry.Takes request.method request.path captures)
    (uncalled : tried = ⟨.error failure, tables, []⟩) (status : failure.status = 405)
    (message : failure.message = s!"{request.method.name} is not allowed on {request.path}")
  /-- The handler of the foremost route is called, and no other. What it does to the tables counts
  from then on. -/
  | called {entry : Entry app.Endpoint} {captures : Captures}
    {reply : Reply app.Event app.Tables Verdict}
    (foremost : Foremost entries request.method request.path entry captures)
    (replies : app.call entry.route.endpoint request captures = reply)
    (tables_eq : tried.tables = reply.edit tables)
    (signals_eq : tried.signals =
      .handled entry.route.key request captures :: reply.notes.map .note)
    (comes : Comes request.path reply.verdict tried.result)

/-- The page for a failure: that of the application, or the plain one if there is none or if it
panics. -/
inductive PageFor (tables : app.Tables) (failure : Failure) : Response → Prop where
  | own {page : app.Page} {response : Response} (installed : tables.errorPage = some page)
    (made : app.page page failure.status failure.message = some response) :
    PageFor tables failure response
  | plain (none : ∀ page, tables.errorPage = some page →
      app.page page failure.status failure.message = none) :
    PageFor tables failure (Dispatcher.plainPage failure.status failure.message)

/-- A request is answered with the response of its handler, or with the page for its failure. -/
inductive AnsweredBy (tables : app.Tables) : Except Failure Response → Response → Prop where
  | response (response : Response) : AnsweredBy tables (.ok response) response
  | page {failure : Failure} {response : Response} (page : PageFor tables failure response) :
    AnsweredBy tables (.error failure) response

theorem pageFor_errorFor (tables : app.Tables) (failure : Failure) :
    PageFor tables failure (errorFor tables failure) := by
  unfold errorFor errorResponse
  cases installed : tables.errorPage with
  | none => exact .plain (by simp [installed])
  | some page =>
    cases made : app.page page failure.status failure.message with
    | none =>
      simp only [Option.bind_some, made]
      refine .plain fun other same => ?_
      rw [installed] at same
      rwa [← Option.some.inj same]
    | some response =>
      simp only [Option.bind_some, made]
      exact .own installed made

theorem comes_result (path : String) (verdict : Verdict) :
    Comes path verdict (Verdict.result path verdict) := by
  cases verdict with
  | respond response => exact .responds response
  | decline => exact @Comes.declines path (.routing (.declined path)) rfl rfl
  | fail failure => exact .fails failure
  | panic => exact @Comes.panics path (.routing .handlerPanicked) rfl rfl

/-- Whatever calls the routes come from, each request is routed by the routes that are there when it
comes. It goes to the handler of the foremost one that matches its path and allows its method, and
to no other; if there is none, to no handler at all. And whatever becomes of it, there is a
response. -/
theorem routed_to_foremost {calls : List (Registration app.Endpoint)} {tables : app.Tables}
    (reached : Tables.Reached calls tables) (request : Request) :
    Dispatcher.Ordered calls (entries calls) ∧
      Routed (entries calls) tables request (tryRoute tables request) ∧
      AnsweredBy (tryRoute tables request).tables (tryRoute tables request).result
        (route tables request).result ∧
      (route tables request).tables = (tryRoute tables request).tables ∧
      (route tables request).signals = (tryRoute tables request).signals := by
  have ordered := Dispatcher.ordered_entries calls
  have routes := reached.routes_eq
  refine ⟨ordered, ?_, ?_⟩
  · have spec := Dispatcher.choose_spec ordered request.method request.path
    rw [← routes] at spec
    unfold tryRoute
    cases chosen : Dispatcher.choose tables.routes request.method request.path with
    | error fault =>
      rw [chosen] at spec
      obtain ⟨none, ⟨unmatched, rfl⟩ | ⟨matched, rfl⟩⟩ := spec
      · exact .unmatched unmatched rfl rfl rfl
      · exact .unallowed matched none rfl rfl rfl
    | ok candidate =>
      rw [chosen] at spec
      obtain ⟨entry, captures, foremost, rfl⟩ := spec
      exact .called foremost rfl rfl rfl (comes_result _ _)
  · unfold route
    simp only
    cases (tryRoute tables request).result with
    | ok response => exact ⟨.response response, rfl, rfl⟩
    | error failure => exact ⟨.page (pageFor_errorFor _ failure), rfl, rfl⟩

/-- Of two routes for one path that capture nothing the one that was registered first answers. A
route that captures a part of the path was there before both. -/
theorem literal_before_captured :
    let only (path : String) (captures : Captures) (given : String) : Option Captures :=
      if given = path then some captures else none
    let user : Route Unit := ⟨0, "/user/(.*)", only "/user/admin" [some "admin"], [], ()⟩
    let admin : Route Unit := ⟨1, "/user/admin", only "/user/admin" [], [.get], ()⟩
    let again : Route Unit := ⟨2, "/user/admin", only "/user/admin" [], [.get], ()⟩
    let app : App :=
      { bareApp with call := fun _ _ _ => { edit := (·.removeRoute 1), verdict := .decline } }
    let calls : List (Registration app.Endpoint) := [.add user, .add admin, .add again]
    let tables : app.Tables := { routes := [user, admin, again] }
    let request : Request :=
      { method := .get, url := "/user/admin", path := "/user/admin", query := none,
        version := .http11, headers := {}, args := {}, cookies := {} }
    Tables.Reached calls tables ∧
      Routed (entries calls) tables request (tryRoute tables request) ∧
      (tryRoute tables request).signals = [.handled 1 request []] ∧
      Tables.Reached (calls ++ [.remove 1]) (tryRoute tables request).tables := by
  intro only user admin again app calls tables request
  have empty : Tables.Reached [] ({} : app.Tables) := .empty rfl
  have reached : Tables.Reached calls tables :=
    ((empty.call (.add user)).call (.add admin)).call (.add again)
  exact ⟨reached, (routed_to_foremost reached request).2.1, rfl, reached.request request rfl⟩

end App
end WebServer
