import ChatQuery.Proofs.Compile.Subscriptions
import ChatQuery.Proofs.Gateway.Requests
import Mathlib.Data.List.DropRight

/-!
Who hears an event. A listener is registered with what is selected at that moment, and hears events
from there, and of the kinds that it wants, until the connection is closed; whatever is selected
later makes no difference to it.
-/
namespace ChatQuery
/-- Going through a list, collecting what is made of the members that pass and counting them. -/
lemma foldl_collect {α β : Type} (passes : α → Bool) (make : α → β) (xs : List α) (done : List β)
    (count : Nat) :
    xs.foldl (fun (done, count) x =>
        if passes x then (done ++ [make x], count + 1) else (done, count)) (done, count) =
      (done ++ (xs.filter passes).map make, count + (xs.filter passes).length) := by
  induction xs generalizing done count with
  | nil => simp
  | cons x xs ih =>
    rw [List.foldl_cons, List.filter_cons]
    split_ifs with hx
    · simp only [ih, List.map_cons, List.length_cons, List.append_assoc, List.singleton_append]
      rw [Nat.add_assoc, Nat.add_comm 1]
    · exact ih done count

namespace Offline

variable {s t : Offline} {e : Event} {r : Request}

/-- An event is handed to all listeners that hear it, and their number is the result. -/
lemma emit_eq (s : Offline) (e : Event) :
    s.emit e = (s.deliveries e, (s.deliveries e).length) := by
  have counted := foldl_collect (fun l => l.1.covers e && l.2.accepts e.name) (·.2.listener)
    s.listeners [] 0
  rw [deliveries, List.length_map]
  rw [List.nil_append, Nat.zero_add] at counted
  exact counted

namespace Visit

/-- The listener that a request registers, if the event is one for it: it wants events of the name,
and the event comes from what was selected when the request was made. -/
def hearer? (v : Visit) (e : Event) : Option Listener :=
  match v.request with
  | .call (.listenClient sub) =>
    if v.succeeds ∧ e.name ∈ sub.events then some sub.listener else none
  | .call (.listenGuild sub) =>
    if v.succeeds ∧ e.name ∈ sub.events ∧ e.guildId = v.met.guild then some sub.listener else none
  | .call (.listenChannel sub) =>
    if v.succeeds ∧ e.name ∈ sub.events ∧ e.channelId = v.met.channel then some sub.listener
    else none
  | _ => none

def closes (v : Visit) : Bool :=
  match v.request with
  | .destroy => true
  | _ => false

end Visit

/-- The requests since the connection was last closed. -/
def sinceClosed (log : List Visit) : List Visit := log.rtakeWhile (!·.closes)

/-- The listeners that were registered since then and that the event is one for, the oldest
first. -/
def heard (log : List Visit) (e : Event) : List Listener :=
  (sinceClosed log).filterMap (·.hearer? e)

lemma sinceClosed_concat (log : List Visit) (v : Visit) :
    sinceClosed (log ++ [v]) = if v.closes then [] else sinceClosed log ++ [v] := by
  unfold sinceClosed
  rw [List.rtakeWhile_concat]
  cases v.closes <;> rfl

lemma selectedGuild?_eq_ok {g : String} (h : s.selectedGuild? = .ok g) : s.guild = some g := by
  unfold selectedGuild? at h
  split at h
  · cases h
  · cases h
  · cases h
    assumption

lemma deliveries_of_listeners (h : t.listeners = s.listeners) (e : Event) :
    t.deliveries e = s.deliveries e := by
  rw [deliveries, h, deliveries]

lemma deliveries_listen (scope : Scope) (sub : Subscription) (s : Offline) (e : Event) :
    (s.listen sub (.ok scope)).2.deliveries e =
      s.deliveries e ++
        if scope.covers e = true ∧ e.name ∈ sub.events then [sub.listener] else [] := by
  simp only [listen, deliveries, List.filter_append, List.map_append, List.filter_cons,
    List.filter_nil, Bool.and_eq_true, Subscription.accepts_iff]
  split_ifs <;> rfl

/-- A call that listens adds its listener exactly to the deliveries of the events that come from
where it listens, if it succeeds. -/
lemma deliveries_listening {c : Call} {sub : Subscription} {scope : Except GatewayError Scope}
    (here : Prop) [Decidable here] (listens : call c s = s.listen sub scope)
    (within : ∀ place, scope = .ok place → (place.covers e = true ↔ here))
    (hears : Visit.hearer? ⟨s, .call c⟩ e =
      if Visit.succeeds ⟨s, .call c⟩ ∧ e.name ∈ sub.events ∧ here then some sub.listener
      else none) :
    (call c s).2.deliveries e = s.deliveries e ++ (Visit.hearer? ⟨s, .call c⟩ e).toList := by
  have succeeds : Visit.succeeds ⟨s, .call c⟩ = (passed (s.listen sub scope).1).isOk := by
    rw [← listens]
    rfl
  rw [hears, succeeds, listens]
  cases scope with
  | error d => simp [listen, passed, Except.map, Except.isOk, Except.toBool]
  | ok place =>
    have answered : (passed (s.listen sub (.ok place)).1).isOk = true := rfl
    have covers := within place rfl
    rw [deliveries_listen, answered]
    by_cases hname : e.name ∈ sub.events <;> by_cases hhere : here <;> simp [hname, hhere, covers]

lemma deliveries_call (c : Call) (s : Offline) (e : Event) :
    (call c s).2.deliveries e = s.deliveries e ++ (Visit.hearer? ⟨s, .call c⟩ e).toList := by
  cases c with
  | listenClient sub =>
    refine deliveries_listening True rfl ?_ (by simp [Visit.hearer?])
    intro place hplace
    obtain ⟨_, -, rfl⟩ := map_eq_ok hplace
    simp [Scope.covers]
  | listenGuild sub =>
    refine deliveries_listening (e.guildId = s.guild) rfl ?_ rfl
    intro place hplace
    obtain ⟨g, hg, rfl⟩ := map_eq_ok hplace
    simp [Scope.covers, selectedGuild?_eq_ok hg]
  | listenChannel sub =>
    refine deliveries_listening (e.channelId = s.channel) rfl ?_ rfl
    intro place hplace
    obtain ⟨c, hc, rfl⟩ := map_eq_ok hplace
    simp [Scope.covers, (selectedChannel?_eq_ok hc).2]
  | sendMessage body =>
    -- Sending counts a message, but like all other calls it leaves the listeners alone.
    refine (deliveries_of_listeners ?_ e).trans (List.append_nil _).symm
    change (s.sendMessage body).2.listeners = s.listeners
    unfold sendMessage
    split <;> rfl
  | _ =>
    refine (deliveries_of_listeners (call_sameService s ?_).listeners e).trans
      (List.append_nil _).symm
    simp [Call.operation]

/-- A request that does not close the connection adds at most the listener that it registers. -/
lemma deliveries_serve (open_ : Visit.closes ⟨s, r⟩ = false) (e : Event) :
    (s.serve r).2.deliveries e = s.deliveries e ++ (Visit.hearer? ⟨s, r⟩ e).toList := by
  cases r with
  | call c => exact deliveries_call c s e
  | destroy => cases open_
  | fetch w => exact (List.append_nil _).symm
  | delete ids =>
    have same := (delete_sameService ids s).listeners
    exact (deliveries_of_listeners same e).trans (List.append_nil _).symm

/-- After any requests, an event is heard by the listeners that were registered since the connection
was last closed, each if it is one for it. -/
theorem deliveries_after (rs : List Request) (e : Event) :
    (start.after rs).deliveries e = heard (start.log rs) e := by
  refine kept_by_requests (P := fun log s => s.deliveries e = heard log e) rfl ?_ rs
  intro log s r h
  rw [heard, sinceClosed_concat]
  cases closes : Visit.closes ⟨s, r⟩ with
  | true =>
    cases r with
    | destroy => rfl
    | _ => cases closes
  | false =>
    rw [deliveries_serve closes, h, heard]
    change _ = List.filterMap _ (_ ++ _)
    rw [List.filterMap_append]
    cases hears : Visit.hearer? ⟨s, r⟩ e <;> simp [hears]

/-- After any requests, an event runs exactly the listeners that were registered since the
connection was last closed and are there for it, in the order of their registrations, and is
answered with their number. Each listening statement registers one listener, which wants the
standard events that its clauses include, or all but those that they exclude, or all of them if the
clauses name nothing. -/
theorem emit_after (rs : List Request) (e : Event) :
    (start.after rs).emit e = (heard (start.log rs) e, (heard (start.log rs) e).length) ∧
      ∀ (listener : Listener) (statement : Statement) (calls : List Call),
        statement.head.kind = .keyword .listen →
        statement.directive.calls? listener = .ok calls →
        ∃ events, calls.filterMap Call.subscription? = [⟨listener, events⟩] ∧
          (statement.named .«include» ≠ [] → statement.named .exclude = [] →
            events = standardEvents.filter (· ∈ statement.named .«include»)) ∧
          (statement.named .exclude ≠ [] → statement.named .«include» = [] →
            events = standardEvents.filter (· ∉ statement.named .exclude)) ∧
          (statement.named .«include» = [] → statement.named .exclude = [] →
            events = standardEvents) := by
  constructor
  · rw [emit_eq, deliveries_after]
  · intro listener statement calls opening compiled
    have registers := Directive.subscription?_of_calls? opening compiled
    exact ⟨_, registers, statement.events_directive opening⟩

/-- A listener keeps the guild that was selected when it was registered, until the connection is
closed. -/
theorem emit_after_reselection :
    let token := "AAAAAAAAAAAAAAAAAAAAAAAA.BBBBBB.CCCCCCCCCCCCCCCCCCCCCCCCCCC"
    let kept : Subscription := ⟨.recorder "kept", ["message"]⟩
    let requests : List Request :=
      [.call (.login token), .call (.listenClient ⟨.recorder "closed", ["message"]⟩), .destroy,
        .call (.login token), .call (.selectGuild "364140226775784869"), .call (.listenGuild kept),
        .call (.selectGuild "228666916018118541")]
    let statement : Statement :=
      ⟨⟨0, .keyword .listen, some "LISTEN"⟩, [.clause ⟨7, .keyword .«include», some "INCLUDE"⟩
        [⟨⟨15, .literal .string, some "message"⟩, none⟩]]⟩
    (start.after requests).emit ⟨"message", .null, some "364140226775784869", none⟩ =
        ([.recorder "kept"], 1) ∧
      statement.head.kind = .keyword .listen ∧
      ∃ calls, statement.directive.calls? (.recorder "kept") = .ok calls ∧
        calls.filterMap Call.subscription? = [kept] := by
  intro token kept requests statement
  obtain ⟨emitted, registered⟩ :=
    emit_after requests ⟨"message", .null, some "364140226775784869", none⟩
  refine ⟨?_, rfl, _, rfl, ?_⟩
  · rw [emitted]
    decide +kernel
  · obtain ⟨events, subscribed, included, -⟩ := registered (.recorder "kept") statement _ rfl rfl
    rw [subscribed, included (by decide) (by decide)]
    decide +kernel

end Offline

end ChatQuery
