import ChatQuery.Gateway.Scripted
import ChatQuery.Proofs.Session.Drain
import ChatQuery.Proofs.Session.Load

/-!
Executions in pieces. The calls that start up a session and those of its queue are made as one list
of calls, and a list of calls can be cut anywhere: scripts that are executed one after another come
to the same as all of them queued and executed at once.
-/
namespace ChatQuery

/-- Arguments that neither connect nor select anything. -/
def Arguments.bare (close : Bool) : Arguments := ⟨none, none, none, close⟩

namespace Session

variable {σ : Type} {g : Gateway σ} {s t u : Session σ} {a : Arguments} {c : Call}
  {cs : List Call} {reports : List (Operation × Json)} {p q : Script}

section Cutting

lemma drain_of_succeeds {made : List (Call × Json)} (calls : Succeeds g s made t) :
    s.drain g (made.map Prod.fst) = (.ok (), made.map report, { t with queue := [] }) := by
  have worked := drain_append calls []
  rwa [List.append_nil, drain, List.append_nil] at worked

lemma drain_of_fails {made : List (Call × Json)} {e : CallError} (calls : Succeeds g s made t)
    (failure : t.call g c = (.error e, u)) (rest : List Call) :
    s.drain g (made.map Prod.fst ++ c :: rest) =
      (.error e, made.map report, { u with queue := rest }) := by
  rw [drain_append calls, drain_cons_of_error failure, List.append_nil]

lemma drain_append_of_ok (h : s.drain g cs = (.ok (), reports, t)) (more : List Call) :
    s.drain g (cs ++ more) =
      ((t.drain g more).1, reports ++ (t.drain g more).2.1, (t.drain g more).2.2) := by
  rcases succeeds_or_fails g cs s with
    ⟨made, u, calls, rfl⟩ | ⟨made, u, c, rest, e, v, calls, rfl, failure⟩
  · cases h.symm.trans (drain_of_succeeds calls)
    exact (drain_append calls more).trans (by simp only [drain_with_queue])
  · cases h.symm.trans (drain_of_fails calls failure rest)

/-- Calls that come after the first one that fails are not made. -/
lemma drain_append_of_error {e : CallError} (h : s.drain g cs = (.error e, reports, t))
    (more : List Call) :
    s.drain g (cs ++ more) = (.error e, reports, { t with queue := t.queue ++ more }) := by
  rcases succeeds_or_fails g cs s with
    ⟨made, u, calls, rfl⟩ | ⟨made, u, c, rest, e', v, calls, rfl, failure⟩
  · cases h.symm.trans (drain_of_succeeds calls)
  · cases h.symm.trans (drain_of_fails calls failure rest)
    rw [List.append_assoc, List.cons_append, drain_of_fails calls failure]

/-- Calls are reported in their order, up to the first that fails. -/
lemma operations_of_drain (g : Gateway σ) (cs : List Call) (s : Session σ) :
    (s.drain g cs).2.1.map Prod.fst <+: cs.map Call.operation := by
  have reported (made : List (Call × Json)) :
      (made.map report).map Prod.fst = (made.map Prod.fst).map Call.operation := by
    rw [List.map_map, List.map_map]
    rfl
  rcases succeeds_or_fails g cs s with
    ⟨made, t, calls, rfl⟩ | ⟨made, t, c, rest, e, u, calls, rfl, failure⟩
  · rw [drain_of_succeeds calls]
    exact (reported made).subst (List.prefix_refl _)
  · rw [drain_of_fails calls failure rest, reported, List.map_append]
    exact List.prefix_append _ _

end Cutting

section Frame

@[simp] lemma call_listener (s : Session σ) (c : Call) : (s.call g c).2.listener = s.listener := by
  rcases hg : g.call c s.gateway with ⟨r, γ⟩
  cases r with
  | error e => rw [call_of_error hg]
  | ok v =>
    rw [call_of_ok hg]
    cases c <;> rfl

@[simp] lemma drain_listener (s : Session σ) (cs : List Call) :
    (s.drain g cs).2.2.listener = s.listener := by
  induction cs generalizing s with
  | nil => rfl
  | cons c cs ih =>
    have kept := call_listener (g := g) s c
    rcases hc : s.call g c with ⟨r, t⟩
    rw [hc] at kept
    cases r with
    | error e => rw [drain_cons_of_error hc, ← kept]
    | ok v =>
      rw [drain_cons_of_ok hc]
      exact (ih t).trans kept

lemma call_with_raw (s : Session σ) (c : Call) (raw : Bool) :
    ({ s with raw } : Session σ).call g c =
      ((s.call g c).1, { (s.call g c).2 with raw }) := by
  rcases hg : g.call c s.gateway with ⟨r, γ⟩
  cases r with
  | error e => rw [call_of_error hg, call_of_error (s := { s with raw }) hg]; rfl
  | ok v =>
    rw [call_of_ok hg, call_of_ok (s := { s with raw }) hg]
    cases c <;> rfl

/-- The raw flag makes no difference to calls, and none of them flips it. -/
lemma drain_with_raw (s : Session σ) (cs : List Call) (raw : Bool) :
    ({ s with raw } : Session σ).drain g cs =
      ((s.drain g cs).1, (s.drain g cs).2.1, { (s.drain g cs).2.2 with raw }) := by
  induction cs generalizing s with
  | nil => rfl
  | cons c cs ih =>
    have flagged := call_with_raw (g := g) s c raw
    rcases hc : s.call g c with ⟨r, t⟩
    rw [hc] at flagged
    cases r with
    | error e => rw [drain_cons_of_error hc, drain_cons_of_error flagged]
    | ok v => rw [drain_cons_of_ok hc, drain_cons_of_ok flagged, ih]

/-- Nor does what the session still holds of its queue. -/
lemma drain_with (s : Session σ) (cs queue : List Call) (raw : Bool) :
    ({ s with queue, raw } : Session σ).drain g cs =
      ((s.drain g cs).1, (s.drain g cs).2.1, { (s.drain g cs).2.2 with raw }) :=
  (drain_with_queue { s with raw } cs queue).trans (drain_with_raw s cs raw)

end Frame

/-- An execution that does not refuse its token works off one list of calls, those that start up
the session before those of the queue, and reports those of the queue. -/
theorem execute_drains (sound : ¬ s.RefusesToken a) :
    let worked := s.drain g (s.startCalls a ++ s.queue)
    ∃ notices, s.execute g a = ⟨worked.1.mapError .call,
      worked.2.1.drop (s.startCalls a).length, notices,
      finish g a { worked.2.2 with queue := [] }⟩ := by
  intro worked
  obtain ⟨notices, hx⟩ := execute_eq g a s
  refine ⟨notices, hx.trans ?_⟩
  have hout := run_outcome g a s
  generalize (s.run g a).settle = x at hout
  cases hout with
  | refused _ token => exact absurd token sound
  | @completed made t _ _ calls all =>
    have hworked : worked = (.ok (), made.map report, { t with queue := [] }) :=
      (congrArg (drain g · s) all).trans (drain_of_succeeds calls)
    rw [hworked, List.map_drop]
    rfl
  | @failed made t u c rest e _ _ calls failure upTo =>
    have hworked : worked = (.error e, made.map report, { u with queue := rest }) :=
      (congrArg (drain g · s) upTo).trans (drain_of_fails calls failure rest)
    rw [hworked, List.map_drop]
    rfl

@[simp] lemma startCalls_bare (s : Session σ) (close : Bool) :
    s.startCalls (.bare close) = [] := by
  unfold startCalls Arguments.bare
  cases s.connected <;> rfl

lemma not_refusesToken_bare (s : Session σ) (close : Bool) : ¬ s.RefusesToken (.bare close) := by
  rintro ⟨token, given, -⟩
  cases given

/-- An execution without arguments works off the queue. -/
lemma execute_bare (g : Gateway σ) (s : Session σ) (close : Bool) :
    let worked := s.drain g s.queue
    ∃ notices, s.execute g (.bare close) = ⟨worked.1.mapError .call, worked.2.1, notices,
      finish g (.bare close) { worked.2.2 with queue := [] }⟩ := by
  have drained := execute_drains (g := g) (s.not_refusesToken_bare close)
  rwa [startCalls_bare, List.nil_append] at drained

/-- A script that is executed on its own. -/
lemma execute_enqueue (g : Gateway σ) (idle : s.queue = []) (p : Script) :
    let worked := s.drain g p.calls
    ∃ notices, (s.enqueue p).execute g (.bare false) = ⟨worked.1.mapError .call, worked.2.1,
      notices, { worked.2.2 with queue := [], raw := (s.enqueue p).raw }⟩ := by
  intro worked
  obtain ⟨notices, hx⟩ := execute_bare g (s.enqueue p) false
  have queued : (s.enqueue p).queue = p.calls := congrArg (· ++ p.calls) idle
  have flagged : (s.enqueue p).drain g p.calls =
      (worked.1, worked.2.1, { worked.2.2 with raw := (s.enqueue p).raw }) :=
    drain_with s p.calls _ _
  rw [queued, flagged] at hx
  exact ⟨notices, hx⟩

/-- Where the calls of the first script all succeed, executing a second one after it is executing
both at once. -/
lemma execute_second (idle : s.queue = []) (p q : Script)
    (ok : ((s.enqueue p).execute g (.bare false)).result = .ok ()) :
    let first := (s.enqueue p).execute g (.bare false)
    let second := (first.session.enqueue q).execute g (.bare false)
    let once := ((s.enqueue p).enqueue q).execute g (.bare false)
    once.session = second.session ∧ once.reports = first.reports ++ second.reports ∧
      once.result = second.result := by
  intro first second once
  obtain ⟨_, hfirst⟩ : ∃ notices, first = _ := execute_enqueue g idle p
  obtain ⟨_, hsecond⟩ : ∃ notices, second = _ :=
    execute_enqueue g (s := first.session) (by rw [hfirst]) q
  obtain ⟨_, honce⟩ : ∃ notices, once = _ := by
    have joined := execute_enqueue g idle (p.join q)
    rwa [← enqueue_enqueue] at joined
  rcases hworked : s.drain g p.calls with ⟨r, reports, t⟩
  rw [hworked] at hfirst
  cases r with
  | error e =>
    have failed : first.result = .error (.call e) := by rw [hfirst]; rfl
    cases ok.symm.trans failed
  | ok _ =>
    have both : s.drain g (p.join q).calls = _ := drain_append_of_ok hworked q.calls
    have later : first.session.drain g q.calls = ((t.drain g q.calls).1, (t.drain g q.calls).2.1,
        { (t.drain g q.calls).2.2 with raw := (s.enqueue p).raw }) := by
      rw [hfirst]
      exact drain_with t q.calls [] _
    rw [both] at honce
    rw [later] at hsecond
    rw [honce, hsecond, hfirst]
    exact ⟨rfl, rfl, rfl⟩

/-- Where a call of the first script fails, a second one makes no difference. -/
lemma execute_first (idle : s.queue = []) (p q : Script) {e : Failure}
    (failed : ((s.enqueue p).execute g (.bare false)).result = .error e) :
    let first := (s.enqueue p).execute g (.bare false)
    let once := ((s.enqueue p).enqueue q).execute g (.bare false)
    once.result = .error e ∧ once.reports = first.reports ∧
      once.session = { first.session with raw := once.session.raw } := by
  intro first once
  obtain ⟨_, hfirst⟩ : ∃ notices, first = _ := execute_enqueue g idle p
  obtain ⟨_, honce⟩ : ∃ notices, once = _ := by
    have joined := execute_enqueue g idle (p.join q)
    rwa [← enqueue_enqueue] at joined
  rcases hworked : s.drain g p.calls with ⟨r, reports, t⟩
  rw [hworked] at hfirst
  cases r with
  | ok _ =>
    have ok : first.result = .ok () := by rw [hfirst]; rfl
    cases failed.symm.trans ok
  | error e' =>
    have same : first.result = .error (.call e') := by rw [hfirst]; rfl
    cases failed.symm.trans same
    have both : s.drain g (p.join q).calls = _ := drain_append_of_error hworked q.calls
    rw [both] at honce
    rw [honce, hfirst]
    exact ⟨rfl, rfl, rfl⟩

/-- The record grows by the calls of the list, up to the first that fails. -/
lemma record_of_drain (g : Gateway σ) (cs : List Call) (s : Session (σ × List Contact)) :
    ∃ contacts, (s.drain g.recorded cs).2.2.record = s.record ++ contacts ∧
      contacts.filterMap Contact.call? <+: cs := by
  have made_calls (made : List (Call × Json)) :
      (made.map answered).filterMap Contact.call? = made.map Prod.fst := by
    rw [List.filterMap_map]
    exact congrFun List.filterMap_eq_map made
  rcases succeeds_or_fails g.recorded cs s with
    ⟨made, t, calls, rfl⟩ | ⟨made, t, c, rest, e, u, calls, rfl, failure⟩
  · refine ⟨made.map answered, ?_, (made_calls made).subst (List.prefix_refl _)⟩
    rw [drain_of_succeeds calls]
    exact calls.record_eq
  · obtain ⟨cause, -, hu, -⟩ := record_of_call_error failure
    refine ⟨made.map answered ++ [.call c (.error cause)], ?_, ?_⟩
    · rw [drain_of_fails calls failure rest]
      change u.record = _
      rw [hu, calls.record_eq, List.append_assoc]
    · rw [List.filterMap_append, made_calls]
      exact ⟨rest, List.append_assoc _ _ _⟩

/-- It makes no difference whether two scripts are executed one after the other or both at once: the
contacts with the gateway, the reports, the session and the result are the same. If a call of the
first script fails, no call of the second one is made in either case. -/
theorem execute_in_pieces (g : Gateway σ) (s : Session σ) (idle : s.queue = []) {s₁ s₂ : String}
    (hp : Script.compile? s.listener s₁ = .ok p) (hq : Script.compile? s.listener s₂ = .ok q) :
    ∃ t u, s.load s₁ = .ok t ∧ t.load s₂ = .ok u ∧
      let first := t.observed.execute g.recorded (.bare false)
      let once := u.observed.execute g.recorded (.bare false)
      first.map Prod.fst = t.execute g (.bare false) ∧
      once.map Prod.fst = u.execute g (.bare false) ∧
      (first.result = .ok () → ∃ v, first.session.load s₂ = .ok v ∧
        let second := v.execute g.recorded (.bare false)
        once.session = second.session ∧ once.reports = first.reports ++ second.reports ∧
          once.result = second.result) ∧
      ∀ e, first.result = .error e →
        once.result = .error e ∧ once.reports = first.reports ∧
          once.session = { first.session with raw := once.session.raw } ∧
          first.session.record.filterMap Contact.call? <+: p.calls := by
  refine ⟨s.enqueue p, (s.enqueue p).enqueue q, load_of_ok hp, load_of_ok hq,
    observed_execute _ _, observed_execute _ _, ?_, ?_⟩
  · intro ok
    refine ⟨_, load_of_ok ?_, execute_second (s := s.observed) idle p q ok⟩
    obtain ⟨_, hfirst⟩ := execute_enqueue g.recorded (s := s.observed) idle p
    change Script.compile? ((s.observed.enqueue p).execute _ _).session.listener s₂ = _
    rw [hfirst, drain_listener]
    exact hq
  · intro e failed
    obtain ⟨result, reports, session⟩ := execute_first (s := s.observed) idle p q failed
    refine ⟨result, reports, session, ?_⟩
    obtain ⟨_, hfirst⟩ := execute_enqueue g.recorded (s := s.observed) idle p
    obtain ⟨contacts, hrecord, only⟩ := record_of_drain g p.calls s.observed
    change ((s.observed.enqueue p).execute _ _).session.record.filterMap _ <+: _
    rw [hfirst]
    change (s.observed.drain g.recorded p.calls).2.2.record.filterMap _ <+: _
    rw [hrecord]
    exact only

/-- A second script that flips the raw flag makes no difference to this. -/
theorem execute_in_pieces_show :
    let s := start (Scripted.start [] none false)
    ∃ t u v, s.load "SHOW" = .ok t ∧ t.load "RAW; SHOW" = .ok u ∧
      let first := t.observed.execute Scripted.gateway.recorded (.bare false)
      first.session.load "RAW; SHOW" = .ok v ∧
        (u.observed.execute Scripted.gateway.recorded (.bare false)).session =
          (v.execute Scripted.gateway.recorded (.bare false)).session := by
  intro s
  obtain ⟨p, hp⟩ : ∃ p, Script.compile? s.listener "SHOW" = .ok p :=
    exists_of_isOk (by decide +kernel)
  obtain ⟨q, hq⟩ : ∃ q, Script.compile? s.listener "RAW; SHOW" = .ok q :=
    exists_of_isOk (by decide +kernel)
  obtain ⟨t, u, ht, hu, -, -, pieces, -⟩ := execute_in_pieces Scripted.gateway s rfl hp hq
  have runs : (s.load "SHOW").toOption.any (fun t =>
      (t.observed.execute Scripted.gateway.recorded (.bare false)).result.isOk) = true := by
    decide +kernel
  rw [ht] at runs
  obtain ⟨_, ok⟩ := exists_of_isOk runs
  obtain ⟨v, hv, session, -⟩ := pieces ok
  exact ⟨t, u, v, ht, hu, hv, session⟩

end Session
end ChatQuery
