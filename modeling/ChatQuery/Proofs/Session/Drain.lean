import ChatQuery.Gateway.Offline
import ChatQuery.Proofs.Gateway.Record

/-!
What an execution asks of the gateway. The calls that are made are those that start up the session
and then those of the queue, in order and each once, up to the first that fails.
-/
namespace ChatQuery
namespace Session

variable {σ : Type} {g : Gateway σ} {s t u : Session σ} {a : Arguments}
  {made : List (Call × Json)}

/-- The calls that come before the queue: a login unless the session is connected, and the
selection of every identifier that is given and well-formed. -/
def startCalls (s : Session σ) (a : Arguments) : List Call :=
  (if s.connected then [] else a.token.toList.map .login) ++
    (a.guild.toList.filter isSnowflake).map .selectGuild ++
    (a.channel.toList.filter isSnowflake).map .selectChannel

/-- A login is needed, and the token it would use is malformed. -/
def RefusesToken (s : Session σ) (a : Arguments) : Prop :=
  ∃ token, a.token = some token ∧ s.connected = false ∧ isBotToken token = false

lemma login?_any_iff (s : Session σ) (a : Arguments) :
    (s.login? a).any (!isBotToken ·) = true ↔ s.RefusesToken a := by
  unfold login? RefusesToken
  cases s.connected <;> cases a.token <;> simp

lemma startSteps_calls (s : Session σ) (a : Arguments) :
    (s.startSteps a).filterMap Step.call? = s.startCalls a := by
  have selection (make : String → Call) (complain : String → Notice) (id? : Option String) :
      (id?.toList.map fun id =>
        if isSnowflake id then Step.call (make id)
        else .notice (complain id)).filterMap Step.call? =
      (id?.toList.filter isSnowflake).map make := by
    cases id? with
    | none => rfl
    | some id => cases h : isSnowflake id <;> simp [h, Step.call?]
  have login : ((s.login? a).toList.map fun t => Step.call (.login t)).filterMap Step.call? =
      if s.connected then [] else a.token.toList.map .login := by
    unfold login?
    cases s.connected <;> cases a.token <;> rfl
  simp only [startSteps, startCalls, List.filterMap_append, selection, login]

lemma run_of_refused (h : s.RefusesToken a) :
    s.run g a = ⟨.error (.script ⟨0, .mark .token⟩), [], [], s⟩ := by
  unfold run
  rw [if_pos ((login?_any_iff s a).mpr h)]

lemma run_of_succeeds (hl : ¬ s.RefusesToken a) (h : Succeeds g s made t)
    (hc : s.startCalls a ++ s.queue = made.map Prod.fst) :
    ∃ notices, s.run g a = ⟨.ok (), (made.drop (s.startCalls a).length).map report, notices,
      { t with queue := [] }⟩ := by
  obtain ⟨start, queued, rfl, hs, hq⟩ := List.map_eq_append_iff.mp hc.symm
  obtain ⟨r, hstart, hqueued⟩ := h.split
  have htake := takeSteps_of_succeeds hstart ((startSteps_calls s a).trans hs.symm)
  have hdrain := drain_append hqueued []
  rw [List.append_nil, hq, ← hstart.queue_eq] at hdrain
  refine ⟨(s.startSteps a).filterMap Step.notice?, ?_⟩
  unfold run
  rw [if_neg (mt (login?_any_iff s a).mp hl), htake]
  simp only [hdrain, drain, List.append_nil]
  rw [← hs, List.length_map, List.drop_left]

lemma run_of_fails {c : Call} {rest : List Call} {e : CallError} (hl : ¬ s.RefusesToken a)
    (h : Succeeds g s made t) (hf : t.call g c = (.error e, u))
    (hc : s.startCalls a ++ s.queue = made.map Prod.fst ++ c :: rest) :
    ∃ notices q, s.run g a = ⟨.error (.call e), (made.drop (s.startCalls a).length).map report,
      notices, { u with queue := q }⟩ := by
  -- The call that fails either comes from the queue or starts up the session.
  have place : (∃ queued, made.map Prod.fst = s.startCalls a ++ queued ∧
      s.queue = queued ++ c :: rest) ∨
        ∃ later, s.startCalls a = made.map Prod.fst ++ c :: later := by
    rcases List.append_eq_append_iff.mp hc with ⟨queued, hm, hq⟩ | ⟨later, hs, hr⟩
    · exact .inl ⟨queued, hm, hq⟩
    · cases later with
      | nil => exact .inl ⟨[], by simpa using hs.symm, by simpa using hr.symm⟩
      | cons d later =>
        obtain ⟨rfl, -⟩ := List.cons.inj hr
        exact .inr ⟨later, hs⟩
  unfold run
  rw [if_neg (mt (login?_any_iff s a).mp hl)]
  rcases place with ⟨queued, hm, hq⟩ | ⟨later, hs⟩
  · obtain ⟨start, queued, rfl, hs, rfl⟩ := List.map_eq_append_iff.mp hm
    obtain ⟨r, hstart, hqueued⟩ := h.split
    have htake := takeSteps_of_succeeds hstart ((startSteps_calls s a).trans hs.symm)
    have hdrain := drain_append hqueued (c :: rest)
    rw [← hq, ← hstart.queue_eq, drain_cons_of_error hf] at hdrain
    refine ⟨(s.startSteps a).filterMap Step.notice?, rest, ?_⟩
    rw [htake]
    simp only [hdrain, List.append_nil]
    rw [← hs, List.length_map, List.drop_left]
  · obtain ⟨notices, htake⟩ := takeSteps_of_fails h hf ((startSteps_calls s a).trans hs)
    have hd : made.drop (s.startCalls a).length = [] := by
      apply List.drop_eq_nil_of_le
      rw [hs, List.length_append, List.length_map]
      omega
    refine ⟨notices, u.queue, ?_⟩
    rw [htake, hd]
    rfl

/-- How an execution can go, closing left aside: a token is refused, or all calls succeed, or one
call is the first to fail. Whatever happens, nothing stays queued. -/
inductive Outcome (g : Gateway σ) (a : Arguments) (s : Session σ) : Execution σ → Prop
  | refused (notices : List Notice) (token : s.RefusesToken a) :
    Outcome g a s ⟨.error (.script ⟨0, .mark .token⟩), [], notices, { s with queue := [] }⟩
  | completed {made : List (Call × Json)} {t : Session σ} (notices : List Notice)
    (token : ¬ s.RefusesToken a) (calls : Succeeds g s made t)
    (all : s.startCalls a ++ s.queue = made.map Prod.fst) :
    Outcome g a s ⟨.ok (), (made.drop (s.startCalls a).length).map report, notices,
      { t with queue := [] }⟩
  | failed {made : List (Call × Json)} {t u : Session σ} {c : Call} {rest : List Call}
    {e : CallError} (notices : List Notice) (token : ¬ s.RefusesToken a)
    (calls : Succeeds g s made t) (failure : t.call g c = (.error e, u))
    (upTo : s.startCalls a ++ s.queue = made.map Prod.fst ++ c :: rest) :
    Outcome g a s ⟨.error (.call e), (made.drop (s.startCalls a).length).map report, notices,
      { u with queue := [] }⟩

theorem run_outcome (g : Gateway σ) (a : Arguments) (s : Session σ) :
    Outcome g a s (s.run g a).settle := by
  by_cases token : s.RefusesToken a
  · rw [run_of_refused token]
    exact .refused _ token
  · rcases succeeds_or_fails g (s.startCalls a ++ s.queue) s with
      ⟨made, t, calls, all⟩ | ⟨made, t, c, rest, e, u, calls, upTo, failure⟩
    · obtain ⟨notices, hr⟩ := run_of_succeeds token calls all
      rw [hr]
      exact .completed notices token calls all
    · obtain ⟨notices, q, hr⟩ := run_of_fails token calls failure upTo
      rw [hr]
      exact Outcome.failed (u := u) _ token calls failure upTo

lemma Outcome.queue_eq {x : Execution σ} (h : Outcome g a s x) : x.session.queue = [] := by
  cases h <;> rfl

/-- The session once an execution is over: closed if that is asked for. -/
def finish (g : Gateway σ) (a : Arguments) (s : Session σ) : Session σ :=
  if a.close then (s.close g).2 else s

/-- Closing changes neither how an execution went nor what it reports. -/
lemma execute_eq (g : Gateway σ) (a : Arguments) (s : Session σ) :
    ∃ notices, s.execute g a = ⟨(s.run g a).settle.result, (s.run g a).settle.reports, notices,
      finish g a (s.run g a).settle.session⟩ := by
  unfold execute finish
  cases a.close <;> exact ⟨_, rfl⟩

lemma close_eq (s : Session σ) :
    (s.close g).2 = { s with gateway := (g.destroy s.gateway).2, connected := false } := by
  unfold close
  rcases g.destroy s.gateway with ⟨r, γ⟩
  cases r <;> rfl

@[simp] lemma finish_queue (s : Session σ) : (finish g a s).queue = s.queue := by
  unfold finish
  split_ifs
  · rw [close_eq]
  · rfl

lemma finish_connected (s : Session σ) (h : a.close = true) : (finish g a s).connected = false := by
  unfold finish
  rw [if_pos h, close_eq]

/-- What is left to be seen of the closing of a session. -/
def closing (a : Arguments) : List Contact := if a.close then [.destroy] else []

lemma record_finish (s : Session (σ × List Contact)) :
    (finish g.recorded a s).record = s.record ++ closing a := by
  unfold finish closing
  split_ifs
  · exact record_close s
  · exact (List.append_nil _).symm

/-- An execution makes the calls that start up the session and then those of the queue, in order and
each once. If all succeed, the result is a success; otherwise the first call that fails is the last
one made, and the error tells the session as it was just before it. A token that is needed and
malformed stops everything. The queue is empty afterwards, and closing comes last. -/
theorem execute_contacts (g : Gateway σ) (s : Session σ) (a : Arguments) :
    let x := s.observed.execute g.recorded a
    x.map Prod.fst = s.execute g a ∧ x.session.queue = [] ∧
      (a.close = true → x.session.connected = false) ∧
      (s.RefusesToken a →
        x.session.record = closing a ∧ x.result = .error (.script ⟨0, .mark .token⟩) ∧
          x.reports = []) ∧
      (¬ s.RefusesToken a → ∃ made t, Succeeds g.recorded s.observed made t ∧
        x.reports = (made.drop (s.startCalls a).length).map report ∧
        (s.startCalls a ++ s.queue = made.map Prod.fst ∧ x.result = .ok () ∧
            x.session.record = made.map answered ++ closing a ∨
          ∃ c rest cause, s.startCalls a ++ s.queue = made.map Prod.fst ++ c :: rest ∧
            x.session.record = made.map answered ++ .call c (.error cause) :: closing a ∧
            x.result = .error (.call ⟨c.operation, t.connected, t.guild.isSome, t.channel.isSome,
              some cause⟩))) := by
  intro x
  obtain ⟨notices, hx⟩ : ∃ notices, x = _ := execute_eq g.recorded a s.observed
  have hout := run_outcome g.recorded a s.observed
  generalize (s.observed.run g.recorded a).settle = y at hx hout
  have hrecord : x.session.record = y.session.record ++ closing a := by
    rw [hx]
    exact record_finish _
  refine ⟨observed_execute s a, ?_, ?_, ?_, ?_⟩
  · rw [hx]
    exact (finish_queue _).trans hout.queue_eq
  · intro hclose
    rw [hx]
    exact finish_connected _ hclose
  · intro token
    cases hout with
    | refused notices _ =>
      rw [hrecord, hx]
      exact ⟨List.nil_append _, rfl, rfl⟩
    | completed notices sound calls all => exact absurd token sound
    | failed notices sound calls failure upTo => exact absurd token sound
  · intro sound
    cases hout with
    | refused notices token => exact absurd token sound
    | @completed made t notices _ calls all =>
      refine ⟨made, t, calls, by rw [hx]; rfl, .inl ⟨all, by rw [hx], ?_⟩⟩
      rw [hrecord]
      exact congrArg (· ++ closing a) calls.record_eq
    | @failed made t u c rest e notices _ calls failure upTo =>
      obtain ⟨cause, rfl, hu, -⟩ := record_of_call_error failure
      refine ⟨made, t, calls, by rw [hx]; rfl, .inr ⟨c, rest, cause, upTo, ?_, by rw [hx]; rfl⟩⟩
      have hm : u.record = made.map answered ++ [.call c (.error cause)] := by
        rw [hu, calls.record_eq]
        rfl
      rw [hrecord]
      exact (congrArg (· ++ closing a) hm).trans (List.append_cons _ _ _).symm

/-- That all calls have been made does not mean that all succeeded: the last may have failed. -/
theorem not_ok_iff_all_called :
    ¬ ∀ (s : Session Offline) (a : Arguments), ¬ s.RefusesToken a →
      ((s.observed.execute Offline.gateway.recorded a).session.record.filterMap Contact.call? =
          s.startCalls a ++ s.queue ↔
        (s.observed.execute Offline.gateway.recorded a).result = .ok ()) := by
  intro all_ok
  let s : Session Offline := { Session.start Offline.start with queue := [.showGuilds none] }
  let a : Arguments := ⟨none, none, none, false⟩
  have sound : ¬ s.RefusesToken a := by
    rintro ⟨token, given, -⟩
    cases given
  have called : (s.observed.execute Offline.gateway.recorded a).session.record.filterMap
      Contact.call? = s.startCalls a ++ s.queue := rfl
  have failed : (s.observed.execute Offline.gateway.recorded a).result =
      .error (.call ⟨.showGuilds, false, false, false, some .notConnected⟩) := rfl
  have ok := (all_ok s a sound).mp called
  rw [failed] at ok
  cases ok

end Session
end ChatQuery
