import ChatQuery.Proofs.Session.Drain
import ChatQuery.Proofs.Session.Load
import Mathlib.Logic.Relation

/-!
Runs of a session: any sequence of loading, executing, reloading and closing. Each of these comes
down to single moves, so what every move keeps holds after every run.
-/
namespace ChatQuery

inductive Action
  | load (source : String)
  | execute (a : Arguments)
  | reload
  | close

namespace Session

variable {σ τ : Type} {g : Gateway σ} {s t u : Session σ} {a : Arguments}

/-- The session after an action. A source that does not compile changes nothing. -/
def act (g : Gateway σ) (s : Session σ) : Action → Session σ
  | .load source => (s.load source).toOption.getD s
  | .execute a => (s.execute g a).session
  | .reload => (s.reload g).2.2
  | .close => (s.close g).2

/-- The failed call that an action ends with, if it does. -/
def callError? (g : Gateway σ) (s : Session σ) : Action → Option CallError
  | .execute a =>
    match (s.execute g a).result with
    | .error (.call e) => some e
    | _ => none
  | .reload =>
    match (s.reload g).1 with
    | .error e => some e
    | .ok _ => none
  | _ => none

/-- The session after a sequence of actions. -/
def play (g : Gateway σ) (s : Session σ) (actions : List Action) : Session σ :=
  actions.foldl (act g) s

/-- A session that has done nothing yet. Its listener is chosen when it is made. -/
def fresh (gateway : σ) (listener : Listener) : Session σ := { start gateway with listener }

/-- One thing that a session does. -/
inductive Move (g : Gateway σ) : Session σ → Session σ → Prop
  | call (s : Session σ) (c : Call) : Move g s (s.call g c).2
  | close (s : Session σ) : Move g s (s.close g).2
  | requeue (s : Session σ) (q : List Call) : Move g s { s with queue := q }
  | flip (s : Session σ) (raw : Bool) : Move g s { s with raw }

/-- What any number of moves lead to. -/
abbrev Reaches (g : Gateway σ) : Session σ → Session σ → Prop := Relation.ReflTransGen (Move g)

/-- What every move keeps, any number of moves keep. -/
theorem kept_by_moves {P : Session σ → Prop} (step : ∀ s t, P s → Move g s t → P t) (h : P s)
    (m : Reaches g s t) : P t := by
  induction m with
  | refl => exact h
  | tail _ last ih => exact step _ _ ih last

lemma Succeeds.reaches {made : List (Call × Json)} (h : Succeeds g s made t) : Reaches g s t := by
  induction h with
  | done s => exact .refl
  | @next s t u c v made first rest ih =>
    have step := Move.call (g := g) s c
    rw [first] at step
    exact .head step ih

lemma reaches_of_call {c : Call} {r : Except CallError Json} (h : Reaches g s t)
    (hc : t.call g c = (r, u)) : Reaches g s u := by
  have step := Move.call (g := g) t c
  rw [hc] at step
  exact h.tail step

lemma Outcome.reaches {x : Execution σ} (h : Outcome g a s x) : Reaches g s x.session := by
  cases h with
  | refused notices token => exact .single (.requeue s [])
  | @completed made t notices token calls all => exact calls.reaches.tail (.requeue t [])
  | @failed made t u c rest e notices token calls failure upTo =>
    exact (reaches_of_call calls.reaches failure).tail (.requeue u [])

lemma reaches_finish (s : Session σ) : Reaches g s (finish g a s) := by
  unfold finish
  split_ifs
  · exact .single (.close s)
  · exact .refl

/-- The calls that restore a connection. -/
def reloadCalls (s : Session σ) (token : String) : List Call :=
  .login token :: (s.guild.toList.map .selectGuild ++ s.channel.toList.map .selectChannel)

lemma reloadSteps_calls (s : Session σ) (token : String) :
    (s.reloadSteps token).filterMap Step.call? = s.reloadCalls token := by
  have selection (make : String → Call) (id? : Option String) :
      (id?.toList.map fun id => Step.call (make id)).filterMap Step.call? =
        id?.toList.map make := by
    cases id? <;> rfl
  simp only [reloadSteps, reloadCalls, List.filterMap_append, List.filterMap_cons, selection,
    Step.call?, List.cons_append]

lemma reload_of_ok {token : String} {notices : List Notice} (hc : s.connected = true)
    (ht : g.token s.gateway = some token)
    (h : (s.close g).2.takeSteps g ((s.close g).2.reloadSteps token) = (.ok (), notices, t)) :
    s.reload g = (.ok true, (s.close g).1 ++ notices, t) := by
  unfold reload
  rw [hc, ht]
  simp only [h]

lemma reload_of_error {token : String} {notices : List Notice} {e : CallError}
    (hc : s.connected = true) (ht : g.token s.gateway = some token)
    (h : (s.close g).2.takeSteps g ((s.close g).2.reloadSteps token) = (.error e, notices, t)) :
    s.reload g = (.error e, (s.close g).1 ++ notices, t) := by
  unfold reload
  rw [hc, ht]
  simp only [h]

lemma reload_of_not_connected (h : s.connected = false ∨ g.token s.gateway = none) :
    s.reload g = (.ok false, [], s) := by
  unfold reload
  rcases h with h | h
  · rw [h]
  · rw [h]
    cases s.connected <;> rfl

/-- How a reload can go: there is no connection, or all calls that restore it succeed, or one of
them is the first to fail. -/
inductive Reloaded (g : Gateway σ) (s : Session σ) :
    Except CallError Bool × List Notice × Session σ → Prop
  | idle : Reloaded g s (.ok false, [], s)
  | completed {token : String} {made : List (Call × Json)} {t : Session σ} (notices : List Notice)
    (held : g.token s.gateway = some token) (calls : Succeeds g (s.close g).2 made t)
    (all : (s.close g).2.reloadCalls token = made.map Prod.fst) :
    Reloaded g s (.ok true, notices, t)
  | failed {token : String} {made : List (Call × Json)} {t u : Session σ} {c : Call}
    {rest : List Call} {e : CallError} (notices : List Notice)
    (held : g.token s.gateway = some token) (calls : Succeeds g (s.close g).2 made t)
    (failure : t.call g c = (.error e, u))
    (upTo : (s.close g).2.reloadCalls token = made.map Prod.fst ++ c :: rest) :
    Reloaded g s (.error e, notices, u)

theorem reload_outcome (g : Gateway σ) (s : Session σ) : Reloaded g s (s.reload g) := by
  cases hc : s.connected with
  | false =>
    rw [reload_of_not_connected (.inl hc)]
    exact .idle
  | true =>
    cases ht : g.token s.gateway with
    | none =>
      rw [reload_of_not_connected (.inr ht)]
      exact .idle
    | some token =>
      have steps := (s.close g).2.reloadSteps_calls token
      rcases succeeds_or_fails g ((s.close g).2.reloadCalls token) (s.close g).2 with
        ⟨made, t, calls, all⟩ | ⟨made, t, c, rest, e, u, calls, upTo, failure⟩
      · rw [reload_of_ok hc ht (takeSteps_of_succeeds calls (steps.trans all))]
        exact .completed _ ht calls all
      · obtain ⟨notices, htake⟩ := takeSteps_of_fails calls failure (steps.trans upTo)
        rw [reload_of_error hc ht htake]
        exact .failed _ ht calls failure upTo

lemma Reloaded.reaches {r : Except CallError Bool × List Notice × Session σ} (h : Reloaded g s r) :
    Reaches g s r.2.2 := by
  have closed : Reaches g s (s.close g).2 := .single (.close s)
  cases h with
  | idle => exact .refl
  | completed notices held calls all => exact closed.trans calls.reaches
  | failed notices held calls failure upTo =>
    exact reaches_of_call (closed.trans calls.reaches) failure

theorem reaches_act (g : Gateway σ) (s : Session σ) (action : Action) :
    Reaches g s (s.act g action) := by
  cases action with
  | load source =>
    change Reaches g s ((s.load source).toOption.getD s)
    cases hl : s.load source with
    | error d => exact .refl
    | ok t =>
      obtain ⟨script, -, rfl⟩ := load_inv hl
      exact .head (.requeue s (s.queue ++ script.calls)) (.single (.flip _ _))
  | execute a =>
    obtain ⟨notices, hx⟩ := execute_eq g a s
    change Reaches g s (s.execute g a).session
    rw [hx]
    exact (run_outcome g a s).reaches.trans (reaches_finish _)
  | reload => exact (reload_outcome g s).reaches
  | close => exact .single (.close s)

theorem reaches_play (g : Gateway σ) (s : Session σ) (actions : List Action) :
    Reaches g s (s.play g actions) := by
  induction actions generalizing s with
  | nil => exact .refl
  | cons action actions ih => exact (reaches_act g s action).trans (ih _)

/-- Every failed call that an action ends with was made in a session that the action reached, and
nothing but closing came after it. -/
theorem callError?_inv {action : Action} {e : CallError} (h : s.callError? g action = some e) :
    ∃ t c u a q, Reaches g s t ∧ t.call g c = (.error e, u) ∧
      s.act g action = finish g a { u with queue := q } := by
  cases action with
  | load source => cases h
  | close => cases h
  | execute a =>
    obtain ⟨notices, hx⟩ := execute_eq g a s
    change (match (s.execute g a).result with
      | .error (.call e) => some e
      | _ => none) = some e at h
    rw [hx] at h
    have hs : s.act g (.execute a) = finish g a (s.run g a).settle.session :=
      congrArg Execution.session hx
    have hout := run_outcome g a s
    generalize (s.run g a).settle = y at h hs hout
    cases hout with
    | refused notices token => cases h
    | completed notices token calls all => cases h
    | @failed made t u c rest e' notices token calls failure upTo =>
      cases h
      exact ⟨t, c, u, a, [], calls.reaches, failure, hs⟩
  | reload =>
    have closed : Reaches g s (s.close g).2 := .single (.close s)
    change (match (s.reload g).1 with
      | .error e => some e
      | .ok _ => none) = some e at h
    have hs : s.act g .reload = (s.reload g).2.2 := rfl
    have hout := reload_outcome g s
    generalize s.reload g = r at h hs hout
    cases hout with
    | idle => cases h
    | completed notices held calls all => cases h
    | @failed token made t u c rest e' notices held calls failure upTo =>
      cases h
      exact ⟨t, c, u, ⟨none, none, none, false⟩, u.queue, closed.trans calls.reaches, failure, hs⟩

end Session

namespace Gateway.Simulates

open Session

variable {σ τ : Type} {f : τ → σ} {h : Gateway τ} {g : Gateway σ}

lemma load_map (s : Session τ) (source : String) :
    (s.map f).load source = (s.load source).map (Session.map f) := by
  unfold load
  rw [map_listener]
  cases Script.compile? s.listener source <;> rfl

lemma act (sim : Simulates f h g) (s : Session τ) (action : Action) :
    (s.map f).act g action = (s.act h action).map f := by
  cases action with
  | load source =>
    change ((s.map f).load source).toOption.getD (s.map f) =
      ((s.load source).toOption.getD s).map f
    rw [load_map]
    cases s.load source <;> rfl
  | execute a => exact congrArg Execution.session (sim.execute a s)
  | reload => exact congrArg (·.2.2) (sim.reload s)
  | close => exact congrArg Prod.snd (sim.close s)

/-- A run over a gateway is the image of a run over any gateway that answers alike. -/
theorem play (sim : Simulates f h g) (s : Session τ) (actions : List Action) :
    (s.map f).play g actions = (s.play h actions).map f := by
  induction actions generalizing s with
  | nil => rfl
  | cons action actions ih =>
    change ((s.map f).act g action).play g actions = ((s.act h action).play h actions).map f
    rw [sim.act, ih]

theorem callError? (sim : Simulates f h g) (s : Session τ) (action : Action) :
    (s.map f).callError? g action = s.callError? h action := by
  cases action with
  | load source => rfl
  | execute a => simp only [Session.callError?, sim.execute, Execution.map]
  | reload => simp only [Session.callError?, sim.reload]
  | close => rfl

end Gateway.Simulates

end ChatQuery
