import ChatQuery.Proofs.Compile.Generators
import ChatQuery.Proofs.Gateway.Offline
import ChatQuery.Proofs.Session.Run

/-!
The errors that a session over the offline gateway can run into. Every call that it makes is
well-formed, whether it was compiled, starts up the session or restores its connection, so the
gateway only ever refuses a call for want of something.
-/
namespace ChatQuery

/-- Something that the operation needs is missing. Messages are missed only where one is changed or
deleted. -/
def GatewayError.Wants (operation : Operation) : GatewayError → Prop
  | .notConnected | .noGuildSelected | .noChannelSelected => True
  | .notFound _ _ => operation = .editMessage ∨ operation = .deleteMessage
  | .invalidId _ _ | .api _ _ | .other _ => False

/-- The error of a call whose cause is that something is missing. -/
def CallError.Wanting (e : CallError) : Prop :=
  ∃ cause, e.cause = some cause ∧ cause.Wants e.operation

namespace Session

/-- What a session has queued, connects with and selects has the form that is asked for. -/
structure WellFormed (s : Session Offline) : Prop where
  queue : ∀ c ∈ s.queue, c.WellFormed
  token : s.gateway.token.all isBotToken = true
  guild : s.guild.all isSnowflake = true
  channel : s.channel.all isSnowflake = true

variable {s t u : Session Offline} {c : Call} {cs rest : List Call} {made : List (Call × Json)}
  {a : Arguments}

lemma wellFormed_fresh (listener : Listener) : (fresh Offline.start listener).WellFormed :=
  ⟨List.forall_mem_nil _, rfl, rfl, rfl⟩

/-- A well-formed call is only refused for want of something. -/
lemma wanting_of_call {e : CallError} (hc : c.WellFormed)
    (h : s.call Offline.gateway c = (.error e, t)) : e.Wanting := by
  obtain ⟨cause, hcause, rfl, -⟩ := call_error_inv h
  have refused : (Offline.call c s.gateway).1 = .error cause := congrArg Prod.fst hcause
  refine ⟨cause, rfl, ?_⟩
  cases Offline.call_reasoned c s.gateway cause refused with
  | connection missing => trivial
  | guild missing => trivial
  | channel missing => trivial
  | message named =>
    change c.operation = _ ∨ c.operation = _
    simpa using named
  | token malformed => exact absurd hc malformed
  | id malformed => exact absurd hc malformed

namespace WellFormed

/-- A well-formed call leaves the session well-formed, whether it succeeds or not. -/
theorem call (h : s.WellFormed) (hc : c.WellFormed) :
    (s.call Offline.gateway c).2.WellFormed := by
  have goes := Offline.call_goes c s.gateway
  rcases hg : Offline.gateway.call c s.gateway with ⟨r, γ⟩
  have hanswer : Offline.call c s.gateway = (r, γ) := hg
  rw [hanswer] at goes
  cases goes with
  | refused check =>
    rw [call_of_error hg]
    exact ⟨h.queue, h.token, h.guild, h.channel⟩
  | answered check link =>
    have token : γ.token.all isBotToken = true := by
      rw [link.token]
      cases c <;> first | exact h.token | exact hc
    rw [call_of_ok hg]
    cases c with
    | selectGuild id => exact ⟨h.queue, token, hc, h.channel⟩
    | selectChannel id => exact ⟨h.queue, token, h.guild, hc⟩
    | _ => exact ⟨h.queue, token, h.guild, h.channel⟩

theorem succeeds (h : s.WellFormed) (calls : Succeeds Offline.gateway s made t)
    (hmade : ∀ c ∈ made.map Prod.fst, c.WellFormed) : t.WellFormed := by
  induction calls with
  | done s => exact h
  | @next s t u c v made first rest ih =>
    obtain ⟨hc, hlater⟩ := List.forall_mem_cons.mp hmade
    have hnext := h.call hc
    rw [first] at hnext
    exact ih hnext hlater

/-- The first call that fails leaves the session well-formed, and fails for want of something. -/
lemma fails {e : CallError} (h : s.WellFormed) (calls : Succeeds Offline.gateway s made t)
    (failure : t.call Offline.gateway c = (.error e, u))
    (hcalls : ∀ d ∈ made.map Prod.fst ++ c :: rest, d.WellFormed) :
    u.WellFormed ∧ e.Wanting := by
  obtain ⟨hmade, hc⟩ := List.forall_mem_append.mp hcalls
  obtain ⟨hc, -⟩ := List.forall_mem_cons.mp hc
  have hfailed := (h.succeeds calls hmade).call hc
  rw [failure] at hfailed
  exact ⟨hfailed, wanting_of_call hc failure⟩

lemma requeue (h : s.WellFormed) (hcs : ∀ c ∈ cs, c.WellFormed) :
    ({ s with queue := cs } : Session Offline).WellFormed :=
  ⟨hcs, h.token, h.guild, h.channel⟩

lemma close (h : s.WellFormed) : (s.close Offline.gateway).2.WellFormed := by
  rw [close_eq]
  exact ⟨h.queue, rfl, h.guild, h.channel⟩

lemma load {source : String} (h : s.WellFormed) (hl : s.load source = .ok t) : t.WellFormed := by
  obtain ⟨script, hscript, rfl⟩ := load_inv hl
  exact ⟨List.forall_mem_append.mpr ⟨h.queue, Script.wellFormed_of_compile? hscript⟩, h.token,
    h.guild, h.channel⟩

lemma startCalls (s : Session Offline) (sound : ¬ s.RefusesToken a) :
    ∀ c ∈ s.startCalls a, c.WellFormed := by
  unfold Session.startCalls
  simp only [List.forall_mem_append, List.forall_mem_map, List.mem_filter]
  refine ⟨⟨?_, fun id hid => hid.2⟩, fun id hid => hid.2⟩
  split_ifs with connected
  · exact List.forall_mem_nil _
  · rw [List.forall_mem_map]
    intro token htoken
    by_contra malformed
    exact sound ⟨token, Option.mem_toList.mp htoken, eq_false_of_ne_true connected,
      eq_false_of_ne_true malformed⟩

lemma reloadCalls (h : s.WellFormed) {token : String} (htoken : isBotToken token = true) :
    ∀ c ∈ s.reloadCalls token, c.WellFormed := by
  unfold Session.reloadCalls
  simp only [List.forall_mem_cons, List.forall_mem_append, List.forall_mem_map]
  refine ⟨htoken, fun id hid => ?_, fun id hid => ?_⟩
  · exact (Option.all_eq_true _ _).mp h.guild id (Option.mem_toList.mp hid)
  · exact (Option.all_eq_true _ _).mp h.channel id (Option.mem_toList.mp hid)

lemma outcome {x : Execution Offline} (h : s.WellFormed) (hx : Outcome Offline.gateway a s x) :
    x.session.WellFormed ∧ ∀ e, x.result = .error (.call e) → e.Wanting := by
  have planned (sound : ¬ s.RefusesToken a) : ∀ c ∈ s.startCalls a ++ s.queue, c.WellFormed :=
    List.forall_mem_append.mpr ⟨startCalls s sound, h.queue⟩
  cases hx with
  | refused notices token =>
    refine ⟨h.requeue (List.forall_mem_nil _), ?_⟩
    rintro _ ⟨⟩
  | completed notices sound calls all =>
    have hmade := planned sound
    rw [all] at hmade
    refine ⟨(h.succeeds calls hmade).requeue (List.forall_mem_nil _), ?_⟩
    rintro _ ⟨⟩
  | failed notices sound calls failure upTo =>
    have hcalls := planned sound
    rw [upTo] at hcalls
    obtain ⟨hu, wanting⟩ := h.fails calls failure hcalls
    refine ⟨hu.requeue (List.forall_mem_nil _), ?_⟩
    rintro _ ⟨⟩
    exact wanting

lemma reloaded {r : Except CallError Bool × List Notice × Session Offline} (h : s.WellFormed)
    (hr : Reloaded Offline.gateway s r) :
    r.2.2.WellFormed ∧ ∀ e, r.1 = .error e → e.Wanting := by
  have planned {token : String} (held : Offline.gateway.token s.gateway = some token) :
      ∀ c ∈ (s.close Offline.gateway).2.reloadCalls token, c.WellFormed :=
    h.close.reloadCalls ((Option.all_eq_true _ _).mp h.token token held)
  cases hr with
  | idle =>
    refine ⟨h, ?_⟩
    rintro _ ⟨⟩
  | completed notices held calls all =>
    have hmade := planned held
    rw [all] at hmade
    refine ⟨h.close.succeeds calls hmade, ?_⟩
    rintro _ ⟨⟩
  | failed notices held calls failure upTo =>
    have hcalls := planned held
    rw [upTo] at hcalls
    obtain ⟨hu, wanting⟩ := h.close.fails calls failure hcalls
    refine ⟨hu, ?_⟩
    rintro _ ⟨⟩
    exact wanting

lemma finish (h : s.WellFormed) : (finish Offline.gateway a s).WellFormed := by
  unfold Session.finish
  split_ifs
  · exact h.close
  · exact h

/-- Whatever a session does, it stays well-formed. -/
theorem act (h : s.WellFormed) (action : Action) : (s.act Offline.gateway action).WellFormed := by
  cases action with
  | load source =>
    change ((s.load source).toOption.getD s).WellFormed
    cases hl : s.load source with
    | error d => exact h
    | ok t => exact h.load hl
  | execute a =>
    obtain ⟨notices, hx⟩ := execute_eq Offline.gateway a s
    have hout := run_outcome Offline.gateway a s
    change (s.execute Offline.gateway a).session.WellFormed
    rw [hx]
    exact (h.outcome hout).1.finish
  | reload =>
    have hout := reload_outcome Offline.gateway s
    exact (h.reloaded hout).1
  | close => exact h.close

theorem play (h : s.WellFormed) (actions : List Action) :
    (s.play Offline.gateway actions).WellFormed := by
  induction actions generalizing s with
  | nil => exact h
  | cons action actions ih => exact ih (h.act action)

theorem wanting {action : Action} {e : CallError} (h : s.WellFormed)
    (he : s.callError? Offline.gateway action = some e) : e.Wanting := by
  cases action with
  | load source => cases he
  | close => cases he
  | execute a =>
    obtain ⟨notices, hx⟩ := execute_eq Offline.gateway a s
    have hout := run_outcome Offline.gateway a s
    simp only [callError?, hx] at he
    split at he
    · next e' failed =>
      cases he
      exact (h.outcome hout).2 e failed
    · cases he
  | reload =>
    have hout := reload_outcome Offline.gateway s
    simp only [callError?] at he
    split at he
    · next e' failed =>
      cases he
      exact (h.reloaded hout).2 e failed
    · cases he

end WellFormed

/-- What a directive compiles to is well-formed. Hence, in every run over the offline gateway, every
call that fails does so for want of a connection, of a selection, or of the message that it was to
change or delete. -/
theorem fails_only_wanting (listener : Listener) :
    (∀ (d : Directive) calls, d.calls? listener = .ok calls → ∀ c ∈ calls, c.WellFormed) ∧
      ∀ (actions : List Action) (action : Action) (e : CallError),
        ((fresh Offline.start listener).play Offline.gateway actions).callError? Offline.gateway
          action = some e → e.Wanting :=
  ⟨fun _ _ h => Directive.wellFormed_of_calls? h,
    fun actions _ _ he => ((wellFormed_fresh listener).play actions).wanting he⟩

end Session

end ChatQuery
