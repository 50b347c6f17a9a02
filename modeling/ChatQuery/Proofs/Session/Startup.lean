import ChatQuery.Proofs.Script.Marked
import ChatQuery.Proofs.Script.Statements
import ChatQuery.Proofs.Session.Pieces

/-!
Two ways to start up a session: the arguments of an execution, and a `USE` at the front of its
queue. Both make the same calls, so they come to the same, whatever the gateway answers and wherever
a call fails; only the reports tell them apart, since calls of arguments are not reported.
-/
namespace ChatQuery

variable {token guild channel : String}

/-- The calls that connect with a token and select a guild and a channel. -/
def startup (token guild channel : String) : List Call :=
  [.login token, .selectGuild guild, .selectChannel channel]

section Compiling

variable {listener : Listener} {d : Directive} {source : String}

/-- A `USE` of a token, a guild and a channel. -/
structure Directive.StartsUp (d : Directive) (token guild channel : String) : Prop where
  opening : d.head.key = .keyword .use
  values : d.values.map (fun o => (o.text, o.mark)) =
    [(token, some (.mark .token)), (guild, some (.mark .guild)), (channel, some (.mark .channel))]

lemma Directive.useCalls?_startup (token_ok : isBotToken token = true)
    (guild_ok : isSnowflake guild = true) (channel_ok : isSnowflake channel = true)
    (h : d.StartsUp token guild channel) :
    (∀ o ∈ d.values, o.fault? = none) ∧ d.useCalls? = .ok (startup token guild channel) := by
  obtain ⟨⟨i, key₁, token', _⟩, rest, hvalues, ht, h⟩ := List.map_eq_cons_iff.mp h.values
  obtain ⟨⟨j, key₂, guild', _⟩, rest, rfl, hg, h⟩ := List.map_eq_cons_iff.mp h
  obtain ⟨⟨k, key₃, channel', _⟩, rest, rfl, hc, h⟩ := List.map_eq_cons_iff.mp h
  obtain rfl := List.map_eq_nil_iff.mp h
  obtain ⟨rfl, rfl⟩ := Prod.mk.inj ht
  obtain ⟨rfl, rfl⟩ := Prod.mk.inj hg
  obtain ⟨rfl, rfl⟩ := Prod.mk.inj hc
  rw [useCalls?_eq_ok_iff, hvalues]
  refine ⟨by simp [Operand.fault?, token_ok, guild_ok, channel_ok], List.cons_ne_nil _ _, ?_⟩
  simp only [List.mapM_cons, List.mapM_nil, useCall?, Operand.has, Operand.id?, token_ok, guild_ok,
    channel_ok, if_true]
  rfl

namespace Script

lemma ofDirectives?_startup (token_ok : isBotToken token = true)
    (guild_ok : isSnowflake guild = true) (channel_ok : isSnowflake channel = true)
    (h : d.StartsUp token guild channel) (target : ∀ t ∈ d.target, t ∈ d.values) :
    ofDirectives? listener [d] = .ok ⟨startup token guild channel, 0⟩ := by
  obtain ⟨sound, huse⟩ := Directive.useCalls?_startup token_ok guild_ok channel_ok h
  have hcalls : d.calls? listener = .ok (startup token guild channel) := by
    refine Directive.calls?_eq_ok_iff.mpr ⟨.use, h.opening, ?_, huse⟩
    intro o ho
    rcases List.mem_append.mp ho with ho | ho
    · exact sound o (target o (Option.mem_toList.mp ho))
    · exact sound o ho
  have unflipped : d.head.key ≠ .keyword .raw := by
    rw [h.opening]
    nofun
  exact ofDirectives?_single unflipped hcalls

theorem compile?_startup (token_ok : isBotToken token = true) (guild_ok : isSnowflake guild = true)
    (channel_ok : isSnowflake channel = true) (hd : directives? source = .ok [d])
    (h : d.StartsUp token guild channel) :
    compile? listener source = .ok ⟨startup token guild channel, 0⟩ := by
  have target : ∀ t ∈ d.target, t ∈ d.values := by
    obtain ⟨sts, -, hsts⟩ := map_eq_ok hd
    obtain ⟨s, rfl, rfl⟩ := List.map_eq_singleton_iff.mp hsts
    have opening : s.head.kind = .keyword .use := h.opening
    intro t ht
    exact s.target_mem_values (by rw [opening]; rfl) (by rw [opening]; nofun) ht
  unfold compile?
  rw [hd]
  exact ofDirectives?_startup token_ok guild_ok channel_ok h target

end Script

/-- The source text of a `USE` of a token, a guild and a channel. -/
def startupSource (token guild channel : String) : String :=
  "USE" ++ String.ofList (markedText token .token ++ (markedText guild .guild ++
    (markedText channel .channel ++ [';'])))

/-- The tokens that are seen of it, up to the semicolon. -/
def startupGroup (token guild channel : String) : List Token :=
  [Opener.use.token, (markedLeaf token .token).token, ⟨0, .mark .token, none⟩,
    (markedLeaf guild .guild).token, ⟨0, .mark .guild, none⟩,
    (markedLeaf channel .channel).token, ⟨0, .mark .channel, none⟩]

lemma seen_startupSource : seen (startupSource token guild channel).toList =
    startupGroup token guild channel ++ [⟨0, .semicolon, none⟩, ⟨0, .endOfText, none⟩] := by
  have source : (startupSource token guild channel).toList =
      'U' :: (['S', 'E'] ++ (markedText token .token ++ (markedText guild .guild ++
        (markedText channel .channel ++ [';'])))) := by
    simp [startupSource]
  rw [source, seen_word (k := .use) (by decide) rfl, seen_markedText _ _ rfl,
    seen_markedText _ _ rfl, seen_markedText _ _ rfl, seen_semicolon, seen_nil]
  rfl

/-- Their tree. -/
def startupStatement (token guild channel : String) : Statement :=
  ⟨Opener.use.token, [.leaf (markedLeaf token .token), .leaf (markedLeaf guild .guild),
    .leaf (markedLeaf channel .channel)]⟩

lemma ofTokens?_startupGroup : Statement.ofTokens?
    (startupGroup token guild channel ++ [⟨0, .semicolon, none⟩, ⟨0, .endOfText, none⟩]) =
      .ok [startupStatement token guild channel] :=
  Statement.ofTokens?_marked .use [(token, .token), (guild, .guild), (channel, .channel)]

lemma startsUp_startupStatement (some_token : token ≠ "") (some_guild : guild ≠ "")
    (some_channel : channel ≠ "") :
    (startupStatement token guild channel).directive.StartsUp token guild channel where
  opening := rfl
  values := by
    have values : (startupStatement token guild channel).values =
        [⟨0, .literal .string, token, some (.mark .token)⟩,
          ⟨0, .literal .string, guild, some (.mark .guild)⟩,
          ⟨0, .literal .string, channel, some (.mark .channel)⟩] := by
      simp [Statement.values, startupStatement, Part.values, Opener.token, Opener.keyword,
        operand?_markedLeaf, some_token, some_guild, some_channel]
    exact congrArg (List.map _) values

namespace Script

/-- Every token, guild and channel can be used. -/
theorem compile?_startupSource (token_ok : isBotToken token = true)
    (guild_ok : isSnowflake guild = true) (channel_ok : isSnowflake channel = true) :
    compile? listener (startupSource token guild channel) =
      .ok ⟨startup token guild channel, 0⟩ := by
  have some_token : token ≠ "" := by
    rintro rfl
    exact absurd token_ok (by decide)
  have some_guild : guild ≠ "" := by
    rintro rfl
    exact absurd guild_ok (by decide)
  have some_channel : channel ≠ "" := by
    rintro rfl
    exact absurd channel_ok (by decide)
  have compiled : ofDirectives? listener [(startupStatement token guild channel).directive] =
      .ok ⟨startup token guild channel, 0⟩ :=
    ofDirectives?_startup token_ok guild_ok channel_ok
      (startsUp_startupStatement some_token some_guild some_channel)
      fun t ht => Statement.target_mem_values rfl nofun ht
  rw [← toOption_eq_some, toOption_compile?_seen, seen_startupSource]
  unfold ofTokens?
  rw [ofTokens?_startupGroup, toOption_ok, Option.bind_some, List.map_singleton, compiled]
  rfl

end Script

end Compiling

namespace Session

variable {σ : Type} {s : Session σ}

lemma startCalls_startup (unconnected : s.connected = false) (guild_ok : isSnowflake guild = true)
    (channel_ok : isSnowflake channel = true) (close : Bool) :
    s.startCalls ⟨some token, some guild, some channel, close⟩ = startup token guild channel := by
  simp [startCalls, startup, unconnected, guild_ok, channel_ok]

lemma sound_startup (token_ok : isBotToken token = true) (guild? channel? : Option String)
    (close : Bool) : ¬ s.RefusesToken ⟨some token, guild?, channel?, close⟩ := by
  rintro ⟨t, ht, -, bad⟩
  cases ht
  exact Bool.false_ne_true (bad.symm.trans token_ok)

/-- A session that is not connected can be started up with arguments or with a `USE` at the front of
its queue: the contacts with the gateway, the session and the result are the same, whatever the
gateway answers. The reports are the same but for those of the `USE`, which come first. -/
theorem startup_agrees (g : Gateway σ) (s : Session σ) (unconnected : s.connected = false) (close : Bool)
    (token_ok : isBotToken token = true) (guild_ok : isSnowflake guild = true)
    (channel_ok : isSnowflake channel = true) :
    (∀ listener source d, Script.directives? source = .ok [d] → d.StartsUp token guild channel →
      Script.compile? listener source =
        .ok ⟨[.login token, .selectGuild guild, .selectChannel channel], 0⟩) ∧
    (∀ listener, Script.compile? listener (startupSource token guild channel) =
      .ok ⟨[.login token, .selectGuild guild, .selectChannel channel], 0⟩) ∧
    let a : Arguments := ⟨some token, some guild, some channel, close⟩
    let t : Session σ :=
      { s with queue := [.login token, .selectGuild guild, .selectChannel channel] ++ s.queue }
    let given := s.observed.execute g.recorded a
    let used := t.observed.execute g.recorded (.bare close)
    given.map Prod.fst = s.execute g a ∧ used.map Prod.fst = t.execute g (.bare close) ∧
      given.session = used.session ∧ given.session.queue = [] ∧ given.result = used.result ∧
      given.reports = used.reports.drop 3 ∧
      (used.reports.take 3).map Prod.fst <+: [.login, .selectGuild, .selectChannel] := by
  refine ⟨fun _ _ _ hd h => Script.compile?_startup token_ok guild_ok channel_ok hd h,
    fun _ => Script.compile?_startupSource token_ok guild_ok channel_ok, ?_⟩
  intro a t given used
  refine ⟨observed_execute _ _, observed_execute _ _, ?_⟩
  -- Both executions work off this one list of calls.
  let worked := s.observed.drain g.recorded (startup token guild channel ++ s.queue)
  have calls : s.observed.startCalls a = startup token guild channel :=
    startCalls_startup unconnected guild_ok channel_ok close
  obtain ⟨_, hgiven⟩ : ∃ notices, given = ⟨worked.1.mapError .call, worked.2.1.drop 3, notices,
      finish g.recorded a { worked.2.2 with queue := [] }⟩ := by
    have drained := execute_drains (g := g.recorded) (s := s.observed) (a := a)
      (sound_startup token_ok _ _ close)
    rwa [calls] at drained
  obtain ⟨_, hused⟩ : ∃ notices, used = ⟨worked.1.mapError .call, worked.2.1, notices,
      finish g.recorded (.bare close) { worked.2.2 with queue := [] }⟩ := by
    have drained := execute_bare g.recorded t.observed close
    rwa [show t.observed.drain g.recorded t.observed.queue = worked from
      drain_with_queue s.observed _ _] at drained
  rw [hgiven, hused]
  refine ⟨rfl, finish_queue _, rfl, rfl, ?_⟩
  rw [List.map_take]
  exact (operations_of_drain g.recorded (startup token guild channel ++ s.queue) _).take 3

/-- Both fail alike where the channel is refused. -/
theorem startup_agrees_refused :
    let token := "AAAAAAAAAAAAAAAAAAAAAAAA.BBBBBB.CCCCCCCCCCCCCCCCCCCCCCCCCCC"
    let id := "364140226775784869"
    let gateway := Scripted.start [⟨.selectChannel, 1, .notFound "channel" id⟩] none false
    let s := { start gateway with queue := [.showGuilds none] }
    let given := s.observed.execute Scripted.gateway.recorded ⟨some token, some id, some id, true⟩
    let used := { s with queue := startup token id id ++ s.queue }.observed.execute
      Scripted.gateway.recorded (.bare true)
    s.connected = false ∧ isBotToken token = true ∧ isSnowflake id = true ∧
      given.result =
        .error (.call ⟨.selectChannel, true, true, false, some (.notFound "channel" id)⟩) ∧
      given.session = used.session ∧ given.result = used.result ∧
      given.reports = used.reports.drop 3 := by
  intro token id gateway s given used
  have token_ok : isBotToken token = true := by decide +kernel
  have id_ok : isSnowflake id = true := by decide +kernel
  obtain ⟨-, -, -, -, session, -, result, reports, -⟩ :=
    startup_agrees Scripted.gateway s rfl true token_ok id_ok id_ok
  exact ⟨rfl, token_ok, id_ok, by decide +kernel, session, result, reports⟩

end Session
end ChatQuery
