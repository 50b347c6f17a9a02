import ChatQuery.Proofs.Session.Errors

/-!
Opening a connection again. A session is connected exactly if its gateway holds a token. This token
and what the session keeps selected have the form that the gateway asks for, so a reload of a
connected session is never refused.
-/
namespace ChatQuery
namespace Offline

variable {s : Offline} {id token : String}

lemma call_login (h : isBotToken token = true) :
    ∃ v, call (.login token) s = (.ok v, { s with token := some token }) := by
  change ∃ v, s.login token = _
  unfold login
  rw [if_pos h]
  exact ⟨_, rfl⟩

lemma selectable (connected : s.token.isSome = true) (what : String) (h : isSnowflake id = true) :
    (do s.checkConnected; checkId what id) = (.ok () : Except GatewayError Unit) := by
  rw [checkConnected, if_pos connected, checkId, if_pos h]
  rfl

lemma call_selectGuild (connected : s.token.isSome = true) (h : isSnowflake id = true) :
    ∃ v, call (.selectGuild id) s = (.ok v, { s with guild := some id }) := by
  change ∃ v, s.selectGuild id = _
  unfold selectGuild
  rw [selectable connected "guild" h]
  exact ⟨_, rfl⟩

lemma call_selectChannel (connected : s.token.isSome = true) (h : isSnowflake id = true) :
    ∃ v, call (.selectChannel id) s = (.ok v, { s with channel := some id }) := by
  change ∃ v, s.selectChannel id = _
  unfold selectChannel
  rw [selectable connected "channel" h]
  exact ⟨_, rfl⟩

end Offline

namespace Session

section Linked

variable {s t : Session Offline}

/-- The session is connected exactly if its gateway holds a token. -/
def Linked (s : Session Offline) : Prop := s.connected = s.gateway.token.isSome

/-- Whatever a session does, it knows whether its gateway holds a token. -/
theorem Linked.move (h : s.Linked) (m : Move Offline.gateway s t) : t.Linked := by
  cases m with
  | call c =>
    have goes := Offline.call_goes c s.gateway
    rcases hg : Offline.gateway.call c s.gateway with ⟨r, γ⟩
    have hanswer : Offline.call c s.gateway = (r, γ) := hg
    rw [hanswer] at goes
    cases goes with
    | refused check =>
      rw [call_of_error hg]
      exact h
    | answered check link =>
      rw [call_of_ok hg, Linked, remember_gateway]
      change _ = γ.token.isSome
      rw [link.token]
      cases c with
      | login token => rfl
      | _ => exact h
  | close =>
    rw [close_eq]
    rfl
  | requeue q => exact h
  | flip raw => exact h

end Linked

section Steps

variable {σ : Type} {g : Gateway σ} {s t : Session σ}

lemma takeSteps_call {c : Call} {v : Json} (h : s.call g c = (.ok v, t)) (steps : List Step) :
    s.takeSteps g (.call c :: steps) = t.takeSteps g steps := by
  rw [takeSteps, h]

/-- A selection is made if there is something to select. -/
lemma takeSteps_selection {make : String → Call} {id? : Option String}
    (selected : ∀ id, id? = some id → ∃ v, s.call g (make id) = (.ok v, t))
    (nothing : id? = none → t = s) (steps : List Step) :
    s.takeSteps g ((id?.toList.map fun id => .call (make id)) ++ steps) = t.takeSteps g steps := by
  cases id? with
  | none =>
    rw [nothing rfl]
    rfl
  | some id =>
    obtain ⟨v, hcall⟩ := selected id rfl
    exact takeSteps_call hcall steps

end Steps

variable {s : Session Offline} {token : String}

/-- The session with another selection at its gateway. -/
def holding (s : Session Offline) (guild channel : Option String) : Session Offline :=
  { s with gateway := { s.gateway with guild, channel } }

lemma takeSteps_guild (h : s.guild.all isSnowflake = true)
    (connected : s.gateway.token.isSome = true) (steps : List Step) :
    (s.holding none none).takeSteps Offline.gateway
        ((s.guild.toList.map fun id => .call (.selectGuild id)) ++ steps) =
      (s.holding s.guild none).takeSteps Offline.gateway steps := by
  refine takeSteps_selection ?_ (fun hid => by rw [hid]) steps
  intro id hid
  have form : isSnowflake id = true := (Option.all_eq_true _ _).mp h id hid
  obtain ⟨v, hcall⟩ :=
    Offline.call_selectGuild (s := (s.holding none none).gateway) connected form
  refine ⟨v, (call_of_ok hcall).trans ?_⟩
  rw [holding, hid, remember, ← hid]
  rfl

lemma takeSteps_channel (h : s.channel.all isSnowflake = true)
    (connected : s.gateway.token.isSome = true) :
    (s.holding s.guild none).takeSteps Offline.gateway
        (s.channel.toList.map fun id => .call (.selectChannel id)) =
      (.ok (), [], s.holding s.guild s.channel) := by
  rw [← List.append_nil (s.channel.toList.map _)]
  refine takeSteps_selection (t := s.holding s.guild s.channel) ?_ (fun hid => by rw [hid]) []
  intro id hid
  have form : isSnowflake id = true := (Option.all_eq_true _ _).mp h id hid
  obtain ⟨v, hcall⟩ :=
    Offline.call_selectChannel (s := (s.holding s.guild none).gateway) connected form
  refine ⟨v, (call_of_ok hcall).trans ?_⟩
  rw [holding, hid, remember, ← hid]
  rfl

/-- A connected session opens its connection again with the token that the gateway held, and
selects what it keeps. -/
theorem WellFormed.reload_of_linked (h : s.WellFormed) (linked : s.Linked)
    (connected : s.connected = true) :
    s.reload Offline.gateway = (.ok true, [],
      { s with gateway :=
        { s.gateway with guild := s.guild, channel := s.channel, listeners := [] } }) := by
  have some_token : s.gateway.token.isSome = true := linked.symm.trans connected
  obtain ⟨token, held⟩ := Option.isSome_iff_exists.mp some_token
  have form : isBotToken token = true := (Option.all_eq_true _ _).mp h.token token held
  -- The login undoes the closing except for the selections and the listeners.
  let opened : Session Offline := { s with gateway := { s.gateway with listeners := [] } }
  have login : ∃ v, (s.close Offline.gateway).2.call Offline.gateway (.login token) =
      (.ok v, opened.holding none none) := by
    obtain ⟨v, hcall⟩ := Offline.call_login (s := (s.close Offline.gateway).2.gateway) form
    refine ⟨v, (call_of_ok hcall).trans ?_⟩
    rw [remember, ← held, ← connected]
    rfl
  obtain ⟨v, hlogin⟩ := login
  have steps : (s.close Offline.gateway).2.takeSteps Offline.gateway
      ((s.close Offline.gateway).2.reloadSteps token) =
        (.ok (), [], opened.holding s.guild s.channel) := by
    calc
      _ = (opened.holding none none).takeSteps Offline.gateway
          ((s.guild.toList.map fun id => .call (.selectGuild id)) ++
            s.channel.toList.map fun id => .call (.selectChannel id)) := takeSteps_call hlogin _
      _ = (opened.holding s.guild none).takeSteps Offline.gateway
          (s.channel.toList.map fun id => .call (.selectChannel id)) :=
        takeSteps_guild (s := opened) h.guild some_token _
      _ = _ := takeSteps_channel (s := opened) h.channel some_token
  exact reload_of_ok connected held steps

/-- In every run over the offline gateway, a session is connected exactly if the gateway holds a
token. Reloading a session that is not connected changes nothing. Reloading a connected one always
succeeds: the gateway then holds the same token and what the session keeps selected, nobody
listens, and nothing else has changed. -/
theorem reload_restores (listener : Listener) (actions : List Action) :
    let s := (fresh Offline.start listener).play Offline.gateway actions
    (s.connected = true ↔ s.gateway.token.isSome = true) ∧
      s.reload Offline.gateway =
        if s.connected then
          (.ok true, [], { s with gateway :=
            { s.gateway with guild := s.guild, channel := s.channel, listeners := [] } })
        else (.ok false, [], s) := by
  intro s
  have fresh_linked : (fresh Offline.start listener).Linked := rfl
  have linked : s.Linked :=
    kept_by_moves (fun _ _ h m => h.move m) fresh_linked (reaches_play _ _ actions)
  have wellFormed : s.WellFormed := (wellFormed_fresh listener).play actions
  refine ⟨by rw [linked], ?_⟩
  split_ifs with connected
  · exact wellFormed.reload_of_linked linked connected
  · exact reload_of_not_connected (.inl (eq_false_of_ne_true connected))

end Session
end ChatQuery
