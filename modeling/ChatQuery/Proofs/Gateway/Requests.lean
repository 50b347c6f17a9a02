import ChatQuery.Proofs.Gateway.Reachable

/-!
Requests to the offline gateway, one after another. Whatever is asked for, the first thing that is
missing is what the request is refused for, and a request that is refused changes nothing.
-/
namespace ChatQuery

/-- What the offline gateway can be asked for: a call, the closing of its connection, a page of
messages, or the deletion of some. -/
inductive Request
  | call (c : Call)
  | destroy
  | fetch (w : Window)
  | delete (ids : List String)

/-- What has to be there for a request, whatever its arguments are. -/
inductive Need
  | nothing | connection | guild | channel
  deriving DecidableEq

def Call.need : Call → Need
  | .login _ => .nothing
  | .selectGuild _ | .selectChannel _ | .fetchGuild _ | .fetchChannel _ | .fetchUser _
  | .showGuilds _ | .updatePresence _ | .listenClient _ => .connection
  | .fetchMember _ | .showChannels _ | .showMembers _ | .listenGuild _ => .guild
  | .sendMessage _ | .editMessage _ | .deleteMessage _ | .deleteMessages _ | .readChannel _
  | .listenChannel _ => .channel

def Request.need : Request → Need
  | .call c => c.need
  | .destroy => .nothing
  | .fetch _ | .delete _ => .channel

/-- The complaints about something that is missing altogether. -/
def GatewayError.Lacks : GatewayError → Prop
  | .notConnected | .noGuildSelected | .noChannelSelected => True
  | .invalidId _ _ | .notFound _ _ | .api _ _ | .other _ => False

namespace Offline

variable {s t : Offline} {c : Call} {r : Request} {e : GatewayError}

/-- Whether a request succeeds, and the state after it. -/
def serve (s : Offline) : Request → Answer Offline Unit
  | .call c => (passed (call c s).1, (call c s).2)
  | .destroy => destroy s
  | .fetch w => (passed (fetch w s).1, (fetch w s).2)
  | .delete ids => delete ids s

lemma reachable_serve (h : Reachable s) (r : Request) : Reachable (s.serve r).2 := by
  cases r with
  | call c => exact h.call c
  | destroy => exact h.destroy
  | fetch w => exact h.fetch w
  | delete ids => exact h.delete ids

/-- The state after a sequence of requests. -/
def after (s : Offline) (rs : List Request) : Offline := rs.foldl (fun s r => (s.serve r).2) s

/-- A request and the state that it met. -/
structure Visit where
  met : Offline
  request : Request

def Visit.succeeds (v : Visit) : Bool := (v.met.serve v.request).1.isOk

/-- The requests of a sequence with the states that they meet, the oldest first. -/
def log (s : Offline) : List Request → List Visit
  | [] => []
  | r :: rs => ⟨s, r⟩ :: log (s.serve r).2 rs

/-- What holds before the first request and is kept by each, of the state and of the log up to it,
holds after all of them. -/
theorem kept_by_requests {P : List Visit → Offline → Prop} (first : P [] s)
    (step : ∀ log t r, P log t → P (log ++ [⟨t, r⟩]) (t.serve r).2) (rs : List Request) :
    P (s.log rs) (s.after rs) := by
  -- Later requests meet a longer log and another state, so both vary in the induction.
  suffices later : ∀ (before : List Visit) (t : Offline), P before t →
      P (before ++ t.log rs) (t.after rs) from later [] s first
  induction rs with
  | nil =>
    intro before t h
    rw [log, List.append_nil]
    exact h
  | cons r rs ih =>
    intro before t h
    have next := ih (before ++ [⟨t, r⟩]) (t.serve r).2 (step before t r h)
    rw [List.append_assoc] at next
    exact next

/-- The states that agree in the count of messages and in the listeners. -/
structure SameService (s t : Offline) : Prop where
  sent : t.sent = s.sent
  listeners : t.listeners = s.listeners

/-- Only sending counts a message, and only listening registers a listener. -/
lemma call_sameService (s : Offline)
    (other : c.operation ∉ [.sendMessage, .listenClient, .listenGuild, .listenChannel]) :
    SameService s (call c s).2 := by
  cases c with
  | sendMessage body | listenClient sub | listenGuild sub | listenChannel sub =>
    simp [Call.operation] at other
  | login token | selectGuild id | selectChannel id | editMessage edit | deleteMessage id
  | updatePresence presence =>
    simp only [call, login, selectGuild, selectChannel, editMessage, deleteMessage, updatePresence]
    split <;> exact ⟨rfl, rfl⟩
  | deleteMessages w =>
    change SameService s (s.deleteMessages w).2
    unfold deleteMessages
    cases h : s.selectedChannel? with
    | error e => exact ⟨rfl, rfl⟩
    | ok c =>
      obtain ⟨all, -, hd⟩ := deleteAll_of_channel h w
      simp only [hd]
      exact ⟨rfl, rfl⟩
  | readChannel w =>
    change SameService s (s.readChannel w).2
    unfold readChannel
    cases h : s.selectedChannel? with
    | error e => exact ⟨rfl, rfl⟩
    | ok c =>
      obtain ⟨all, ha⟩ := collect_of_channel h w
      simp only [ha]
      exact ⟨rfl, rfl⟩
  | _ => exact ⟨rfl, rfl⟩

lemma delete_sameService (ids : List String) (s : Offline) : SameService s (delete ids s).2 := by
  unfold delete
  split <;> exact ⟨rfl, rfl⟩

/-- What is asked for first. -/
def gate (s : Offline) : Need → Except GatewayError Unit
  | .nothing => .ok ()
  | .connection => passed s.checkConnected
  | .guild => passed s.selectedGuild?
  | .channel => passed s.selectedChannel?

/-- The complaints of the three gates, each in the states and about the needs that it is for. -/
lemma gate_eq_error_iff (s : Offline) (n : Need) :
    (s.gate n = .error .notConnected ↔ s.token = none ∧ n ≠ .nothing) ∧
      (s.gate n = .error .noGuildSelected ↔ s.token ≠ none ∧ s.guild = none ∧ n = .guild) ∧
      (s.gate n = .error .noChannelSelected ↔
        s.token ≠ none ∧ s.channel = none ∧ n = .channel) := by
  obtain ⟨token, guild, channel⟩ := s
  cases n <;> cases token <;> cases guild <;> cases channel <;>
    simp [gate, passed, checkConnected, selectedGuild?, selectedChannel?, Except.map]

lemma gate_channel_eq_ok_iff (s : Offline) :
    s.gate .channel = .ok () ↔ s.token ≠ none ∧ s.channel ≠ none := by
  obtain ⟨token, guild, channel⟩ := s
  cases token <;> cases channel <;> simp [gate, passed, selectedChannel?, Except.map]

/-- An answer that is not refused for something missing. -/
def Furnished {α : Type} (answer : Except GatewayError α) : Prop :=
  ∀ e, answer = .error e → ¬ e.Lacks

namespace Furnished

variable {α β : Type}

lemma ok (v : α) : Furnished (.ok v) := nofun

lemma error (h : ¬ e.Lacks) : Furnished (.error e : Except GatewayError α) := by
  rintro _ ⟨⟩
  exact h

lemma bind {answer : Except GatewayError α} {next : α → Except GatewayError β}
    (first : Furnished answer) (rest : ∀ v, Furnished (next v)) :
    Furnished (answer >>= next) := by
  cases answer with
  | error e => exact error (first e rfl)
  | ok v => exact rest v

lemma passed {answer : Except GatewayError α} (h : Furnished answer) :
    Furnished (passed answer) := by
  cases answer with
  | error e => exact error (h e rfl)
  | ok v => exact ok ()

lemma checkId (what id : String) : Furnished (checkId what id) := by
  unfold Offline.checkId
  split_ifs
  · exact ok ()
  · exact error not_false

end Furnished

/-- How an answer depends on what is asked for first: it is refused for that, or else for nothing
that is missing. -/
inductive Gated (gate : Except GatewayError Unit) : Except GatewayError Unit → Prop
  | shut {e : GatewayError} (closed : gate = .error e) : Gated gate (.error e)
  | entered {answer : Except GatewayError Unit} (opened : gate = .ok ())
    (later : Furnished answer) : Gated gate answer

namespace Gated

variable {α : Type} {gate answer : Except GatewayError Unit} {first : Except GatewayError α}

lemma self (answer : Except GatewayError Unit) : Gated answer answer := by
  cases answer with
  | error e => exact .shut rfl
  | ok _ => exact .entered rfl (.ok _)

lemma bind {next : α → Except GatewayError Unit} (later : ∀ a, Furnished (next a)) :
    Gated (passed first) (first >>= next) := by
  cases first with
  | error e => exact .shut rfl
  | ok a => exact .entered rfl (later a)

lemma passed_bind {β : Type} {next : α → Except GatewayError β}
    (later : ∀ a, Furnished (next a)) : Gated (passed first) (passed (first >>= next)) := by
  cases first with
  | error e => exact .shut rfl
  | ok a => exact .entered rfl (later a).passed

/-- Something is reported missing exactly if it is what was asked for first. -/
lemma eq_error_iff (h : Gated gate answer) (lacks : e.Lacks) :
    answer = .error e ↔ gate = .error e := by
  cases h with
  | shut closed => rw [closed]
  | entered opened later =>
    rw [opened]
    exact ⟨fun he => absurd lacks (later e he), nofun⟩

end Gated

lemma find?_gated (id : String) (s : Offline) : Gated (s.gate .channel) (passed (s.find? id)) := by
  unfold find?
  refine .passed_bind fun c => (Furnished.checkId _ _).bind fun _ => ?_
  split
  · exact .error not_false
  · split
    · exact .error not_false
    · exact .ok _

/-- A call asks first for what its kind needs. -/
lemma check_gated (c : Call) (s : Offline) : Gated (s.gate c.need) (s.check c) := by
  cases c with
  | login token =>
    refine .entered rfl ?_
    rw [check]
    split_ifs
    · exact .ok ()
    · exact .error not_false
  | selectGuild id => exact .bind fun _ => .checkId _ _
  | selectChannel id => exact .bind fun _ => .checkId _ _
  | fetchGuild id => exact .bind fun _ => .checkId _ _
  | fetchChannel id => exact .bind fun _ => .checkId _ _
  | fetchUser id => exact .bind fun _ => .checkId _ _
  | fetchMember id => exact .bind fun _ => .checkId _ _
  | editMessage edit => exact find?_gated _ _
  | deleteMessage id => exact find?_gated _ _
  | _ => exact .self _

lemma passed_call (c : Call) (s : Offline) : passed (call c s).1 = s.check c := by
  have goes := call_goes c s
  generalize call c s = answer at goes
  cases goes with
  | refused check => exact check.symm
  | answered check link => exact check.symm

/-- A call succeeds exactly if its check lets it pass. -/
lemma answered_iff (c : Call) (s : Offline) :
    (∃ v, (call c s).1 = .ok v) ↔ s.check c = .ok () := by
  rw [← passed_call]
  cases (call c s).1 <;> simp [passed, Except.map]

lemma serve_gated (r : Request) (s : Offline) : Gated (s.gate r.need) (s.serve r).1 := by
  cases r with
  | call c =>
    rw [serve, passed_call]
    exact check_gated c s
  | destroy => exact .entered rfl (.ok ())
  | fetch w =>
    change Gated (passed _) (passed (s.selectedChannel?.map _))
    rw [passed_map]
    exact .self _
  | delete ids =>
    change Gated (passed s.selectedChannel?) (delete ids s).1
    unfold delete
    split
    · next missing =>
      rw [missing]
      exact .self _
    · next found =>
      rw [found]
      exact .self _

/-- A request that is refused changes nothing. -/
theorem serve_of_error (h : (s.serve r).1 = .error e) : (s.serve r).2 = s := by
  cases r with
  | call c =>
    change passed (call c s).1 = .error e at h
    change (call c s).2 = s
    have goes := call_goes c s
    generalize call c s = answer at goes h
    cases goes with
    | refused check => rfl
    | answered check link => cases h
  | destroy => cases h
  | fetch w => rfl
  | delete ids =>
    change (delete ids s).1 = .error e at h
    change (delete ids s).2 = s
    unfold delete at h ⊢
    split at h
    · rfl
    · cases h

/-- A refused request changes nothing. Every request but a login and the closing of the connection
is refused for want of a connection exactly if there is none. With a connection, a request is
refused for want of a guild (a channel) exactly if none is selected and the request is one of those
that need one; deleting and reading windows needs nothing else. -/
theorem refusals_exact (s : Offline) (r : Request) :
    (∀ e, (s.serve r).1 = .error e → (s.serve r).2 = s) ∧
      ((s.serve r).1 = .error .notConnected ↔ s.token = none ∧ r.need ≠ .nothing) ∧
      ((s.serve r).1 = .error .noGuildSelected ↔
        s.token ≠ none ∧ s.guild = none ∧ r.need = .guild) ∧
      ((s.serve r).1 = .error .noChannelSelected ↔
        s.token ≠ none ∧ s.channel = none ∧ r.need = .channel) ∧
      ∀ w, ((∃ v, (s.deleteMessages w).1 = .ok v) ↔ s.token ≠ none ∧ s.channel ≠ none) ∧
        ((∃ v, (s.readChannel w).1 = .ok v) ↔ s.token ≠ none ∧ s.channel ≠ none) := by
  have gated := serve_gated r s
  obtain ⟨connection, guild, channel⟩ := s.gate_eq_error_iff r.need
  refine ⟨fun e => serve_of_error, ?_, ?_, ?_, fun w => ⟨?_, ?_⟩⟩
  · exact (gated.eq_error_iff (by trivial)).trans connection
  · exact (gated.eq_error_iff (by trivial)).trans guild
  · exact (gated.eq_error_iff (by trivial)).trans channel
  · exact (answered_iff (.deleteMessages w) s).trans (gate_channel_eq_ok_iff s)
  · exact (answered_iff (.readChannel w) s).trans (gate_channel_eq_ok_iff s)

end Offline
end ChatQuery
