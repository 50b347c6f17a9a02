import ChatQuery.Gateway.Offline
import ChatQuery.Proofs.History.Paging
import ChatQuery.Proofs.WellFormed
import Mathlib.Tactic.Common

/-!
What calls do to the offline gateway. A call is refused by a check that it makes before anything
else, and then it changes nothing; otherwise it succeeds, and only logins and selections change what
is connected and selected.
-/
namespace ChatQuery
namespace Offline

variable {s : Offline} {c : String}

lemma fetch_of_channel (h : s.selectedChannel? = .ok c) (w : Window) :
    source.fetch w s = (.ok (page (s.inChannel c) w), s) := by
  change fetch w s = _
  unfold fetch
  rw [h]
  rfl

lemma continued_of_channel (h : s.selectedChannel? = .ok c) (w : Window)
    (items : List StoredMessage) :
    ∃ all, source.continued w items s = (.ok all, s) := by
  fun_induction source.continued w items s with
  | case1 items s short none => exact ⟨items, rfl⟩
  | case2 items s short last hl e t hf =>
    rw [fetch_of_channel h] at hf
    cases hf
  | case3 items s short last hl t hf =>
    have ht : t = s := congrArg Prod.snd (hf.symm.trans (fetch_of_channel h _))
    exact ⟨items, congrArg (Prod.mk _) ht⟩
  | case4 items s short last hl i more t hf ih =>
    have ht : t = s := congrArg Prod.snd (hf.symm.trans (fetch_of_channel h _))
    subst ht
    exact ih h
  | case5 items s full => exact ⟨items, rfl⟩

/-- Reading a window leaves the gateway as it is. -/
lemma collect_of_channel (h : s.selectedChannel? = .ok c) (w : Window) :
    ∃ all, source.collect w s = (.ok all, s) := by
  by_cases unwanted : w.limit = 0
  · exact ⟨[], MessageSource.collect_of_unwanted unwanted⟩
  · obtain ⟨all, hall⟩ := continued_of_channel h w (page (s.inChannel c) { w with
      limit := min w.limit MessageSource.pageSize })
    refine ⟨all.take w.limit, ?_⟩
    rw [MessageSource.collect_of_page unwanted (fetch_of_channel h _), hall]
    rfl

/-- The gateway without the messages that have the identifiers. -/
def without (s : Offline) (ids : List String) : Offline :=
  { s with messages := s.messages.filter fun m => !ids.contains m.id }

lemma without_nil (s : Offline) : s.without [] = s := by
  have all : s.messages.filter (fun m => !([] : List String).contains m.id) = s.messages :=
    List.filter_eq_self.mpr fun _ _ => rfl
  rw [without, all]

lemma without_append (s : Offline) (ids more : List String) :
    s.without (ids ++ more) = (s.without ids).without more := by
  simp only [without, List.filter_filter, List.contains_append, Bool.not_or, Bool.and_comm]

lemma delete_of_channel (h : s.selectedChannel? = .ok c) (ids : List String) :
    source.delete ids s = (.ok (), s.without ids) := by
  change delete ids s = _
  unfold delete
  rw [h]
  rfl

/-- Page after page, exactly the messages with the identifiers go. -/
lemma deletePages_of_channel (h : s.selectedChannel? = .ok c) (pages : List (List String)) :
    source.deletePages pages s = (.ok (), s.without pages.flatten) := by
  induction pages generalizing s with
  | nil => rw [List.flatten_nil, without_nil, MessageSource.deletePages]
  | cons ids pages ih =>
    unfold MessageSource.deletePages
    rw [delete_of_channel h, List.flatten_cons, without_append]
    exact ih h

/-- Deleting a window removes exactly what reading it collects, and touches nothing else. -/
lemma deleteAll_of_channel (h : s.selectedChannel? = .ok c) (w : Window) :
    ∃ all, source.collect w s = (.ok all, s) ∧
      source.deleteAll w s = (.ok (all.map (·.id)), s.without (all.map (·.id))) := by
  obtain ⟨all, hall⟩ := collect_of_channel h w
  have hdelete := deletePages_of_channel h (MessageSource.pages (all.map source.idOf))
  rw [MessageSource.flatten_pages] at hdelete
  refine ⟨all, hall, ?_⟩
  simp only [MessageSource.deleteAll, hall, hdelete]
  rfl

lemma readChannel_of_collect {w : Window} {all : List StoredMessage}
    (h : s.selectedChannel? = .ok c) (hall : source.collect w s = (.ok all, s)) :
    s.readChannel w = (.ok (.arr (all.map StoredMessage.toJson)), s) := by
  simp only [readChannel, h, hall]

lemma deleteMessages_of_collect {w : Window} {all : List StoredMessage}
    (h : s.selectedChannel? = .ok c) (hall : source.collect w s = (.ok all, s)) :
    s.deleteMessages w =
      (.ok (.ofStrings (all.map (·.id))), s.without (all.map (·.id))) := by
  obtain ⟨removed, hcollect, hdelete⟩ := deleteAll_of_channel h w
  cases hall.symm.trans hcollect
  simp only [deleteMessages, h, hdelete]

/-- Whether something is there, whatever it is. -/
def passed {α : Type} (a : Except GatewayError α) : Except GatewayError Unit := a.map fun _ => ()

lemma passed_map {α β : Type} (f : α → β) (a : Except GatewayError α) :
    passed (a.map f) = passed a := by
  cases a <;> rfl

/-- What a call asks for before it does anything. -/
def check (s : Offline) : Call → Except GatewayError Unit
  | .login token =>
    if isBotToken token then .ok () else .error (.api 401 "An invalid token was provided.")
  | .selectGuild id | .fetchGuild id => do s.checkConnected; checkId "guild" id
  | .selectChannel id | .fetchChannel id => do s.checkConnected; checkId "channel" id
  | .fetchUser id => do s.checkConnected; checkId "user" id
  | .fetchMember id => do let _ ← s.selectedGuild?; checkId "user" id
  | .showGuilds _ | .updatePresence _ | .listenClient _ => passed s.checkConnected
  | .showChannels _ | .showMembers _ | .listenGuild _ => passed s.selectedGuild?
  | .sendMessage _ | .deleteMessages _ | .readChannel _ | .listenChannel _ =>
    passed s.selectedChannel?
  | .editMessage edit => passed (s.find? edit.messageId)
  | .deleteMessage id => passed (s.find? id)

/-- What a call that succeeds connects or selects. -/
def linked (s : Offline) : Call → Offline
  | .login token => { s with token := some token }
  | .selectGuild id => { s with guild := some id }
  | .selectChannel id => { s with channel := some id }
  | _ => s

/-- The states that differ at most in messages, listeners and the presence. -/
structure SameLink (s t : Offline) : Prop where
  token : t.token = s.token
  guild : t.guild = s.guild
  channel : t.channel = s.channel

/-- How a call can go: its check refuses it and nothing changes, or its check lets it pass and it is
answered. -/
inductive Goes (s : Offline) (x : Call) : Answer Offline Json → Prop
  | refused {e : GatewayError} (check : s.check x = .error e) : Goes s x (.error e, s)
  | answered {v : Json} {t : Offline} (check : s.check x = .ok ())
    (link : SameLink (s.linked x) t) : Goes s x (.ok v, t)

namespace Goes

variable {x : Call} {α : Type} {f : α → Json} {first : Except GatewayError α}
  {second : Except GatewayError Unit} {scope : Except GatewayError Scope}

/-- Calls that ask for one thing and leave the gateway as it is. -/
lemma of_lookup (hcheck : s.check x = passed first) (hlink : SameLink (s.linked x) s) :
    Goes s x (s.respond (first >>= fun a => .ok (f a))) := by
  cases first with
  | error e => exact .refused hcheck
  | ok a => exact .answered hcheck hlink

/-- Calls that ask for two things and leave the gateway as it is. -/
lemma of_lookups (hcheck : s.check x = first >>= fun _ => second)
    (hlink : SameLink (s.linked x) s) :
    Goes s x (s.respond (first >>= fun a => second >>= fun _ => .ok (f a))) := by
  cases first with
  | error e => exact .refused hcheck
  | ok a =>
    cases second with
    | error e => exact .refused hcheck
    | ok _ => exact .answered hcheck hlink

lemma of_listen (sub : Subscription) (hcheck : s.check x = passed scope)
    (hlink : SameLink (s.linked x) s) : Goes s x (s.listen sub scope) := by
  cases scope with
  | error e => exact .refused hcheck
  | ok scope => exact .answered hcheck ⟨hlink.token, hlink.guild, hlink.channel⟩

end Goes

/-- Every call goes as its check says. -/
theorem call_goes (x : Call) (s : Offline) : Goes s x (call x s) := by
  have same : SameLink s s := ⟨rfl, rfl, rfl⟩
  cases x with
  | login token =>
    change Goes s _ (s.login token)
    unfold login
    split_ifs with ht
    · exact .answered (if_pos ht) ⟨rfl, rfl, rfl⟩
    · exact .refused (if_neg ht)
  | selectGuild id =>
    change Goes s _ (s.selectGuild id)
    unfold selectGuild
    cases h : (do s.checkConnected; checkId "guild" id : Except GatewayError Unit) with
    | error e => exact .refused h
    | ok _ => exact .answered h ⟨rfl, rfl, rfl⟩
  | selectChannel id =>
    change Goes s _ (s.selectChannel id)
    unfold selectChannel
    cases h : (do s.checkConnected; checkId "channel" id : Except GatewayError Unit) with
    | error e => exact .refused h
    | ok _ => exact .answered h ⟨rfl, rfl, rfl⟩
  | fetchGuild id => exact .of_lookups rfl same
  | fetchChannel id => exact .of_lookups rfl same
  | fetchUser id => exact .of_lookups rfl same
  | fetchMember id => exact .of_lookups rfl same
  | showGuilds search => exact .of_lookup rfl same
  | showChannels search => exact .of_lookup rfl same
  | showMembers search => exact .of_lookup rfl same
  | sendMessage body =>
    change Goes s _ (s.sendMessage body)
    unfold sendMessage
    cases h : s.selectedChannel? with
    | error e => exact .refused (congrArg passed h)
    | ok c => exact .answered (congrArg passed h) ⟨rfl, rfl, rfl⟩
  | editMessage edit =>
    change Goes s _ (s.editMessage edit)
    unfold editMessage
    cases h : s.find? edit.messageId with
    | error e => exact .refused (congrArg passed h)
    | ok found => exact .answered (congrArg passed h) ⟨rfl, rfl, rfl⟩
  | deleteMessage id =>
    change Goes s _ (s.deleteMessage id)
    unfold deleteMessage
    cases h : s.find? id with
    | error e => exact .refused (congrArg passed h)
    | ok found => exact .answered (congrArg passed h) ⟨rfl, rfl, rfl⟩
  | deleteMessages w =>
    change Goes s _ (s.deleteMessages w)
    unfold deleteMessages
    cases h : s.selectedChannel? with
    | error e => exact .refused (congrArg passed h)
    | ok c =>
      obtain ⟨all, -, hd⟩ := deleteAll_of_channel h w
      simp only [hd]
      exact .answered (congrArg passed h) ⟨rfl, rfl, rfl⟩
  | readChannel w =>
    change Goes s _ (s.readChannel w)
    unfold readChannel
    cases h : s.selectedChannel? with
    | error e => exact .refused (congrArg passed h)
    | ok c =>
      obtain ⟨all, ha⟩ := collect_of_channel h w
      simp only [ha]
      exact .answered (congrArg passed h) same
  | updatePresence presence =>
    change Goes s _ (s.updatePresence presence)
    unfold updatePresence
    cases h : s.checkConnected with
    | error e => exact .refused (congrArg passed h)
    | ok _ => exact .answered (congrArg passed h) ⟨rfl, rfl, rfl⟩
  | listenClient sub => exact .of_listen sub (passed_map _ _).symm same
  | listenGuild sub => exact .of_listen sub (passed_map _ _).symm same
  | listenChannel sub => exact .of_listen sub (passed_map _ _).symm same

/-- Why a call can be refused: something that it needs is missing, or an argument is malformed. -/
inductive Refusal (s : Offline) (x : Call) : GatewayError → Prop
  | connection (missing : s.token = none) : Refusal s x .notConnected
  | guild (missing : s.guild = none) : Refusal s x .noGuildSelected
  | channel (missing : s.channel = none) : Refusal s x .noChannelSelected
  | message {what id : String} (named : x.operation ∈ [.editMessage, .deleteMessage]) :
    Refusal s x (.notFound what id)
  | token {status : Nat} {text : String} (malformed : ¬ x.WellFormed) :
    Refusal s x (.api status text)
  | id {what id : String} (malformed : ¬ x.WellFormed) : Refusal s x (.invalidId what id)

/-- An answer that is refused, if at all, for a good reason. -/
def Reasoned {α : Type} (s : Offline) (x : Call) (answer : Except GatewayError α) : Prop :=
  ∀ e, answer = .error e → Refusal s x e

namespace Reasoned

variable {α β : Type} {x : Call}

lemma ok (v : α) : Reasoned s x (.ok v) := nofun

lemma error {e : GatewayError} (h : Refusal s x e) :
    Reasoned s x (.error e : Except GatewayError α) := by
  rintro _ ⟨⟩
  exact h

lemma bind {answer : Except GatewayError α} {next : α → Except GatewayError β}
    (first : Reasoned s x answer) (rest : ∀ v, Reasoned s x (next v)) :
    Reasoned s x (answer >>= next) := by
  cases answer with
  | error e => exact error (first e rfl)
  | ok v => exact rest v

lemma passed {answer : Except GatewayError α} (h : Reasoned s x answer) :
    Reasoned s x (passed answer) := by
  cases answer with
  | error e => exact error (h e rfl)
  | ok v => exact ok ()

lemma checkConnected : Reasoned s x s.checkConnected := by
  unfold Offline.checkConnected
  split_ifs with h
  · exact ok _
  · exact error (.connection (by simpa using h))

lemma checkId {what id : String} (h : x.WellFormed → isSnowflake id = true) :
    Reasoned s x (checkId what id) := by
  unfold Offline.checkId
  split_ifs with hid
  · exact ok _
  · exact error (.id (mt h hid))

lemma selectedGuild? : Reasoned s x s.selectedGuild? := by
  unfold Offline.selectedGuild?
  split
  · next missing => exact error (.connection missing)
  · next missing => exact error (.guild missing)
  · exact ok _

lemma selectedChannel? : Reasoned s x s.selectedChannel? := by
  unfold Offline.selectedChannel?
  split
  · next missing => exact error (.connection missing)
  · next missing => exact error (.channel missing)
  · exact ok _

lemma find? {id : String} (named : x.operation ∈ [.editMessage, .deleteMessage])
    (h : x.WellFormed → isSnowflake id = true) : Reasoned s x (s.find? id) := by
  unfold Offline.find?
  refine selectedChannel?.bind fun c => (checkId h).bind fun _ => ?_
  split
  · exact error (.message named)
  · split
    · exact error (.message named)
    · exact ok _

end Reasoned

lemma check_reasoned (x : Call) (s : Offline) : Reasoned s x (s.check x) := by
  cases x with
  | login token =>
    rw [check]
    split_ifs with h
    · exact .ok _
    · exact .error (.token h)
  | selectGuild id => exact Reasoned.checkConnected.bind fun _ => .checkId fun h => h
  | selectChannel id => exact Reasoned.checkConnected.bind fun _ => .checkId fun h => h
  | fetchGuild id => exact Reasoned.checkConnected.bind fun _ => .checkId fun h => h
  | fetchChannel id => exact Reasoned.checkConnected.bind fun _ => .checkId fun h => h
  | fetchUser id => exact Reasoned.checkConnected.bind fun _ => .checkId fun h => h
  | fetchMember id => exact Reasoned.selectedGuild?.bind fun _ => .checkId fun h => h
  | showGuilds search => exact Reasoned.checkConnected.passed
  | updatePresence presence => exact Reasoned.checkConnected.passed
  | listenClient sub => exact Reasoned.checkConnected.passed
  | showChannels search => exact Reasoned.selectedGuild?.passed
  | showMembers search => exact Reasoned.selectedGuild?.passed
  | listenGuild sub => exact Reasoned.selectedGuild?.passed
  | sendMessage body => exact Reasoned.selectedChannel?.passed
  | deleteMessages w => exact Reasoned.selectedChannel?.passed
  | readChannel w => exact Reasoned.selectedChannel?.passed
  | listenChannel sub => exact Reasoned.selectedChannel?.passed
  | editMessage edit =>
    have found : Reasoned s (.editMessage edit) (s.find? edit.messageId) :=
      .find? (by simp [Call.operation]) fun h => h
    exact found.passed
  | deleteMessage id =>
    have found : Reasoned s (.deleteMessage id) (s.find? id) :=
      .find? (by simp [Call.operation]) fun h => h
    exact found.passed

/-- A call is refused for want of something that it needs, or for malformed arguments. -/
theorem call_reasoned (x : Call) (s : Offline) : Reasoned s x (call x s).1 := by
  have reasoned := check_reasoned x s
  have goes := call_goes x s
  generalize call x s = answer at goes
  cases goes with
  | refused check => exact .error (reasoned _ check)
  | answered check link => exact .ok _

/-- An answer that complains of a missing selection only if that selection is missing. -/
def Truthful {α : Type} (s : Offline) (answer : Except GatewayError α) : Prop :=
  (answer = .error .noGuildSelected → s.guild = none) ∧
    (answer = .error .noChannelSelected → s.channel = none)

/-- A call is never refused for a selection that is there. -/
theorem call_truthful (x : Call) (s : Offline) : Truthful s (call x s).1 := by
  constructor
  · intro h
    cases call_reasoned x s _ h with
    | guild missing => exact missing
  · intro h
    cases call_reasoned x s _ h with
    | channel missing => exact missing

end Offline
end ChatQuery
