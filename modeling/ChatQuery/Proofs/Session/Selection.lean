import ChatQuery.Proofs.Gateway.Offline
import ChatQuery.Proofs.Session.Run
import Mathlib.Data.List.DropRight

/-!
What is selected, as the session remembers it and as the offline gateway holds it. A session keeps
its selections when its connection is closed and the gateway drops them, so the two agree just as
long as nothing is kept that was last selected before the connection was closed.
-/
namespace ChatQuery

namespace Contact

def guild? : Contact → Option String
  | .call (.selectGuild id) (.ok _) => some id
  | _ => none

def channel? : Contact → Option String
  | .call (.selectChannel id) (.ok _) => some id
  | _ => none

def closes : Contact → Bool
  | .destroy => true
  | .call _ _ => false

end Contact

/-- What the contacts of a record have picked last. -/
def latest (pick : Contact → Option String) (r : List Contact) : Option String :=
  (r.filterMap pick).getLast?

/-- The contacts since the connection was last closed. -/
def sinceClosing (r : List Contact) : List Contact := r.rtakeWhile (!·.closes)

/-- Something has been picked, but not since the connection was last closed. -/
def Stale (pick : Contact → Option String) (r : List Contact) : Prop :=
  (latest pick r).isSome = true ∧ latest pick (sinceClosing r) = none

variable {pick : Contact → Option String} {r : List Contact} {x : Contact}
  {kept held : Option String}

lemma latest_concat (pick : Contact → Option String) (r : List Contact) (x : Contact) :
    latest pick (r ++ [x]) = (pick x).or (latest pick r) := by
  unfold latest
  rw [List.filterMap_append]
  cases h : pick x with
  | none => simp [h]
  | some id => simp [h]

lemma sinceClosing_concat (r : List Contact) (x : Contact) :
    sinceClosing (r ++ [x]) = if x.closes then [] else sinceClosing r ++ [x] := by
  unfold sinceClosing
  rw [List.rtakeWhile_concat]
  cases x.closes <;> rfl

lemma latest_sinceClosing {id : String} (h : latest pick (sinceClosing r) = some id) :
    latest pick r = some id := by
  obtain ⟨before, hr⟩ := List.rtakeWhile_suffix (fun x : Contact => !x.closes) r
  change before ++ sinceClosing r = r at hr
  unfold latest at h ⊢
  rw [← hr, List.filterMap_append, List.getLast?_append, h]
  rfl

/-- `kept` is what has ever been picked last, and `held` is what has been picked last since the
connection was closed. -/
structure Follows (pick : Contact → Option String) (kept held : Option String)
    (r : List Contact) : Prop where
  kept_eq : kept = latest pick r
  held_eq : held = latest pick (sinceClosing r)

namespace Follows

lemma call (h : Follows pick kept held r) (hx : x.closes = false) :
    Follows pick ((pick x).or kept) ((pick x).or held) (r ++ [x]) := by
  constructor
  · rw [latest_concat, ← h.kept_eq]
  · rw [sinceClosing_concat, hx, h.held_eq]
    exact (latest_concat pick _ x).symm

lemma close (h : Follows pick kept held r) (hp : pick .destroy = none) :
    Follows pick kept none (r ++ [.destroy]) := by
  constructor
  · rw [latest_concat, hp, h.kept_eq]
    rfl
  · rw [sinceClosing_concat]
    rfl

/-- What is held is kept. -/
lemma kept_of_held {id : String} (h : Follows pick kept held r) (hh : held = some id) :
    kept = some id :=
  h.kept_eq.trans (latest_sinceClosing (h.held_eq.symm.trans hh))

lemma eq_iff (h : Follows pick kept held r) : kept = held ↔ ¬ Stale pick r := by
  unfold Stale
  rw [← h.kept_eq, ← h.held_eq]
  cases hh : held with
  | none => cases kept <;> simp
  | some id => simp [h.kept_of_held hh]

lemma held_eq_none (h : Follows pick kept held r) (stale : Stale pick r) : held = none :=
  h.held_eq.trans stale.2

/-- Where nothing is held, what is kept is stale. -/
lemma isSome_iff (h : Follows pick kept held r) (none : held = none) :
    kept.isSome = true ↔ Stale pick r := by
  unfold Stale
  rw [← h.kept_eq, ← h.held_eq]
  exact ⟨fun hk => ⟨hk, none⟩, fun hs => hs.1⟩

end Follows

namespace Offline

/-- The gateway holds what the answer to a call lets it pick. -/
lemma selection_call (c : Call) (s : Offline) :
    (call c s).2.guild = (Contact.guild? (.call c (call c s).1)).or s.guild ∧
      (call c s).2.channel = (Contact.channel? (.call c (call c s).1)).or s.channel := by
  have goes := call_goes c s
  generalize call c s = answer at goes
  cases goes with
  | refused check => cases c <;> exact ⟨rfl, rfl⟩
  | answered check link =>
    rw [link.guild, link.channel]
    cases c <;> exact ⟨rfl, rfl⟩

end Offline

namespace Session

/-- The selections of a session and of its gateway, seen from the record of their contacts. -/
structure Tracks (t : Session (Offline × List Contact)) : Prop where
  guild : Follows Contact.guild? t.guild t.gateway.1.guild t.record
  channel : Follows Contact.channel? t.channel t.gateway.1.channel t.record

variable {s t : Session (Offline × List Contact)}

/-- A session remembers what the answer to a call lets it pick. -/
lemma selection_call {σ : Type} (g : Gateway σ) (s : Session σ) (c : Call) :
    let answer := (g.call c s.gateway).1
    (s.call g c).2.guild = (Contact.guild? (.call c answer)).or s.guild ∧
      (s.call g c).2.channel = (Contact.channel? (.call c answer)).or s.channel ∧
      (s.call g c).2.gateway = (g.call c s.gateway).2 := by
  rcases hg : g.call c s.gateway with ⟨r, γ⟩
  cases r with
  | error e =>
    rw [call_of_error hg]
    cases c <;> exact ⟨rfl, rfl, rfl⟩
  | ok v =>
    rw [call_of_ok hg]
    cases c <;> exact ⟨rfl, rfl, rfl⟩

lemma tracks_fresh (listener : Listener) : (fresh Offline.start listener).observed.Tracks :=
  ⟨⟨rfl, rfl⟩, ⟨rfl, rfl⟩⟩

/-- Whatever a session does, both selections go on following the record. -/
theorem Tracks.move (h : s.Tracks) (m : Move Offline.gateway.recorded s t) : t.Tracks := by
  cases m with
  | call c =>
    obtain ⟨hguild, hchannel, hgateway⟩ := selection_call Offline.gateway.recorded s c
    constructor
    · have hf := h.guild.call (x := .call c (Offline.call c s.gateway.1).1) rfl
      rw [← (Offline.selection_call c _).1] at hf
      rw [record, hguild, hgateway]
      exact hf
    · have hf := h.channel.call (x := .call c (Offline.call c s.gateway.1).1) rfl
      rw [← (Offline.selection_call c _).2] at hf
      rw [record, hchannel, hgateway]
      exact hf
  | close =>
    have hr := record_close (g := Offline.gateway) s
    constructor
    · rw [hr, close_eq]
      exact h.guild.close rfl
    · rw [hr, close_eq]
      exact h.channel.close rfl
  | requeue q => exact ⟨h.guild, h.channel⟩
  | flip raw => exact ⟨h.guild, h.channel⟩

theorem Tracks.reaches (h : s.Tracks) (m : Reaches Offline.gateway.recorded s t) : t.Tracks :=
  kept_by_moves (fun _ _ h m => h.move m) h m

/-- In every run over the offline gateway, the session remembers the channel that the gateway has
selected. -/
lemma channel_of_play (listener : Listener) (actions : List Action) {id : String} :
    let s := (fresh Offline.start listener).play Offline.gateway actions
    s.gateway.channel = some id → s.channel = some id := by
  intro s hid
  have tracks := (tracks_fresh listener).reaches (reaches_play _ _ actions)
  have hs : s = _ :=
    (simulates_recorded Offline.gateway).play (fresh Offline.start listener).observed actions
  rw [hs] at hid ⊢
  exact tracks.channel.kept_of_held hid

/-- A complaint about a missing selection tells that something is selected exactly if what the
session keeps is stale. -/
lemma Tracks.error (h : s.Tracks) {c : Call} {e : CallError}
    (hc : s.call Offline.gateway.recorded c = (.error e, t)) :
    (e.cause = some .noGuildSelected →
        (e.guildSelected = true ↔ Stale Contact.guild? s.record)) ∧
      (e.cause = some .noChannelSelected →
        (e.channelSelected = true ↔ Stale Contact.channel? s.record)) := by
  obtain ⟨cause, hg, rfl, -⟩ := call_error_inv hc
  have answer : (Offline.call c s.gateway.1).1 = .error cause := congrArg Prod.fst hg
  have truthful := Offline.call_truthful c s.gateway.1
  rw [answer] at truthful
  constructor
  · intro hcause
    cases hcause
    exact h.guild.isSome_iff (truthful.1 rfl)
  · intro hcause
    cases hcause
    exact h.channel.isSome_iff (truthful.2 rfl)

/-- In every run over the offline gateway, connected or not, a session and its gateway agree on the
guild (the channel) unless the one that the session keeps was last selected before the connection
was closed; then the gateway has none. A call that fails for want of a selection is reported with
that selection present in just this case. -/
theorem selections_agree (listener : Listener) (actions : List Action) :
    let s := (fresh Offline.start listener).play Offline.gateway actions
    let t := (fresh Offline.start listener).observed.play Offline.gateway.recorded actions
    t.map Prod.fst = s ∧
      (s.guild = s.gateway.guild ↔ ¬ Stale Contact.guild? t.record) ∧
      (s.channel = s.gateway.channel ↔ ¬ Stale Contact.channel? t.record) ∧
      (Stale Contact.guild? t.record → s.gateway.guild = none) ∧
      (Stale Contact.channel? t.record → s.gateway.channel = none) ∧
      ∀ action e, s.callError? Offline.gateway action = some e →
        ∃ before c cause after,
          (t.act Offline.gateway.recorded action).record =
            before ++ .call c (.error cause) :: after ∧
          (after = [] ∨ after = [.destroy]) ∧ e.operation = c.operation ∧ e.cause = some cause ∧
          (cause = .noGuildSelected →
            (e.guildSelected = true ↔ Stale Contact.guild? before)) ∧
          (cause = .noChannelSelected →
            (e.channelSelected = true ↔ Stale Contact.channel? before)) := by
  intro s t
  have sim := simulates_recorded Offline.gateway
  have hst : t.map Prod.fst = s := (sim.play (fresh Offline.start listener).observed actions).symm
  have ht : t.Tracks := (tracks_fresh listener).reaches (reaches_play _ _ actions)
  rw [← hst]
  refine ⟨rfl, ht.guild.eq_iff, ht.channel.eq_iff, ht.guild.held_eq_none,
    ht.channel.held_eq_none, ?_⟩
  intro action e he
  rw [sim.callError?] at he
  obtain ⟨u, c, v, a, q, hu, hc, hact⟩ := callError?_inv he
  have tracks := (ht.reaches hu).error hc
  obtain ⟨cause, rfl, hv, -⟩ := record_of_call_error hc
  refine ⟨u.record, c, cause, closing a, ?_, ?_, rfl, rfl, ?_, ?_⟩
  · have hq : ({ v with queue := q } : Session (Offline × List Contact)).record = v.record := rfl
    rw [hact, record_finish, hq, hv, List.append_assoc]
    rfl
  · unfold closing
    split_ifs
    · exact .inr rfl
    · exact .inl rfl
  · exact fun h => tracks.1 (congrArg some h)
  · exact fun h => tracks.2 (congrArg some h)

/-- A guild that was selected before the connection was closed is still kept after the next login,
when the gateway has none, and a call that fails for want of it is reported with it selected. -/
theorem not_always_agreeing :
    ¬ ∀ (actions : List Action) (action : Action),
      let s := (fresh Offline.start .discard).play Offline.gateway actions
      s.connected = true →
        s.guild = s.gateway.guild ∧
          ∀ e, s.callError? Offline.gateway action = some e → e.cause = some .noGuildSelected →
            e.guildSelected = false := by
  intro agree
  let token := "AAAAAAAAAAAAAAAAAAAAAAAA.BBBBBB.CCCCCCCCCCCCCCCCCCCCCCCCCCC"
  let login (guild : Option String) : Action := .execute ⟨some token, guild, none, false⟩
  let actions : List Action := [login (some "364140226775784869"), .close, login none,
    .load "FETCH \"382158480187811123\"u FROM \"228666916018118541\"c;"]
  let drain : Action := .execute ⟨none, none, none, false⟩
  let s := (fresh Offline.start .discard).play Offline.gateway actions
  have connected : s.connected = true := by decide +kernel
  have missing : s.callError? Offline.gateway drain =
      some ⟨.fetchMember, true, true, true, some .noGuildSelected⟩ := by
    decide +kernel
  have told := (agree actions drain connected).2 _ missing rfl
  cases told

end Session

end ChatQuery
