import ChatQuery.Proofs.Session.Calls
import Mathlib.Tactic.Common

/-!
Records of gateways. A session cares only about the answers of its gateway, so a session over one
gateway is the image of a session over any other that answers alike. A recorded gateway is such
another one: it answers as before and keeps every contact that a session has with it.
-/
namespace ChatQuery

namespace Gateway

variable {σ τ : Type}

/-- The states of `h` are read as states of `g`, and `h` answers and moves as `g` does on them. -/
structure Simulates (f : τ → σ) (h : Gateway τ) (g : Gateway σ) : Prop where
  token : ∀ t, g.token (f t) = h.token t
  call : ∀ c t, g.call c (f t) = ((h.call c t).1, f (h.call c t).2)
  destroy : ∀ t, g.destroy (f t) = ((h.destroy t).1, f (h.destroy t).2)

end Gateway

namespace Session

variable {σ τ : Type}

/-- The same session over another state of a gateway. -/
def withGateway (s : Session σ) (gateway : τ) : Session τ :=
  ⟨gateway, s.queue, s.connected, s.guild, s.channel, s.raw, s.listener⟩

def map (f : τ → σ) (s : Session τ) : Session σ := s.withGateway (f s.gateway)

@[simp] lemma map_queue (f : τ → σ) (s : Session τ) : (s.map f).queue = s.queue := rfl
@[simp] lemma map_connected (f : τ → σ) (s : Session τ) : (s.map f).connected = s.connected := rfl
@[simp] lemma map_guild (f : τ → σ) (s : Session τ) : (s.map f).guild = s.guild := rfl
@[simp] lemma map_channel (f : τ → σ) (s : Session τ) : (s.map f).channel = s.channel := rfl
@[simp] lemma map_raw (f : τ → σ) (s : Session τ) : (s.map f).raw = s.raw := rfl
@[simp] lemma map_listener (f : τ → σ) (s : Session τ) : (s.map f).listener = s.listener := rfl
@[simp] lemma map_gateway (f : τ → σ) (s : Session τ) : (s.map f).gateway = f s.gateway := rfl

lemma map_remember (f : τ → σ) (s : Session τ) (c : Call) :
    (s.map f).remember c = (s.remember c).map f := by
  cases c <;> rfl

end Session

def Execution.map {σ τ : Type} (f : τ → σ) (x : Execution τ) : Execution σ :=
  ⟨x.result, x.reports, x.notices, x.session.map f⟩

namespace Gateway.Simulates

open Session

variable {σ τ : Type} {f : τ → σ} {h : Gateway τ} {g : Gateway σ}

lemma session_call (sim : Simulates f h g) (c : Call) (s : Session τ) :
    (s.map f).call g c = ((s.call h c).1, (s.call h c).2.map f) := by
  unfold Session.call
  rw [map_gateway, sim.call]
  rcases hc : h.call c s.gateway with ⟨r, t⟩
  cases r with
  | error e => rfl
  | ok v => exact congrArg (Prod.mk _) (map_remember f { s with gateway := t } c)

lemma takeSteps (sim : Simulates f h g) (steps : List Step) (s : Session τ) :
    (s.map f).takeSteps g steps =
      ((s.takeSteps h steps).1, (s.takeSteps h steps).2.1, (s.takeSteps h steps).2.2.map f) := by
  induction steps generalizing s with
  | nil => rfl
  | cons step steps ih =>
    cases step with
    | notice n => simp only [Session.takeSteps, ih]
    | call c =>
      simp only [Session.takeSteps, sim.session_call]
      rcases s.call h c with ⟨r, t⟩
      cases r with
      | error e => rfl
      | ok v => exact ih t

lemma drain (sim : Simulates f h g) (cs : List Call) (s : Session τ) :
    (s.map f).drain g cs =
      ((s.drain h cs).1, (s.drain h cs).2.1, (s.drain h cs).2.2.map f) := by
  induction cs generalizing s with
  | nil => rfl
  | cons c cs ih =>
    have hc := sim.session_call c s
    rcases hs : s.call h c with ⟨r, t⟩
    rw [hs] at hc
    cases r with
    | error e =>
      rw [drain_cons_of_error hs, drain_cons_of_error hc]
      rfl
    | ok v => rw [drain_cons_of_ok hs, drain_cons_of_ok hc, ih t]

lemma run (sim : Simulates f h g) (a : Arguments) (s : Session τ) :
    (s.map f).run g a = (s.run h a).map f := by
  have hl : (s.map f).login? a = s.login? a := rfl
  have hs : (s.map f).startSteps a = s.startSteps a := rfl
  unfold Session.run
  rw [hl, hs, sim.takeSteps]
  split_ifs with bad
  · rfl
  · rcases s.takeSteps h (s.startSteps a) with ⟨r, notices, t⟩
    cases r with
    | error e => rfl
    | ok _ =>
      simp only [map_queue, sim.drain]
      rcases t.drain h t.queue with ⟨r, reports, u⟩
      cases r <;> rfl

lemma settle (x : Execution τ) : (x.map f).settle = x.settle.map f := by
  obtain ⟨result, reports, notices, s⟩ := x
  cases result <;> rfl

lemma close (sim : Simulates f h g) (s : Session τ) :
    (s.map f).close g = ((s.close h).1, (s.close h).2.map f) := by
  unfold Session.close
  rw [map_gateway, sim.destroy]
  rcases h.destroy s.gateway with ⟨r, t⟩
  cases r <;> rfl

/-- An execution over a gateway is the image of one over any gateway that answers alike. -/
theorem execute (sim : Simulates f h g) (a : Arguments) (s : Session τ) :
    (s.map f).execute g a = (s.execute h a).map f := by
  have hc := sim.close (s.run h a).settle.session
  unfold Session.execute
  rw [sim.run, settle]
  cases a.close with
  | false => rfl
  | true =>
    change Execution.mk _ _ (_ ++ (((s.run h a).settle.session.map f).close g).1)
      (((s.run h a).settle.session.map f).close g).2 = _
    rw [hc]
    rfl

theorem reload (sim : Simulates f h g) (s : Session τ) :
    (s.map f).reload g =
      ((s.reload h).1, (s.reload h).2.1, (s.reload h).2.2.map f) := by
  unfold Session.reload
  rw [map_connected, map_gateway, sim.token]
  cases hc : s.connected with
  | false => rfl
  | true =>
    cases ht : h.token s.gateway with
    | none => rfl
    | some token =>
      have hr : ((s.close h).2.map f).reloadSteps token = (s.close h).2.reloadSteps token := rfl
      simp only [sim.close, hr, sim.takeSteps]
      rcases (s.close h).2.takeSteps h ((s.close h).2.reloadSteps token) with ⟨r, notices, u⟩
      cases r <;> rfl

end Gateway.Simulates

/-- One contact with a gateway: a call with its answer, or the closing of the connection. -/
inductive Contact
  | call (c : Call) (answer : Except GatewayError Json)
  | destroy

def Contact.call? : Contact → Option Call
  | .call c _ => some c
  | .destroy => none

/-- The gateway with a record of all contacts with it, the oldest first. -/
def Gateway.recorded {σ : Type} (g : Gateway σ) : Gateway (σ × List Contact) where
  token t := g.token t.1
  call c t := ((g.call c t.1).1, (g.call c t.1).2, t.2 ++ [.call c (g.call c t.1).1])
  destroy t := ((g.destroy t.1).1, (g.destroy t.1).2, t.2 ++ [.destroy])

namespace Session

variable {σ : Type} {g : Gateway σ}

/-- The session over the recorded gateway, with nothing recorded yet. -/
def observed (s : Session σ) : Session (σ × List Contact) := s.withGateway (s.gateway, [])

def record (s : Session (σ × List Contact)) : List Contact := s.gateway.2

lemma simulates_recorded (g : Gateway σ) : g.recorded.Simulates Prod.fst g :=
  ⟨fun _ => rfl, fun _ _ => rfl, fun _ => rfl⟩

/-- Recording changes nothing for the session. -/
theorem observed_execute (s : Session σ) (a : Arguments) :
    (s.observed.execute g.recorded a).map Prod.fst = s.execute g a :=
  ((simulates_recorded g).execute a s.observed).symm

variable {s t : Session (σ × List Contact)}

/-- What a run of successful calls adds to the record. -/
def answered (p : Call × Json) : Contact := .call p.1 (.ok p.2)

lemma record_of_call_ok {c : Call} {v : Json} (h : s.call g.recorded c = (.ok v, t)) :
    t.record = s.record ++ [.call c (.ok v)] := by
  obtain ⟨γ, hg, rfl⟩ := call_ok_inv h
  obtain ⟨hv, rfl⟩ := Prod.ext_iff.mp hg
  change (g.call c s.gateway.1).1 = .ok v at hv
  rw [record, remember_gateway, ← hv]
  rfl

lemma record_of_call_error {c : Call} {e : CallError} (h : s.call g.recorded c = (.error e, t)) :
    ∃ cause, e = s.errorOf c cause ∧ t.record = s.record ++ [.call c (.error cause)] ∧
      t = { s with gateway := t.gateway } := by
  obtain ⟨cause, hg, rfl, ht⟩ := call_error_inv h
  refine ⟨cause, rfl, ?_, ht⟩
  obtain ⟨hv, hs⟩ := Prod.ext_iff.mp hg
  change (g.call c s.gateway.1).1 = .error cause at hv
  change _ = t.gateway at hs
  rw [record, ← hs, ← hv]
  rfl

lemma Succeeds.record_eq {made : List (Call × Json)} (h : Succeeds g.recorded s made t) :
    t.record = s.record ++ made.map answered := by
  induction h with
  | done s => simp
  | next first rest ih =>
    rw [ih, record_of_call_ok first, List.append_assoc]
    rfl

lemma record_close (s : Session (σ × List Contact)) :
    (s.close g.recorded).2.record = s.record ++ [.destroy] := by
  unfold close
  rcases hd : g.recorded.destroy s.gateway with ⟨r, γ⟩
  have hγ : γ.2 = s.gateway.2 ++ [.destroy] := congrArg (·.2.2) hd.symm
  cases r <;> exact hγ

end Session

end ChatQuery
