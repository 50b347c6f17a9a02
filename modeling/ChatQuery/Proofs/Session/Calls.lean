import ChatQuery.Session
import Mathlib.Tactic.Common

/-!
Calls that a session makes one after another. Starting up and working off the queue both come down
to such runs: either all calls succeed, or the run ends with the first one that fails.
-/
namespace ChatQuery
namespace Session

variable {σ : Type} {g : Gateway σ} {s t u : Session σ} {c : Call} {cs : List Call}

lemma call_of_ok {v : Json} {γ : σ} (h : g.call c s.gateway = (.ok v, γ)) :
    s.call g c = (.ok v, { s with gateway := γ }.remember c) := by
  unfold call
  rw [h]

lemma call_of_error {e : GatewayError} {γ : σ} (h : g.call c s.gateway = (.error e, γ)) :
    s.call g c = (.error (s.errorOf c e), { s with gateway := γ }) := by
  unfold call
  rw [h]

/-- What a call that fails leaves behind: the gateway has moved, and the error tells the rest of
the session as it was before. -/
lemma call_error_inv {e : CallError} (h : s.call g c = (.error e, t)) :
    ∃ cause, g.call c s.gateway = (.error cause, t.gateway) ∧ e = s.errorOf c cause ∧
      t = { s with gateway := t.gateway } := by
  rcases hg : g.call c s.gateway with ⟨r, γ⟩
  cases r with
  | error cause =>
    rw [call_of_error hg] at h
    cases h
    exact ⟨cause, rfl, rfl, rfl⟩
  | ok v =>
    rw [call_of_ok hg] at h
    cases h

lemma call_ok_inv {v : Json} (h : s.call g c = (.ok v, t)) :
    ∃ γ, g.call c s.gateway = (.ok v, γ) ∧ t = { s with gateway := γ }.remember c := by
  rcases hg : g.call c s.gateway with ⟨r, γ⟩
  cases r with
  | error cause =>
    rw [call_of_error hg] at h
    cases h
  | ok w =>
    rw [call_of_ok hg] at h
    cases h
    exact ⟨γ, rfl, rfl⟩

@[simp] lemma remember_queue (s : Session σ) (c : Call) : (s.remember c).queue = s.queue := by
  cases c <;> rfl

@[simp] lemma remember_gateway (s : Session σ) (c : Call) : (s.remember c).gateway = s.gateway := by
  cases c <;> rfl

@[simp] lemma call_queue (s : Session σ) (c : Call) : (s.call g c).2.queue = s.queue := by
  rcases hg : g.call c s.gateway with ⟨r, γ⟩
  cases r with
  | error e => rw [call_of_error hg]
  | ok v => rw [call_of_ok hg, remember_queue]

/-- A call neither reads nor changes the queue. -/
lemma call_with_queue (s : Session σ) (c : Call) (q : List Call) :
    ({ s with queue := q } : Session σ).call g c =
      ((s.call g c).1, { (s.call g c).2 with queue := q }) := by
  rcases hg : g.call c s.gateway with ⟨r, γ⟩
  cases r with
  | error e => rw [call_of_error hg, call_of_error (s := { s with queue := q }) hg]; rfl
  | ok v =>
    rw [call_of_ok hg, call_of_ok (s := { s with queue := q }) hg]
    cases c <;> rfl

/-- Calls that are made one after another and all succeed, each with what it was answered. -/
inductive Succeeds (g : Gateway σ) : Session σ → List (Call × Json) → Session σ → Prop
  | done (s : Session σ) : Succeeds g s [] s
  | next {s t u : Session σ} {c : Call} {v : Json} {made : List (Call × Json)}
    (first : s.call g c = (.ok v, t)) (rest : Succeeds g t made u) : Succeeds g s ((c, v) :: made) u

namespace Succeeds

variable {made more : List (Call × Json)}

lemma split (h : Succeeds g s (made ++ more) u) :
    ∃ t, Succeeds g s made t ∧ Succeeds g t more u := by
  induction made generalizing s with
  | nil => exact ⟨s, done s, h⟩
  | cons p made ih =>
    cases h with
    | next first rest =>
      obtain ⟨t, hm, hr⟩ := ih rest
      exact ⟨t, next first hm, hr⟩

lemma append (h : Succeeds g s made t) (h' : Succeeds g t more u) :
    Succeeds g s (made ++ more) u := by
  induction h with
  | done s => exact h'
  | next first _ ih => exact .next first (ih h')

@[simp] lemma queue_eq (h : Succeeds g s made t) : t.queue = s.queue := by
  induction h with
  | done s => rfl
  | @next s t u c v made first rest ih =>
    have hq := call_queue (g := g) s c
    rw [first] at hq
    exact ih.trans hq

end Succeeds

/-- Calls made in order either all succeed, or one of them is the first to fail. -/
theorem succeeds_or_fails (g : Gateway σ) (cs : List Call) (s : Session σ) :
    (∃ made t, Succeeds g s made t ∧ cs = made.map Prod.fst) ∨
      ∃ made t c rest e u, Succeeds g s made t ∧ cs = made.map Prod.fst ++ c :: rest ∧
        t.call g c = (.error e, u) := by
  induction cs generalizing s with
  | nil => exact .inl ⟨[], s, .done s, rfl⟩
  | cons c cs ih =>
    rcases hc : s.call g c with ⟨r, t⟩
    cases r with
    | error e => exact .inr ⟨[], s, c, cs, e, t, .done s, rfl, hc⟩
    | ok v =>
      rcases ih t with ⟨made, u, hm, rfl⟩ | ⟨made, u, d, rest, e, w, hm, rfl, hd⟩
      · exact .inl ⟨(c, v) :: made, u, .next hc hm, rfl⟩
      · exact .inr ⟨(c, v) :: made, u, d, rest, e, w, .next hc hm, rfl, hd⟩

/-- The value that a successful call was answered with, as it is reported. -/
def report (p : Call × Json) : Operation × Json := (p.1.operation, p.2)

/-- The queue is given as an argument, and what the session holds of it does not matter. -/
lemma drain_with_queue (s : Session σ) (cs q : List Call) :
    { s with queue := q }.drain g cs = s.drain g cs := by
  cases cs <;> rfl

lemma drain_cons_of_ok {v : Json} (h : s.call g c = (.ok v, t)) :
    s.drain g (c :: cs) =
      ((t.drain g cs).1, (c.operation, v) :: (t.drain g cs).2.1, (t.drain g cs).2.2) := by
  simp only [drain, call_with_queue, h, drain_with_queue]

lemma drain_cons_of_error {e : CallError} (h : s.call g c = (.error e, t)) :
    s.drain g (c :: cs) = (.error e, [], { t with queue := cs }) := by
  simp only [drain, call_with_queue, h]

/-- Calls that succeed are reported, and the rest of the queue is worked off after them. -/
theorem drain_append {made : List (Call × Json)} (h : Succeeds g s made t) (rest : List Call) :
    s.drain g (made.map Prod.fst ++ rest) =
      ((t.drain g rest).1, made.map report ++ (t.drain g rest).2.1, (t.drain g rest).2.2) := by
  induction h with
  | done s => rfl
  | next first more ih =>
    rw [List.map_cons, List.cons_append, drain_cons_of_ok first, ih]
    rfl

end Session

namespace Step

def call? : Step → Option Call
  | .call c => some c
  | .notice _ => none

def notice? : Step → Option Notice
  | .call _ => none
  | .notice n => some n

end Step

namespace Session

variable {σ : Type} {g : Gateway σ} {s t u : Session σ} {c : Call} {steps : List Step}
  {made : List (Call × Json)}

lemma takeSteps_of_succeeds (h : Succeeds g s made t)
    (hs : steps.filterMap Step.call? = made.map Prod.fst) :
    s.takeSteps g steps = (.ok (), steps.filterMap Step.notice?, t) := by
  induction steps generalizing s made with
  | nil =>
    cases h with
    | done s => rfl
    | next first rest => simp at hs
  | cons step steps ih =>
    cases step with
    | notice n =>
      change steps.filterMap Step.call? = made.map Prod.fst at hs
      simp only [takeSteps, ih h hs]
      rfl
    | call d =>
      cases h with
      | done s => simp [Step.call?] at hs
      | next first rest =>
        simp only [List.filterMap_cons, Step.call?, List.map_cons, List.cons.injEq] at hs
        obtain ⟨rfl, hs⟩ := hs
        simp only [takeSteps, first, ih rest hs]
        rfl

lemma takeSteps_of_fails {rest : List Call} {e : CallError} (h : Succeeds g s made t)
    (hc : t.call g c = (.error e, u))
    (hs : steps.filterMap Step.call? = made.map Prod.fst ++ c :: rest) :
    ∃ notices, s.takeSteps g steps = (.error e, notices, u) := by
  induction steps generalizing s made with
  | nil => simp at hs
  | cons step steps ih =>
    cases step with
    | notice n =>
      change steps.filterMap Step.call? = _ at hs
      obtain ⟨notices, ht⟩ := ih h hs
      exact ⟨n :: notices, by simp only [takeSteps, ht]⟩
    | call d =>
      cases h with
      | done s =>
        simp only [List.filterMap_cons, Step.call?, List.map_nil, List.nil_append,
          List.cons.injEq] at hs
        obtain ⟨rfl, -⟩ := hs
        exact ⟨[], by simp only [takeSteps, hc]⟩
      | next first more =>
        simp only [List.filterMap_cons, Step.call?, List.map_cons, List.cons_append,
          List.cons.injEq] at hs
        obtain ⟨rfl, hs⟩ := hs
        obtain ⟨notices, ht⟩ := ih more hs
        exact ⟨notices, by simp only [takeSteps, first, ht]⟩

end Session
end ChatQuery
