import ChatQuery.Proofs.Script.Join
import ChatQuery.Session

/-!
Loading source texts. A text that compiles adds its calls to the queue and flips the raw flag as
often as it says, so loading two texts in turn is loading them joined by a semicolon.
-/
namespace ChatQuery.Session

variable {σ : Type} {s t u : Session σ} {source : String} {script : Script}

/-- The session with a script queued. -/
def enqueue (s : Session σ) (script : Script) : Session σ :=
  { s with
    queue := s.queue ++ script.calls
    raw := s.raw ^^ (script.toggles % 2 == 1) }

lemma load_of_ok (h : Script.compile? s.listener source = .ok script) :
    s.load source = .ok (s.enqueue script) := by
  unfold load
  rw [h]
  rfl

lemma load_inv (h : s.load source = .ok t) :
    ∃ script, Script.compile? s.listener source = .ok script ∧ t = s.enqueue script := by
  unfold load at h
  cases hs : Script.compile? s.listener source with
  | error d =>
    rw [hs] at h
    cases h
  | ok script =>
    rw [hs] at h
    cases h
    exact ⟨script, rfl, rfl⟩

lemma odd_add (m n : Nat) : ((m + n) % 2 == 1) = ((m % 2 == 1) ^^ (n % 2 == 1)) := by
  rw [Nat.add_mod]
  rcases Nat.mod_two_eq_zero_or_one m with hm | hm <;>
    rcases Nat.mod_two_eq_zero_or_one n with hn | hn <;> rw [hm, hn] <;> rfl

/-- Queueing two scripts in turn is queueing the two as one. -/
lemma enqueue_enqueue (s : Session σ) (p q : Script) :
    (s.enqueue p).enqueue q = s.enqueue (p.join q) := by
  unfold enqueue Script.join
  rw [odd_add, List.append_assoc, Bool.xor_assoc]

/-- Joining two source texts with a semicolon that is a token of its own means the same as taking
one after the other: the joined text compiles just if both do, to the calls and the flips of both,
and loading it leaves the session as loading the first and then the second does. -/
theorem load_join (s₁ s₂ : String)
    (h : ∃ t ∈ tokenize (s₁ ++ ";"), t.kind = .semicolon ∧ t.index = s₁.utf8ByteSize) :
    (∀ listener, ((∃ r, Script.compile? listener (s₁ ++ ";" ++ s₂) = .ok r) ↔
        (∃ p, Script.compile? listener s₁ = .ok p) ∧ ∃ q, Script.compile? listener s₂ = .ok q) ∧
      ∀ p q, Script.compile? listener s₁ = .ok p → Script.compile? listener s₂ = .ok q →
        Script.compile? listener (s₁ ++ ";" ++ s₂) =
          .ok ⟨p.calls ++ q.calls, p.toggles + q.toggles⟩) ∧
    ∀ {σ : Type} (s t u : Session σ), s.load s₁ = .ok t → t.load s₂ = .ok u →
      s.load (s₁ ++ ";" ++ s₂) = .ok u := by
  have joined (listener : Listener) := Script.toOption_compile?_join listener s₂ h
  have appended (listener : Listener) (p q : Script)
      (hp : Script.compile? listener s₁ = .ok p) (hq : Script.compile? listener s₂ = .ok q) :
      Script.compile? listener (s₁ ++ ";" ++ s₂) = .ok (p.join q) := by
    rw [← toOption_eq_some, joined, hp, hq]
    rfl
  refine ⟨fun listener => ⟨⟨?_, ?_⟩, appended listener⟩, ?_⟩
  · rintro ⟨r, hr⟩
    have both := (joined listener).symm.trans (toOption_eq_some.mpr hr)
    obtain ⟨p, q, hp, hq, -⟩ := Option.map₂_eq_some_iff.mp both
    exact ⟨⟨p, toOption_eq_some.mp hp⟩, q, toOption_eq_some.mp hq⟩
  · rintro ⟨⟨p, hp⟩, q, hq⟩
    exact ⟨p.join q, appended listener p q hp hq⟩
  · intro σ s t u ht hu
    obtain ⟨p, hp, rfl⟩ := load_inv ht
    obtain ⟨q, hq, rfl⟩ := load_inv hu
    rw [load_of_ok (appended s.listener p q hp hq), enqueue_enqueue]

/-- A semicolon inside a string is no cut, but the one behind the string is. -/
theorem load_join_send_raw :
    (∃ t ∈ tokenize ("SEND \"a;b\"" ++ ";"),
        t.kind = .semicolon ∧ t.index = "SEND \"a;b\"".utf8ByteSize) ∧
      ∃ p q, Script.compile? .discard "SEND \"a;b\"" = .ok p ∧
        Script.compile? .discard "RAW" = .ok q ∧
        Script.compile? .discard ("SEND \"a;b\"" ++ ";" ++ "RAW") =
          .ok ⟨p.calls ++ q.calls, p.toggles + q.toggles⟩ := by
  have cut : ∃ t ∈ tokenize ("SEND \"a;b\"" ++ ";"),
      t.kind = .semicolon ∧ t.index = "SEND \"a;b\"".utf8ByteSize := by
    decide +kernel
  obtain ⟨p, hp⟩ : ∃ p, Script.compile? .discard "SEND \"a;b\"" = .ok p :=
    exists_of_isOk (by decide +kernel)
  obtain ⟨q, hq⟩ : ∃ q, Script.compile? .discard "RAW" = .ok q :=
    exists_of_isOk (by decide +kernel)
  exact ⟨cut, p, q, hp, hq, ((load_join _ _ cut).1 .discard).2 p q hp hq⟩

end ChatQuery.Session
