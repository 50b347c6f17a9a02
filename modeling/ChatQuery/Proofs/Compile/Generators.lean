import ChatQuery.Proofs.Compile.Fault
import ChatQuery.Proofs.WellFormed

/-!
What a directive compiles to and what it is refused for. Each opening word makes well-formed calls
of a directive, or else it blames a place of it: that of the word itself or that of an operand.
-/
namespace ChatQuery

/-- Where the opening word and the operands of a directive stand. -/
def Directive.places (d : Directive) : List Nat := d.head.index :: d.operands.map Operand.index

variable {α β : Type} {places : List Nat} {wanted : α → Prop} {wanted' : β → Prop}
  {x : Except Diagnostic α}

/-- A calculation ends as is wanted, or with a complaint about one of the places. -/
def Yields (places : List Nat) (wanted : α → Prop) : Except Diagnostic α → Prop
  | .ok a => wanted a
  | .error d => d.index ∈ places

namespace Yields

lemma bind {f : α → Except Diagnostic β} (h : Yields places wanted x)
    (hf : ∀ a, wanted a → Yields places wanted' (f a)) : Yields places wanted' (x >>= f) := by
  cases x with
  | error d => exact h
  | ok a => exact hf a h

lemma map {f : α → β} (h : Yields places wanted x) (hf : ∀ a, wanted a → wanted' (f a)) :
    Yields places wanted' (x.map f) := by
  cases x with
  | error d => exact h
  | ok a => exact hf a h

lemma mapM {f : α → Except Diagnostic β} {xs : List α}
    (h : ∀ a ∈ xs, Yields places wanted' (f a)) :
    Yields places (∀ b ∈ ·, wanted' b) (xs.mapM f) := by
  induction xs with
  | nil => exact List.forall_mem_nil _
  | cons a xs ih =>
    obtain ⟨ha, hxs⟩ := List.forall_mem_cons.mp h
    rw [List.mapM_cons]
    apply ha.bind
    intro b hb
    apply (ih hxs).bind
    intro bs hbs
    exact List.forall_mem_cons.mpr ⟨hb, hbs⟩

/-- What each step keeps, the whole loop keeps. -/
lemma foldlM {step : β → α → Except Diagnostic β} {xs : List α} {b : β} (hb : wanted' b)
    (h : ∀ a ∈ xs, ∀ b, wanted' b → Yields places wanted' (step b a)) :
    Yields places wanted' (xs.foldlM step b) := by
  induction xs generalizing b with
  | nil => exact hb
  | cons a xs ih =>
    obtain ⟨ha, hxs⟩ := List.forall_mem_cons.mp h
    rw [List.foldlM_cons]
    apply (ha b hb).bind
    intro b' hb'
    exact ih hb' hxs

end Yields

namespace Operand

variable {o : Operand}

lemma id?_yields (ho : o.index ∈ places) (m : Mark) :
    Yields places (isSnowflake · = true) (o.id? m) := by
  unfold id?
  split_ifs with h
  · exact h
  · exact ho

lemma selection_yields (ho : o.index ∈ places) (m : Mark) {make : String → Call}
    (hmake : ∀ id, isSnowflake id = true → (make id).WellFormed) :
    Yields places (∀ c ∈ ·, c.WellFormed) ((o.id? m).map fun id => [make id]) := by
  apply (id?_yields ho m).map
  intro id hid
  exact List.forall_mem_singleton.mpr (hmake id hid)

lemma json?_yields (ho : o.index ∈ places) : Yields places (fun _ => True) o.json? := by
  unfold json?
  cases Json.read? o.text with
  | none => exact ho
  | some v => trivial

lemma limit?_yields (ho : o.index ∈ places) : Yields places (fun _ => True) o.limit? := by
  unfold limit?
  dsimp only
  split_ifs
  · trivial
  · exact ho

lemma contribution?_yields (ho : o.index ∈ places) :
    Yields places (fun _ => True) o.contribution? := by
  unfold contribution?
  split_ifs
  · trivial
  · exact (json?_yields ho).map fun _ _ => trivial
  · exact (id?_yields ho .user).map fun _ _ => trivial
  · trivial
  · trivial

lemma index_of_fault? {d : Diagnostic} (h : o.fault? = some d) : d.index = o.index := by
  unfold fault? at h
  split at h <;> try split_ifs at h
  all_goals
    cases h
    try rfl

end Operand

lemma MessageBody.ofOperands?_yields {os : List Operand} (h : ∀ o ∈ os, o.index ∈ places) :
    Yields places (fun _ => True) (ofOperands? os) := by
  have parts : Yields places (∀ p ∈ ·, (fun _ => True) p) (os.mapM Operand.contribution?) :=
    .mapM fun o ho => Operand.contribution?_yields (h o ho)
  exact parts.bind fun _ _ => trivial

namespace Window

variable {w : Window} {o : Operand}

lemma wellFormed_standard : standard.WellFormed := ⟨rfl, rfl, rfl⟩

lemma fill?_yields (hw : w.WellFormed) (ho : o.index ∈ places) :
    Yields places WellFormed (w.fill? o) := by
  unfold fill?
  split
  · exact (Operand.limit?_yields ho).map fun _ _ => ⟨hw.before, hw.after, hw.around⟩
  · exact (Operand.id?_yields ho .message).map fun _ hid => ⟨hid, hw.after, hw.around⟩
  · exact (Operand.id?_yields ho .message).map fun _ hid => ⟨hw.before, hid, hw.around⟩
  · exact (Operand.id?_yields ho .message).map fun _ hid => ⟨hw.before, hw.after, hid⟩
  · exact hw

end Window

namespace Directive

variable {d : Directive} {o t : Operand} {k : Keyword}

lemma mem_places_of_target (h : d.target = some t) : t.index ∈ d.places := by
  have ht : t ∈ d.operands := List.mem_append_left _ (by simp [h])
  exact List.mem_cons_of_mem _ (List.mem_map_of_mem ht)

lemma mem_places_of_values (h : o ∈ d.values) : o.index ∈ d.places :=
  List.mem_cons_of_mem _ (List.mem_map_of_mem (List.mem_append_right _ h))

/-- The directive is compiled to well-formed calls, or one of its places is blamed. -/
abbrev Compiles (d : Directive) : Except Diagnostic (List Call) → Prop :=
  Yields d.places (∀ c ∈ ·, c.WellFormed)

lemma refuse_yields (d : Directive) (k : Keyword) : Yields d.places wanted (d.refuse k) :=
  List.mem_cons_self

lemma channelCalls?_yields (d : Directive) : d.Compiles d.channelCalls? := by
  unfold channelCalls?
  split
  · exact List.forall_mem_nil _
  · next t ht =>
    have place := mem_places_of_target ht
    split_ifs
    · exact Operand.selection_yields place .channel fun _ hid => hid
    · exact place

lemma scopeCalls?_yields (d : Directive) (k : Keyword) : d.Compiles (d.scopeCalls? k) := by
  unfold scopeCalls?
  split
  · exact List.forall_mem_nil _
  · next t ht =>
    have place := mem_places_of_target ht
    split_ifs
    · exact Operand.selection_yields place .guild fun _ hid => hid
    · exact Operand.selection_yields place .channel fun _ hid => hid
    · exact place

lemma useCall?_yields (ho : o.index ∈ places) : Yields places Call.WellFormed (useCall? o) := by
  unfold useCall?
  split_ifs with _ token
  · exact token
  · exact ho
  · exact (Operand.id?_yields ho .guild).map fun _ hid => hid
  · exact (Operand.id?_yields ho .channel).map fun _ hid => hid
  · exact ho

lemma useCalls?_yields (d : Directive) : d.Compiles d.useCalls? := by
  unfold useCalls?
  split_ifs
  · exact d.refuse_yields .use
  · exact .mapM fun o ho => useCall?_yields (mem_places_of_values ho)

lemma listenCalls?_yields (listener : Listener) (d : Directive) :
    d.Compiles (d.listenCalls? listener) := by
  apply (d.scopeCalls?_yields .listen).bind
  intro selection hselection
  refine List.forall_mem_append.mpr ⟨hselection, List.forall_mem_singleton.mpr ?_⟩
  split <;> trivial

lemma fetchCall?_yields (d : Directive) (ho : o.index ∈ places) :
    Yields places Call.WellFormed (d.fetchCall? o) := by
  unfold fetchCall?
  split_ifs
  · exact (Operand.id?_yields ho .guild).map fun _ hid => hid
  · exact (Operand.id?_yields ho .channel).map fun _ hid => hid
  · exact (Operand.id?_yields ho .message).map fun _ hid => ⟨rfl, rfl, hid⟩
  · exact (Operand.id?_yields ho .user).map fun _ hid => hid
  · exact (Operand.id?_yields ho .user).map fun _ hid => hid
  · exact ho

lemma fetchCalls?_yields (d : Directive) : d.Compiles d.fetchCalls? := by
  apply (d.scopeCalls?_yields .fetch).bind
  intro selection hselection
  split_ifs
  · exact d.refuse_yields .fetch
  · have calls : d.Compiles (d.values.mapM d.fetchCall?) :=
      .mapM fun o ho => d.fetchCall?_yields (mem_places_of_values ho)
    apply calls.bind
    intro cs hcs
    exact List.forall_mem_append.mpr ⟨hselection, hcs⟩

lemma readCalls?_yields (d : Directive) : d.Compiles d.readCalls? := by
  cases target : d.target with
  | none =>
    rw [readCalls?, target]
    exact d.refuse_yields .read
  | some t =>
    have place := mem_places_of_target target
    have selected : d.Compiles (if t.has .channel then
        (t.id? .channel).map fun id => [.selectChannel id] else .ok []) := by
      split_ifs
      · exact Operand.selection_yields place .channel fun _ hid => hid
      · exact List.forall_mem_nil _
    have filled : Yields d.places Window.WellFormed
        (d.values.foldlM Window.fill? Window.standard) :=
      .foldlM Window.wellFormed_standard fun o ho w hw =>
        Window.fill?_yields hw (mem_places_of_values ho)
    rw [readCalls?_eq target]
    apply selected.bind
    intro selection hselection
    split_ifs
    · exact place
    · apply filled.bind
      intro w hw
      exact List.forall_mem_append.mpr ⟨hselection, List.forall_mem_singleton.mpr hw⟩

lemma deleteStep?_yields {state : Window × List Call} (ho : o.index ∈ places)
    (h : state.1.WellFormed ∧ ∀ c ∈ state.2, c.WellFormed) :
    Yields places (fun next : Window × List Call =>
      next.1.WellFormed ∧ ∀ c ∈ next.2, c.WellFormed) (deleteStep? state o) := by
  obtain ⟨hwindow, hcalls⟩ := h
  unfold deleteStep?
  split_ifs
  · exact (Window.fill?_yields hwindow ho).map fun w hw => ⟨hw, hcalls⟩
  · apply (Operand.id?_yields ho .message).map
    intro id hid
    exact ⟨hwindow, List.forall_mem_append.mpr ⟨hcalls, List.forall_mem_singleton.mpr hid⟩⟩
  · exact ⟨hwindow, hcalls⟩

lemma deleteCalls?_yields (d : Directive) : d.Compiles d.deleteCalls? := by
  apply d.channelCalls?_yields.bind
  intro selection hselection
  have steps : Yields d.places _ (d.values.foldlM deleteStep? (Window.standard, [])) :=
    .foldlM ⟨Window.wellFormed_standard, List.forall_mem_nil _⟩ fun o ho state hstate =>
      deleteStep?_yields (mem_places_of_values ho) hstate
  apply steps.bind
  rintro ⟨window, calls⟩ ⟨hwindow, hcalls⟩
  refine List.forall_mem_append.mpr ⟨List.forall_mem_append.mpr ⟨hselection, hcalls⟩, ?_⟩
  split_ifs
  · exact List.forall_mem_singleton.mpr hwindow
  · exact List.forall_mem_nil _

lemma body_yields (d : Directive) :
    Yields d.places (fun _ => True) (MessageBody.ofOperands? d.values) :=
  MessageBody.ofOperands?_yields fun _ ho => mem_places_of_values ho

lemma sendCalls?_yields (d : Directive) : d.Compiles d.sendCalls? := by
  apply d.channelCalls?_yields.bind
  intro selection hselection
  split_ifs
  · exact d.refuse_yields .send
  · apply d.body_yields.bind
    intro body _
    exact List.forall_mem_append.mpr ⟨hselection, List.forall_mem_singleton.mpr trivial⟩

lemma editTarget?_yields (d : Directive) :
    Yields d.places (fun r : List Call × Option String =>
      (∀ c ∈ r.1, c.WellFormed) ∧ r.2.all isSnowflake = true) d.editTarget? := by
  unfold editTarget?
  split
  · exact ⟨List.forall_mem_nil _, rfl⟩
  · next t ht =>
    have place := mem_places_of_target ht
    split_ifs
    · apply (Operand.id?_yields place .channel).map
      intro id hid
      exact ⟨List.forall_mem_singleton.mpr hid, rfl⟩
    · apply (Operand.id?_yields place .message).map
      intro id hid
      exact ⟨List.forall_mem_nil _, hid⟩
    · exact place

lemma editedId?_yields (d : Directive) {named : Option String}
    (h : named.all isSnowflake = true) :
    Yields d.places (isSnowflake · = true) (d.editedId? named) := by
  unfold editedId?
  split
  · exact h
  · split
    · next o ho =>
      have hvalues := (List.mem_filter.mp (List.mem_of_getLast? ho)).1
      exact Operand.id?_yields (mem_places_of_values hvalues) .message
    · exact d.refuse_yields .edit

lemma editCalls?_yields (d : Directive) : d.Compiles d.editCalls? := by
  apply d.editTarget?_yields.bind
  rintro ⟨selection, named⟩ ⟨hselection, hnamed⟩
  apply (d.editedId?_yields hnamed).bind
  intro id hid
  apply d.body_yields.bind
  intro body _
  exact List.forall_mem_append.mpr ⟨hselection, List.forall_mem_singleton.mpr hid⟩

lemma showCalls?_yields (d : Directive) : d.Compiles d.showCalls? := by
  unfold showCalls?
  split
  · next t ht =>
    split_ifs
    · apply (Operand.id?_yields (mem_places_of_target ht) .guild).map
      intro id hid
      simpa [Call.WellFormed] using hid
    · exact List.forall_mem_singleton.mpr trivial
  · exact List.forall_mem_singleton.mpr trivial

lemma presenceCalls?_yields (d : Directive) : d.Compiles d.presenceCalls? := by
  unfold presenceCalls? presence?
  split
  · next o ho =>
    have hvalues : o ∈ d.values := by
      split at ho
      · next o' hd =>
        split_ifs at ho
        cases ho
        rw [hd]
        exact List.mem_singleton_self _
      · cases ho
    apply (Operand.json?_yields (mem_places_of_values hvalues)).map
    intro v _
    exact List.forall_mem_singleton.mpr trivial
  · exact List.forall_mem_nil _

lemma openerCalls?_yields (listener : Listener) (d : Directive) (opener : Opener) :
    d.Compiles (d.openerCalls? listener opener) := by
  cases opener with
  | use => exact d.useCalls?_yields
  | listen => exact d.listenCalls?_yields listener
  | fetch => exact d.fetchCalls?_yields
  | read => exact d.readCalls?_yields
  | delete => exact d.deleteCalls?_yields
  | send => exact d.sendCalls?_yields
  | edit => exact d.editCalls?_yields
  | «show» => exact d.showCalls?_yields
  | presence => exact d.presenceCalls?_yields
  | raw => exact List.forall_mem_nil _

lemma index_of_fault? {fault : Diagnostic} (h : d.fault? = some fault) :
    fault.index ∈ d.places := by
  obtain ⟨o, ho, hfault⟩ := List.mem_filterMap.mp (Diagnostic.mem_of_leftmost? h)
  rw [Operand.index_of_fault? hfault]
  exact List.mem_cons_of_mem _ (List.mem_map_of_mem ho)

/-- Whatever its opening word, a directive is compiled to well-formed calls or one of its places is
blamed. -/
theorem calls?_yields (listener : Listener) (d : Directive) :
    d.Compiles (d.calls? listener) := by
  unfold calls?
  split
  · exact List.mem_cons_self
  · next opener _ =>
    split
    · next fault hfault => exact index_of_fault? hfault
    · exact d.openerCalls?_yields listener opener

lemma wellFormed_of_calls? {listener : Listener} {calls : List Call}
    (h : d.calls? listener = .ok calls) : ∀ c ∈ calls, c.WellFormed := by
  have yields := d.calls?_yields listener
  rwa [h] at yields

end Directive

/-- The calls of a text that compiles are well-formed. -/
theorem Script.wellFormed_of_compile? {listener : Listener} {source : String} {p : Script}
    (h : compile? listener source = .ok p) : ∀ c ∈ p.calls, c.WellFormed := by
  obtain ⟨ds, -, h⟩ := bind_eq_ok h
  obtain ⟨calls, hcalls, h⟩ := bind_eq_ok h
  cases h
  intro c hc
  obtain ⟨cs, hcs, hc⟩ := List.mem_flatten.mp hc
  rw [← filterMap_of_mapM_eq_ok hcalls] at hcs
  obtain ⟨d, -, hd⟩ := List.mem_filterMap.mp hcs
  exact Directive.wellFormed_of_calls? (toOption_eq_some.mp hd) c hc

end ChatQuery
