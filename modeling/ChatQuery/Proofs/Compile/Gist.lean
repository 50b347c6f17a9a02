import ChatQuery.Proofs.Compile.Fault

/-!
Places do not matter to what a directive compiles to. The gist of an operand is the operand without
its place, and a directive compiles to the same calls, or is refused, just like its gist.
-/
namespace ChatQuery

/-- The operand without its place. -/
def Operand.gist (o : Operand) : Operand := { o with index := 0 }

/-- The directive without its places, and without the spelling of its opening word. -/
def Directive.gist (d : Directive) : Directive where
  head := ⟨0, d.head.key, "", none⟩
  target := d.target.map Operand.gist
  values := d.values.map Operand.gist

namespace Operand

variable (o : Operand)

@[simp] lemma gist_key : o.gist.key = o.key := (rfl)

@[simp] lemma gist_text : o.gist.text = o.text := (rfl)

@[simp] lemma gist_mark : o.gist.mark = o.mark := (rfl)

@[simp] lemma gist_has (m : Mark) : o.gist.has m = o.has m := (rfl)

@[simp] lemma gist_isAnchor : o.gist.isAnchor = o.isAnchor := (rfl)

@[simp] lemma gist_id? (m : Mark) : (o.gist.id? m).toOption = (o.id? m).toOption := by
  unfold id?
  rw [gist_text]
  split_ifs <;> rfl

@[simp] lemma gist_json? : o.gist.json?.toOption = o.json?.toOption := by
  unfold json?
  rw [gist_text]
  cases Json.read? o.text <;> rfl

@[simp] lemma gist_limit? : o.gist.limit?.toOption = o.limit?.toOption := by
  unfold limit?
  simp only [gist_text]
  split_ifs <;> rfl

@[simp] lemma gist_contribution? : o.gist.contribution?.toOption = o.contribution?.toOption := by
  unfold contribution?
  simp only [gist_key, gist_has, gist_text, gist_mark]
  split_ifs <;> simp

lemma gist_fault? : o.gist.fault? = none ↔ o.fault? = none := by
  unfold fault?
  simp only [gist_mark, gist_text]
  split <;> try split_ifs <;> simp
  all_goals rfl

end Operand

lemma Window.gist_fill? (w : Window) (o : Operand) :
    (w.fill? o.gist).toOption = (w.fill? o).toOption := by
  unfold fill?
  rw [Operand.gist_key]
  split <;> simp

section Lists

variable {α : Type} {f g : Operand → Except Diagnostic α}
  {step : α → Operand → Except Diagnostic α}

lemma gist_mapM (h : ∀ o, (f o.gist).toOption = (g o).toOption) (os : List Operand) :
    ((os.map Operand.gist).mapM f).toOption = (os.mapM g).toOption := by
  rw [List.mapM_map, toOption_mapM, toOption_mapM]
  exact congrArg (List.mapM · os) (funext h)

lemma gist_foldlM (h : ∀ a o, (step a o.gist).toOption = (step a o).toOption) (a : α)
    (os : List Operand) :
    ((os.map Operand.gist).foldlM step a).toOption = (os.foldlM step a).toOption := by
  rw [List.foldlM_map, toOption_foldlM, toOption_foldlM]
  exact congrArg (List.foldlM · a os) (funext fun a => funext (h a))

end Lists

lemma MessageBody.gist_ofOperands? (os : List Operand) :
    (ofOperands? (os.map Operand.gist)).toOption = (ofOperands? os).toOption := by
  unfold ofOperands?
  rw [toOption_bind, gist_mapM Operand.gist_contribution?, toOption_bind]

namespace Directive

variable (d : Directive)

lemma gist_operands : d.gist.operands = d.operands.map Operand.gist := by
  unfold operands gist
  rw [List.map_append]
  cases d.target <;> rfl

lemma gist_fault? : d.gist.fault? = none ↔ d.fault? = none := by
  rw [fault?_eq_none, fault?_eq_none, gist_operands, List.forall_mem_map]
  simp only [Operand.gist_fault?]

@[simp] lemma toOption_refuse {α : Type} (k : Keyword) :
    (d.refuse k : Except Diagnostic α).toOption = none :=
  (rfl)

@[simp] lemma gist_target : d.gist.target = d.target.map Operand.gist := (rfl)

@[simp] lemma gist_values : d.gist.values = d.values.map Operand.gist := (rfl)

lemma gist_any {p : Operand → Bool} (h : ∀ o, p o.gist = p o) :
    d.gist.values.any p = d.values.any p := by
  rw [gist_values, List.any_map]
  exact congrArg _ (funext h)

@[simp] lemma gist_channelCalls? : d.gist.channelCalls?.toOption = d.channelCalls?.toOption := by
  unfold channelCalls?
  rw [gist_target]
  cases d.target with
  | none => rfl
  | some t =>
    simp only [Option.map_some, Operand.gist_has]
    split_ifs <;> simp

@[simp] lemma gist_scopeCalls? (k : Keyword) :
    (d.gist.scopeCalls? k).toOption = (d.scopeCalls? k).toOption := by
  unfold scopeCalls?
  rw [gist_target]
  cases d.target with
  | none => rfl
  | some t =>
    simp only [Option.map_some, Operand.gist_has]
    split_ifs <;> simp

lemma gist_useCall? (o : Operand) : (useCall? o.gist).toOption = (useCall? o).toOption := by
  unfold useCall?
  simp only [Operand.gist_has, Operand.gist_text]
  split_ifs <;> simp

lemma gist_useCalls? : d.gist.useCalls?.toOption = d.useCalls?.toOption := by
  unfold useCalls?
  rw [gist_values, List.isEmpty_map]
  split_ifs
  · simp
  · exact gist_mapM gist_useCall? d.values

lemma gist_events : d.gist.events = d.events := by
  have hkey : d.gist.values.head?.map Operand.key = d.values.head?.map Operand.key := by
    rw [gist_values, List.head?_map, Option.map_map]
    rfl
  have named (e : String) : d.gist.values.any (·.text == e) = d.values.any (·.text == e) :=
    d.gist_any fun _ => rfl
  unfold events
  simp only [hkey, named]

lemma gist_listenCalls? (listener : Listener) :
    (d.gist.listenCalls? listener).toOption = (d.listenCalls? listener).toOption := by
  unfold listenCalls?
  rw [gist_events, toOption_bind, gist_scopeCalls?, toOption_bind]

lemma gist_fetchCall? (o : Operand) :
    (d.gist.fetchCall? o.gist).toOption = (d.fetchCall? o).toOption := by
  unfold fetchCall?
  rw [gist_target, Option.isSome_map]
  simp only [Operand.gist_has]
  split_ifs <;> simp

lemma gist_fetchCalls? : d.gist.fetchCalls?.toOption = d.fetchCalls?.toOption := by
  unfold fetchCalls?
  rw [toOption_bind, gist_scopeCalls?, toOption_bind, gist_values, List.isEmpty_map]
  congr 1
  funext selection
  split_ifs
  · simp
  · rw [toOption_bind, gist_mapM d.gist_fetchCall?, toOption_bind]

lemma gist_readCalls? : d.gist.readCalls?.toOption = d.readCalls?.toOption := by
  unfold readCalls?
  rw [gist_target]
  cases d.target with
  | none => simp
  | some t =>
    simp only [Option.map_some, Operand.gist_has, gist_values, List.isEmpty_map]
    split_ifs <;> simp [gist_foldlM Window.gist_fill?]

lemma gist_deleteStep? (state : Window × List Call) (o : Operand) :
    (deleteStep? state o.gist).toOption = (deleteStep? state o).toOption := by
  unfold deleteStep?
  simp only [Operand.gist_isAnchor, Operand.gist_has]
  split_ifs <;> simp [Window.gist_fill?]

lemma gist_deleteCalls? : d.gist.deleteCalls?.toOption = d.deleteCalls?.toOption := by
  have bulk : d.gist.values.any (·.key = .keyword .limit) =
      d.values.any (·.key = .keyword .limit) :=
    d.gist_any fun _ => rfl
  rw [gist_values] at bulk
  unfold deleteCalls?
  simp only [toOption_bind, gist_channelCalls?, bulk, gist_values, gist_foldlM gist_deleteStep?]

lemma gist_sendCalls? : d.gist.sendCalls?.toOption = d.sendCalls?.toOption := by
  unfold sendCalls?
  simp only [toOption_bind, gist_channelCalls?, gist_values, List.isEmpty_map]
  congr 1
  funext selection
  split_ifs
  · simp
  · simp [MessageBody.gist_ofOperands?]

lemma gist_editTarget? : d.gist.editTarget?.toOption = d.editTarget?.toOption := by
  unfold editTarget?
  rw [gist_target]
  cases d.target with
  | none => rfl
  | some t =>
    simp only [Option.map_some, Operand.gist_has]
    split_ifs <;> simp

lemma gist_editedId? (named : Option String) :
    (d.gist.editedId? named).toOption = (d.editedId? named).toOption := by
  cases named with
  | some id => rfl
  | none =>
    have last : (d.gist.values.filter (·.has .message)).getLast? =
        (d.values.filter (·.has .message)).getLast?.map Operand.gist := by
      rw [gist_values, List.filter_map, List.getLast?_map]
      rfl
    unfold editedId?
    rw [last]
    cases (d.values.filter (·.has .message)).getLast? <;> simp

lemma gist_editCalls? : d.gist.editCalls?.toOption = d.editCalls?.toOption := by
  unfold editCalls?
  simp only [toOption_bind, gist_editTarget?, gist_editedId?, gist_values,
    MessageBody.gist_ofOperands?]

lemma gist_showCalls? : d.gist.showCalls?.toOption = d.showCalls?.toOption := by
  unfold showCalls?
  rw [gist_target]
  cases d.target with
  | none => rfl
  | some t =>
    simp only [Option.map_some, Operand.gist_has]
    split_ifs <;> simp

lemma gist_presence? : d.gist.presence? = d.presence?.map Operand.gist := by
  unfold presence?
  rw [gist_values]
  match d.values with
  | [] => rfl
  | [o] =>
    simp only [List.map_cons, List.map_nil, Operand.gist_key]
    split_ifs <;> rfl
  | _ :: _ :: _ => rfl

lemma gist_presenceCalls? : d.gist.presenceCalls?.toOption = d.presenceCalls?.toOption := by
  unfold presenceCalls?
  rw [gist_presence?]
  cases d.presence? with
  | none => rfl
  | some o => simp

lemma gist_openerCalls? (listener : Listener) (o : Opener) :
    (d.gist.openerCalls? listener o).toOption = (d.openerCalls? listener o).toOption := by
  cases o with
  | use => exact d.gist_useCalls?
  | listen => exact d.gist_listenCalls? listener
  | fetch => exact d.gist_fetchCalls?
  | read => exact d.gist_readCalls?
  | delete => exact d.gist_deleteCalls?
  | send => exact d.gist_sendCalls?
  | edit => exact d.gist_editCalls?
  | «show» => exact d.gist_showCalls?
  | presence => exact d.gist_presenceCalls?
  | raw => rfl

/-- A directive compiles like its gist. -/
theorem gist_calls? (listener : Listener) :
    (d.gist.calls? listener).toOption = (d.calls? listener).toOption := by
  have hhead : d.gist.head.key = d.head.key := rfl
  unfold calls?
  rw [hhead]
  cases Opener.ofKind? d.head.key with
  | none => rfl
  | some o =>
    cases hd : d.fault? with
    | none =>
      rw [d.gist_fault?.mpr hd]
      exact d.gist_openerCalls? listener o
    | some fault =>
      obtain ⟨other, hg⟩ : ∃ other, d.gist.fault? = some other := by
        rw [← Option.ne_none_iff_exists', ne_eq, d.gist_fault?, hd]
        exact Option.some_ne_none fault
      rw [hg]
      rfl

end Directive

end ChatQuery
