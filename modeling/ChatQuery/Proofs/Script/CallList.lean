import ChatQuery.Call
import ChatQuery.Proofs.Json.Normal

/-!
Reading calls back from what is written of them. Everything but the listener of a subscription is
written, so lists of calls that are written alike differ in their listeners only.
-/
namespace ChatQuery

namespace Json

def asText? : Json → Option String
  | .str s => some s
  | _ => none

def asSearch? : Json → Option (Option String)
  | .null => some none
  | .str s => some (some s)
  | _ => none

def asItems? : Json → Option (List Json)
  | .arr items => some items
  | _ => none

def asTexts? (v : Json) : Option (List String) := v.asItems?.bind (·.mapM asText?)

def asCount? : Json → Option Nat
  | .int i => some i.toNat
  | _ => none

/-- Values of the same form count as the same. A form leaves null, texts and integers as they are,
and goes through arrays and the fields of objects. -/
structure Form (form : Json → Json) : Prop where
  null : form .null = .null
  str (s : String) : form (.str s) = .str s
  int (i : Int) : form (.int i) = .int i
  arr (items : List Json) : form (.arr items) = .arr (items.map form)
  field? (v : Json) (name : String) : (form v).field? name = (v.field? name).map form
  obj {fs gs : List (String × Json)}
    (h : (fs.map fun f => (f.1, form f.2)) = gs.map fun f => (f.1, form f.2)) :
    form (.obj fs) = form (.obj gs)
  idem (v : Json) : form (form v) = form v

theorem Form.id : Form id where
  null := rfl
  str _ := rfl
  int _ := rfl
  arr items := by simp
  field? v name := by simp
  obj h := by simpa using h
  idem _ := rfl

theorem Form.normal : Form Json.normal where
  null := rfl
  str _ := rfl
  int _ := rfl
  arr items := by rw [Json.normal, normalItems_eq_map]
  field? := field?_normal
  obj h := by rw [Json.normal, Json.normal, normalFields_eq_foldr, h, ← normalFields_eq_foldr]
  idem := normal_normal

end Json

def MessageBody.ofJson? (v : Json) : Option MessageBody := do
  let content ← (← v.field? "content").asText?
  let attachments ← (← v.field? "attachments").asTexts?
  let embeds ← (← v.field? "embeds").asItems?
  return ⟨content, attachments, embeds⟩

def MessageEdit.ofJson? (v : Json) : Option MessageEdit := do
  let messageId ← (← v.field? "messageID").asText?
  let body ← MessageBody.ofJson? (← v.field? "editOptions")
  return ⟨messageId, body⟩

def Window.ofJson? (v : Json) : Option Window := do
  let limit ← (← v.field? "limit").asCount?
  let anchor (name : String) := (v.field? name).bind Json.asText?
  return ⟨limit, anchor "before", anchor "after", anchor "around"⟩

lemma Window.field?_toJson (w : Window) : w.toJson.field? "before" = w.before.map .str ∧
    w.toJson.field? "after" = w.after.map .str ∧
    w.toJson.field? "around" = w.around.map .str := by
  obtain ⟨limit, before, after, around⟩ := w
  cases before <;> cases after <;> cases around <;> exact ⟨rfl, rfl, rfl⟩

/-- The subscription, with a listener that hears nothing. -/
def Subscription.ofJson? (v : Json) : Option Subscription := do
  let events ← (← v.field? "includeEvents").asTexts?
  return ⟨.discard, events⟩

namespace Call

def ofArguments? (v : Json) : Operation → Option Call
  | .login => v.asText?.map login
  | .selectGuild => v.asText?.map selectGuild
  | .selectChannel => v.asText?.map selectChannel
  | .fetchGuild => v.asText?.map fetchGuild
  | .fetchChannel => v.asText?.map fetchChannel
  | .fetchUser => v.asText?.map fetchUser
  | .fetchMember => v.asText?.map fetchMember
  | .showGuilds => v.asSearch?.map showGuilds
  | .showChannels => v.asSearch?.map showChannels
  | .showMembers => v.asSearch?.map showMembers
  | .sendMessage => (MessageBody.ofJson? v).map sendMessage
  | .editMessage => (MessageEdit.ofJson? v).map editMessage
  | .deleteMessage => v.asText?.map deleteMessage
  | .deleteMessages => (Window.ofJson? v).map deleteMessages
  | .readChannel => (Window.ofJson? v).map readChannel
  | .updatePresence => some (updatePresence v)
  | .listenClient => (Subscription.ofJson? v).map listenClient
  | .listenGuild => (Subscription.ofJson? v).map listenGuild
  | .listenChannel => (Subscription.ofJson? v).map listenChannel

def ofJson? (v : Json) : Option Call := do
  let name ← (← v.field? "command").asText?
  let operation ← Operation.ofName? name
  ofArguments? (← v.field? "args") operation

/-- The call without its listener. -/
def unheard : Call → Call
  | .listenClient s => .listenClient { s with listener := .discard }
  | .listenGuild s => .listenGuild { s with listener := .discard }
  | .listenChannel s => .listenChannel { s with listener := .discard }
  | c => c

/-- The call without its listener, and with the JSON values among its arguments in a form. -/
def inForm (form : Json → Json) : Call → Call
  | .sendMessage body => .sendMessage { body with embeds := body.embeds.map form }
  | .editMessage edit =>
    .editMessage { edit with body := { edit.body with embeds := edit.body.embeds.map form } }
  | .updatePresence presence => .updatePresence (form presence)
  | c => c.unheard

lemma inForm_id : inForm id = unheard := by
  funext c
  cases c <;> simp [inForm, unheard]

/-- The name of the kind of call in camel case is the name of its operation. -/
lemma tag_eq (c : Call) : c.tag = c.operation.name := by
  unfold tag
  cases c <;> simp only [kind, operation, Operation.name] <;> decide +kernel

section Forms

variable {form : Json → Json} (h : Json.Form form)

include h

lemma asTexts?_ofStrings (texts : List String) :
    (form (.ofStrings texts)).asTexts? = some texts := by
  rw [Json.ofStrings, h.arr, Json.asTexts?, Json.asItems?, Option.bind_some, List.map_map]
  induction texts with
  | nil => rfl
  | cons t ts ih => simp [List.mapM_cons, h.str, Json.asText?, ih]

lemma ofJson?_body (b : MessageBody) :
    MessageBody.ofJson? (form b.toJson) = some { b with embeds := b.embeds.map form } := by
  have content : (form b.toJson).field? "content" = some (.str b.content) := by
    rw [h.field?, ← h.str]
    rfl
  have attachments : (form b.toJson).field? "attachments" =
      some (form (.ofStrings b.attachments)) := by
    rw [h.field?]
    rfl
  have embeds : (form b.toJson).field? "embeds" = some (.arr (b.embeds.map form)) := by
    rw [h.field?, ← h.arr]
    rfl
  simp [MessageBody.ofJson?, content, attachments, embeds, asTexts?_ofStrings h, Json.asText?,
    Json.asItems?]

lemma ofJson?_edit (e : MessageEdit) :
    MessageEdit.ofJson? (form e.toJson) =
      some { e with body := { e.body with embeds := e.body.embeds.map form } } := by
  have messageId : (form e.toJson).field? "messageID" = some (.str e.messageId) := by
    rw [h.field?, ← h.str]
    rfl
  have body : (form e.toJson).field? "editOptions" = some (form e.body.toJson) := by
    rw [h.field?]
    rfl
  simp [MessageEdit.ofJson?, messageId, body, ofJson?_body h, Json.asText?]

lemma ofJson?_window (w : Window) : Window.ofJson? (form w.toJson) = some w := by
  have limit : (form w.toJson).field? "limit" = some (.int w.limit) := by
    rw [h.field?, ← h.int]
    rfl
  have anchor {name : String} {id : Option String} (hid : w.toJson.field? name = id.map .str) :
      ((form w.toJson).field? name).bind Json.asText? = id := by
    rw [h.field?, hid]
    cases id with
    | none => rfl
    | some i => simp [h.str, Json.asText?]
  obtain ⟨before, after, around⟩ := Window.field?_toJson w
  simp [Window.ofJson?, limit, anchor before, anchor after, anchor around, Json.asCount?]

lemma ofJson?_subscription (s : Subscription) :
    Subscription.ofJson? (form s.toJson) = some { s with listener := .discard } := by
  have events : (form s.toJson).field? "includeEvents" = some (form (.ofStrings s.events)) := by
    rw [h.field?]
    rfl
  simp [Subscription.ofJson?, events, asTexts?_ofStrings h]

lemma ofArguments?_arguments (c : Call) :
    ofArguments? (form c.arguments) c.operation = some (c.inForm form) := by
  cases c with
  | login | selectGuild | selectChannel | fetchGuild | fetchChannel | fetchUser | fetchMember
  | deleteMessage =>
    simp only [arguments, operation, h.str]
    rfl
  | showGuilds search | showChannels search | showMembers search =>
    cases search with
    | none =>
      simp only [arguments, operation, Json.ofOption, h.null]
      rfl
    | some text =>
      simp only [arguments, operation, Json.ofOption, h.str]
      rfl
  | sendMessage body => exact congrArg (Option.map sendMessage) (ofJson?_body h body)
  | editMessage edit => exact congrArg (Option.map editMessage) (ofJson?_edit h edit)
  | deleteMessages window => exact congrArg (Option.map deleteMessages) (ofJson?_window h window)
  | readChannel window => exact congrArg (Option.map readChannel) (ofJson?_window h window)
  | updatePresence => rfl
  | listenClient s => exact congrArg (Option.map listenClient) (ofJson?_subscription h s)
  | listenGuild s => exact congrArg (Option.map listenGuild) (ofJson?_subscription h s)
  | listenChannel s => exact congrArg (Option.map listenChannel) (ofJson?_subscription h s)

/-- A call is read back from what is written of it. -/
theorem ofJson?_toJson (c : Call) : ofJson? (form c.toJson) = some (c.inForm form) := by
  have command : (form c.toJson).field? "command" = some (.str c.operation.name) := by
    rw [h.field?, ← h.str, ← tag_eq]
    rfl
  have args : (form c.toJson).field? "args" = some (form c.arguments) := by
    rw [h.field?]
    rfl
  simp [ofJson?, command, args, Json.asText?, Operation.ofName?_name, ofArguments?_arguments h]

lemma toJson_body_inForm (b : MessageBody) :
    form ({ b with embeds := b.embeds.map form } : MessageBody).toJson = form b.toJson := by
  refine h.obj ?_
  simp [h.arr, h.idem]

lemma arguments_inForm (c : Call) : form (c.inForm form).arguments = form c.arguments := by
  cases c with
  | sendMessage body => exact toJson_body_inForm h body
  | editMessage edit =>
    refine h.obj ?_
    simp [toJson_body_inForm h]
  | updatePresence presence => exact h.idem presence
  | _ => rfl

/-- Nothing else is written of a call than what is kept of it. -/
lemma toJson_inForm (c : Call) : form (c.inForm form).toJson = form c.toJson := by
  have tag : (c.inForm form).tag = c.tag := by cases c <;> rfl
  refine h.obj ?_
  simp [tag, arguments_inForm h]

/-- Lists of calls are written alike exactly if they are alike, listeners apart. -/
theorem toJson_lists_iff (xs ys : List Call) :
    form (.arr (xs.map toJson)) = form (.arr (ys.map toJson)) ↔
      xs.map (inForm form) = ys.map (inForm form) := by
  have read (cs : List Call) :
      ((cs.map toJson).map form).map ofJson? = (cs.map (inForm form)).map some := by
    simp [ofJson?_toJson h]
  have write (cs : List Call) :
      (cs.map toJson).map form = (cs.map (inForm form)).map (form ·.toJson) := by
    simp [toJson_inForm h]
  rw [h.arr, h.arr]
  constructor
  · intro heq
    have hread := congrArg (List.map ofJson?) (Json.arr.inj heq)
    rw [read, read] at hread
    exact List.map_injective_iff.mpr (fun _ _ => Option.some.inj) hread
  · intro heq
    rw [write, write, heq]

end Forms

/-- Every call is written under the name of its operation. Two lists of calls are written as the
same JSON value exactly if they have the same calls in the same order, listeners apart; likewise
where values count as the same if they differ in the order of fields and in the sign of zero only.
-/
theorem lists_unambiguous :
    (∀ c : Call, c.toJson.field? "command" = some (.str c.operation.name)) ∧
    ∀ xs ys : List Call,
      (Json.arr (xs.map toJson) = Json.arr (ys.map toJson) ↔ xs.map unheard = ys.map unheard) ∧
      ((Json.arr (xs.map toJson)).normal = (Json.arr (ys.map toJson)).normal ↔
        xs.map (inForm Json.normal) = ys.map (inForm Json.normal)) := by
  refine ⟨fun c => ?_, fun xs ys => ⟨?_, toJson_lists_iff .normal xs ys⟩⟩
  · rw [← tag_eq]
    rfl
  · rw [← inForm_id]
    exact toJson_lists_iff .id xs ys

end Call

end ChatQuery
