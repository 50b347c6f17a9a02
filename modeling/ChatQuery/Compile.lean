import ChatQuery.Call
import ChatQuery.Directive
import ChatQuery.Identifier
import ChatQuery.Json.Reader

/-!
The calls that a directive stands for. Every marked operand is checked first, whether or not the
directive makes use of it, and the leftmost bad one is reported.
-/
namespace ChatQuery

namespace Operand

def has (o : Operand) (m : Mark) : Bool := o.mark = some (.mark m)

/-- The operand as an identifier. -/
def id? (o : Operand) (expected : Mark) : Except Diagnostic String :=
  if isSnowflake o.text then .ok o.text else .error ⟨o.index, .mark expected⟩

def json? (o : Operand) : Except Diagnostic Json :=
  match Json.read? o.text with
  | some v => .ok v
  | none => .error ⟨o.index, .literal .object⟩

/-- A limit is a run of ASCII digits and fits 32 bits. -/
def limit? (o : Operand) : Except Diagnostic Nat :=
  let ds := o.text.toList
  let value := ds.foldl (fun n d => n * 10 + (d.toNat - '0'.toNat)) 0
  if !ds.isEmpty && ds.all Char.isDigit && decide (value < UInt32.size) then .ok value
  else .error ⟨o.index, .literal .number⟩

/-- What is wrong with a marked operand: a token that is none, or an identifier that is none. -/
def fault? (o : Operand) : Option Diagnostic :=
  match o.mark with
  | some (.mark .token) =>
    if isBotToken o.text then none else some ⟨o.index, .mark .token⟩
  | some (.mark .mention) =>
    if isSnowflake o.text then none else some ⟨o.index, .mark .user⟩
  | some (.mark .attachment) | some (.mark .embed) => none
  | some (.mark m) => if isSnowflake o.text then none else some ⟨o.index, .mark m⟩
  | _ => none

end Operand

/-- The diagnostic with the smallest offset; of several the first. -/
def Diagnostic.leftmost? : List Diagnostic → Option Diagnostic
  | [] => none
  | d :: ds =>
    match leftmost? ds with
    | none => some d
    | some e => if e.index < d.index then some e else some d

/-- What an operand adds to a message. -/
inductive Contribution
  | attachment (name : String)
  | embed (value : Json)
  | line (text : String)
  | nothing

def Operand.contribution? (o : Operand) : Except Diagnostic Contribution :=
  if o.has .attachment then .ok (.attachment o.text)
  else if o.key = .literal .object ∨ (o.key = .literal .string ∧ o.has .embed) then
    o.json?.map .embed
  else if o.key = .literal .string ∧ o.has .mention then
    (o.id? .user).map fun id => .line ("<@" ++ id ++ ">")
  else if (o.key = .literal .string ∨ o.key = .literal .number) ∧ o.mark = none then
    .ok (.line o.text)
  else .ok .nothing

namespace MessageBody

/-- Lines each end in a line feed. -/
def add (b : MessageBody) : Contribution → MessageBody
  | .attachment name => { b with attachments := b.attachments ++ [name] }
  | .embed value => { b with embeds := b.embeds ++ [value] }
  | .line text => { b with content := b.content ++ text ++ "\n" }
  | .nothing => b

def ofOperands? (os : List Operand) : Except Diagnostic MessageBody := do
  let parts ← os.mapM Operand.contribution?
  .ok (parts.foldl add empty)

end MessageBody

namespace Window

/-- Fills in what a clause of a window says. Operands of other kinds change nothing. -/
def fill? (w : Window) (o : Operand) : Except Diagnostic Window :=
  match o.key with
  | .keyword .limit => o.limit?.map fun n => { w with limit := n }
  | .keyword .before => (o.id? .message).map fun id => { w with before := some id }
  | .keyword .after => (o.id? .message).map fun id => { w with after := some id }
  | .keyword .around => (o.id? .message).map fun id => { w with around := some id }
  | _ => .ok w

end Window

/-- Whether an operand belongs to a clause of a window. -/
def Operand.isAnchor (o : Operand) : Bool :=
  o.key = .keyword .limit ∨ o.key = .keyword .before ∨ o.key = .keyword .after ∨
    o.key = .keyword .around

namespace Directive

def operands (d : Directive) : List Operand := d.target.toList ++ d.values

def fault? (d : Directive) : Option Diagnostic :=
  Diagnostic.leftmost? (d.operands.filterMap Operand.fault?)

/-- A complaint about the directive as a whole points to its opening word. -/
def refuse {α : Type} (d : Directive) (k : Keyword) : Except Diagnostic α :=
  .error ⟨d.head.index, .keyword k⟩

/-- The selection of a channel target. Targets of other kinds are refused. -/
def channelCalls? (d : Directive) : Except Diagnostic (List Call) :=
  match d.target with
  | none => .ok []
  | some t =>
    if t.has .channel then (t.id? .channel).map fun id => [.selectChannel id]
    else .error ⟨t.index, .mark .channel⟩

/-- The selection of a guild or channel target. Targets of other kinds are refused. -/
def scopeCalls? (d : Directive) (k : Keyword) : Except Diagnostic (List Call) :=
  match d.target with
  | none => .ok []
  | some t =>
    if t.has .guild then (t.id? .guild).map fun id => [.selectGuild id]
    else if t.has .channel then (t.id? .channel).map fun id => [.selectChannel id]
    else .error ⟨t.index, .keyword k⟩

def useCall? (o : Operand) : Except Diagnostic Call :=
  if o.has .token then
    if isBotToken o.text then .ok (.login o.text) else .error ⟨o.index, .mark .token⟩
  else if o.has .guild then (o.id? .guild).map .selectGuild
  else if o.has .channel then (o.id? .channel).map .selectChannel
  else .error ⟨o.index, .keyword .use⟩

def useCalls? (d : Directive) : Except Diagnostic (List Call) :=
  if d.values.isEmpty then d.refuse .use else d.values.mapM useCall?

/-- The clauses of the first value decide whether the named events are the only ones or the ones
left out. -/
def events (d : Directive) : List String :=
  match d.values.head?.map Operand.key with
  | some (.keyword .«include») => standardEvents.filter fun e => d.values.any (·.text == e)
  | some (.keyword .exclude) => standardEvents.filter fun e => !d.values.any (·.text == e)
  | _ => standardEvents

def listenCalls? (listener : Listener) (d : Directive) : Except Diagnostic (List Call) := do
  let selection ← d.scopeCalls? .listen
  let subscription : Subscription := ⟨listener, d.events⟩
  let listen : Call :=
    match selection with
    | .selectGuild _ :: _ => .listenGuild subscription
    | .selectChannel _ :: _ => .listenChannel subscription
    | _ => .listenClient subscription
  .ok (selection ++ [listen])

/-- A message is fetched by reading one message around it. -/
def fetchCall? (d : Directive) (o : Operand) : Except Diagnostic Call :=
  if o.has .guild then (o.id? .guild).map .fetchGuild
  else if o.has .channel then (o.id? .channel).map .fetchChannel
  else if o.has .message then
    (o.id? .message).map fun id => .readChannel { Window.standard with limit := 1, around := some id }
  else if o.has .user then
    (o.id? .user).map (if d.target.isSome then .fetchMember else .fetchUser)
  else .error ⟨o.index, .keyword .fetch⟩

def fetchCalls? (d : Directive) : Except Diagnostic (List Call) := do
  let selection ← d.scopeCalls? .fetch
  if d.values.isEmpty then d.refuse .fetch
  else
    let calls ← d.values.mapM d.fetchCall?
    .ok (selection ++ calls)

def readCalls? (d : Directive) : Except Diagnostic (List Call) :=
  match d.target with
  | none => d.refuse .read
  | some t => do
    let selection ←
      if t.has .channel then (t.id? .channel).map fun id => [Call.selectChannel id] else .ok []
    if d.values.isEmpty then .error ⟨t.index, .keyword .read⟩
    else
      let window ← d.values.foldlM Window.fill? Window.standard
      .ok (selection ++ [.readChannel window])

/-- One step of a deletion: anchors go into the window, and a marked message is deleted. -/
def deleteStep? (state : Window × List Call) (o : Operand) :
    Except Diagnostic (Window × List Call) :=
  if o.isAnchor then (state.1.fill? o).map (·, state.2)
  else if o.has .message then
    (o.id? .message).map fun id => (state.1, state.2 ++ [.deleteMessage id])
  else .ok state

/-- Messages of the window are deleted only if a limit is given. -/
def deleteCalls? (d : Directive) : Except Diagnostic (List Call) := do
  let selection ← d.channelCalls?
  let (window, calls) ← d.values.foldlM deleteStep? (Window.standard, [])
  let bulk := d.values.any (·.key = .keyword .limit)
  .ok (selection ++ calls ++ if bulk then [.deleteMessages window] else [])

def sendCalls? (d : Directive) : Except Diagnostic (List Call) := do
  let selection ← d.channelCalls?
  if d.values.isEmpty then d.refuse .send
  else
    let body ← MessageBody.ofOperands? d.values
    .ok (selection ++ [.sendMessage body])

/-- The selection of an edit, and the message that its target names. -/
def editTarget? (d : Directive) : Except Diagnostic (List Call × Option String) :=
  match d.target with
  | none => .ok ([], none)
  | some t =>
    if t.has .channel then (t.id? .channel).map fun id => ([.selectChannel id], none)
    else if t.has .message then (t.id? .message).map fun id => ([], some id)
    else .error ⟨t.index, .mark .message⟩

/-- The message that is edited: a message target, or else the last value marked as a message. -/
def editedId? (d : Directive) : Option String → Except Diagnostic String
  | some id => .ok id
  | none =>
    match (d.values.filter (·.has .message)).getLast? with
    | some o => o.id? .message
    | none => d.refuse .edit

def editCalls? (d : Directive) : Except Diagnostic (List Call) := do
  let (selection, named) ← d.editTarget?
  let messageId ← d.editedId? named
  let body ← MessageBody.ofOperands? d.values
  .ok (selection ++ [.editMessage ⟨messageId, body⟩])

def showCalls? (d : Directive) : Except Diagnostic (List Call) :=
  match d.target with
  | some t =>
    if t.has .guild then
      (t.id? .guild).map fun id => [.selectGuild id, .showChannels none, .showMembers none]
    else .ok [.showGuilds none]
  | none => .ok [.showGuilds none]

/-- The one object literal that a presence must be. -/
def presence? (d : Directive) : Option Operand :=
  match d.values with
  | [o] => if o.key = .literal .object then some o else none
  | _ => none

def presenceCalls? (d : Directive) : Except Diagnostic (List Call) :=
  match d.presence? with
  | some o => o.json?.map fun v => [.updatePresence v]
  | none => .ok []

def openerCalls? (listener : Listener) (d : Directive) : Opener → Except Diagnostic (List Call)
  | .use => d.useCalls?
  | .listen => d.listenCalls? listener
  | .fetch => d.fetchCalls?
  | .read => d.readCalls?
  | .delete => d.deleteCalls?
  | .send => d.sendCalls?
  | .edit => d.editCalls?
  | .«show» => d.showCalls?
  | .presence => d.presenceCalls?
  | .raw => .ok []

/-- The calls of a directive. Events of its subscriptions go to the listener. -/
def calls? (listener : Listener) (d : Directive) : Except Diagnostic (List Call) :=
  match Opener.ofKind? d.head.key with
  | none => .error ⟨d.head.index, .error⟩
  | some opener =>
    match d.fault? with
    | some fault => .error fault
    | none => d.openerCalls? listener opener

/-- A presence that is not one object is left out with a notice. -/
def ignored? (d : Directive) : Option (Nat × Nat) :=
  if d.head.key = .keyword .presence ∧ d.presence?.isNone then
    some (d.head.index, d.values.length)
  else none

end Directive

end ChatQuery
