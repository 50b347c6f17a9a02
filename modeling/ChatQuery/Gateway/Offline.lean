import ChatQuery.History
import ChatQuery.Identifier

/-!
A gateway that needs no platform. It asks for a connection and a selection where the platform would,
and keeps the messages it is sent, so that they can be read, edited and deleted.
-/
namespace ChatQuery

structure StoredMessage where
  id : String
  channelId : String
  body : MessageBody

def StoredMessage.toJson (m : StoredMessage) : Json :=
  .record [("id", .str m.id), ("channelID", .str m.channelId), ("content", .str m.body.content),
    ("attachments", .ofStrings m.body.attachments), ("embeds", .arr m.body.embeds)]

/-- Where a listener hears events from. -/
inductive Scope
  | everywhere
  | guild (id : String)
  | channel (id : String)
  deriving DecidableEq

def Scope.covers (e : Event) : Scope → Bool
  | .everywhere => true
  | .guild id => e.guildId = some id
  | .channel id => e.channelId = some id

def Scope.id? : Scope → Option String
  | .everywhere => none
  | .guild id => some id
  | .channel id => some id

/-- The state of the gateway. Messages stand newest first, listeners in the order in which they
came. -/
structure Offline where
  token : Option String
  guild : Option String
  channel : Option String
  messages : List StoredMessage
  sent : Nat
  listeners : List (Scope × Subscription)
  presence : Option Json

namespace Offline

def start : Offline := ⟨none, none, none, [], 0, [], none⟩

def firstMessageId : Nat := 900000000000000000

/-- The identifier of the next message. It counts all messages that were ever sent. -/
def nextId (s : Offline) : String := toString (firstMessageId + s.sent)

/-- Whom an event is handed to, in order. -/
def deliveries (s : Offline) (e : Event) : List Listener :=
  (s.listeners.filter fun l => l.1.covers e && l.2.accepts e.name).map (·.2.listener)

/-- Hands an event to the listeners that hear it, one after another, and counts them. -/
def emit (s : Offline) (e : Event) : List Listener × Nat :=
  s.listeners.foldl (fun (done, count) (scope, sub) =>
    if scope.covers e && sub.accepts e.name then (done ++ [sub.listener], count + 1)
    else (done, count)) ([], 0)

def checkConnected (s : Offline) : Except GatewayError Unit :=
  if s.token.isSome then .ok () else .error .notConnected

def selectedGuild? (s : Offline) : Except GatewayError String :=
  match s.token, s.guild with
  | none, _ => .error .notConnected
  | some _, none => .error .noGuildSelected
  | some _, some g => .ok g

def selectedChannel? (s : Offline) : Except GatewayError String :=
  match s.token, s.channel with
  | none, _ => .error .notConnected
  | some _, none => .error .noChannelSelected
  | some _, some c => .ok c

def checkId (what id : String) : Except GatewayError Unit :=
  if isSnowflake id then .ok () else .error (.invalidId what id)

/-- A page of the messages of the selected channel: half of it before the message it is around, or
the newest ones between the bounds. Around a message that is not there it begins with the newest. -/
def page (messages : List StoredMessage) (w : Window) : List StoredMessage :=
  match w.around with
  | some id =>
    let centre := (messages.findIdx? (·.id = id)).getD 0
    (messages.drop (centre - w.limit / 2)).take w.limit
  | none =>
    let older := messages.filter fun m => w.before.all (m.id < ·)
    let between := older.filter fun m => w.after.all (· < m.id)
    between.take w.limit

def inChannel (s : Offline) (c : String) : List StoredMessage :=
  s.messages.filter (·.channelId = c)

def fetch (w : Window) (s : Offline) : Answer Offline (List StoredMessage) :=
  (s.selectedChannel?.map fun c => page (s.inChannel c) w, s)

def delete (ids : List String) (s : Offline) : Answer Offline Unit :=
  match s.selectedChannel? with
  | .error e => (.error e, s)
  | .ok _ => (.ok (), { s with messages := s.messages.filter fun m => !ids.contains m.id })

def source : MessageSource Offline StoredMessage := ⟨(·.id), fetch, delete⟩

/-- An answer that leaves the state alone. -/
def respond {α : Type} (s : Offline) (a : Except GatewayError α) : Answer Offline α := (a, s)

def login (token : String) (s : Offline) : Answer Offline Json :=
  if isBotToken token then
    (.ok (.record [("ready", .bool true)]), { s with token := some token })
  else (.error (.api 401 "An invalid token was provided."), s)

def selectGuild (id : String) (s : Offline) : Answer Offline Json :=
  match (do s.checkConnected; checkId "guild" id) with
  | .error e => (.error e, s)
  | .ok _ => (.ok (.record [("id", .str id)]), { s with guild := some id })

def selectChannel (id : String) (s : Offline) : Answer Offline Json :=
  match (do s.checkConnected; checkId "channel" id) with
  | .error e => (.error e, s)
  | .ok _ =>
    (.ok (.record [("id", .str id), ("guildID", .ofOption s.guild)]), { s with channel := some id })

/-- Things are fetched by echoing their identifier. -/
def fetchThing (what id : String) (s : Offline) : Answer Offline Json :=
  s.respond do
    s.checkConnected
    checkId what id
    .ok (.record [("id", .str id)])

def fetchMember (id : String) (s : Offline) : Answer Offline Json :=
  s.respond do
    let guild ← s.selectedGuild?
    checkId "user" id
    .ok (.record [("id", .str id), ("guildID", .str guild)])

/-- Whether the sought characters occur next to each other. Identifiers have no case, so case plays
no part. -/
def occurs (sought : List Char) : List Char → Bool
  | [] => sought.isEmpty
  | c :: cs => sought.isPrefixOf (c :: cs) || occurs sought cs

/-- The selected identifier, if the search finds it. -/
def listing (search selected : Option String) : Json :=
  .ofStrings (selected.toList.filter fun id => search.all fun s => occurs s.toList id.toList)

def showGuilds (search : Option String) (s : Offline) : Answer Offline Json :=
  s.respond do
    s.checkConnected
    .ok (listing search s.guild)

def showChannels (search : Option String) (s : Offline) : Answer Offline Json :=
  s.respond do
    let _ ← s.selectedGuild?
    .ok (listing search s.channel)

def showMembers (s : Offline) : Answer Offline Json :=
  s.respond do
    let _ ← s.selectedGuild?
    .ok (.arr [])

def sendMessage (body : MessageBody) (s : Offline) : Answer Offline Json :=
  match s.selectedChannel? with
  | .error e => (.error e, s)
  | .ok c =>
    let message : StoredMessage := ⟨s.nextId, c, body⟩
    (.ok message.toJson, { s with messages := message :: s.messages, sent := s.sent + 1 })

/-- A message of the selected channel, with its place among all messages. -/
def find? (id : String) (s : Offline) : Except GatewayError (Nat × StoredMessage) := do
  let c ← s.selectedChannel?
  checkId "message" id
  match s.messages.findIdx? fun m => m.id = id && m.channelId = c with
  | none => .error (.notFound "message" id)
  | some i =>
    match s.messages[i]? with
    | none => .error (.notFound "message" id)
    | some m => .ok (i, m)

def editMessage (edit : MessageEdit) (s : Offline) : Answer Offline Json :=
  match s.find? edit.messageId with
  | .error e => (.error e, s)
  | .ok (i, m) =>
    let message : StoredMessage := { m with body := edit.body }
    (.ok message.toJson, { s with messages := s.messages.set i message })

def deleteMessage (id : String) (s : Offline) : Answer Offline Json :=
  match s.find? id with
  | .error e => (.error e, s)
  | .ok (i, m) => (.ok m.toJson, { s with messages := s.messages.eraseIdx i })

def deleteMessages (w : Window) (s : Offline) : Answer Offline Json :=
  match s.selectedChannel? with
  | .error e => (.error e, s)
  | .ok _ =>
    match source.deleteAll w s with
    | (.error e, s) => (.error e, s)
    | (.ok ids, s) => (.ok (.ofStrings ids), s)

def readChannel (w : Window) (s : Offline) : Answer Offline Json :=
  match s.selectedChannel? with
  | .error e => (.error e, s)
  | .ok _ =>
    match source.collect w s with
    | (.error e, s) => (.error e, s)
    | (.ok messages, s) => (.ok (.arr (messages.map StoredMessage.toJson)), s)

def updatePresence (presence : Json) (s : Offline) : Answer Offline Json :=
  match s.checkConnected with
  | .error e => (.error e, s)
  | .ok _ => (.ok presence, { s with presence := some presence })

/-- Registers a listener in a scope that is fixed at this moment. -/
def listen (subscription : Subscription) (scope : Except GatewayError Scope) (s : Offline) :
    Answer Offline Json :=
  match scope with
  | .error e => (.error e, s)
  | .ok scope =>
    (.ok (.record [("scope", .ofOption scope.id?), ("includeEvents", .ofStrings subscription.events)]),
      { s with listeners := s.listeners ++ [(scope, subscription)] })

def call : Call → Offline → Answer Offline Json
  | .login token, s => s.login token
  | .selectGuild id, s => s.selectGuild id
  | .selectChannel id, s => s.selectChannel id
  | .fetchGuild id, s => s.fetchThing "guild" id
  | .fetchChannel id, s => s.fetchThing "channel" id
  | .fetchUser id, s => s.fetchThing "user" id
  | .fetchMember id, s => s.fetchMember id
  | .showGuilds search, s => s.showGuilds search
  | .showChannels search, s => s.showChannels search
  | .showMembers _, s => s.showMembers
  | .sendMessage body, s => s.sendMessage body
  | .editMessage edit, s => s.editMessage edit
  | .deleteMessage id, s => s.deleteMessage id
  | .deleteMessages w, s => s.deleteMessages w
  | .readChannel w, s => s.readChannel w
  | .updatePresence presence, s => s.updatePresence presence
  | .listenClient sub, s => s.listen sub (s.checkConnected.map fun _ => .everywhere)
  | .listenGuild sub, s => s.listen sub (s.selectedGuild?.map .guild)
  | .listenChannel sub, s => s.listen sub (s.selectedChannel?.map .channel)

/-- Closes the connection. Messages and the presence stay. -/
def destroy (s : Offline) : Answer Offline Unit :=
  (.ok (), { s with token := none, guild := none, channel := none, listeners := [] })

def gateway : Gateway Offline := ⟨Offline.token, call, destroy⟩

end Offline

end ChatQuery
