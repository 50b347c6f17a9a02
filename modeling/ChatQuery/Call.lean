import ChatQuery.Event
import ChatQuery.Message
import ChatQuery.Window

/-! Calls to the platform: what a script compiles to. -/
namespace ChatQuery

/-- What a call asks the platform to do. -/
inductive Operation
  | login | selectGuild | selectChannel
  | fetchGuild | fetchChannel | fetchUser | fetchMember
  | showGuilds | showChannels | showMembers
  | sendMessage | editMessage | deleteMessage | deleteMessages | readChannel
  | updatePresence
  | listenClient | listenGuild | listenChannel
  deriving DecidableEq

namespace Operation

def name : Operation → String
  | .login => "login"
  | .selectGuild => "selectGuild"
  | .selectChannel => "selectChannel"
  | .fetchGuild => "fetchGuild"
  | .fetchChannel => "fetchChannel"
  | .fetchUser => "fetchUser"
  | .fetchMember => "fetchMember"
  | .showGuilds => "showGuilds"
  | .showChannels => "showChannels"
  | .showMembers => "showMembers"
  | .sendMessage => "sendMessage"
  | .editMessage => "editMessage"
  | .deleteMessage => "deleteMessage"
  | .deleteMessages => "deleteMessages"
  | .readChannel => "readChannel"
  | .updatePresence => "updatePresence"
  | .listenClient => "listenClient"
  | .listenGuild => "listenGuild"
  | .listenChannel => "listenChannel"

def all : List Operation :=
  [.login, .selectGuild, .selectChannel, .fetchGuild, .fetchChannel, .fetchUser, .fetchMember,
    .showGuilds, .showChannels, .showMembers, .sendMessage, .editMessage, .deleteMessage,
    .deleteMessages, .readChannel, .updatePresence, .listenClient, .listenGuild, .listenChannel]

theorem mem_all (o : Operation) : o ∈ all := by cases o <;> decide

def ofName? (name : String) : Option Operation :=
  all.find? (·.name == name)

theorem ofName?_name (o : Operation) : ofName? o.name = some o := by cases o <;> decide

end Operation

/-- One call and its arguments. -/
inductive Call
  | login (token : String)
  | selectGuild (id : String)
  | selectChannel (id : String)
  | fetchGuild (id : String)
  | fetchChannel (id : String)
  | fetchUser (id : String)
  | fetchMember (id : String)
  | showGuilds (search : Option String)
  | showChannels (search : Option String)
  | showMembers (search : Option String)
  | sendMessage (body : MessageBody)
  | editMessage (edit : MessageEdit)
  | deleteMessage (id : String)
  | deleteMessages (window : Window)
  | readChannel (window : Window)
  | updatePresence (presence : Json)
  | listenClient (subscription : Subscription)
  | listenGuild (subscription : Subscription)
  | listenChannel (subscription : Subscription)

/-- A name in capitalized words with its first letter small. -/
def camelCase (name : String) : String :=
  match name.toList with
  | [] => ""
  | c :: cs => String.ofList (c.toLower :: cs)

namespace Call

def operation : Call → Operation
  | .login _ => .login
  | .selectGuild _ => .selectGuild
  | .selectChannel _ => .selectChannel
  | .fetchGuild _ => .fetchGuild
  | .fetchChannel _ => .fetchChannel
  | .fetchUser _ => .fetchUser
  | .fetchMember _ => .fetchMember
  | .showGuilds _ => .showGuilds
  | .showChannels _ => .showChannels
  | .showMembers _ => .showMembers
  | .sendMessage _ => .sendMessage
  | .editMessage _ => .editMessage
  | .deleteMessage _ => .deleteMessage
  | .deleteMessages _ => .deleteMessages
  | .readChannel _ => .readChannel
  | .updatePresence _ => .updatePresence
  | .listenClient _ => .listenClient
  | .listenGuild _ => .listenGuild
  | .listenChannel _ => .listenChannel

def arguments : Call → Json
  | .login text | .selectGuild text | .selectChannel text | .fetchGuild text | .fetchChannel text
  | .fetchUser text | .fetchMember text | .deleteMessage text => .str text
  | .showGuilds search | .showChannels search | .showMembers search => .ofOption search
  | .sendMessage body => body.toJson
  | .editMessage edit => edit.toJson
  | .deleteMessages window | .readChannel window => window.toJson
  | .updatePresence presence => presence
  | .listenClient s | .listenGuild s | .listenChannel s => s.toJson

/-- The name of the kind of call, in capitalized words. -/
def kind : Call → String
  | .login _ => "Login"
  | .selectGuild _ => "SelectGuild"
  | .selectChannel _ => "SelectChannel"
  | .fetchGuild _ => "FetchGuild"
  | .fetchChannel _ => "FetchChannel"
  | .fetchUser _ => "FetchUser"
  | .fetchMember _ => "FetchMember"
  | .showGuilds _ => "ShowGuilds"
  | .showChannels _ => "ShowChannels"
  | .showMembers _ => "ShowMembers"
  | .sendMessage _ => "SendMessage"
  | .editMessage _ => "EditMessage"
  | .deleteMessage _ => "DeleteMessage"
  | .deleteMessages _ => "DeleteMessages"
  | .readChannel _ => "ReadChannel"
  | .updatePresence _ => "UpdatePresence"
  | .listenClient _ => "ListenClient"
  | .listenGuild _ => "ListenGuild"
  | .listenChannel _ => "ListenChannel"

/-- Calls are written under the names of their kinds in camel case. -/
def tag (c : Call) : String := camelCase c.kind

def toJson (c : Call) : Json :=
  .obj [("command", .str c.tag), ("args", c.arguments)]

end Call

end ChatQuery
