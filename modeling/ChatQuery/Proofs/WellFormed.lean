import ChatQuery.Call
import ChatQuery.Identifier

/-! The form of the arguments of a call. Compiling ensures it, and the platform relies on it. -/
namespace ChatQuery

/-- The anchors of the window are identifiers. -/
structure Window.WellFormed (w : Window) : Prop where
  before : w.before.all isSnowflake = true
  after : w.after.all isSnowflake = true
  around : w.around.all isSnowflake = true

/-- The token, or the identifiers, in the arguments of a call have the form of one. -/
def Call.WellFormed : Call → Prop
  | .login token => isBotToken token = true
  | .selectGuild id | .selectChannel id | .fetchGuild id | .fetchChannel id | .fetchUser id
  | .fetchMember id | .deleteMessage id => isSnowflake id = true
  | .editMessage edit => isSnowflake edit.messageId = true
  | .deleteMessages window | .readChannel window => window.WellFormed
  | .showGuilds _ | .showChannels _ | .showMembers _ | .sendMessage _ | .updatePresence _
  | .listenClient _ | .listenGuild _ | .listenChannel _ => True

end ChatQuery
