import ChatQuery.Json

/-!
Events of the platform and who hears them. A subscription names the events that a listener wants;
where the listener hears them from is the gateway's affair.
-/
namespace ChatQuery

structure Event where
  name : String
  params : Json
  guildId : Option String
  channelId : Option String

/-- Who an event is handed to. -/
inductive Listener
  | discard
  | recorder (tag : String)
  deriving DecidableEq

structure Subscription where
  listener : Listener
  events : List String
  deriving DecidableEq

namespace Subscription

def accepts (s : Subscription) (event : String) : Bool := s.events.contains event

theorem accepts_iff {s : Subscription} {event : String} :
    s.accepts event = true ↔ event ∈ s.events := by
  simp [accepts]

/-- The listener is not written. -/
def toJson (s : Subscription) : Json := .obj [("includeEvents", .ofStrings s.events)]

end Subscription

/-- The events that a listener hears unless its script narrows them. -/
def standardEvents : List String :=
  ["channelCreate", "channelDelete", "channelPinsUpdate", "channelUpdate", "debug", "warn",
    "disconnect", "emojiCreate", "emojiDelete", "emojiUpdate", "error", "guildBanAdd",
    "guildBanRemove", "guildCreate", "guildDelete", "guildUnavailable",
    "guildIntegrationsUpdate", "guildMemberAdd", "guildMemberAvailable", "guildMemberRemove",
    "guildMembersChunk", "guildMemberSpeaking", "guildMemberUpdate", "guildUpdate",
    "inviteCreate", "inviteDelete", "message", "messageDelete", "messageReactionRemoveAll",
    "messageReactionRemoveEmoji", "messageDeleteBulk", "messageReactionAdd",
    "messageReactionRemove", "messageUpdate", "presenceUpdate", "rateLimit", "ready",
    "invalidated", "roleCreate", "roleDelete", "roleUpdate", "typingStart", "userUpdate",
    "voiceStateUpdate", "webhookUpdate", "shardDisconnect", "shardError", "shardReady",
    "shardReconnecting", "shardResume"]

example : standardEvents.length = 50 := rfl

end ChatQuery
