import ChatQuery.Json

/-! What a message says, and the change of a message. -/
namespace ChatQuery

structure MessageBody where
  content : String
  attachments : List String
  embeds : List Json

structure MessageEdit where
  messageId : String
  body : MessageBody

def MessageBody.empty : MessageBody := ⟨"", [], []⟩

def MessageBody.toJson (b : MessageBody) : Json :=
  .obj [("content", .str b.content), ("attachments", .ofStrings b.attachments),
    ("embeds", .arr b.embeds)]

def MessageEdit.toJson (e : MessageEdit) : Json :=
  .obj [("messageID", .str e.messageId), ("editOptions", e.body.toJson)]

end ChatQuery
