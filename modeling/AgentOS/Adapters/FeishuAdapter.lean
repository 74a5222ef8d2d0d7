import AgentOS.Database.FeedbackDb

/-!
# Feishu adapter

What the webhook reads in a request body: the challenge of an URL verification, the callback of
a button of an approval card, and a message to the bot.
-/

namespace AgentOS

open Python

/-- `value.get(key, default)`, which only a `dict` has. -/
def getField (value : Json) (key : String) (default : Json) : Except Exc Json :=
  match value with
  | .obj fields => .ok ((fields.lookup (py key)).getD default)
  | _ => .error (.builtin "AttributeError"
      (py "'" ++ value.typeName ++ py "' object has no attribute 'get'"))

/-- What `parse_card_callback` returns. -/
structure CardCallback where
  runId : Json
  stepId : Json
  decision : Str
  reviewer : Json
  reason : Json
  decided : isDecision decision = true

namespace FeishuAdapter

/-- `parse_card_callback`. -/
def parseCardCallback (body : Json) : Except Exc (Option CardCallback) := do
  let actionBlock ← getField body "action" (.obj [])
  let value ← getField actionBlock "value" (.obj [])
  let runId ← getField value "run_id" (.str [])
  let decision ← getField value "action" (.str [])
  let stepId ← getField value "step_id" (.str [])
  let input ← getField actionBlock "input" (.str [])
  let reason ← if input.truthy then pure input else getField actionBlock "option" (.str [])
  let reviewer ← getField body "open_id" (.str (py "unknown"))
  match decision with
  | .str decision =>
      if decided : isDecision decision = true then
        pure (if runId.truthy then some { runId, stepId, decision, reviewer, reason, decided }
          else none)
      else pure none
  | _ => pure none

/-- `value[:8]`. -/
def sliceFront : Json → Except Exc Json
  | .str text => .ok (.str (text.take 8))
  | .arr items => .ok (.arr (items.take 8))
  | .obj _ => .error (.builtin "TypeError" (py "unhashable type: 'slice'"))
  | value => .error (.builtin "TypeError"
      (py "'" ++ value.typeName ++ py "' object is not subscriptable"))

/-- `verify_challenge`: the front of the token is logged. -/
def verifyChallenge (body : Json) : Except Exc (Option Json) := do
  let challenge ← getField body "challenge" .null
  if challenge.truthy then
    let token ← getField body "token" (.str [])
    let _ ← getField body "type" (.str [])
    let _ ← sliceFront token
    return some (.obj [(py "challenge", challenge)])
  else return none

/-- The `ChannelMessage` of a message event; nothing checks the types of what was looked up. -/
structure EventMessage where
  text : Json
  senderId : Json
  senderName : Json
  channel : Str
  messageId : Json
  chatId : Json
  messageType : Json

section Event

-- `json.loads` of a string.
variable (loads : Str → Except Exc Json)

/-- The content of a message, or nothing where it is no JSON document. -/
def loadContent : Json → Except Exc Json
  | .str text =>
      match loads text with
      | .ok content => .ok content
      | .error exc =>
          if exc.cls = .other (py "JSONDecodeError") then .ok (.obj []) else .error exc
  | value => .error (.builtin "TypeError"
      (py "the JSON object must be str, bytes or bytearray, not " ++ value.typeName))

/-- `_parse_im_message`. -/
def parseImMessage (event : Json) : Except Exc (Option EventMessage) := do
  let message ← getField event "message" (.obj [])
  let sender ← getField event "sender" (.obj [])
  let contentStr ← getField message "content" (.str (py "\x7b\x7d"))
  let content ← loadContent loads contentStr
  let text ← getField content "text" (.str [])
  if text.truthy then
    let senderIds ← getField sender "sender_id" (.obj [])
    let senderId ← getField senderIds "user_id" (.str (py "unknown"))
    let senderName ← getField senderIds "open_id" (.str (py "unknown"))
    let messageId ← getField message "message_id" (.str [])
    let chatId ← getField message "chat_id" (.str [])
    let messageType ← getField message "message_type" (.str (py "text"))
    return some {
      text, senderId, senderName, channel := py "feishu", messageId, chatId, messageType }
  else return none

/-- `parse_event`. -/
def parseEvent (body : Json) : Except Exc (Option EventMessage) := do
  let header ← getField body "header" (.obj [])
  let eventType ← getField header "event_type" (.str [])
  let event ← getField body "event" (.obj [])
  if eventType.isStr (py "im.message.receive_v1") then parseImMessage loads event else return none

end Event

end FeishuAdapter

end AgentOS
