import NewApi.Relay.Responses
import NewApi.Relay.Retry

/-!
# One attempt on one channel

The helpers of the four text formats choose a body, send it and relay the answer. What they store in
the relay info stays there for the next attempt.
-/

namespace NewApi.Relay

/-- The handlers that can fail once the upstream has answered with a stream, and the others. -/
inductive StreamHandler where
  | claudeStreamHandler
  | awsStreamHandler
  | oaiResponsesToChatStreamHandler
  | oaiChatToResponsesStreamHandler
  | geminiResponsesStreamHandler
  | ollamaStreamHandler
  | cozeChatStreamHandler
  | other
deriving DecidableEq

/-- `failure` is an error event of the upstream. `broken` is data that cannot be read, converted or sent on. What a
handler sends at the end of a stream is a chunk too. -/
inductive StreamData where
  | chunk (written : Bool)
  | undecodable
  | failure (errorCode : String)
  | broken (errorCode : String)

inductive StreamEffect where
  | relayed (written : Bool)
  | stopped
  | failed (err : NewAPIError)

namespace StreamHandler

def handle : StreamHandler → StreamData → StreamEffect
  | _, .chunk written => .relayed written
  | .claudeStreamHandler, .undecodable => .failed { errorCode := "bad_response_body" }
  | .claudeStreamHandler, .failure code => .failed { errorCode := code }
  | .claudeStreamHandler, .broken _ => .relayed false
  | .awsStreamHandler, .undecodable => .failed { errorCode := "bad_response_body" }
  | .awsStreamHandler, .failure code => .failed { errorCode := code }
  | .awsStreamHandler, .broken code => .failed { errorCode := code }
  | .oaiResponsesToChatStreamHandler, .undecodable => .relayed false
  | .oaiResponsesToChatStreamHandler, .failure code => .failed { errorCode := code }
  | .oaiResponsesToChatStreamHandler, .broken code => .failed { errorCode := code }
  | .oaiChatToResponsesStreamHandler, .undecodable => .relayed false
  -- The error takes the status of the answer.
  | .oaiChatToResponsesStreamHandler, .failure code => .failed { errorCode := code, statusCode := 200 }
  | .oaiChatToResponsesStreamHandler, .broken code => .failed { errorCode := code }
  | .geminiResponsesStreamHandler, .undecodable => .stopped
  | .geminiResponsesStreamHandler, .failure _ => .relayed true
  | .geminiResponsesStreamHandler, .broken code => .failed { errorCode := code }
  | .ollamaStreamHandler, .undecodable => .failed { errorCode := "bad_response_body" }
  | .ollamaStreamHandler, _ => .relayed true
  | .cozeChatStreamHandler, .broken _ => .failed { errorCode := "bad_response_body" }
  | .cozeChatStreamHandler, _ => .relayed false
  | .other, _ => .relayed true

def opens (handler : StreamHandler) : Bool := handler = .ollamaStreamHandler

end StreamHandler

inductive StreamItem where
  | ping
  | data (data : StreamData)

def handleStream (handler : StreamHandler) : List StreamItem → Bool → Bool × Option NewAPIError
  | [], written => (written, none)
  | .ping :: items, _ => handleStream handler items true
  | .data data :: items, written =>
    match handler.handle data with
    | .relayed more => handleStream handler items (written || more)
    | .stopped => (written, none)
    | .failed err => (written, some err)

structure Reply where
  usage : Usage
  calls : List String := []
  imageGenerationCall : Option (String × String) := none
  webSearchRequests : Int := 0

inductive ResponseBody where
  | plain (result : Except NewAPIError Reply)
  | stream (handler : StreamHandler) (items : List StreamItem) (reply : Reply)

/-- What becomes of the request. `pinged` if the client was sent a ping in the meantime, and `claude` if the answer
is handled by Claude's adaptor. -/
inductive Answer where
  | unsent (err : NewAPIError)
  | unanswered (pinged : Bool)
  | refused (pinged : Bool) (err : NewAPIError)
  | answered (pinged : Bool) (claude : Bool) (body : ResponseBody)

/-- `rejected` is the error of a request that gets no body, `formats` are its conversions,
`converted` the size of the converted body. -/
structure Attempt where
  channel : ChannelMeta
  rejected : Option NewAPIError := none
  formats : List RelayFormat := []
  converted : Except NewAPIError Nat := .ok 0
  answer : Answer
  statusCodeMapping : Int → Option Int := fun _ => none

structure RelayRequest where
  relayFormat : RelayFormat
  (originModelName userGroup usingGroup : String)
  acceptUnsetRatioModel : Bool := false
  tools : List String := []
  promptTokens : Int := 0
  tokens : TokenCountMeta := {}
  input : Except String RequestInput := .ok {}
  bodySize : Nat := 0
  noThinking : Bool := false
  hasModelBillingConfig : String → Bool := fun _ => true
  preConsumed : Int → Int := id

structure SentRequest where
  contentLength : Int
  bodyLength : Nat
deriving DecidableEq

structure Attempted where
  ctx : RelayContext
  info : RelayInfo
  sent : Option SentRequest := none
  written : Bool := false
  result : Except NewAPIError Usage

def applyUpstreamContentLength (info : RelayInfo) (contentLength : Int) : Int :=
  if 0 < info.upstreamRequestBodySize ∧ contentLength ≤ 0 then info.upstreamRequestBodySize else contentLength

def applyReply (reply : Reply) (ctx : RelayContext) (info : RelayInfo) : RelayContext × RelayInfo :=
  ({ ctx with
      imageGenerationCall := reply.imageGenerationCall.or ctx.imageGenerationCall
      claudeWebSearchRequests := if 0 <
        reply.webSearchRequests then reply.webSearchRequests else ctx.claudeWebSearchRequests },
    { info with builtInTools := info.builtInTools.map fun tools => reply.calls.foldl countCall tools })

def ResponseBody.relayed : ResponseBody → Bool × Except NewAPIError Reply
  | .plain (.ok reply) => (true, .ok reply)
  | .plain (.error err) => (false, .error err)
  | .stream handler items reply =>
    match handleStream handler items handler.opens with
    | (written, none) => (written, .ok reply)
    | (written, some err) => (written, .error err)

def doResponse (attempt : Attempt) (sent : SentRequest) (pinged : Bool) (ctx : RelayContext)
    (info : RelayInfo) (body : ResponseBody) :
    Attempted :=
  match body.relayed with
  | (written, .error err) =>
    { ctx := ctx, info := info, sent := some sent, written := pinged || written
      result := .error (resetStatusCode attempt.statusCodeMapping err) }
  | (written, .ok reply) =>
    { ctx := (applyReply reply ctx info).1, info := (applyReply reply ctx info).2, sent :=
      some sent, written := pinged || written
      result := .ok reply.usage }

def doRequest (attempt : Attempt) (bodyLength : Nat) (ctx : RelayContext) (info : RelayInfo) : Attempted :=
  let sent : SentRequest := ⟨applyUpstreamContentLength info 0, bodyLength⟩
  match attempt.answer with
  | .unsent err => { ctx := ctx, info := info, result := .error err }
  | .unanswered pinged =>
    { ctx := ctx, info := info, sent := some sent, written := pinged, result :=
      .error { errorCode := "do_request_failed" } }
  | .refused pinged err =>
    { ctx := ctx, info := info, sent := some sent, written := pinged
      result := .error (resetStatusCode attempt.statusCodeMapping err) }
  | .answered pinged claude body =>
    let info := if claude then { info with finalRequestRelayFormat := some .claude } else info
    doResponse attempt sent pinged ctx info body

/-- The size of the body. `stores` if the size of a body that is passed through is stored, and `rename` is what becomes
of the model. -/
def chooseBody (stores : Bool) (rename : RelayInfo → RelayInfo) (passThroughRequestEnabled : Bool)
    (request : RelayRequest)
    (attempt : Attempt) (info : RelayInfo) : RelayInfo × Except NewAPIError Nat :=
  let info := { info with channelMeta := some attempt.channel }
  match attempt.rejected with
  | some err => (info, .error err)
  | none =>
    let info := rename info
    if passThroughRequestEnabled || attempt.channel.passThroughBodyEnabled then
      (if stores then { info with upstreamRequestBodySize := request.bodySize } else info, .ok request.bodySize)
    else
      let info := attempt.formats.foldl RelayInfo.appendRequestConversion info
      match attempt.converted with
      | .error err => (info, .error err)
      | .ok size => ({ info with upstreamRequestBodySize := size }, .ok size)

def relayHelper (stores : Bool) (rename : RelayInfo → RelayInfo) (passThroughRequestEnabled : Bool)
    (request : RelayRequest)
    (attempt : Attempt) (ctx : RelayContext) (info : RelayInfo) : Attempted :=
  match chooseBody stores rename passThroughRequestEnabled request attempt info with
  | (info, .error err) => { ctx := ctx, info := info, result := .error err }
  | (info, .ok size) => doRequest attempt size ctx info

def noThinkingModelName (request : RelayRequest) (name : String) : String :=
  if request.noThinking ∧ ¬"-nothinking".toList <:+: name.toList ∧
    request.hasModelBillingConfig (name ++ "-nothinking") then
    name ++ "-nothinking"
  else name

def textHelper : Bool → RelayRequest → Attempt → RelayContext → RelayInfo → Attempted := relayHelper false id

def responsesHelper : Bool → RelayRequest → Attempt → RelayContext → RelayInfo → Attempted := relayHelper false id

def claudeHelper : Bool → RelayRequest → Attempt → RelayContext → RelayInfo → Attempted := relayHelper true id

def geminiHelper (passThroughRequestEnabled : Bool) (request : RelayRequest) : Attempt → RelayContext → RelayInfo → Attempted :=
  relayHelper false (fun info => { info with originModelName := noThinkingModelName request info.originModelName }) passThroughRequestEnabled
    request

end NewApi.Relay
