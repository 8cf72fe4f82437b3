import NewApi.BlockStream
import NewApi.GoText

/-! A response of an OpenAI channel is answered in the Anthropic stream format,
one chunk at a time. The converter remembers which block is open and under which
number, and for tool calls the first number and the largest call index. It takes
that largest index for the number of tool blocks, and does not look whether the
calls in between were ever started. -/
namespace NewApi.ClaudeStream
open NewApi.GuardedRun NewApi.BlockStream

/-! ## Chunks -/

/-- `dto/openai_response.go::InputTokenDetails`, as the converter reads it. -/
structure InputTokenDetails where
  cachedTokens : Int
  cachedCreationTokens : Int
  deriving DecidableEq, Repr

/-- `dto/openai_response.go::Usage`, as the converter reads it. -/
structure Usage where
  promptTokens : Int
  completionTokens : Int
  promptTokensDetails : InputTokenDetails
  claudeCacheCreation5mTokens : Int
  claudeCacheCreation1hTokens : Int
  deriving DecidableEq, Repr

structure FunctionResponse where
  name : String
  arguments : String
  deriving DecidableEq, Repr

structure ToolCallResponse where
  index : Option Int
  id : String
  function : FunctionResponse
  deriving DecidableEq, Repr

/-- `dto/openai_response.go::ChatCompletionsStreamResponseChoiceDelta`. -/
structure Delta where
  content : Option String
  reasoningContent : Option String
  reasoning : Option String
  toolCalls : List ToolCallResponse
  deriving DecidableEq, Repr

/-- `dto/openai_response.go::ChatCompletionsStreamResponseChoice`. -/
structure Choice where
  delta : Delta
  finishReason : Option String
  deriving DecidableEq, Repr

/-- `dto/openai_response.go::ChatCompletionsStreamResponse`. -/
structure Chunk where
  id : String
  model : String
  choices : List Choice
  usage : Option Usage
  deriving DecidableEq, Repr

def Delta.getContentString (delta : Delta) : String := delta.content.getD ""

def Delta.getReasoningContent (delta : Delta) : String :=
  match delta.reasoningContent, delta.reasoning with
  | none, none => ""
  | some text, _ => text
  | none, some text => text

def Choice.finishes (choice : Choice) : Bool :=
  choice.finishReason.any (· ≠ "")

/-! ## Events -/

/-- `dto/claude.go::ClaudeUsage`; the cache creation is split in five minutes
and one hour. -/
structure ClaudeUsage where
  inputTokens : Int
  outputTokens : Int
  cacheCreationInputTokens : Int
  cacheReadInputTokens : Int
  cacheCreation : Option (Int × Int)
  deriving DecidableEq, Repr

inductive ContentBlock where
  | text
  | thinking
  | toolUse (id name : String)
  deriving DecidableEq, Repr

inductive BlockDelta where
  | text (text : String)
  | thinking (thinking : String)
  | inputJson (partialJson : String)
  deriving DecidableEq, Repr

/-- `dto/claude.go::ClaudeResponse`, by its type. -/
inductive ClaudeResponse where
  | messageStart (id model : String) (usage : ClaudeUsage)
  | contentBlockStart (index : Int) (contentBlock : ContentBlock)
  | contentBlockDelta (index : Int) (delta : BlockDelta)
  | contentBlockStop (index : Int)
  | messageDelta (usage : ClaudeUsage) (stopReason : String)
  | messageStop
  deriving DecidableEq, Repr

/-- `service/convert.go::NormalizeCacheCreationSplit`. -/
def normalizeCacheCreationSplit (totalTokens tokens5m tokens1h : Int) : Int × Int :=
  (tokens5m + max (totalTokens - tokens5m - tokens1h) 0, tokens1h)

/-- `service/convert.go::buildClaudeUsageFromOpenAIUsage`. -/
def buildClaudeUsageFromOpenAIUsage (usage : Usage) : ClaudeUsage :=
  let cacheCreation :=
    normalizeCacheCreationSplit usage.promptTokensDetails.cachedCreationTokens
      usage.claudeCacheCreation5mTokens usage.claudeCacheCreation1hTokens
  { inputTokens := usage.promptTokens
    outputTokens := usage.completionTokens
    cacheCreationInputTokens := usage.promptTokensDetails.cachedCreationTokens
    cacheReadInputTokens := usage.promptTokensDetails.cachedTokens
    cacheCreation :=
      if cacheCreation.1 > 0 ∨ cacheCreation.2 > 0 then some cacheCreation else none }

/-- `unicode.ToLower`, as far as an ASCII letter can come out of it. -/
def toLower (char : Char) : Char :=
  if char = '\u212a' then 'k' else if char = '\u0130' then 'i' else char.toLower

/-- `relay/reasonmap/reasonmap.go::OpenAIFinishReasonToClaudeStopReason`, which
is `service/convert.go::stopReasonOpenAI2Claude`. -/
def stopReasonOpenAI2Claude (finishReason : String) : String :=
  match String.ofList (finishReason.toList.map toLower) with
  | "stop" => "end_turn"
  | "stop_sequence" => "stop_sequence"
  | "length" | "max_tokens" => "max_tokens"
  | "content_filter" => "refusal"
  | "tool_calls" => "tool_use"
  | _ => finishReason

/-! ## The converter -/

inductive LastMessageType where
  | none
  | text
  | tools
  | thinking
  deriving DecidableEq, Repr

/-- `relay/common/relay_info.go::ClaudeConvertInfo`. -/
structure ClaudeConvertInfo where
  lastMessagesType : LastMessageType
  index : Int
  usage : Option Usage
  finishReason : String
  done : Bool
  toolCallBaseIndex : Int
  toolCallMaxIndexOffset : Int
  deriving DecidableEq, Repr

/-- `relay/common/relay_info.go::RelayInfo`, as the converter reads it;
`alignedToRequest` is the option `UpstreamModelNameAlignedToRequestEnabled`. -/
structure RelayInfo where
  originModelName : String
  alignedToRequest : Bool
  estimatePromptTokens : Int
  sendResponseCount : Int
  claudeConvertInfo : ClaudeConvertInfo
  deriving DecidableEq, Repr

/-- `relay/common/display_model.go::DisplayedResponseModelName`. -/
def displayedResponseModelName (info : RelayInfo) (currentModel : String) : String :=
  let originModelName := GoText.trimSpace info.originModelName
  if info.alignedToRequest && originModelName ≠ "" then originModelName
  else GoText.trimSpace currentModel

abbrev Sends := List ClaudeResponse × ClaudeConvertInfo

section Converter
variable (c : ClaudeConvertInfo)

def stopOpenBlocks : List ClaudeResponse :=
  match c.lastMessagesType with
  | .text | .thinking => [.contentBlockStop c.index]
  | .tools =>
    (List.range (c.toolCallMaxIndexOffset + 1).toNat).map fun offset : Nat =>
      .contentBlockStop (c.toolCallBaseIndex + offset)
  | .none => []

def advance : ClaudeConvertInfo :=
  match c.lastMessagesType with
  | .none => c
  | .tools =>
    { c with
      index := c.toolCallBaseIndex + c.toolCallMaxIndexOffset + 1
      toolCallBaseIndex := 0
      toolCallMaxIndexOffset := 0
      lastMessagesType := .none }
  | .text | .thinking => { c with index := c.index + 1, lastMessagesType := .none }

def stopOpenBlocksAndAdvance : Sends := (stopOpenBlocks c, advance c)

def closeMessage (usage : Option Usage) (stopReason : String) : List ClaudeResponse :=
  match usage with
  | some usage =>
    [.messageDelta (buildClaudeUsageFromOpenAIUsage usage) stopReason, .messageStop]
  | none => [.messageStop]

def finish (chunk : Chunk) : Sends :=
  (stopOpenBlocks c ++
      closeMessage (chunk.usage.or c.usage) (stopReasonOpenAI2Claude c.finishReason),
    { c with done := true })

/-! ## The first chunk -/

def firstToolCall : List ToolCallResponse → Sends
  | [] => ([], c)
  | toolCall :: _ =>
    (.contentBlockStart 0 (.toolUse toolCall.id toolCall.function.name) ::
        if toolCall.function.arguments ≠ "" then
          [.contentBlockDelta 0 (.inputJson toolCall.function.arguments)]
        else [],
      { c with
        lastMessagesType := .tools
        toolCallBaseIndex := 0
        toolCallMaxIndexOffset := 0 })

def firstBlock (type : LastMessageType) (block : ContentBlock) (delta : BlockDelta) : Sends :=
  let moved := if c.lastMessagesType ≠ type then stopOpenBlocksAndAdvance c else ([], c)
  (moved.1 ++ [.contentBlockStart moved.2.index block, .contentBlockDelta moved.2.index delta],
    { moved.2 with lastMessagesType := type })

def firstProse (delta : Delta) : Sends :=
  if delta.getReasoningContent ≠ "" then
    firstBlock c .thinking .thinking (.thinking delta.getReasoningContent)
  else if delta.getContentString ≠ "" then
    firstBlock c .text .text (.text delta.getContentString)
  else ([], c)

def firstChunk (info : RelayInfo) (chunk : Chunk) : Sends :=
  let start : ClaudeResponse :=
    .messageStart chunk.id (displayedResponseModelName info chunk.model)
      { inputTokens := info.estimatePromptTokens
        outputTokens := 0
        cacheCreationInputTokens := 0
        cacheReadInputTokens := 0
        cacheCreation := none }
  match chunk.choices with
  | [] => ([start], info.claudeConvertInfo)
  | choice :: _ =>
    let called := firstToolCall info.claudeConvertInfo choice.delta.toolCalls
    let spoken := firstProse called.2 choice.delta
    if choice.finishes then
      let ended := finish { spoken.2 with finishReason := choice.finishReason.getD "" } chunk
      (start :: called.1 ++ spoken.1 ++ ended.1, ended.2)
    else (start :: called.1 ++ spoken.1, spoken.2)

/-! ## A later chunk -/

def callOffset (place : Nat) (toolCall : ToolCallResponse) : Int :=
  toolCall.index.getD place

def callEvents (blockIndex : Int) (toolCall : ToolCallResponse) : List ClaudeResponse :=
  (if toolCall.function.name ≠ "" then
      [.contentBlockStart blockIndex (.toolUse toolCall.id toolCall.function.name)]
    else []) ++
    if toolCall.function.arguments ≠ "" then
      [.contentBlockDelta blockIndex (.inputJson toolCall.function.arguments)]
    else []

def streamToolCalls (base : Int) : Nat → Int → List ToolCallResponse → List ClaudeResponse × Int
  | _, maxOffset, [] => ([], maxOffset)
  | place, maxOffset, toolCall :: rest =>
    let offset := callOffset place toolCall
    let later :=
      streamToolCalls base (place + 1) (if offset > maxOffset then offset else maxOffset) rest
    (callEvents (base + offset) toolCall ++ later.1, later.2)

def laterToolCalls (toolCalls : List ToolCallResponse) : Sends :=
  let moved : Sends :=
    if c.lastMessagesType ≠ .tools then
      (stopOpenBlocks c,
        { advance c with toolCallBaseIndex := (advance c).index, toolCallMaxIndexOffset := 0 })
    else ([], c)
  let calls :=
    streamToolCalls moved.2.toolCallBaseIndex 0 moved.2.toolCallMaxIndexOffset toolCalls
  (moved.1 ++ calls.1,
    { moved.2 with
      lastMessagesType := .tools
      toolCallMaxIndexOffset := calls.2
      index := moved.2.toolCallBaseIndex + calls.2 })

def laterBlock (type : LastMessageType) (block : ContentBlock) (delta : BlockDelta) : Sends :=
  let moved : Sends :=
    if c.lastMessagesType ≠ type then
      (stopOpenBlocks c ++ [.contentBlockStart (advance c).index block], advance c)
    else ([], c)
  (moved.1 ++ [.contentBlockDelta moved.2.index delta], { moved.2 with lastMessagesType := type })

def laterProse (delta : Delta) : Sends :=
  if delta.getReasoningContent ≠ "" then
    laterBlock c .thinking .thinking (.thinking delta.getReasoningContent)
  else if delta.getContentString ≠ "" then
    laterBlock c .text .text (.text delta.getContentString)
  else ([], c)

def laterDelta (delta : Delta) : Sends :=
  if delta.toolCalls ≠ [] then laterToolCalls c delta.toolCalls else laterProse c delta

def laterChunk (chunk : Chunk) : Sends :=
  match chunk.choices with
  | [] =>
    match chunk.usage.or c.usage with
    | none => ([], c)
    | some usage =>
      let stopReason := stopReasonOpenAI2Claude c.finishReason
      (stopOpenBlocks c ++
          closeMessage (some usage) (if stopReason = "" then "end_turn" else stopReason),
        { c with done := true })
  | choice :: _ =>
    if choice.finishes then
      let c := { c with finishReason := choice.finishReason.getD "" }
      -- without a usage of its own the chunk returns here, whatever it carries
      if chunk.usage.isNone then ([], c)
      else
        let said := laterDelta c choice.delta
        let ended := finish said.2 chunk
        (said.1 ++ ended.1, ended.2)
    else laterDelta c choice.delta

end Converter

/-- `service/convert.go::StreamResponseOpenAI2Claude`. -/
def streamResponseOpenAI2Claude (chunk : Chunk) (info : RelayInfo) : List ClaudeResponse × RelayInfo :=
  if info.claudeConvertInfo.done then ([], info)
  else
    let sends :=
      if info.sendResponseCount = 1 then firstChunk info chunk
      else laterChunk info.claudeConvertInfo chunk
    (sends.1, { info with claudeConvertInfo := sends.2 })

/-! ## The stream -/

/-- `relay/channel/openai/helper.go::handleClaudeFormat`: the usage of a chunk is
kept before the chunk is converted. -/
def handleClaudeFormat (chunk : Chunk) (info : RelayInfo) : List ClaudeResponse × RelayInfo :=
  let usage := chunk.usage.or info.claudeConvertInfo.usage
  streamResponseOpenAI2Claude
    { chunk with model := displayedResponseModelName info chunk.model }
    { info with claudeConvertInfo := { info.claudeConvertInfo with usage := usage } }

/-- `relay/channel/openai/helper.go::HandleStreamFormat`, for a Claude client. -/
def handleStreamFormat (chunk : Chunk) (info : RelayInfo) : List ClaudeResponse × RelayInfo :=
  handleClaudeFormat chunk { info with sendResponseCount := info.sendResponseCount + 1 }

structure Stream where
  info : RelayInfo
  sent : List ClaudeResponse
  deriving DecidableEq, Repr

def receive (stream : Stream) (chunk : Chunk) : Stream :=
  let handled := handleStreamFormat chunk stream.info
  { info := handled.2, sent := stream.sent ++ handled.1 }

/-- `relay/common/relay_info.go::GenRelayInfoClaude`, before any chunk. -/
def genRelayInfoClaude (originModelName : String) (alignedToRequest : Bool)
    (estimatePromptTokens : Int) : RelayInfo where
  originModelName := originModelName
  alignedToRequest := alignedToRequest
  estimatePromptTokens := estimatePromptTokens
  sendResponseCount := 0
  claudeConvertInfo :=
    { lastMessagesType := .none
      index := 0
      usage := none
      finishReason := ""
      done := false
      toolCallBaseIndex := 0
      toolCallMaxIndexOffset := 0 }

def fresh (originModelName : String) (alignedToRequest : Bool) (estimatePromptTokens : Int) : Stream where
  info := genRelayInfoClaude originModelName alignedToRequest estimatePromptTokens
  sent := []

/-! ## The protocol -/

inductive BlockKind where
  | text
  | thinking
  | toolUse
  deriving DecidableEq, Repr

def ContentBlock.kind : ContentBlock → BlockKind
  | .text => .text
  | .thinking => .thinking
  | .toolUse .. => .toolUse

def BlockDelta.kind : BlockDelta → BlockKind
  | .text _ => .text
  | .thinking _ => .thinking
  | .inputJson _ => .toolUse

def ClaudeResponse.mark : ClaudeResponse → Mark BlockKind
  | .messageStart .. => .opening
  | .contentBlockStart index contentBlock => .start index contentBlock.kind
  | .contentBlockDelta index delta => .delta index delta.kind
  | .contentBlockStop index => .stop index
  | .messageDelta .. => .summary
  | .messageStop => .ending

def marks (sent : List ClaudeResponse) : List (Mark BlockKind) := sent.map ClaudeResponse.mark

/-- The tool calls streamed since the last other block: how many were started
and the largest index that was named. -/
structure ToolGroup where
  opened : Int
  highest : Int
  deriving DecidableEq, Repr

namespace ToolGroup

def Complete (group : ToolGroup) : Prop := group.highest < group.opened

instance (group : ToolGroup) : Decidable group.Complete := inferInstanceAs (Decidable (_ < _))

def read (group : ToolGroup) (place : Nat) (toolCall : ToolCallResponse) : ToolGroup where
  opened := group.opened + if toolCall.function.name ≠ "" then 1 else 0
  highest := max group.highest (callOffset place toolCall)

def readAll (group : ToolGroup) : Nat → List ToolCallResponse → ToolGroup
  | _, [] => group
  | place, toolCall :: rest => (group.read place toolCall).readAll (place + 1) rest

def InOrder (group : ToolGroup) : Nat → List ToolCallResponse → Prop
  | _, [] => True
  | place, toolCall :: rest =>
    (toolCall.function.name ≠ "" → callOffset place toolCall = group.opened) ∧
      (toolCall.function.arguments ≠ "" → 0 ≤ callOffset place toolCall ∧
        callOffset place toolCall < (group.read place toolCall).opened) ∧
      (group.read place toolCall).InOrder (place + 1) rest

instance decidableInOrder (group : ToolGroup) :
    (place : Nat) → (toolCalls : List ToolCallResponse) → Decidable (group.InOrder place toolCalls)
  | _, [] => isTrue trivial
  | place, toolCall :: rest =>
    have : Decidable ((group.read place toolCall).InOrder (place + 1) rest) :=
      decidableInOrder _ _ rest
    inferInstanceAs (Decidable (_ ∧ _ ∧ (group.read place toolCall).InOrder (place + 1) rest))

end ToolGroup

def ClaudeConvertInfo.toolGroup (c : ClaudeConvertInfo) (blocks : Int) : ToolGroup :=
  if c.lastMessagesType = .tools then
    { opened := blocks - c.toolCallBaseIndex, highest := c.toolCallMaxIndexOffset }
  else { opened := 0, highest := 0 }

def Stream.toolGroup (stream : Stream) : ToolGroup :=
  stream.info.claudeConvertInfo.toolGroup (started (marks stream.sent))

def Stream.Settled (stream : Stream) : Prop :=
  stream.info.claudeConvertInfo.lastMessagesType = .tools → stream.toolGroup.Complete

instance (stream : Stream) : Decidable stream.Settled := inferInstanceAs (Decidable (_ → _))

def Delta.HasProse (delta : Delta) : Prop :=
  delta.getReasoningContent ≠ "" ∨ delta.getContentString ≠ ""

instance (delta : Delta) : Decidable delta.HasProse := inferInstanceAs (Decidable (_ ∨ _))

def Choice.Fits (stream : Stream) (choice : Choice) : Prop :=
  (choice.delta.toolCalls ≠ [] → stream.toolGroup.InOrder 0 choice.delta.toolCalls ∧
    (choice.finishes → (stream.toolGroup.readAll 0 choice.delta.toolCalls).Complete)) ∧
  (choice.delta.toolCalls = [] → choice.delta.HasProse ∨ choice.finishes → stream.Settled)

instance (stream : Stream) (choice : Choice) : Decidable (choice.Fits stream) :=
  inferInstanceAs (Decidable ((choice.delta.toolCalls ≠ [] →
    stream.toolGroup.InOrder 0 choice.delta.toolCalls ∧ (choice.finishes → _)) ∧
      (choice.delta.toolCalls = [] → choice.delta.HasProse ∨ choice.finishes → stream.Settled)))

def Chunk.Fits (stream : Stream) (chunk : Chunk) : List Choice → Prop
  | [] => (chunk.usage.or stream.info.claudeConvertInfo.usage).isSome → stream.Settled
  | choice :: _ => (choice.finishes → chunk.usage.isSome) → choice.Fits stream

instance decidableFits (stream : Stream) (chunk : Chunk) :
    (choices : List Choice) → Decidable (chunk.Fits stream choices)
  | [] => inferInstanceAs (Decidable (_ = true → stream.Settled))
  | choice :: _ => inferInstanceAs (Decidable ((_ = true → _ = true) → choice.Fits stream))

def CallsInOrder (stream : Stream) (chunk : Chunk) : Prop :=
  stream.info.claudeConvertInfo.done = false → stream.info.sendResponseCount ≠ 0 →
    chunk.Fits stream chunk.choices

instance (stream : Stream) (chunk : Chunk) : Decidable (CallsInOrder stream chunk) :=
  inferInstanceAs (Decidable (_ = false → _ ≠ (0 : Int) → chunk.Fits stream chunk.choices))

/-! ## The window of the converter -/

def LastMessageType.kind : LastMessageType → BlockKind
  | .none | .text => .text
  | .thinking => .thinking
  | .tools => .toolUse

def ClaudeConvertInfo.low (c : ClaudeConvertInfo) : Int :=
  match c.lastMessagesType with
  | .tools => c.toolCallBaseIndex
  | _ => c.index

def ClaudeConvertInfo.width (c : ClaudeConvertInfo) : Nat :=
  match c.lastMessagesType with
  | .none => 0
  | .text | .thinking => 1
  | .tools => (c.toolCallMaxIndexOffset + 1).toNat

/-- What was sent agrees with what is remembered: the open blocks begin where the
converter says and are no more than it says; only tool blocks can be fewer. -/
structure Tracks (c : ClaudeConvertInfo) (sent : List (Mark BlockKind)) : Prop where
  window : Window sent c.low c.lastMessagesType.kind
  atMost : started sent ≤ c.low + c.width
  exact_ : c.lastMessagesType ≠ .tools → started sent = c.low + c.width
  offset : 0 ≤ c.toolCallMaxIndexOffset

def Exact (c : ClaudeConvertInfo) (sent : List (Mark BlockKind)) : Prop :=
  c.lastMessagesType = .tools → c.low + c.width ≤ started sent

/-- The part is sent after `sent` under the condition, and then the converter
tracks the stream again. -/
def Continues (sent : List (Mark BlockKind)) (sends : Sends) (condition : Prop) : Prop :=
  (Follows sent (marks sends.1) ↔ condition) ∧ (condition → Tracks sends.2 (sent ++ marks sends.1))

section Parts
variable {c : ClaudeConvertInfo} {sent : List (Mark BlockKind)}

@[simp] theorem marks_nil : marks [] = [] := rfl

@[simp] theorem marks_cons (event : ClaudeResponse) (rest : List ClaudeResponse) :
    marks (event :: rest) = event.mark :: marks rest := rfl

@[simp] theorem marks_append (first second : List ClaudeResponse) :
    marks (first ++ second) = marks first ++ marks second := List.map_append

theorem marks_stopOpenBlocks : marks (stopOpenBlocks c) = Mark.stops c.low c.width := by
  unfold stopOpenBlocks ClaudeConvertInfo.low ClaudeConvertInfo.width
  cases c.lastMessagesType with
  | none => rfl
  | text | thinking | tools => simp [Mark.stops, marks, ClaudeResponse.mark]

namespace Tracks

theorem width_eq (tracks : Tracks c sent) (settled : Exact c sent) : c.low + c.width = started sent := by
  by_cases tools : c.lastMessagesType = .tools
  · have := settled tools
    have := tracks.atMost
    omega
  · exact (tracks.exact_ tools).symm

theorem stops_iff (tracks : Tracks c sent) : Follows sent (marks (stopOpenBlocks c)) ↔ Exact c sent := by
  rw [marks_stopOpenBlocks, tracks.window.stops_iff]
  constructor
  · exact fun inside _ => inside
  · intro settled
    exact Int.le_of_eq (tracks.width_eq settled)

theorem started_stops : started (sent ++ marks (stopOpenBlocks c)) = started sent := by
  rw [marks_stopOpenBlocks, BlockStream.started_stops]

theorem stops (tracks : Tracks c sent) (settled : Exact c sent) (kind : BlockKind) :
    Window (sent ++ marks (stopOpenBlocks c)) (started sent) kind := by
  have all := tracks.width_eq settled
  have stopped := tracks.window.stops c.width (Int.le_of_eq all)
  rw [all, ← marks_stopOpenBlocks] at stopped
  exact stopped.retype started_stops

theorem advance_index (tracks : Tracks c sent) (settled : Exact c sent) :
    (advance c).index = started sent := by
  have all := tracks.width_eq settled
  have offset := tracks.offset
  unfold ClaudeConvertInfo.low ClaudeConvertInfo.width at all
  unfold advance
  cases type : c.lastMessagesType with
  | none | text | thinking | tools =>
    simp only [type] at all ⊢
    omega

theorem finish_iff (tracks : Tracks c sent) (usage : Option Usage) (stopReason : String) :
    Follows sent (marks (stopOpenBlocks c ++ closeMessage usage stopReason)) ↔ Exact c sent := by
  have closing : marks (closeMessage usage stopReason) =
      (if usage.isSome then [.summary] else []) ++ [.ending] := by
    cases usage <;> rfl
  rw [marks_append, follows_append, tracks.stops_iff, closing]
  refine and_iff_left_of_imp fun settled => ?_
  exact ((tracks.stops settled .text).finish_iff usage.isSome).mpr started_stops

end Tracks

@[simp] theorem advance_type : (advance c).lastMessagesType = .none := by
  unfold advance
  cases type : c.lastMessagesType with
  | none => exact type
  | text | thinking | tools => rfl

theorem advance_offset (offset : 0 ≤ c.toolCallMaxIndexOffset) :
    0 ≤ (advance c).toolCallMaxIndexOffset := by
  unfold advance
  cases c.lastMessagesType with
  | tools => exact Int.le_refl 0
  | none | text | thinking => exact offset

theorem tracks_prose {type : LastMessageType} (prose : type = .text ∨ type = .thinking)
    (offset : 0 ≤ c.toolCallMaxIndexOffset) :
    Tracks { c with lastMessagesType := type } sent ↔
      Window sent c.index type.kind ∧ started sent = c.index + 1 := by
  have width : ({ c with lastMessagesType := type } : ClaudeConvertInfo).width = 1 := by
    rcases prose with rfl | rfl <;> rfl
  have low : ({ c with lastMessagesType := type } : ClaudeConvertInfo).low = c.index := by
    rcases prose with rfl | rfl <;> rfl
  have other : type ≠ .tools := by
    rcases prose with rfl | rfl <;> decide
  constructor
  · intro tracks
    have window := tracks.window
    have next := tracks.exact_ other
    rw [low] at window next
    rw [width] at next
    exact ⟨window, next⟩
  · rintro ⟨window, next⟩
    refine ⟨by rwa [low], ?_, fun _ => ?_, offset⟩
    · rw [low, width, next]
      exact Int.le_refl _
    · rw [low, width, next]
      rfl

theorem tracks_idle (idle : c.lastMessagesType = .none) (offset : 0 ≤ c.toolCallMaxIndexOffset) :
    Tracks c sent ↔ Window sent c.index .text ∧ started sent = c.index := by
  have width : c.width = 0 := by
    simp [ClaudeConvertInfo.width, idle]
  have low : c.low = c.index := by
    simp [ClaudeConvertInfo.low, idle]
  constructor
  · intro tracks
    have window := tracks.window
    have next := tracks.exact_ (by simp [idle])
    rw [low, idle] at window
    rw [low, width] at next
    exact ⟨window, by simpa using next⟩
  · rintro ⟨window, next⟩
    refine ⟨by rwa [low, idle], ?_, fun _ => ?_, offset⟩
    · rw [low, width, next]
      simp
    · rw [low, width, next]
      simp

theorem advance_continues (tracks : Tracks c sent) :
    Continues sent (stopOpenBlocksAndAdvance c) (Exact c sent) := by
  refine ⟨tracks.stops_iff, fun settled => ?_⟩
  have index := tracks.advance_index settled
  have window := tracks.stops settled .text
  rw [← index] at window
  exact (tracks_idle advance_type (advance_offset tracks.offset)).mpr
    ⟨window, Tracks.started_stops.trans index.symm⟩

theorem start_prose {type : LastMessageType} (tracks : Tracks c sent)
    (idle : c.lastMessagesType = .none) (prose : type = .text ∨ type = .thinking)
    (kind : block.kind = type.kind) :
    Continues sent ([.contentBlockStart c.index block], { c with lastMessagesType := type })
      True := by
  obtain ⟨window, same⟩ := (tracks_idle idle tracks.offset).mp tracks
  have sentence : marks [.contentBlockStart c.index block] = [.start (started sent) type.kind] := by
    simp [ClaudeResponse.mark, kind, same]
  have begun := (@Window.retype _ sent c.index _ type.kind window same).start
  unfold Continues
  rw [sentence, tracks_prose prose tracks.offset, started_append, same]
  rw [same] at begun
  exact ⟨⟨fun _ => trivial, fun _ => ⟨window.start_iff.mpr same.symm, trivial⟩⟩, fun _ => ⟨begun, rfl⟩⟩

theorem delta_prose {type : LastMessageType}
    (tracks : Tracks { c with lastMessagesType := type } sent)
    (prose : type = .text ∨ type = .thinking) (kind : delta.kind = type.kind) :
    Continues sent ([.contentBlockDelta c.index delta], { c with lastMessagesType := type })
      True := by
  obtain ⟨window, next⟩ := (@tracks_prose c sent type prose tracks.offset).mp tracks
  have sentence : marks [.contentBlockDelta c.index delta] = [.delta c.index type.kind] := by
    simp [ClaudeResponse.mark, kind]
  unfold Continues
  rw [sentence, tracks_prose prose tracks.offset, started_append]
  refine ⟨⟨fun _ => trivial, fun _ => ⟨window.delta_iff.mpr ?_, trivial⟩⟩, fun _ => ?_⟩
  · omega
  · exact ⟨window.delta, by simp [Mark.isStart, next]⟩

theorem Continues.andThen {condition later : Prop}
    (before : Continues sent first condition)
    (after : condition → Continues (sent ++ marks first.1) second later) :
    Continues sent (first.1 ++ second.1, second.2) (condition ∧ later) := by
  refine ⟨?_, fun both => ?_⟩
  · rw [marks_append, follows_append, before.1]
    exact and_congr_right fun holds => (after holds).1
  · have tracks := (after both.1).2 both.2
    rwa [List.append_assoc, ← marks_append] at tracks

theorem stop_then_start {type : LastMessageType} (tracks : Tracks c sent)
    (prose : type = .text ∨ type = .thinking) (kind : block.kind = type.kind) :
    Continues sent (stopOpenBlocks c ++ [.contentBlockStart (advance c).index block],
      { advance c with lastMessagesType := type }) (Exact c sent) := by
  have both := (advance_continues tracks).andThen fun settled =>
    start_prose ((advance_continues tracks).2 settled) advance_type prose kind
  rwa [and_true] at both

theorem silent_continues (tracks : Tracks c sent) : Continues sent ([], c) True := by
  refine ⟨⟨fun _ => trivial, fun _ => trivial⟩, fun _ => ?_⟩
  simpa using tracks

theorem Continues.congr {condition other : Prop}
    (continues : Continues sent sends condition) (same : condition ↔ other) :
    Continues sent sends other := by
  rwa [← propext same]

theorem block_continues {type : LastMessageType}
    (tracks : Tracks c sent) (prose : type = .text ∨ type = .thinking)
    (started : block.kind = type.kind) (added : delta.kind = type.kind) :
    Continues sent (laterBlock c type block delta) (Exact c sent) := by
  unfold laterBlock
  by_cases same : c.lastMessagesType = type
  · have settled : Exact c sent := by
      intro tools
      rw [same] at tools
      rcases prose with rfl | rfl <;> cases tools
    have again : ({ c with lastMessagesType := type } : ClaudeConvertInfo) = c := by
      rw [← same]
    have added := delta_prose (by rwa [again]) prose added
    simpa [same] using added.congr (iff_of_true trivial settled)
  · have begun := stop_then_start tracks prose started
    have both := begun.andThen fun settled => delta_prose (begun.2 settled) prose added
    simpa [same] using both

theorem prose_continues (tracks : Tracks c sent) (delta : Delta) :
    Continues sent (laterProse c delta) (delta.HasProse → Exact c sent) := by
  unfold laterProse
  by_cases reasoning : delta.getReasoningContent = ""
  · by_cases content : delta.getContentString = ""
    · have wordless : ¬ delta.HasProse := by simp [Delta.HasProse, reasoning, content]
      simpa [reasoning, content, wordless] using silent_continues tracks
    · have prose : delta.HasProse := .inr content
      simpa [reasoning, content, prose] using block_continues tracks (.inl rfl) rfl rfl
  · have prose : delta.HasProse := .inl reasoning
    simpa [reasoning, prose] using block_continues tracks (.inr rfl) rfl rfl

/-! ## Tool calls -/

section Calls
variable {base : Int} {group : ToolGroup}

structure Grouped (sent : List (Mark BlockKind)) (base : Int) (group : ToolGroup) : Prop where
  window : Window sent base .toolUse
  count : started sent = base + group.opened
  atMost : group.opened ≤ group.highest + 1
  offset : 0 ≤ group.highest

theorem name_follows (window : Window sent base .toolUse) (count : started sent = base + opened)
    (offset : Int) (id name : String) :
    (Follows sent (marks (if name ≠ "" then
        [.contentBlockStart (base + offset) (.toolUse id name)] else [])) ↔
      (name ≠ "" → offset = opened)) ∧
    ((name ≠ "" → offset = opened) →
      let after := sent ++ marks (if name ≠ "" then
        [.contentBlockStart (base + offset) (.toolUse id name)] else [])
      Window after base .toolUse ∧ started after = base + (opened + if name ≠ "" then 1 else 0)) := by
  by_cases named : name = ""
  · simp [named, window, count]
  · have next : base + offset = started sent ↔ offset = opened := by omega
    simp only [ne_eq, named, not_false_eq_true, if_true, forall_true_left]
    refine ⟨(iff_of_eq (and_true _)).trans (window.start_iff.trans next), ?_⟩
    rintro rfl
    have begun := window.start
    rw [count] at begun
    refine ⟨begun, ?_⟩
    rw [marks_cons, marks_nil, started_append, count]
    simp [ClaudeResponse.mark, Mark.isStart, Int.add_assoc]

theorem arguments_follow (window : Window sent base .toolUse)
    (count : started sent = base + opened) (offset : Int) (arguments : String) :
    (Follows sent (marks (if arguments ≠ "" then
        [.contentBlockDelta (base + offset) (.inputJson arguments)] else [])) ↔
      (arguments ≠ "" → 0 ≤ offset ∧ offset < opened)) ∧
    let after := sent ++ marks (if arguments ≠ "" then
      [.contentBlockDelta (base + offset) (.inputJson arguments)] else [])
    Window after base .toolUse ∧ started after = base + opened := by
  by_cases silent : arguments = ""
  · simp [silent, window, count]
  · have inside : base ≤ base + offset ∧ base + offset < started sent ↔
        0 ≤ offset ∧ offset < opened := by omega
    simp only [ne_eq, silent, not_false_eq_true, if_true, forall_true_left]
    refine ⟨(iff_of_eq (and_true _)).trans (window.delta_iff.trans inside), window.delta, ?_⟩
    rw [marks_cons, marks_nil, started_append, count]
    simp [ClaudeResponse.mark, Mark.isStart]

theorem call_follows (grouped : Grouped sent base group) (place : Nat) (toolCall : ToolCallResponse) :
    (Follows sent (marks (callEvents (base + callOffset place toolCall) toolCall)) ↔
      group.InOrder place [toolCall]) ∧
    (group.InOrder place [toolCall] →
      Grouped (sent ++ marks (callEvents (base + callOffset place toolCall) toolCall)) base
        (group.read place toolCall)) := by
  obtain ⟨named, begun⟩ := name_follows grouped.window grouped.count (callOffset place toolCall)
    toolCall.id toolCall.function.name
  unfold callEvents
  rw [marks_append, follows_append, named]
  constructor
  · refine and_congr_right fun order => ?_
    obtain ⟨window, count⟩ := begun order
    rw [(arguments_follow window count _ _).1]
    exact (iff_of_eq (and_true _)).symm
  · rintro ⟨order, -⟩
    obtain ⟨window, count⟩ := begun order
    obtain ⟨-, after, same⟩ := arguments_follow window count (callOffset place toolCall)
      toolCall.function.arguments
    rw [← List.append_assoc]
    have offset := grouped.offset
    have atMost := grouped.atMost
    refine ⟨after, same, ?_, ?_⟩
    · simp only [ToolGroup.read]
      split
      · have next := order ‹_›
        omega
      · omega
    · simp only [ToolGroup.read]
      omega

theorem larger_eq (offset highest : Int) :
    (if offset > highest then offset else highest) = max highest offset := by
  split <;> omega

theorem calls_highest (place : Nat) (toolCalls : List ToolCallResponse) :
    (streamToolCalls base place group.highest toolCalls).2 = (group.readAll place toolCalls).highest := by
  induction toolCalls generalizing group place with
  | nil => rfl
  | cons toolCall rest ih =>
    simp only [streamToolCalls, larger_eq]
    exact @ih (group.read place toolCall) (place + 1)

theorem calls_follow (grouped : Grouped sent base group) (place : Nat) (toolCalls : List ToolCallResponse) :
    (Follows sent (marks (streamToolCalls base place group.highest toolCalls).1) ↔
      group.InOrder place toolCalls) ∧
    (group.InOrder place toolCalls →
      Grouped (sent ++ marks (streamToolCalls base place group.highest toolCalls).1) base
        (group.readAll place toolCalls)) := by
  induction toolCalls generalizing sent group place with
  | nil => simpa [streamToolCalls, ToolGroup.InOrder, ToolGroup.readAll] using grouped
  | cons toolCall rest ih =>
    obtain ⟨call, after⟩ := call_follows grouped place toolCall
    have single : group.InOrder place (toolCall :: rest) ↔
        group.InOrder place [toolCall] ∧ (group.read place toolCall).InOrder (place + 1) rest := by
      simp [ToolGroup.InOrder, and_assoc]
    simp only [streamToolCalls, larger_eq]
    rw [marks_append, follows_append, call, single]
    constructor
    · refine and_congr_right fun order => ?_
      exact (ih (after order) (place + 1)).1
    · rintro ⟨order, later⟩
      rw [← List.append_assoc]
      exact (ih (after order) (place + 1)).2 later

theorem Tracks.grouped (tracks : Tracks c sent) (tools : c.lastMessagesType = .tools) :
    Grouped sent c.toolCallBaseIndex (c.toolGroup (started sent)) := by
  have window := tracks.window
  have atMost := tracks.atMost
  have offset := tracks.offset
  simp only [ClaudeConvertInfo.low, ClaudeConvertInfo.width, tools] at window atMost
  simp only [ClaudeConvertInfo.toolGroup, tools, if_true]
  refine ⟨window, ?_, ?_, offset⟩
  · dsimp only
    omega
  · dsimp only
    omega

theorem Grouped.tracks (grouped : Grouped sent c.toolCallBaseIndex group)
    (tools : c.lastMessagesType = .tools) (highest : c.toolCallMaxIndexOffset = group.highest) :
    Tracks c sent ∧ (Exact c sent ↔ group.Complete) := by
  have low : c.low = c.toolCallBaseIndex := by
    simp [ClaudeConvertInfo.low, tools]
  have width : c.width = (group.highest + 1).toNat := by
    simp [ClaudeConvertInfo.width, tools, highest]
  have count := grouped.count
  have atMost := grouped.atMost
  have offset := grouped.offset
  refine ⟨⟨by rw [low, tools]; exact grouped.window, ?_, fun other => absurd tools other, ?_⟩, ?_⟩
  · omega
  · omega
  · rw [Exact, low, width, ToolGroup.Complete]
    constructor
    · intro exact_
      have := exact_ tools
      omega
    · omega

theorem streamed_continues (grouped : Grouped sent c.toolCallBaseIndex group)
    (highest : c.toolCallMaxIndexOffset = group.highest) (toolCalls : List ToolCallResponse) :
    let calls := streamToolCalls c.toolCallBaseIndex 0 c.toolCallMaxIndexOffset toolCalls
    let sends : Sends := (calls.1,
      { c with
        lastMessagesType := .tools
        toolCallMaxIndexOffset := calls.2
        index := c.toolCallBaseIndex + calls.2 })
    Continues sent sends (group.InOrder 0 toolCalls) ∧
      (group.InOrder 0 toolCalls →
        (Exact sends.2 (sent ++ marks sends.1) ↔ (group.readAll 0 toolCalls).Complete)) := by
  rw [highest]
  obtain ⟨follows, after⟩ := calls_follow grouped 0 toolCalls
  have tracked := fun order => (after order).tracks (c :=
    { c with
      lastMessagesType := .tools
      toolCallMaxIndexOffset := (streamToolCalls c.toolCallBaseIndex 0 group.highest toolCalls).2
      index := c.toolCallBaseIndex +
        (streamToolCalls c.toolCallBaseIndex 0 group.highest toolCalls).2 }) rfl
    (calls_highest 0 toolCalls)
  exact ⟨⟨follows, fun order => (tracked order).1⟩, fun order => (tracked order).2⟩

theorem tools_continue (tracks : Tracks c sent) (toolCalls : List ToolCallResponse) :
    let group := c.toolGroup (started sent)
    let sends := laterToolCalls c toolCalls
    Continues sent sends (group.InOrder 0 toolCalls) ∧
      (group.InOrder 0 toolCalls →
        (Exact sends.2 (sent ++ marks sends.1) ↔ (group.readAll 0 toolCalls).Complete)) := by
  by_cases tools : c.lastMessagesType = .tools
  · have grouped := tracks.grouped tools
    have highest : c.toolCallMaxIndexOffset = (c.toolGroup (started sent)).highest := by
      simp [ClaudeConvertInfo.toolGroup, tools]
    simpa [laterToolCalls, tools] using streamed_continues grouped highest toolCalls
  · have settled : Exact c sent := fun other => absurd other tools
    have idle : c.toolGroup (started sent) = { opened := 0, highest := 0 } := by
      simp [ClaudeConvertInfo.toolGroup, tools]
    have moved := advance_continues tracks
    obtain ⟨window, empty⟩ :=
      (tracks_idle advance_type (advance_offset tracks.offset)).mp (moved.2 settled)
    have grouped : Grouped (sent ++ marks (stopOpenBlocks c)) (advance c).index
        { opened := 0, highest := 0 } :=
      ⟨window.retype empty, by simpa [stopOpenBlocksAndAdvance] using empty, by decide, Int.le_refl 0⟩
    obtain ⟨streamed, closing⟩ := streamed_continues (c :=
      { advance c with toolCallBaseIndex := (advance c).index, toolCallMaxIndexOffset := 0 })
      grouped rfl toolCalls
    have both := moved.andThen fun _ => streamed
    rw [idle]
    refine ⟨?_, fun order => ?_⟩
    · simpa [laterToolCalls, tools, stopOpenBlocksAndAdvance, settled] using both
    · simpa [laterToolCalls, tools] using closing order

end Calls

/-! ## A chunk -/

section Chunks
variable {chunk : Chunk} {choice : Choice} {delta : Delta}

theorem Tracks.exact_iff (tracks : Tracks c sent) :
    Exact c sent ↔ (c.lastMessagesType = .tools → (c.toolGroup (started sent)).Complete) := by
  by_cases tools : c.lastMessagesType = .tools
  · have highest : c.toolCallMaxIndexOffset = (c.toolGroup (started sent)).highest := by
      simp [ClaudeConvertInfo.toolGroup, tools]
    rw [((tracks.grouped tools).tracks tools highest).2]
    exact ⟨fun complete _ => complete, fun complete => complete tools⟩
  · exact iff_of_true (fun other => absurd other tools) fun other => absurd other tools

theorem prose_exact :
    Exact (laterProse c delta).2 (sent ++ marks (laterProse c delta).1) ↔
      delta.HasProse ∨ Exact c sent := by
  unfold laterProse
  by_cases reasoning : delta.getReasoningContent = ""
  · by_cases content : delta.getContentString = ""
    · simp [Delta.HasProse, reasoning, content]
    · simp [Delta.HasProse, reasoning, content, laterBlock, Exact]
  · simp [Delta.HasProse, reasoning, laterBlock, Exact]

/-- What a choice asks of the converter, as `Choice.Fits` does of the stream. -/
def Asks (c : ClaudeConvertInfo) (sent : List (Mark BlockKind)) (delta : Delta) : Prop :=
  if delta.toolCalls ≠ [] then (c.toolGroup (started sent)).InOrder 0 delta.toolCalls
  else delta.HasProse → Exact c sent

def AsksLast (c : ClaudeConvertInfo) (sent : List (Mark BlockKind)) (delta : Delta) : Prop :=
  if delta.toolCalls ≠ [] then
    ((c.toolGroup (started sent)).readAll 0 delta.toolCalls).Complete
  else delta.HasProse ∨ Exact c sent

theorem delta_continues (tracks : Tracks c sent) (delta : Delta) :
    Continues sent (laterDelta c delta) (Asks c sent delta) ∧
      (Asks c sent delta →
        (Exact (laterDelta c delta).2 (sent ++ marks (laterDelta c delta).1) ↔ AsksLast c sent delta)) := by
  unfold laterDelta Asks AsksLast
  by_cases calls : delta.toolCalls = []
  · simp only [calls, ne_eq, not_true_eq_false, if_false]
    exact ⟨prose_continues tracks delta, fun _ => prose_exact⟩
  · simp only [calls, ne_eq, not_false_eq_true, if_true]
    exact tools_continue tracks delta.toolCalls

theorem finish_follows (tracks : Tracks c sent) (delta : Delta) :
    Follows sent (marks ((laterDelta c delta).1 ++ (finish (laterDelta c delta).2 chunk).1)) ↔
      Asks c sent delta ∧ AsksLast c sent delta := by
  obtain ⟨continues, last⟩ := delta_continues tracks delta
  rw [marks_append, follows_append, continues.1]
  refine and_congr_right fun asked => ?_
  rw [← last asked]
  exact (continues.2 asked).finish_iff _ _

/-- What a later chunk asks of the converter, as `Chunk.Fits` does of the stream. -/
def ChunkAsks (c : ClaudeConvertInfo) (sent : List (Mark BlockKind)) (chunk : Chunk) : List Choice → Prop
  | [] => (chunk.usage.or c.usage).isSome → Exact c sent
  | choice :: _ => (choice.finishes → chunk.usage.isSome) →
      Asks c sent choice.delta ∧ (choice.finishes → AsksLast c sent choice.delta)

theorem Tracks.withReason (tracks : Tracks c sent) (reason : String) :
    Tracks { c with finishReason := reason } sent :=
  ⟨tracks.window, tracks.atMost, tracks.exact_, tracks.offset⟩

theorem Tracks.withUsage (tracks : Tracks c sent) (usage : Option Usage) :
    Tracks { c with usage := usage } sent :=
  ⟨tracks.window, tracks.atMost, tracks.exact_, tracks.offset⟩

theorem Tracks.finishes (tracks : Tracks c sent) (settled : Exact c sent) (chunk : Chunk)
    (reason : String) :
    Follows sent (marks (finish { c with finishReason := reason } chunk).1) :=
  ((tracks.withReason reason).finish_iff _ _).mpr settled

theorem later_follows (tracks : Tracks c sent) (chunk : Chunk) :
    Follows sent (marks (laterChunk c chunk).1) ↔ ChunkAsks c sent chunk chunk.choices := by
  unfold laterChunk
  cases chunk.choices with
  | nil =>
    cases usage : chunk.usage.or c.usage with
    | none => simp [ChunkAsks, usage]
    | some spent => simpa [ChunkAsks, usage] using tracks.finish_iff (some spent) _
  | cons choice rest =>
    by_cases finishes : choice.finishes = true
    · cases own : chunk.usage with
      | none => simp [ChunkAsks, finishes, own]
      | some spent =>
        have finished :
            Follows sent (marks
              ((laterDelta { c with finishReason := choice.finishReason.getD "" } choice.delta).1 ++
                (finish (laterDelta { c with finishReason := choice.finishReason.getD "" }
                  choice.delta).2 chunk).1)) ↔
              Asks c sent choice.delta ∧ AsksLast c sent choice.delta :=
          finish_follows (tracks.withReason _) choice.delta
        simpa [ChunkAsks, finishes, own] using finished
    · simpa [ChunkAsks, finishes] using (delta_continues tracks choice.delta).1.1

theorem later_tracks (tracks : Tracks c sent) (asked : ChunkAsks c sent chunk chunk.choices)
    (going : (laterChunk c chunk).2.done = false) :
    Tracks (laterChunk c chunk).2 (sent ++ marks (laterChunk c chunk).1) := by
  unfold laterChunk at going ⊢
  cases choices : chunk.choices with
  | nil =>
    cases usage : chunk.usage.or c.usage with
    | none => simpa [choices, usage] using tracks
    | some spent => simp [choices, usage] at going
  | cons choice rest =>
    rw [choices] at asked
    by_cases finishes : choice.finishes = true
    · cases own : chunk.usage with
      | none => simpa [choices, finishes, own] using tracks.withReason _
      | some spent => simp [choices, finishes, own, finish] at going
    · have deltas := (delta_continues tracks choice.delta).1.2 (asked (by simp [finishes])).1
      simpa [choices, finishes] using deltas

theorem first_call_continues (tracks : Tracks c sent) (idle : c.lastMessagesType = .none)
    (first : started sent = 0) (toolCalls : List ToolCallResponse) :
    Continues sent (firstToolCall c toolCalls) True ∧
      Exact (firstToolCall c toolCalls).2 (sent ++ marks (firstToolCall c toolCalls).1) := by
  cases toolCalls with
  | nil => exact ⟨silent_continues tracks, fun tools => absurd (idle.symm.trans tools) (by decide)⟩
  | cons toolCall rest =>
    obtain ⟨window, same⟩ := (tracks_idle idle tracks.offset).mp tracks
    rw [← same, first] at window
    have begun := (@Window.retype _ sent 0 _ .toolUse window first).start
    rw [first] at begun
    have one : started (sent ++ [.start 0 BlockKind.toolUse]) = 0 + 1 := by
      rw [started_append, first]
      rfl
    obtain ⟨follows, after, count⟩ :=
      arguments_follow begun one 0 toolCall.function.arguments
    have grouped : Grouped (sent ++ marks (firstToolCall c (toolCall :: rest)).1) 0
        { opened := 1, highest := 0 } := by
      have joined : sent ++ marks (firstToolCall c (toolCall :: rest)).1 =
          (sent ++ [.start 0 BlockKind.toolUse]) ++ marks (if toolCall.function.arguments ≠ "" then
            [.contentBlockDelta (0 + 0) (.inputJson toolCall.function.arguments)] else []) := by
        simp [firstToolCall, ClaudeResponse.mark, ContentBlock.kind]
      rw [joined]
      exact ⟨after, count, by decide, by decide⟩
    have tracked := grouped.tracks (c := (firstToolCall c (toolCall :: rest)).2) rfl rfl
    refine ⟨⟨iff_of_true ?_ trivial, fun _ => tracked.1⟩, tracked.2.mpr (by decide)⟩
    have permitted : Permitted sent (.start 0 BlockKind.toolUse) :=
      window.start_iff.mpr first.symm
    exact follows_cons.mpr ⟨permitted, follows.mpr fun _ => by decide⟩

theorem first_prose_eq (other : c.lastMessagesType = .none ∨ c.lastMessagesType = .tools) :
    firstProse c delta = laterProse c delta := by
  have block : ∀ type, type = .text ∨ type = .thinking → ∀ block blockDelta,
      firstBlock c type block blockDelta = laterBlock c type block blockDelta := by
    intro type prose block blockDelta
    have different : c.lastMessagesType ≠ type := by
      rintro rfl
      rcases other with idle | tools
      · simp [idle] at prose
      · simp [tools] at prose
    simp [firstBlock, laterBlock, stopOpenBlocksAndAdvance, different]
  unfold firstProse laterProse
  rw [block .thinking (.inr rfl), block .text (.inl rfl)]

theorem first_follows (chunk : Chunk)
    (idle : info.claudeConvertInfo.lastMessagesType = .none)
    (zero : info.claudeConvertInfo.index = 0)
    (offset : 0 ≤ info.claudeConvertInfo.toolCallMaxIndexOffset) :
    Follows [] (marks (firstChunk info chunk).1) ∧
      ((firstChunk info chunk).2.done = false →
        Tracks (firstChunk info chunk).2 (marks (firstChunk info chunk).1)) := by
  have opened : Tracks info.claudeConvertInfo [.opening] := by
    refine (tracks_idle idle offset).mpr ⟨?_, zero.symm⟩
    rw [zero]
    exact window_opening BlockKind.text
  unfold firstChunk
  cases choices : chunk.choices with
  | nil => exact ⟨⟨rfl, trivial⟩, fun _ => opened⟩
  | cons choice rest =>
    obtain ⟨called, exact_⟩ := first_call_continues opened idle rfl choice.delta.toolCalls
    have type : (firstToolCall info.claudeConvertInfo choice.delta.toolCalls).2.lastMessagesType =
          .none ∨
        (firstToolCall info.claudeConvertInfo choice.delta.toolCalls).2.lastMessagesType =
          .tools := by
      cases choice.delta.toolCalls with
      | nil => exact .inl idle
      | cons toolCall others => exact .inr rfl
    have spoken := called.andThen fun _ => prose_continues (called.2 trivial) choice.delta
    have asked : True ∧ (choice.delta.HasProse → Exact
        (firstToolCall info.claudeConvertInfo choice.delta.toolCalls).2
        ([.opening] ++ marks (firstToolCall info.claudeConvertInfo choice.delta.toolCalls).1)) :=
      ⟨trivial, fun _ => exact_⟩
    have tracks := spoken.2 asked
    have closed := (@prose_exact _ _ choice.delta).mpr (.inr exact_)
    rw [List.append_assoc, ← marks_append] at closed
    simp only [first_prose_eq type, List.cons_append]
    by_cases finishes : choice.finishes = true
    · have finished := tracks.finishes closed chunk (choice.finishReason.getD "")
      rw [if_pos finishes]
      refine ⟨⟨rfl, ?_⟩, fun going => by simp [finish] at going⟩
      have all := follows_append.mpr ⟨spoken.1.mpr asked, finished⟩
      rw [← marks_append] at all
      exact all
    · rw [if_neg finishes]
      exact ⟨⟨rfl, spoken.1.mpr asked⟩, fun _ => tracks⟩

end Chunks

end Parts

section Streams
variable {stream : Stream} {chunk : Chunk} {choice : Choice}

/-- Between chunks: either none was received, or the message is done, or the
converter tracks what was sent. -/
structure Sound (stream : Stream) : Prop where
  counted : 0 ≤ stream.info.sendResponseCount
  untouched : stream.info.sendResponseCount = 0 → stream.sent = [] ∧
    stream.info.claudeConvertInfo.lastMessagesType = .none ∧
    stream.info.claudeConvertInfo.index = 0 ∧
    0 ≤ stream.info.claudeConvertInfo.toolCallMaxIndexOffset
  tracks : stream.info.sendResponseCount ≠ 0 → stream.info.claudeConvertInfo.done = false →
    Tracks stream.info.claudeConvertInfo (marks stream.sent)

theorem fits_iff (tracks : Tracks stream.info.claudeConvertInfo (marks stream.sent)) :
    choice.Fits stream ↔
      Asks stream.info.claudeConvertInfo (marks stream.sent) choice.delta ∧
        (choice.finishes → AsksLast stream.info.claudeConvertInfo (marks stream.sent) choice.delta) := by
  have settled : stream.Settled ↔ Exact stream.info.claudeConvertInfo (marks stream.sent) :=
    tracks.exact_iff.symm
  unfold Choice.Fits Asks AsksLast
  by_cases calls : choice.delta.toolCalls = []
  · simp only [calls, settled]
    by_cases finishes : choice.finishes = true
    · by_cases prose : choice.delta.HasProse
      · simp [finishes, prose]
      · simp [finishes, prose]
    · simp [finishes]
  · simp [calls, Stream.toolGroup]

def Stream.recorded (stream : Stream) (chunk : Chunk) : ClaudeConvertInfo :=
  { stream.info.claudeConvertInfo with
    usage := chunk.usage.or stream.info.claudeConvertInfo.usage }

theorem fits_iff_asks (tracks : Tracks stream.info.claudeConvertInfo (marks stream.sent))
    (chunk : Chunk) (choices : List Choice) :
    chunk.Fits stream choices ↔ ChunkAsks (stream.recorded chunk) (marks stream.sent) chunk choices := by
  cases choices with
  | nil =>
    have recorded : (chunk.usage.or (chunk.usage.or stream.info.claudeConvertInfo.usage)) =
        chunk.usage.or stream.info.claudeConvertInfo.usage := by
      cases chunk.usage <;> rfl
    unfold Chunk.Fits ChunkAsks
    rw [show (stream.recorded chunk).usage = chunk.usage.or stream.info.claudeConvertInfo.usage
      from rfl, recorded]
    exact imp_congr_right fun _ => tracks.exact_iff.symm
  | cons choice rest =>
    exact imp_congr_right fun _ => fits_iff tracks

theorem handle_going (chunk : Chunk) (going : stream.info.claudeConvertInfo.done = false) :
    ∃ (named : Chunk) (info : RelayInfo), named.choices = chunk.choices ∧
      named.usage = chunk.usage ∧ info.claudeConvertInfo = stream.recorded chunk ∧
      (((handleStreamFormat chunk stream.info).1,
          (handleStreamFormat chunk stream.info).2.claudeConvertInfo) : Sends) =
        if stream.info.sendResponseCount = 0 then firstChunk info named
        else laterChunk (stream.recorded chunk) named := by
  let counting : RelayInfo :=
    { stream.info with sendResponseCount := stream.info.sendResponseCount + 1 }
  let named : Chunk := { chunk with model := displayedResponseModelName counting chunk.model }
  refine ⟨named, { counting with claudeConvertInfo := stream.recorded chunk }, rfl, rfl, rfl, ?_⟩
  have counted : stream.info.sendResponseCount + 1 = 1 ↔ stream.info.sendResponseCount = 0 := by
    omega
  simp [handleStreamFormat, handleClaudeFormat, streamResponseOpenAI2Claude, going, counted,
    Stream.recorded, named, counting]

theorem handle_later (chunk : Chunk) (going : stream.info.claudeConvertInfo.done = false)
    (later : stream.info.sendResponseCount ≠ 0) :
    ∃ named : Chunk, named.choices = chunk.choices ∧ named.usage = chunk.usage ∧
      (handleStreamFormat chunk stream.info).1 = (laterChunk (stream.recorded chunk) named).1 ∧
      (handleStreamFormat chunk stream.info).2.claudeConvertInfo =
        (laterChunk (stream.recorded chunk) named).2 := by
  obtain ⟨named, info, choices, usage, -, sends⟩ := handle_going chunk going
  rw [if_neg later] at sends
  exact ⟨named, choices, usage, congrArg Prod.fst sends, congrArg Prod.snd sends⟩

theorem handle_first (chunk : Chunk) (going : stream.info.claudeConvertInfo.done = false)
    (first : stream.info.sendResponseCount = 0) :
    ∃ (named : Chunk) (info : RelayInfo), named.choices = chunk.choices ∧
      named.usage = chunk.usage ∧ info.claudeConvertInfo = stream.recorded chunk ∧
      (handleStreamFormat chunk stream.info).1 = (firstChunk info named).1 ∧
      (handleStreamFormat chunk stream.info).2.claudeConvertInfo = (firstChunk info named).2 := by
  obtain ⟨named, info, choices, usage, same, sends⟩ := handle_going chunk going
  rw [if_pos first] at sends
  exact ⟨named, info, choices, usage, same, congrArg Prod.fst sends, congrArg Prod.snd sends⟩

theorem handle_done (chunk : Chunk) (ended : stream.info.claudeConvertInfo.done = true) :
    (handleStreamFormat chunk stream.info).1 = [] ∧
      (handleStreamFormat chunk stream.info).2.claudeConvertInfo.done = true := by
  simp [handleStreamFormat, handleClaudeFormat, streamResponseOpenAI2Claude, ended]

theorem handle_count (chunk : Chunk) :
    (handleStreamFormat chunk stream.info).2.sendResponseCount = stream.info.sendResponseCount + 1 := by
  unfold handleStreamFormat handleClaudeFormat streamResponseOpenAI2Claude
  by_cases ended : stream.info.claudeConvertInfo.done = true
  · simp [ended]
  · simp [ended]

theorem sound_of_tracks (sound : Sound stream) (chunk : Chunk)
    (tracks : (handleStreamFormat chunk stream.info).2.claudeConvertInfo.done = false →
      Tracks (handleStreamFormat chunk stream.info).2.claudeConvertInfo
        (marks (stream.sent ++ (handleStreamFormat chunk stream.info).1))) :
    Sound (receive stream chunk) := by
  have counted := sound.counted
  have next := @handle_count stream chunk
  refine ⟨?_, fun none_received => ?_, fun _ => tracks⟩
  · simp only [receive]
    omega
  · simp only [receive] at none_received
    omega

theorem receive_follows (sound : Sound stream) (chunk : Chunk) :
    (Follows (marks stream.sent) (marks (handleStreamFormat chunk stream.info).1) ↔
      CallsInOrder stream chunk) ∧
    (CallsInOrder stream chunk → Sound (receive stream chunk)) := by
  cases going : stream.info.claudeConvertInfo.done with
  | true =>
    obtain ⟨silent, ended⟩ := handle_done chunk going
    refine ⟨iff_of_true ?_ fun other => ?_, fun _ => sound_of_tracks sound chunk fun other => ?_⟩
    · rw [silent]
      exact follows_nil
    · simp [going] at other
    · simp [ended] at other
  | false =>
    by_cases count : stream.info.sendResponseCount = 0
    · obtain ⟨untouched, idle, zero, offset⟩ := sound.untouched count
      obtain ⟨named, info, -, -, same, sends, after⟩ := handle_first chunk going count
      have first := @first_follows info named (by rw [same]; exact idle) (by rw [same]; exact zero)
        (by rw [same]; exact offset)
      refine ⟨iff_of_true ?_ fun _ other => absurd count other, fun _ =>
        sound_of_tracks sound chunk fun open_ => ?_⟩
      · rw [untouched, sends]
        exact first.1
      · rw [after] at open_ ⊢
        rw [untouched, sends]
        exact first.2 open_
    · have tracks := sound.tracks count going
      obtain ⟨named, choices, usage, sends, after⟩ := handle_later chunk going count
      have recorded : Tracks (stream.recorded chunk) (marks stream.sent) := tracks.withUsage _
      have asks : CallsInOrder stream chunk ↔
          ChunkAsks (stream.recorded chunk) (marks stream.sent) named named.choices := by
        have fits := fits_iff_asks tracks chunk chunk.choices
        have same : ChunkAsks (stream.recorded chunk) (marks stream.sent) named named.choices ↔
            ChunkAsks (stream.recorded chunk) (marks stream.sent) chunk chunk.choices := by
          rw [choices]
          unfold ChunkAsks
          rw [usage]
        rw [same, ← fits]
        exact ⟨fun order => order going count, fun order _ _ => order⟩
      rw [asks]
      refine ⟨?_, fun asked => sound_of_tracks sound chunk fun open_ => ?_⟩
      · rw [sends]
        exact later_follows recorded named
      · rw [after] at open_ ⊢
        rw [marks_append, sends]
        exact later_tracks recorded asked open_

theorem sent_grows (stream : Stream) (chunks : List Chunk) :
    ∃ more, (run receive stream chunks).sent = stream.sent ++ more := by
  induction chunks generalizing stream with
  | nil => exact ⟨[], (List.append_nil _).symm⟩
  | cons chunk rest ih =>
    obtain ⟨more, shape⟩ := ih (receive stream chunk)
    exact ⟨(handleStreamFormat chunk stream.info).1 ++ more, by
      rw [run_cons, shape]
      simp [receive]⟩

theorem speaks_all_iff (chunks : List Chunk) :
    (∀ done, done <+: chunks → Speaks (marks (run receive stream done).sent)) ↔
      Speaks (marks (run receive stream chunks).sent) := by
  constructor
  · exact fun always => always chunks (List.prefix_refl chunks)
  · rintro speaks done ⟨rest, rfl⟩
    rw [run_append] at speaks
    obtain ⟨more, shape⟩ := sent_grows (run receive stream done) rest
    rw [shape, marks_append] at speaks
    exact (speaks_append.mp speaks).1

theorem run_speaks_iff (sound : Sound stream) (speaks : Speaks (marks stream.sent)) (chunks : List Chunk) :
    Speaks (marks (run receive stream chunks).sent) ↔ Guarded receive CallsInOrder stream chunks := by
  have sharp : ∀ stream chunk, Sound stream ∧ Speaks (marks stream.sent) →
      (Speaks (marks (receive stream chunk).sent) ↔ CallsInOrder stream chunk) := by
    rintro stream chunk ⟨sound, speaks⟩
    rw [← (receive_follows sound chunk).1]
    unfold receive
    rw [marks_append, speaks_append]
    exact and_iff_right speaks
  have kept : ∀ stream chunk, CallsInOrder stream chunk →
      Sound stream ∧ Speaks (marks stream.sent) →
      Sound (receive stream chunk) ∧ Speaks (marks (receive stream chunk).sent) := by
    rintro stream chunk order ⟨sound, speaks⟩
    exact ⟨(receive_follows sound chunk).2 order, (sharp stream chunk ⟨sound, speaks⟩).mpr order⟩
  let safe : Stream → Prop := fun stream => Speaks (marks stream.sent)
  have initially : safe stream := speaks
  rw [← speaks_all_iff]
  exact always_safe_iff_guarded kept sharp chunks ⟨sound, speaks⟩ initially

end Streams

/-! ## A whole response -/

theorem fresh_sound (originModelName : String) (alignedToRequest : Bool) (estimatePromptTokens : Int) :
    Sound (fresh originModelName alignedToRequest estimatePromptTokens) := by
  refine ⟨Int.le_refl 0, fun _ => ⟨rfl, rfl, rfl, Int.le_refl 0⟩, fun received => ?_⟩
  exact absurd rfl received

/-- The events of a response keep to the protocol exactly when its tool calls
come in order: each is named under the next index of its group, has arguments
only once it is named, and no index in between is missing when the group ends. -/
theorem claude_stream_speaks_iff (originModelName : String) (alignedToRequest : Bool)
    (estimatePromptTokens : Int) (chunks : List Chunk) :
    let start := fresh originModelName alignedToRequest estimatePromptTokens
    Speaks (marks (run receive start chunks).sent) ↔ Guarded receive CallsInOrder start chunks := by
  have silent : Speaks ([] : List (Mark BlockKind)) := by
    intro before mark after shape
    simp at shape
  exact run_speaks_iff (fresh_sound _ _ _) silent chunks

def toolCall (index : Int) (name arguments : String) : ToolCallResponse where
  index := some index
  id := name
  function := { name := name, arguments := arguments }

def toolChunk (toolCalls : List ToolCallResponse) : Chunk where
  id := "answer"
  model := "model"
  choices :=
    [{ delta :=
        { content := none, reasoningContent := none, reasoning := none, toolCalls := toolCalls }
       finishReason := none }]
  usage := none

/-- Two calls that start in the first chunk: only the first is announced, and the
arguments of the second go to a block that was never started. -/
theorem second_call_is_never_started :
    ¬ ∀ chunks, Speaks (marks (run receive (fresh "" true 0) chunks).sent) := by
  intro always
  have speaks := always [toolChunk [toolCall 0 "one" "", toolCall 1 "two" ""],
    toolChunk [toolCall 1 "" "\x7b\x7d"]]
  have permitted := speaks [.opening, .start 0 .toolUse] (.delta 1 .toolUse) [] (by decide +kernel)
  exact absurd permitted.2.2.1 (by decide)

end NewApi.ClaudeStream
