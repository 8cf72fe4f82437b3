import NewApi.ClaudeStream
import NewApi.ClaudeToOpenAI
import NewApi.GeminiToOpenAI
import NewApi.Regrouping

/-! A response of an OpenAI channel in the format of Gemini, whole or chunk by chunk. A
stream of OpenAI carries a tool call in as many entries as its arguments have fragments,
and Gemini has calls only as a whole. The converter makes a call of every entry. What the
stream should come to is the conversion of the message that its chunks add up to. -/
namespace NewApi.GeminiStream
open NewApi.JsonTree NewApi.Regrouping
open NewApi.ClaudeStream (ToolCallResponse callOffset)
open NewApi.GeminiToOpenAI (FunctionCall FunctionRequest ToolCallRequest GeminiPart
  GeminiChatContent)

/-! ## The model -/

/-- `dto/openai_response.go::InputTokenDetails`, as far as conversions read or set it. -/
structure InputTokenDetails where
  cachedTokens : Int := 0
  imageTokens : Int := 0
  audioTokens : Int := 0

/-- `dto/openai_response.go::Usage`, the fields that conversions read or set. -/
structure Usage where
  promptTokens : Int := 0
  completionTokens : Int := 0
  totalTokens : Int := 0
  inputTokens : Int := 0
  outputTokens : Int := 0
  promptTokensDetails : InputTokenDetails := {}
  inputTokensDetails : Option InputTokenDetails := none
  reasoningTokens : Int := 0

/-- `dto/openai_request.go::Message` of a response; nil is the value null, and the tool
calls are what `ParseToolCalls` makes of them. -/
structure Message where
  role : String
  content : Json
  toolCalls : List ToolCallRequest

/-- `dto/openai_request.go::Message.StringContent`. -/
def Message.stringContent (message : Message) : String :=
  match message.content with
  | .string text => text
  | .array items => String.join (items.filterMap ClaudeToOpenAI.itemText)
  | _ => ""

/-- `dto/openai_response.go::OpenAITextResponseChoice`. -/
structure OpenAITextResponseChoice where
  index : Int
  message : Message
  finishReason : String

/-- `dto/openai_response.go::OpenAITextResponse`. -/
structure OpenAITextResponse where
  id : String
  object : String
  created : Int
  model : String
  choices : List OpenAITextResponseChoice
  usage : Usage

/-- `dto/openai_response.go::ChatCompletionsStreamResponseChoiceDelta`, the fields that the
conversion reads; a nil list is not an empty one. -/
structure Delta where
  content : Option String
  toolCalls : Option (List ToolCallResponse)

def Delta.getContentString (delta : Delta) : String := delta.content.getD ""

/-- `dto/openai_response.go::ChatCompletionsStreamResponseChoice`. -/
structure StreamChoice where
  index : Int
  delta : Delta
  finishReason : Option String

/-- `dto/openai_response.go::ChatCompletionsStreamResponse`, the fields that the conversion
reads. -/
structure ChatCompletionsStreamResponse where
  choices : List StreamChoice
  usage : Option Usage

/-- `dto/gemini.go::GeminiUsageMetadata`, the fields that the conversions set. -/
structure GeminiUsageMetadata where
  promptTokenCount : Int
  candidatesTokenCount : Int
  totalTokenCount : Int

/-- `dto/gemini.go::GeminiChatCandidate`. -/
structure GeminiChatCandidate where
  index : Int
  finishReason : Option String
  content : GeminiChatContent

/-- `dto/gemini.go::GeminiChatResponse`. -/
structure GeminiChatResponse where
  candidates : List GeminiChatCandidate
  usageMetadata : GeminiUsageMetadata

def geminiFinishReason (reason : String) : String :=
  if reason = "stop" then "STOP"
  else if reason = "length" then "MAX_TOKENS"
  else if reason = "content_filter" then "SAFETY"
  else if reason = "tool_calls" then "STOP"
  else "STOP"

def textPart (text : String) : GeminiPart := ⟨text, none, none, none, none⟩

def textParts (text : String) : List GeminiPart := if text = "" then [] else [textPart text]

section Conversion
variable (unmarshal : String → Option Json)

def convertArguments (arguments : String) : Json :=
  if arguments = "" then .object []
  else (unmarshal arguments).getD (.object [("arguments", .string arguments)])

def functionCall (name arguments : String) : FunctionCall :=
  ⟨name, convertArguments unmarshal arguments⟩

def callPart (name arguments : String) : GeminiPart :=
  ⟨"", none, none, some (functionCall unmarshal name arguments), none⟩

/-- One round of the loop of `ResponseOpenAI2Gemini`. -/
def convertChoice (choice : OpenAITextResponseChoice) : GeminiChatCandidate where
  index := choice.index
  finishReason := some (geminiFinishReason choice.finishReason)
  content := ⟨"model",
    if choice.message.toolCalls = [] then textParts choice.message.stringContent
    else choice.message.toolCalls.map fun toolCall =>
      callPart unmarshal toolCall.function.name toolCall.function.arguments⟩

/-- `service/convert.go::ResponseOpenAI2Gemini`. -/
def responseOpenAI2Gemini (response : OpenAITextResponse) : GeminiChatResponse where
  candidates := response.choices.map (convertChoice unmarshal)
  usageMetadata := ⟨response.usage.promptTokens, response.usage.completionTokens,
    response.usage.promptTokens + response.usage.completionTokens⟩

def StreamChoice.hasContent (choice : StreamChoice) : Bool :=
  choice.delta.getContentString ≠ "" || (choice.delta.toolCalls.getD []) ≠ []

/-- One round of the second loop of `StreamResponseOpenAI2Gemini`. -/
def convertStreamChoice (choice : StreamChoice) : GeminiChatCandidate where
  index := choice.index
  finishReason := choice.finishReason.map geminiFinishReason
  content := ⟨"model",
    match choice.delta.toolCalls with
    | none => textParts choice.delta.getContentString
    | some toolCalls => toolCalls.map fun toolCall =>
      callPart unmarshal toolCall.function.name toolCall.function.arguments⟩

/-- `service/convert.go::StreamResponseOpenAI2Gemini`, with what is estimated of the prompt. -/
def streamResponseOpenAI2Gemini (estimatePromptTokens : Int)
    (response : ChatCompletionsStreamResponse) : Option GeminiChatResponse :=
  if !response.choices.any (·.hasContent) && !response.choices.any (·.finishReason.isSome)
  then none
  else some {
    candidates := response.choices.map (convertStreamChoice unmarshal)
    usageMetadata := match response.usage with
      | none => ⟨estimatePromptTokens, 0, estimatePromptTokens⟩
      | some usage => ⟨usage.promptTokens, usage.completionTokens, usage.totalTokens⟩ }

end Conversion

/-! ## The message of a stream -/

def StreamChoice.entries (choice : StreamChoice) : List (Int × ToolCallResponse) :=
  (choice.delta.toolCalls.getD []).mapIdx fun place toolCall => (callOffset place toolCall, toolCall)

def choicesOf (index : Int) (chunks : List ChatCompletionsStreamResponse) : List StreamChoice :=
  (chunks.flatMap (·.choices)).filter (·.index = index)

def entriesOf (index : Int) (chunks : List ChatCompletionsStreamResponse) : List (Int × ToolCallResponse) :=
  (choicesOf index chunks).flatMap StreamChoice.entries

def firstFilled (texts : List String) : String := (texts.find? (· ≠ "")).getD ""

def joined (entries : List ToolCallResponse) : ToolCallRequest :=
  ⟨firstFilled (entries.map (·.id)), "function", ⟨firstFilled (entries.map (·.function.name)), "",
    none, String.join (entries.map (·.function.arguments))⟩⟩

def assembledCalls (index : Int) (chunks : List ChatCompletionsStreamResponse) : List ToolCallRequest :=
  (groups Prod.fst (entriesOf index chunks)).map fun group => joined (group.map Prod.snd)

def assembledChoice (chunks : List ChatCompletionsStreamResponse) (index : Int) :
    OpenAITextResponseChoice where
  index := index
  message := {
    role := "assistant"
    content := .string (String.join ((choicesOf index chunks).map (·.delta.getContentString)))
    toolCalls := assembledCalls index chunks }
  finishReason := ((choicesOf index chunks).filterMap (·.finishReason)).getLastD ""

def assembled (head : OpenAITextResponse) (chunks : List ChatCompletionsStreamResponse) :
    OpenAITextResponse :=
  { head with
    choices := ((chunks.flatMap (·.choices)).map (·.index)).eraseDups.map (assembledChoice chunks)
    usage := (chunks.filterMap (·.usage)).getLastD {} }

def functionCalls (index : Int) (responses : List GeminiChatResponse) : List FunctionCall :=
  ((responses.flatMap (·.candidates)).filter (·.index = index)).flatMap
    fun candidate => candidate.content.parts.filterMap (·.functionCall)

def Independent (unmarshal : String → Option Json) (estimatePromptTokens : Int)
    (chunks : List ChatCompletionsStreamResponse) : Prop :=
  ∀ head index,
    functionCalls index (chunks.filterMap (streamResponseOpenAI2Gemini unmarshal estimatePromptTokens)) =
    functionCalls index [responseOpenAI2Gemini unmarshal (assembled head chunks)]

/-! ## Calls and entries -/

section Calls
variable (unmarshal : String → Option Json) (estimatePromptTokens : Int)

theorem text_parts_calls (text : String) : (textParts text).filterMap (·.functionCall) = [] := by
  unfold textParts
  split <;> rfl

theorem call_parts_calls {α : Type} (name arguments : α → String) (items : List α) :
    (items.map fun item => callPart unmarshal (name item) (arguments item)).filterMap
      (·.functionCall) = items.map fun item => functionCall unmarshal (name item) (arguments item) := by
  rw [List.filterMap_map]
  exact congrFun List.filterMap_eq_map items

theorem stream_choice_calls (choice : StreamChoice) :
    (convertStreamChoice unmarshal choice).content.parts.filterMap (·.functionCall) =
      choice.entries.map fun entry =>
        functionCall unmarshal entry.2.function.name entry.2.function.arguments := by
  unfold convertStreamChoice StreamChoice.entries
  cases choice.delta.toolCalls with
  | none => exact text_parts_calls _
  | some toolCalls =>
    dsimp only
    rw [call_parts_calls]
    refine List.ext_getElem? fun place => ?_
    simp [Function.comp_def]

theorem choice_calls (choice : OpenAITextResponseChoice) :
    (convertChoice unmarshal choice).content.parts.filterMap (·.functionCall) =
      choice.message.toolCalls.map fun toolCall =>
        functionCall unmarshal toolCall.function.name toolCall.function.arguments := by
  unfold convertChoice
  by_cases none_ : choice.message.toolCalls = []
  · simp only [none_, ↓reduceIte, text_parts_calls, List.map_nil]
  · simp only [none_, ↓reduceIte, call_parts_calls]

theorem skipped_entries
    (skipped : streamResponseOpenAI2Gemini unmarshal estimatePromptTokens response = none)
    (member : choice ∈ response.choices) : choice.entries = [] := by
  unfold streamResponseOpenAI2Gemini at skipped
  split at skipped
  next empty =>
    simp only [Bool.and_eq_true, Bool.not_eq_true', List.any_eq_false] at empty
    have nothing := empty.1 choice member
    simp only [StreamChoice.hasContent, Bool.or_eq_true, decide_eq_true_eq, not_or, not_not] at nothing
    rw [StreamChoice.entries, nothing.2, List.mapIdx_nil]
  next => cases skipped

theorem function_calls_append (index : Int) (first second : List GeminiChatResponse) :
    functionCalls index (first ++ second) = functionCalls index first ++ functionCalls index second := by
  simp [functionCalls]

theorem chunk_calls (index : Int) (response : ChatCompletionsStreamResponse) :
    functionCalls index (streamResponseOpenAI2Gemini unmarshal estimatePromptTokens
        response).toList =
      (entriesOf index [response]).map fun entry =>
        functionCall unmarshal entry.2.function.name entry.2.function.arguments := by
  have choices : choicesOf index [response] = response.choices.filter (·.index = index) := by
    simp [choicesOf]
  rw [entriesOf, choices]
  cases sent : streamResponseOpenAI2Gemini unmarshal estimatePromptTokens response with
  | none =>
    have none_ : (response.choices.filter (·.index = index)).flatMap StreamChoice.entries = [] :=
      List.flatMap_eq_nil_iff.2 fun choice member =>
        skipped_entries unmarshal estimatePromptTokens sent (List.mem_filter.1 member).1
    rw [none_]
    rfl
  | some converted =>
    have candidates : converted.candidates = response.choices.map (convertStreamChoice unmarshal) := by
      unfold streamResponseOpenAI2Gemini at sent
      split at sent
      next => cases sent
      next =>
        obtain rfl := Option.some.inj sent
        rfl
    rw [functionCalls, Option.toList_some, List.flatMap_singleton, candidates, List.filter_map,
      List.flatMap_map, List.map_flatMap]
    simp only [stream_choice_calls]
    rfl

theorem stream_calls (index : Int) (chunks : List ChatCompletionsStreamResponse) :
    functionCalls index (chunks.filterMap (streamResponseOpenAI2Gemini unmarshal
        estimatePromptTokens)) =
      (entriesOf index chunks).map fun entry =>
        functionCall unmarshal entry.2.function.name entry.2.function.arguments := by
  induction chunks with
  | nil => rfl
  | cons response rest ih =>
    have sent : (response :: rest).filterMap (streamResponseOpenAI2Gemini unmarshal
        estimatePromptTokens) =
        (streamResponseOpenAI2Gemini unmarshal estimatePromptTokens response).toList ++
          rest.filterMap (streamResponseOpenAI2Gemini unmarshal estimatePromptTokens) := by
      rw [List.filterMap_cons]
      cases streamResponseOpenAI2Gemini unmarshal estimatePromptTokens response <;> rfl
    have entries : entriesOf index (response :: rest) =
        entriesOf index [response] ++ entriesOf index rest := by
      simp [entriesOf, choicesOf]
    rw [sent, function_calls_append, chunk_calls, ih, entries, List.map_append]

theorem assembled_calls (head : OpenAITextResponse) (index : Int)
    (chunks : List ChatCompletionsStreamResponse) :
    functionCalls index [responseOpenAI2Gemini unmarshal (assembled head chunks)] =
      (assembledCalls index chunks).map fun toolCall =>
        functionCall unmarshal toolCall.function.name toolCall.function.arguments := by
  rw [functionCalls, List.flatMap_singleton, responseOpenAI2Gemini, assembled]
  dsimp only
  rw [List.map_map, List.filter_map, List.flatMap_map]
  simp only [Function.comp_def, choice_calls]
  change ((((chunks.flatMap (·.choices)).map (·.index)).eraseDups.filter (· = index)).flatMap
    fun index => (assembledCalls index chunks).map _) = _
  by_cases seen : index ∈ (chunks.flatMap (·.choices)).map (·.index)
  · have alone : ((chunks.flatMap (·.choices)).map (·.index)).eraseDups.filter (· = index) =
        [index] := by
      have nodup := nodup_erase_dups ((chunks.flatMap (·.choices)).map (·.index))
      rw [← List.map_id (List.eraseDups _)] at nodup
      exact own_group nodup (List.mem_eraseDups.2 seen)
    rw [alone, List.flatMap_singleton]
  · have absent : ((chunks.flatMap (·.choices)).map (·.index)).eraseDups.filter (· = index) =
        [] := by
      refine List.filter_eq_nil_iff.2 fun other member same => seen ?_
      rw [← of_decide_eq_true same]
      exact List.mem_eraseDups.1 member
    have none_ : choicesOf index chunks = [] := by
      refine List.filter_eq_nil_iff.2 fun choice member same => seen ?_
      exact List.mem_map.2 ⟨choice, member, of_decide_eq_true same⟩
    rw [absent, assembledCalls, entriesOf, none_]
    rfl

theorem first_filled_singleton (text : String) : firstFilled [text] = text := by
  unfold firstFilled
  by_cases empty : text = ""
  · rw [empty]
    decide
  · simp [empty]

theorem joined_singleton (toolCall : ToolCallResponse) :
    joined [toolCall] = ⟨toolCall.id, "function", ⟨toolCall.function.name, "", none,
      toolCall.function.arguments⟩⟩ := by
  simp [joined, first_filled_singleton, String.join]

end Calls

/-- A stream is converted independently of its chunks exactly when no tool call of any
choice comes in more than one entry. -/
theorem independent_iff (unmarshal : String → Option Json) (estimatePromptTokens : Int)
    (chunks : List ChatCompletionsStreamResponse) :
    Independent unmarshal estimatePromptTokens chunks ↔
      ∀ index, ((entriesOf index chunks).map Prod.fst).Nodup := by
  constructor
  · intro independent index
    have same := congrArg List.length (independent ⟨"", "", 0, "", [], {}⟩ index)
    rw [stream_calls, assembled_calls, List.length_map, List.length_map, assembledCalls,
      List.length_map] at same
    exact groups_length_iff.1 same.symm
  · intro distinct head index
    rw [stream_calls, assembled_calls, assembledCalls, groups_of_nodup (distinct index),
      List.map_map, List.map_map]
    refine List.map_congr_left fun entry _ => ?_
    simp only [Function.comp_apply, List.map_singleton, joined_singleton]

/-! ## A call in two entries -/

def emptyObject : String := "\x7b\x7d"

def decodeEmpty (text : String) : Option Json :=
  if text = emptyObject then some (.object []) else none

def splitCall : List ChatCompletionsStreamResponse :=
  [⟨[⟨0, ⟨none, some [⟨some 0, "call_1", ⟨"weather", ""⟩⟩]⟩, none⟩], none⟩,
    ⟨[⟨0, ⟨none, some [⟨some 0, "", ⟨"", emptyObject⟩⟩]⟩, none⟩], none⟩]

def plainHead : OpenAITextResponse := ⟨"chatcmpl-1", "chat.completion", 0, "gpt-4o", [], {}⟩

/-- The stream has a second call, without a name. -/
theorem split_call_doubled :
    functionCalls 0 (splitCall.filterMap (streamResponseOpenAI2Gemini decodeEmpty 0)) =
        [⟨"weather", .object []⟩, ⟨"", .object []⟩] ∧
      functionCalls 0 [responseOpenAI2Gemini decodeEmpty (assembled plainHead splitCall)] =
        [⟨"weather", .object []⟩] ∧
      ¬ Independent decodeEmpty 0 splitCall := by
  refine ⟨rfl, rfl, fun independent => ?_⟩
  have same := congrArg List.length (independent plainHead 0)
  revert same
  decide

end NewApi.GeminiStream
