import NewApi.ClassedLists
import NewApi.GeminiStream
import NewApi.TreePruning

/-! Whole responses of one format as responses of another: a chat completion as a message
of Claude, and an answer of the Responses API as a chat completion. Both handle texts and
tool calls in branches that exclude each other, so what holds both keeps one of them. -/
namespace NewApi.WholeResponses
open NewApi.JsonTree NewApi.ClassedLists NewApi.GeminiStream
open NewApi.GoText (trimSpace)
open NewApi.TreePruning (decoded)
open NewApi.ClaudeStream (RelayInfo displayedResponseModelName stopReasonOpenAI2Claude)
open NewApi.GeminiToOpenAI (ToolCallRequest)

/-! ## A chat completion as a message of Claude -/

/-- `dto/claude.go::ClaudeMediaMessage`, the fields that the conversion sets. -/
structure ClaudeMediaMessage where
  type : String
  text : Option String := none
  id : String := ""
  name : String := ""
  input : Option Json := none

/-- `dto/claude.go::ClaudeResponse`, the fields that the conversion sets; of the usage the
tokens of the input and of the output. -/
structure ClaudeResponse where
  id : String
  type : String
  role : String
  model : String
  content : List ClaudeMediaMessage
  stopReason : String
  usage : Int × Int

/-- The JSON library. A text is the notation of a value, or not; a value is a tree whose
objects have no order and no two members of one name, and a number is one text for all of
its notations. Nothing is not a value, and null has one notation. A number is decoded to
a float64, if it is not too large. -/
structure Codec where
  value : String → Option Json
  float : String → Option String
  nothing : value "" = none
  null : ∀ text, value (trimSpace text) = some .null ↔ trimSpace text = "null"

section Claude
variable (codec : Codec)

def Codec.unmarshalMap (text : String) : Option Json :=
  match codec.value text with
  | some (.object members) => decoded codec.float (.object members)
  | some .null => some .null
  | _ => none

def toolUse (toolCall : ToolCallRequest) : ClaudeMediaMessage where
  type := "tool_use"
  id := toolCall.id
  name := toolCall.function.name
  input := some ((codec.unmarshalMap toolCall.function.arguments).getD
    (.string toolCall.function.arguments))

def convertChoice (choice : OpenAITextResponseChoice) : List ClaudeMediaMessage :=
  if choice.finishReason = "tool_calls" then choice.message.toolCalls.map (toolUse codec)
  else [{ type := "text", text := some choice.message.stringContent }]

/-- `service/convert.go::ResponseOpenAI2Claude`. -/
def responseOpenAI2Claude (info : RelayInfo) (response : OpenAITextResponse) : ClaudeResponse where
  id := response.id
  type := "message"
  role := "assistant"
  model := displayedResponseModelName info response.model
  content := response.choices.flatMap (convertChoice codec)
  stopReason := (response.choices.getLast?.map fun choice =>
    stopReasonOpenAI2Claude choice.finishReason).getD ""
  usage := (response.usage.promptTokens, response.usage.completionTokens)

end Claude

/-! ## An answer of the Responses API as a chat completion -/

/-- `dto/openai_response.go::ResponsesOutputContent`. -/
structure ResponsesOutputContent where
  type : String
  text : String

/-- `dto/openai_response.go::ResponsesOutput`, the fields that the conversion reads. -/
structure ResponsesOutput where
  type : String
  id : String
  role : String
  content : List ResponsesOutputContent
  callId : String
  name : String
  arguments : String

/-- `dto/openai_response.go::OpenAIResponsesResponse`, the fields that the conversion reads. -/
structure OpenAIResponsesResponse where
  createdAt : Int
  model : String
  output : List ResponsesOutput
  usage : Option Usage

/-- The texts of the first loop of `ExtractOutputTextFromResponses`. -/
def ResponsesOutput.outputText (out : ResponsesOutput) : String :=
  if out.type = "message" ∧ (out.role = "" ∨ out.role = "assistant") then
    String.join ((out.content.filter (·.type = "output_text")).map (·.text))
  else ""

/-- `service/openaicompat/responses_to_chat.go::ExtractOutputTextFromResponses`. -/
def extractOutputTextFromResponses (resp : OpenAIResponsesResponse) : String :=
  let preferred := String.join (resp.output.map (·.outputText))
  if preferred ≠ "" then preferred
  else String.join (resp.output.map fun out => String.join (out.content.map (·.text)))

/-- `common/json.go::JsonRawMessageToString`. -/
def jsonRawMessageToString (codec : Codec) (data : String) : String :=
  let trimmed := trimSpace data
  if trimmed = "" ∨ trimmed = "null" then ""
  else match codec.value trimmed with
    | some (.string text) => text
    | _ => trimmed

def convertUsage (reported : Option Usage) : Usage :=
  match reported with
  | none => {}
  | some reported => {
    promptTokens := reported.inputTokens
    inputTokens := reported.inputTokens
    completionTokens := reported.outputTokens
    outputTokens := reported.outputTokens
    totalTokens := if reported.totalTokens ≠ 0 then reported.totalTokens
      else reported.inputTokens + reported.outputTokens
    promptTokensDetails := reported.inputTokensDetails.getD {}
    reasoningTokens := reported.reasoningTokens }

section Chat
variable (codec : Codec)

def convertOutput (out : ResponsesOutput) : Option ToolCallRequest :=
  if out.type ≠ "function_call" then none
  else if trimSpace out.name = "" then none
  else some ⟨if trimSpace out.callId = "" then trimSpace out.id else trimSpace out.callId,
    "function", ⟨trimSpace out.name, "", none, jsonRawMessageToString codec out.arguments⟩⟩

def converted (resp : OpenAIResponsesResponse) : List ToolCallRequest :=
  if extractOutputTextFromResponses resp = "" then resp.output.filterMap (convertOutput codec)
  else []

/-- `service/openaicompat/responses_to_chat.go::ResponsesResponseToChatCompletionsResponse`. -/
def responsesResponseToChatCompletionsResponse (resp : Option OpenAIResponsesResponse)
    (id : String) : Except String (OpenAITextResponse × Usage) :=
  match resp with
  | none => .error "response is nil"
  | some resp =>
    let toolCalls := converted codec resp
    let usage := convertUsage resp.usage
    .ok ({
      id
      object := "chat.completion"
      created := resp.createdAt
      model := resp.model
      choices := [{
        index := 0
        message := ⟨"assistant",
          .string (if toolCalls = [] then extractOutputTextFromResponses resp else ""), toolCalls⟩
        finishReason := if toolCalls = [] then "stop" else "tool_calls" }]
      usage }, usage)

end Chat

/-! ## What should arrive -/

section Statement
variable (codec : Codec)

def Carries (arguments : String) (input : Option Json) : Prop :=
  (∃ value, codec.value arguments = some value ∧ input = some value) ∨ input = some (.string arguments)

def hasText (choice : OpenAITextResponseChoice) : Bool := choice.message.stringContent ≠ ""

def calls (response : OpenAITextResponse) : List (OpenAITextResponseChoice × ToolCallRequest) :=
  response.choices.flatMap fun choice => choice.message.toolCalls.map (choice, ·)

def ClaudeResponse.texts (response : ClaudeResponse) : List String :=
  response.content.filterMap fun block =>
    if block.type = "text" then block.text.filter (· ≠ "") else none

def ClaudeResponse.toolUses (response : ClaudeResponse) : List ClaudeMediaMessage :=
  response.content.filter (·.type = "tool_use")

def IsToolUse (toolCall : ToolCallRequest) (block : ClaudeMediaMessage) : Prop :=
  block.id = toolCall.id ∧ block.name = toolCall.function.name ∧
    Carries codec toolCall.function.arguments block.input

structure ClaudeKeeps (info : RelayInfo) (response : OpenAITextResponse) : Prop where
  texts : List.Forall₂ (fun choice text => choice.message.stringContent = text)
    (response.choices.filter hasText)
    (responseOpenAI2Claude codec info response).texts
  toolCalls : List.Forall₂ (fun item => IsToolUse codec item.2) (calls response)
    (responseOpenAI2Claude codec info response).toolUses
  stop : calls response ≠ [] → (responseOpenAI2Claude codec info response).stopReason = "tool_use"

def Exact (arguments : String) : Prop :=
  ∀ members, codec.value arguments = some (.object members) →
    ∀ map, decoded codec.float (.object members) = some map → map = .object members

/-- Each choice has a text or tool calls and says which, the last one says so when there
are any calls, and their numbers are exact. -/
structure OneKind (response : OpenAITextResponse) : Prop where
  silent : ∀ choice ∈ response.choices, choice.finishReason = "tool_calls" →
    choice.message.stringContent = ""
  said : ∀ choice ∈ response.choices, choice.message.toolCalls ≠ [] → choice.finishReason = "tool_calls"
  last : calls response ≠ [] → ∀ choice ∈ response.choices.getLast?,
    stopReasonOpenAI2Claude choice.finishReason = "tool_use"
  exact_ : ∀ choice ∈ response.choices, ∀ toolCall ∈ choice.message.toolCalls,
    Exact codec toolCall.function.arguments

def ResponsesOutput.isCall (out : ResponsesOutput) : Bool := out.type = "function_call"

def OpenAIResponsesResponse.outputText (resp : OpenAIResponsesResponse) : String :=
  String.join (resp.output.map (·.outputText))

def ResponsesOutput.toolCallId (out : ResponsesOutput) : String :=
  if trimSpace out.callId = "" then out.id else out.callId

/-- Arguments come as a string with their text in it, or as the value itself: then a text
says the same if it is a notation of that value. What is null or missing has no text. -/
def Says (raw arguments : String) : Prop :=
  match codec.value (trimSpace raw) with
  | some (.string text) => arguments = text
  | some .null => arguments = ""
  | some value => codec.value arguments = some value
  | none => arguments = trimSpace raw

def IsToolCall (out : ResponsesOutput) (toolCall : ToolCallRequest) : Prop :=
  toolCall.id = out.toolCallId ∧ toolCall.function.name = out.name ∧
    Says codec out.arguments toolCall.function.arguments

structure ChatKeeps (resp : OpenAIResponsesResponse) (converted : OpenAITextResponse) : Prop where
  text : resp.outputText ≠ "" →
    String.join (converted.choices.map (·.message.stringContent)) = resp.outputText
  toolCalls : List.Forall₂ (IsToolCall codec) (resp.output.filter ResponsesOutput.isCall)
    (converted.choices.flatMap (·.message.toolCalls))
  finish : resp.output.any ResponsesOutput.isCall = true →
    ∀ choice ∈ converted.choices, choice.finishReason = "tool_calls"

structure Apart (resp : OpenAIResponsesResponse) : Prop where
  wordless : resp.output.any ResponsesOutput.isCall = true →
    ∀ out ∈ resp.output, ∀ part ∈ out.content, part.text = ""
  trimmed : ∀ out ∈ resp.output, out.isCall = true →
    out.name ≠ "" ∧ trimSpace out.name = out.name ∧ trimSpace out.toolCallId = out.toolCallId

end Statement

/-! ## Claude -/

section Claude
variable (codec : Codec)

def said (item : OpenAITextResponseChoice × ToolCallRequest) : Option ClaudeMediaMessage :=
  if item.1.finishReason = "tool_calls" then some (toolUse codec item.2) else none

def spoken (choice : OpenAITextResponseChoice) : Option String :=
  if choice.finishReason ≠ "tool_calls" ∧ hasText choice = true
  then some choice.message.stringContent else none

theorem tool_uses_eq (info : RelayInfo) (response : OpenAITextResponse) :
    (responseOpenAI2Claude codec info response).toolUses = (calls response).filterMap (said codec) := by
  rw [ClaudeResponse.toolUses, responseOpenAI2Claude, calls, List.filter_flatMap, List.filterMap_flatMap]
  refine List.flatMap_congr fun choice _ => ?_
  rw [List.filterMap_map, convertChoice]
  by_cases tools : choice.finishReason = "tool_calls"
  · rw [if_pos tools, List.filter_eq_self.2]
    · exact (congrFun (List.filterMap_eq_map (f := toolUse codec)) _).symm.trans
        (List.filterMap_congr fun toolCall _ => by simp [said, tools])
    · intro block member
      obtain ⟨toolCall, -, rfl⟩ := List.mem_map.1 member
      rfl
  · rw [if_neg tools, List.filterMap_eq_nil_iff.2 fun toolCall _ => by simp [said, tools]]
    rfl

theorem texts_eq (info : RelayInfo) (response : OpenAITextResponse) :
    (responseOpenAI2Claude codec info response).texts = response.choices.filterMap spoken := by
  rw [ClaudeResponse.texts, responseOpenAI2Claude, List.filterMap_flatMap, List.filterMap_eq_flatMap_toList]
  refine List.flatMap_congr fun choice _ => ?_
  rw [convertChoice]
  by_cases tools : choice.finishReason = "tool_calls"
  · rw [if_pos tools, List.filterMap_eq_nil_iff.2]
    · simp [spoken, tools]
    · intro block member
      obtain ⟨toolCall, -, rfl⟩ := List.mem_map.1 member
      rfl
  · rw [if_neg tools]
    by_cases empty : choice.message.stringContent = ""
    · simp [spoken, hasText, tools, empty, Option.filter]
    · simp [spoken, hasText, tools, empty, Option.filter]

theorem texts_iff (info : RelayInfo) (response : OpenAITextResponse) :
    List.Forall₂ (fun choice text => choice.message.stringContent = text)
        (response.choices.filter hasText) (responseOpenAI2Claude codec info response).texts ↔
      ∀ choice ∈ response.choices, choice.finishReason = "tool_calls" →
        choice.message.stringContent = "" := by
  have only : ∀ choice, (spoken choice).isSome → hasText choice = true := by
    intro choice some_
    unfold spoken at some_
    split at some_
    next both => exact both.2
    next => cases some_
  rw [texts_eq, forall_counterparts_iff only]
  refine forall₂_congr fun choice _ => ?_
  by_cases tools : choice.finishReason = "tool_calls"
  · simp [spoken, tools, hasText]
  · simp [spoken, tools]

theorem carries_iff (toolCall : ToolCallRequest) :
    Carries codec toolCall.function.arguments (toolUse codec toolCall).input ↔
      Exact codec toolCall.function.arguments := by
  unfold Carries Exact toolUse Codec.unmarshalMap
  generalize toolCall.function.arguments = arguments
  dsimp only
  cases held : codec.value arguments with
  | none => simp
  | some value =>
    cases value with
    | object members =>
      cases read : decoded codec.float (.object members) with
      | none => simp [read]
      | some map =>
        have notText : map ≠ .string arguments := by
          rintro rfl
          obtain ⟨inner, -, same⟩ := Option.map_eq_some_iff.1 read
          cases same
        simp [read, notText]
    | null => simp
    | _ => simp

theorem tool_uses_iff (info : RelayInfo) (response : OpenAITextResponse) :
    List.Forall₂ (fun item => IsToolUse codec item.2) (calls response)
        (responseOpenAI2Claude codec info response).toolUses ↔
      ∀ item ∈ calls response, item.1.finishReason = "tool_calls" ∧
        Exact codec item.2.function.arguments := by
  have each := @forall_counterparts_iff _ _ (fun _ => true) (said codec)
    (fun item => IsToolUse codec item.2) (fun _ _ => rfl) (calls response)
  rw [List.filter_eq_self.2 fun _ _ => rfl] at each
  rw [tool_uses_eq, each]
  refine forall₂_congr fun item _ => ?_
  rw [← carries_iff]
  by_cases tools : item.1.finishReason = "tool_calls"
  · simp [said, tools, IsToolUse, toolUse]
  · simp [said, tools]

theorem mem_calls
    {toolCall : ToolCallRequest} : (choice, toolCall) ∈ calls response ↔
      choice ∈ response.choices ∧ toolCall ∈ choice.message.toolCalls := by
  simp [calls]

theorem claude_keeps_iff (info : RelayInfo) (response : OpenAITextResponse) :
    ClaudeKeeps codec info response ↔ OneKind codec response := by
  have stop : (calls response ≠ [] →
        (responseOpenAI2Claude codec info response).stopReason = "tool_use") ↔
      (calls response ≠ [] → ∀ choice ∈ response.choices.getLast?,
        stopReasonOpenAI2Claude choice.finishReason = "tool_use") := by
    refine forall_congr' fun some_ => ?_
    rw [responseOpenAI2Claude]
    cases last : response.choices.getLast? with
    | none =>
      rw [List.getLast?_eq_none_iff] at last
      exact absurd (by rw [calls, last]; rfl) some_
    | some choice => simp
  constructor
  · rintro ⟨texts, toolCalls, stops⟩
    have each := (tool_uses_iff codec info response).1 toolCalls
    refine ⟨(texts_iff codec info response).1 texts, fun choice member filled => ?_, stop.1 stops,
      fun choice member toolCall inside => (each (choice, toolCall) (mem_calls.2 ⟨member, inside⟩)).2⟩
    obtain ⟨toolCall, inside⟩ := List.exists_mem_of_ne_nil _ filled
    exact (each (choice, toolCall) (mem_calls.2 ⟨member, inside⟩)).1
  · rintro ⟨silent, said, last, exact_⟩
    refine ⟨(texts_iff codec info response).2 silent, (tool_uses_iff codec info response).2 ?_, stop.2 last⟩
    rintro ⟨choice, toolCall⟩ member
    obtain ⟨listed, inside⟩ := mem_calls.1 member
    exact ⟨said choice listed (List.ne_nil_of_mem inside), exact_ choice listed toolCall inside⟩

end Claude

/-! ## The Responses API -/

section Chat
variable (codec : Codec)

theorem join_empty_iff (texts : List String) : String.join texts = "" ↔ ∀ text ∈ texts, text = "" := by
  rw [← String.toList_inj, String.toList_join, String.toList_empty, List.flatMap_eq_nil_iff]
  simp only [String.toList_eq_nil_iff]

theorem extract_empty_iff (resp : OpenAIResponsesResponse) :
    extractOutputTextFromResponses resp = "" ↔
      ∀ out ∈ resp.output, ∀ part ∈ out.content, part.text = "" := by
  have whole : String.join (resp.output.map fun out => String.join (out.content.map (·.text))) =
      "" ↔ ∀ out ∈ resp.output, ∀ part ∈ out.content, part.text = "" := by
    simp only [join_empty_iff, List.forall_mem_map]
  unfold extractOutputTextFromResponses
  by_cases preferred : String.join (resp.output.map (·.outputText)) = ""
  · rw [if_neg (not_not.2 preferred)]
    exact whole
  · rw [if_pos preferred]
    refine iff_of_false preferred fun silent => preferred ?_
    simp only [join_empty_iff, List.forall_mem_map]
    intro out member
    unfold ResponsesOutput.outputText
    split
    · refine (join_empty_iff _).2 (List.forall_mem_map.2 fun part inside => ?_)
      exact silent out member part (List.mem_filter.1 inside).1
    · rfl

theorem extract_output (filled : resp.outputText ≠ "") :
    extractOutputTextFromResponses resp = resp.outputText :=
  if_pos filled

theorem convert_output_only (out : ResponsesOutput) (some_ : (convertOutput codec out).isSome) :
    out.isCall = true := by
  unfold convertOutput at some_
  split at some_
  next => cases some_
  next call => exact decide_eq_true (not_not.1 call)

theorem raw_said (raw : String) : Says codec raw (jsonRawMessageToString codec raw) := by
  have null := codec.null raw
  unfold Says jsonRawMessageToString
  dsimp only
  generalize trimSpace raw = trimmed at null ⊢
  by_cases missing : trimmed = "" ∨ trimmed = "null"
  · rw [if_pos missing]
    rcases missing with rfl | rfl
    · rw [codec.nothing]
    · rw [null.mpr rfl]
  · rw [if_neg missing]
    cases held : codec.value trimmed with
    | none => rfl
    | some value =>
      cases value with
      | null => exact absurd (.inr (null.mp held)) missing
      | string text => rfl
      | _ => exact held

theorem convert_output_iff (call : out.isCall = true) :
    (∃ toolCall, convertOutput codec out = some toolCall ∧ IsToolCall codec out toolCall) ↔
      out.name ≠ "" ∧ trimSpace out.name = out.name ∧ trimSpace out.toolCallId = out.toolCallId := by
  have id : (if trimSpace out.callId = "" then trimSpace out.id else trimSpace out.callId) =
      trimSpace out.toolCallId := by
    unfold ResponsesOutput.toolCallId
    split <;> rfl
  rw [convertOutput, if_neg (not_not.2 (of_decide_eq_true call)), id]
  by_cases blank : trimSpace out.name = ""
  · rw [if_pos blank]
    refine iff_of_false (fun ⟨_, none_, _⟩ => by cases none_) fun ⟨filled, same, _⟩ => ?_
    exact filled (same ▸ blank)
  · rw [if_neg blank]
    have filled : trimSpace out.name = out.name → out.name ≠ "" := fun same empty =>
      blank (same.trans empty)
    simp only [Option.some.injEq, exists_eq_left', IsToolCall]
    constructor
    · rintro ⟨same, name, -⟩
      exact ⟨filled name, name, same⟩
    · rintro ⟨-, name, same⟩
      exact ⟨same, name, raw_said codec _⟩

theorem chat_keeps_told (resp : OpenAIResponsesResponse) (id : String) :
    (∃ result, responsesResponseToChatCompletionsResponse codec (some resp) id = .ok result ∧
        ChatKeeps codec resp result.1) ↔
      (resp.outputText ≠ "" → converted codec resp = []) ∧
      List.Forall₂ (IsToolCall codec) (resp.output.filter ResponsesOutput.isCall) (converted codec resp) ∧
      (resp.output.any ResponsesOutput.isCall = true → converted codec resp ≠ []) := by
  have content : ∀ text, String.join
      [Message.stringContent ⟨"assistant", .string text, converted codec resp⟩] = text := by
    intro text
    simp [String.join, Message.stringContent]
  have own : ∀ choice : OpenAITextResponseChoice,
      [choice].flatMap (·.message.toolCalls) = choice.message.toolCalls :=
    fun choice => List.append_nil _
  constructor
  · rintro ⟨result, done, text, toolCalls, finish⟩
    obtain rfl := Except.ok.inj done
    dsimp only at text toolCalls finish
    rw [own] at toolCalls
    refine ⟨fun filled => ?_, toolCalls, fun some_ none_ => ?_⟩
    · have said := text filled
      rw [List.map_singleton, content] at said
      by_contra called
      rw [if_neg called] at said
      exact filled said.symm
    · have told : (if converted codec resp = [] then "stop" else "tool_calls") = "tool_calls" :=
        finish some_ _ (List.mem_singleton_self _)
      rw [if_pos none_] at told
      exact absurd told (by decide)
  · rintro ⟨text, toolCalls, finish⟩
    refine ⟨_, rfl, fun filled => ?_, ?_, fun some_ choice member => ?_⟩
    · dsimp only
      rw [List.map_singleton, content, if_pos (text filled), extract_output filled]
    · dsimp only
      rw [own]
      exact toolCalls
    · obtain rfl := List.mem_singleton.1 member
      exact if_neg (finish some_)

theorem chat_keeps_iff (resp : OpenAIResponsesResponse) (id : String) :
    (∃ result, responsesResponseToChatCompletionsResponse codec (some resp) id = .ok result ∧
      ChatKeeps codec resp result.1) ↔ Apart resp := by
  have each : List.Forall₂ (IsToolCall codec) (resp.output.filter ResponsesOutput.isCall)
        (resp.output.filterMap (convertOutput codec)) ↔
      ∀ out ∈ resp.output, out.isCall = true → out.name ≠ "" ∧
        trimSpace out.name = out.name ∧ trimSpace out.toolCallId = out.toolCallId := by
    rw [forall_counterparts_iff (convert_output_only codec)]
    exact forall₃_congr fun out _ call => convert_output_iff codec call
  rw [chat_keeps_told]
  constructor
  · rintro ⟨-, toolCalls, finish⟩
    have silent : resp.output.any ResponsesOutput.isCall = true →
        extractOutputTextFromResponses resp = "" := by
      intro some_
      by_contra filled
      exact finish some_ (if_neg filled)
    refine ⟨fun some_ => (extract_empty_iff resp).1 (silent some_), fun out member call => ?_⟩
    rw [converted, if_pos (silent (List.any_eq_true.2 ⟨out, member, call⟩))] at toolCalls
    exact each.1 toolCalls out member call
  · rintro ⟨wordless, trimmed⟩
    by_cases silent : extractOutputTextFromResponses resp = ""
    · have toolCalls := each.2 trimmed
      rw [converted, if_pos silent]
      refine ⟨fun filled => absurd ((extract_output filled).symm.trans silent) filled, toolCalls,
        fun some_ none_ => ?_⟩
      rw [none_, List.forall₂_nil_right_iff, List.filter_eq_nil_iff] at toolCalls
      obtain ⟨out, member, call⟩ := List.any_eq_true.1 some_
      exact toolCalls out member call
    · have none_ : ¬ resp.output.any ResponsesOutput.isCall = true := fun some_ =>
        silent ((extract_empty_iff resp).2 (wordless some_))
      rw [converted, if_neg silent]
      refine ⟨fun _ => rfl, ?_, fun some_ => absurd some_ none_⟩
      rw [List.forall₂_nil_right_iff, List.filter_eq_nil_iff]
      exact fun out member call => none_ (List.any_eq_true.2 ⟨out, member, call⟩)

end Chat

/-- Chat completions lose nothing on the way to Claude exactly when each of their choices is
of one kind, and answers lose nothing on the way to a chat completion exactly when they have
no text beside their calls. -/
theorem conversions_keep_iff (codec : Codec) :
    (∀ info response, ClaudeKeeps codec info response ↔ OneKind codec response) ∧
      ∀ resp id, (∃ result,
        responsesResponseToChatCompletionsResponse codec (some resp) id = .ok result ∧
          ChatKeeps codec resp result.1) ↔ Apart resp :=
  ⟨claude_keeps_iff codec, chat_keeps_iff codec⟩

/-! ## A text and a call -/

def plainCodec : Codec where
  value text := if text = "null" then some .null else none
  float := some
  nothing := rfl
  null text := by simp

def toldCall : OpenAITextResponse where
  id := "chatcmpl-1"
  object := "chat.completion"
  created := 0
  model := "gpt-4o"
  choices := [⟨0, ⟨"assistant", .string "Let me look.",
    [⟨"call_1", "function", ⟨"weather", "", none, ""⟩⟩]⟩, "tool_calls"⟩]
  usage := {}

def toldAnswer : OpenAIResponsesResponse where
  createdAt := 0
  model := "gpt-4o"
  output := [⟨"message", "msg_1", "assistant", [⟨"output_text", "Let me look."⟩], "", "", ""⟩,
    ⟨"function_call", "fc_1", "", [], "call_1", "weather", ""⟩]
  usage := none

def plainInfo : RelayInfo := ⟨"", false, 0, 0, ⟨.none, 0, none, "", false, 0, 0⟩⟩

/-- To Claude the text is lost, and to a chat completion the call. -/
theorem text_or_call_lost :
    (responseOpenAI2Claude plainCodec plainInfo toldCall).texts = [] ∧
      ¬ ClaudeKeeps plainCodec plainInfo toldCall ∧
      converted plainCodec toldAnswer = [] ∧
      ¬ ∃ result, responsesResponseToChatCompletionsResponse plainCodec (some toldAnswer) "1" =
          .ok result ∧ ChatKeeps plainCodec toldAnswer result.1 := by
  refine ⟨by decide, fun keeps => ?_, by decide, fun keeps => ?_⟩
  · have silent := ((claude_keeps_iff plainCodec plainInfo toldCall).1 keeps).silent _
      (List.mem_singleton_self _) rfl
    exact absurd silent (by decide)
  · have silent := ((chat_keeps_iff plainCodec toldAnswer "1").1 keeps).wordless (by decide) _
      (List.mem_cons_self) _ (List.mem_singleton_self _)
    exact absurd silent (by decide)

end NewApi.WholeResponses
