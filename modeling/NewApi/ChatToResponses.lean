import NewApi.ClassedLists
import NewApi.GoText
import NewApi.JsonTree

/-! A chat request as a request of the Responses API. There a tool call and its output are
items of one list, which belong together by an id. Calls and outputs are made by different
branches: a call keeps its id as it came and is passed over without a name, and the id of an
output is trimmed. -/
namespace NewApi.ChatToResponses
open NewApi.ClassedLists
open NewApi.JsonTree
open NewApi.GoText (trimSpace)

/-! ## The model -/

abbrev Members := List (String × Json)

/-- `dto/openai_request.go::MediaContent`; a value that is not set is null. -/
structure MediaContent where
  type : String
  text : String
  imageUrl : Json
  inputAudio : Json
  file : Json
  videoUrl : Json

/-- `dto/openai_request.go::FunctionRequest`. -/
structure FunctionRequest where
  description : String
  name : String
  parameters : Json
  arguments : String

/-- `dto/openai_request.go::ToolCallRequest`. -/
structure ToolCallRequest where
  id : String
  type : String
  function : FunctionRequest
  custom : String

/-- Content that is a string, or another value with what `ParseContent` makes of it. -/
inductive MessageContent where
  | string (text : String)
  | other (value : Json) (parts : List MediaContent)

/-- `dto/openai_request.go::Message`, what the conversion reads of it; the tool calls are
those that `ParseToolCalls` finds. -/
structure Message where
  role : String
  content : Option MessageContent
  toolCalls : List ToolCallRequest
  toolCallId : String

/-- `dto/openai_request.go::ResponseFormat`. -/
structure ResponseFormat where
  type : String
  jsonSchema : String

/-- `dto/openai_request.go::GeneralOpenAIRequest`, the fields that the conversion reads. -/
structure GeneralOpenAIRequest where
  model : String
  messages : List Message
  n : Option Int
  stream : Option Bool
  temperature : Option Rat
  topP : Option Rat
  maxTokens : Option Nat
  maxCompletionTokens : Option Nat
  reasoningEffort : String
  responseFormat : Option ResponseFormat
  tools : Option (List ToolCallRequest)
  toolChoice : Option Json
  parallelTooCalls : Option Bool
  user : String
  store : String
  metadata : String

/-- The items of the input. -/
inductive InputItem where
  | message (role : String) (content : Json)
  | functionCallOutput (callId output : String)
  | functionCall (callId name arguments : String)

/-- `dto/openai_request.go::Reasoning`. -/
structure Reasoning where
  effort : String
  summary : String

/-- `dto/openai_request.go::OpenAIResponsesRequest`, the fields that the conversion sets. -/
structure OpenAIResponsesRequest where
  model : String
  input : List InputItem
  instructions : Option String
  stream : Option Bool
  temperature : Option Rat
  text : Option Json
  toolChoice : Option Json
  tools : Option (List Json)
  topP : Option Rat
  user : String
  parallelToolCalls : Option Bool
  store : String
  metadata : String
  maxOutputTokens : Option Nat
  reasoning : Option Reasoning

/-- What is not of the repository: how a value is written as JSON, if it can be, and by
`%v`, and a number in digits; the value that a text is the notation of; and the members that
a tool has when it is written and read again. -/
structure Codec where
  marshal : Json → Option String
  printed : Json → String
  formatFloat : String → String
  value : String → Option Json
  toolMembers : ToolCallRequest → Members

/-- `m[name] = value`. -/
def setMember (members : Members) (name : String) (value : Json) : Members :=
  members.filter (·.1 ≠ name) ++ [(name, value)]

section Conversion
variable (codec : Codec)

/-- `common/utils.go::Interface2String`. -/
def interface2String : Json → String
  | .null => ""
  | .string text => text
  | .number text => codec.formatFloat text
  | .bool value => if value then "true" else "false"
  | other => codec.printed other

/-- `service/openaicompat/chat_to_responses.go::normalizeChatImageURLToString`. -/
def normalizeChatImageURLToString (value : Json) : Json :=
  match value with
  | .object members =>
    let url := interface2String codec ((members.lookup "url").getD .null)
    if url ≠ "" then .string url else value
  | _ => value

def mergeSchema (format chatSchema : Members) : Members :=
  let merged := (chatSchema.filter (·.1 ≠ "type")).foldl (fun format entry =>
    setMember format entry.1 entry.2) format
  match merged.lookup "json_schema" with
  | some (.object nested) =>
    (nested.foldl (fun format entry =>
      if (format.lookup entry.1).isSome then format else setMember format entry.1 entry.2)
      merged).filter (·.1 ≠ "json_schema")
  | _ => merged

/-- `service/openaicompat/chat_to_responses.go::convertChatResponseFormatToResponsesText`. -/
def convertChatResponseFormatToResponsesText (reqFormat : Option ResponseFormat) : Option Json :=
  match reqFormat with
  | none => none
  | some reqFormat =>
    if trimSpace reqFormat.type = "" then none
    else
      let format : Members := [("type", .string reqFormat.type)]
      let wrapped := fun format : Members => Json.object [("format", .object format)]
      if reqFormat.type = "json_schema" ∧ reqFormat.jsonSchema ≠ "" then
        match codec.value reqFormat.jsonSchema with
        | some (.object chatSchema) => some (wrapped (mergeSchema format chatSchema))
        | some .null => some (wrapped format)
        | some other => some (wrapped (setMember format "json_schema" other))
        | none => none
      else some (wrapped format)

def toolOutput (content : Option MessageContent) : String :=
  match content with
  | none => ""
  | some (.string text) => text
  | some (.other value _) => (codec.marshal value).getD (codec.printed value)

def toolItem (msg : Message) : InputItem :=
  let callId := trimSpace msg.toolCallId
  let output := toolOutput codec msg.content
  if callId = "" then .message "user" (.string ("[tool_output_missing_call_id] " ++ output))
  else .functionCallOutput callId output

def contentPart (role : String) (part : MediaContent) : Json :=
  if part.type = "text" then
    .object [("type", .string (if role = "assistant" then "output_text" else "input_text")),
      ("text", .string part.text)]
  else if part.type = "image_url" then .object [("type", .string "input_image"),
    ("image_url", normalizeChatImageURLToString codec part.imageUrl)]
  else if part.type = "input_audio" then
    .object [("type", .string "input_audio"), ("input_audio", part.inputAudio)]
  else if part.type = "file" then .object [("type", .string "input_file"), ("file", part.file)]
  else if part.type = "video_url" then
    .object [("type", .string "input_video"), ("video_url", part.videoUrl)]
  else .object [("type", .string part.type)]

def itemContent (role : String) (content : Option MessageContent) : Json :=
  match content with
  | none => .string ""
  | some (.string text) => .string text
  | some (.other _ parts) => .array (parts.map (contentPart codec role))

def ToolCallRequest.isWhole (call : ToolCallRequest) : Bool :=
  trimSpace call.id ≠ "" && (call.type = "" || call.type = "function") && trimSpace call.function.name ≠ ""

def convertCall (call : ToolCallRequest) : Option InputItem :=
  if call.isWhole then
    some (.functionCall call.id (trimSpace call.function.name) call.function.arguments)
  else none

def convertMessage (msg : Message) : List InputItem :=
  let role := trimSpace msg.role
  if role = "" then []
  else if role = "tool" ∨ role = "function" then [toolItem codec msg]
  else if role = "system" ∨ role = "developer" then []
  else .message role (itemContent codec role msg.content) ::
    if role = "assistant" then msg.toolCalls.filterMap convertCall else []

def partsText (parts : List MediaContent) : String :=
  "\n".intercalate ((parts.filter fun part => part.type = "text" && trimSpace part.text ≠ "").map (·.text))

def instruction (msg : Message) : Option String :=
  let role := trimSpace msg.role
  if role = "system" ∨ role = "developer" then
    let text := match msg.content with
      | none => ""
      | some (.string text) => trimSpace text
      | some (.other _ parts) => trimSpace (partsText parts)
    if text ≠ "" then some text else none
  else none

def convertInstructions (messages : List Message) : Option String :=
  let parts := messages.filterMap instruction
  if parts = [] then none else some ("\n\n".intercalate parts)

def convertTool (tool : ToolCallRequest) : Json :=
  if tool.type = "function" then .object [("type", .string "function"),
    ("name", .string tool.function.name), ("description", .string tool.function.description),
    ("parameters", tool.function.parameters)]
  else
    let members := codec.toolMembers tool
    .object (if members = [] then [("type", .string tool.type)] else members)

def filledName (members : Members) : Option String :=
  match members.lookup "name" with
  | some (.string name) => if name ≠ "" then some name else none
  | _ => none

def namedChoice (name : String) : Json :=
  .object [("type", .string "function"), ("name", .string name)]

def convertToolChoice (value : Json) : Json :=
  match value with
  | .object members =>
    match members.lookup "type" with
    | some (.string type) =>
      if type = "function" then
        match filledName members, members.lookup "function" with
        | some name, _ => namedChoice name
        | none, some (.object function) => ((filledName function).map namedChoice).getD value
        | none, _ => value
      else value
    | _ => value
  | _ => value

def convertMaxTokens (req : GeneralOpenAIRequest) : Option Nat :=
  if req.maxTokens.isSome || req.maxCompletionTokens.isSome then
    some (max (req.maxTokens.getD 0) (req.maxCompletionTokens.getD 0))
  else none

/-- `service/openaicompat/chat_to_responses.go::ChatCompletionsRequestToResponsesRequest`. -/
def chatCompletionsRequestToResponsesRequest (req : Option GeneralOpenAIRequest) :
    Except String OpenAIResponsesRequest :=
  match req with
  | none => .error "request is nil"
  | some req =>
    if req.model = "" then .error "model is required"
    else if req.n.getD 1 > 1 then
      .error "n>1 is not supported in responses compatibility mode"
    else .ok {
      model := req.model
      input := req.messages.flatMap (convertMessage codec)
      instructions := convertInstructions req.messages
      stream := req.stream
      temperature := req.temperature
      text := convertChatResponseFormatToResponsesText codec req.responseFormat
      toolChoice := req.toolChoice.map convertToolChoice
      tools := req.tools.map fun tools => tools.map (convertTool codec)
      topP := req.topP
      user := req.user
      parallelToolCalls := req.parallelTooCalls
      store := req.store
      metadata := req.metadata
      maxOutputTokens := convertMaxTokens req
      reasoning := if req.reasoningEffort ≠ "" then some ⟨req.reasoningEffort, "detailed"⟩ else none }

end Conversion

/-! ## Calls and outputs -/

def InputItem.isCallOf (id : String) : InputItem → Bool
  | .functionCall callId _ _ => callId = id
  | _ => false

def calls (messages : List Message) : List ToolCallRequest :=
  (messages.filter fun msg => trimSpace msg.role = "assistant").flatMap (·.toolCalls)

def Message.isOutput (msg : Message) : Bool :=
  trimSpace msg.role = "tool" || trimSpace msg.role = "function"

def Answers (messages : List Message) : Prop :=
  ∀ earlier msg later, messages = earlier ++ msg :: later → msg.isOutput = true →
    ∃ call ∈ calls earlier, call.id = msg.toolCallId

def KeepsOutput (codec : Codec) (msg : Message) : Prop :=
  ∃ callId output, convertMessage codec msg = [.functionCallOutput callId output]

/-- Exactly one call with the id of an output comes before it, and a call is kept when an
output for its id is, and only then. -/
structure KeepsPairs (codec : Codec) (messages : List Message) (input : List InputItem) :
    Prop where
  paired : ∀ before callId output after,
    input = before ++ .functionCallOutput callId output :: after →
      before.countP (InputItem.isCallOf callId) = 1
  together : ∀ earlier msg later, messages = earlier ++ msg :: later → msg.isOutput = true →
    ∀ call ∈ calls earlier, call.id = msg.toolCallId → ((convertCall call).isSome ↔ KeepsOutput codec msg)

def Matched (messages : List Message) : Prop :=
  ∀ earlier msg later, messages = earlier ++ msg :: later → msg.isOutput = true →
    trimSpace msg.toolCallId ≠ "" →
      (∀ call ∈ calls earlier, call.id = msg.toolCallId → call.isWhole = true) ∧
      (calls earlier).countP (fun call =>
        call.isWhole && call.id = trimSpace msg.toolCallId) = 1

section Pairs
variable (codec : Codec)

theorem convert_output (output : msg.isOutput = true) :
    convertMessage codec msg = [toolItem codec msg] := by
  rw [Message.isOutput, Bool.or_eq_true, decide_eq_true_eq, decide_eq_true_eq] at output
  have some_ : trimSpace msg.role ≠ "" := by
    intro empty
    rw [empty] at output
    exact absurd output (by decide)
  rw [convertMessage, if_neg some_, if_pos output]

theorem convert_call_item
    (converted : convertCall call = some item) : call.isWhole = true ∧
      item = .functionCall call.id (trimSpace call.function.name) call.function.arguments := by
  unfold convertCall at converted
  split at converted
  next whole => exact ⟨whole, (Option.some.inj converted).symm⟩
  next => cases converted

theorem output_alone
    (member : .functionCallOutput callId output ∈ convertMessage codec msg) :
    msg.isOutput = true ∧ callId = trimSpace msg.toolCallId ∧ callId ≠ "" ∧
      convertMessage codec msg = [.functionCallOutput callId output] := by
  by_cases tool : msg.isOutput = true
  · rw [convert_output codec tool] at member ⊢
    have own := List.mem_singleton.1 member
    unfold toolItem at own
    dsimp only at own
    split at own
    next => cases own
    next filled =>
      obtain ⟨rfl, rfl⟩ := InputItem.functionCallOutput.inj own
      exact ⟨tool, rfl, filled, by rw [toolItem, if_neg filled]⟩
  · exfalso
    rw [Message.isOutput, Bool.or_eq_true, decide_eq_true_eq, decide_eq_true_eq] at tool
    unfold convertMessage at member
    dsimp only at member
    rw [if_neg tool] at member
    split at member
    · cases member
    · split at member
      · cases member
      · rcases List.mem_cons.1 member with own | call
        · cases own
        · split at call
          · obtain ⟨request, -, converted⟩ := List.mem_filterMap.1 call
            cases (convert_call_item converted).2
          · cases call

theorem keeps_output_iff (output : msg.isOutput = true) :
    KeepsOutput codec msg ↔ trimSpace msg.toolCallId ≠ "" := by
  constructor
  · rintro ⟨callId, said, kept⟩
    obtain ⟨-, rfl, filled, -⟩ := output_alone codec (kept ▸ List.mem_singleton_self _)
    exact filled
  · intro filled
    refine ⟨trimSpace msg.toolCallId, toolOutput codec msg.content, ?_⟩
    rw [convert_output codec output, toolItem, if_neg filled]

theorem count_converted (toolCalls : List ToolCallRequest) (id : String) :
    (toolCalls.filterMap convertCall).countP (InputItem.isCallOf id) =
      toolCalls.countP fun call => call.isWhole && call.id = id := by
  rw [List.countP_filterMap]
  refine List.countP_congr fun call _ => ?_
  unfold convertCall
  by_cases whole : call.isWhole = true
  · simp [whole, InputItem.isCallOf]
  · simp [whole]

theorem count_message (msg : Message) (id : String) :
    (convertMessage codec msg).countP (InputItem.isCallOf id) =
      (calls [msg]).countP fun call => call.isWhole && call.id = id := by
  by_cases assistant : trimSpace msg.role = "assistant"
  · have own : calls [msg] = msg.toolCalls := by simp [calls, assistant]
    rw [own, ← count_converted]
    simp [convertMessage, assistant, InputItem.isCallOf]
  · have none_ : calls [msg] = [] := by simp [calls, assistant]
    rw [none_, List.countP_nil, List.countP_eq_zero]
    intro item member call
    unfold convertMessage at member
    simp only [assistant, if_false] at member
    split at member
    · cases member
    · split at member
      · obtain rfl := List.mem_singleton.1 member
        unfold toolItem at call
        dsimp only at call
        split at call <;> cases call
      · split at member
        · cases member
        · obtain rfl := List.mem_singleton.1 member
          cases call

theorem count_calls (messages : List Message) (id : String) :
    (messages.flatMap (convertMessage codec)).countP (InputItem.isCallOf id) =
      (calls messages).countP fun call => call.isWhole && call.id = id := by
  induction messages with
  | nil => rfl
  | cons msg rest ih =>
    have split_ : calls (msg :: rest) = calls [msg] ++ calls rest := by
      rw [calls, ← List.singleton_append, List.filter_append, List.flatMap_append]
      rfl
    rw [List.flatMap_cons, List.countP_append, ih, count_message, split_, List.countP_append]

theorem paired_iff (messages : List Message) :
    (∀ before callId output after, messages.flatMap (convertMessage codec) =
        before ++ .functionCallOutput callId output :: after →
        before.countP (InputItem.isCallOf callId) = 1) ↔
      ∀ earlier msg later, messages = earlier ++ msg :: later → msg.isOutput = true →
        trimSpace msg.toolCallId ≠ "" → (calls earlier).countP (fun call =>
          call.isWhole && call.id = trimSpace msg.toolCallId) = 1 := by
  constructor
  · rintro paired earlier msg later rfl output filled
    obtain ⟨callId, said, kept⟩ := (keeps_output_iff codec output).2 filled
    obtain ⟨-, rfl, -, -⟩ := output_alone codec (kept ▸ List.mem_singleton_self _)
    rw [← count_calls codec]
    refine paired _ _ said (later.flatMap (convertMessage codec)) ?_
    rw [List.flatMap_append, List.flatMap_cons, kept, List.singleton_append]
  · intro matched before callId output after whole
    obtain ⟨earlier, msg, later, first, last, rfl, held, rfl⟩ := flat_map_split whole
    have member : .functionCallOutput callId output ∈ convertMessage codec msg := by
      rw [held]
      exact List.mem_append_right _ (.head _)
    obtain ⟨tool, rfl, filled, alone⟩ := output_alone codec member
    have front : first = [] := by
      rw [alone] at held
      cases first with
      | nil => rfl
      | cons item rest => simp at held
    rw [front, List.append_nil, count_calls]
    exact matched earlier msg later rfl tool filled

theorem together_iff (messages : List Message) :
    (∀ earlier msg later, messages = earlier ++ msg :: later → msg.isOutput = true →
        ∀ call ∈ calls earlier, call.id = msg.toolCallId →
          ((convertCall call).isSome ↔ KeepsOutput codec msg)) ↔
      ∀ earlier msg later, messages = earlier ++ msg :: later → msg.isOutput = true →
        trimSpace msg.toolCallId ≠ "" →
          ∀ call ∈ calls earlier, call.id = msg.toolCallId → call.isWhole = true := by
  have kept : ∀ call : ToolCallRequest, (convertCall call).isSome ↔ call.isWhole = true := by
    intro call
    unfold convertCall
    split <;> simp_all
  have blank : ∀ (call : ToolCallRequest), trimSpace call.id = "" → call.isWhole = false := by
    intro call empty
    simp [ToolCallRequest.isWhole, empty]
  refine forall₃_congr fun earlier msg later => forall₂_congr fun _ output => ?_
  simp only [kept, keeps_output_iff codec output]
  constructor
  · intro together filled call member same
    exact (together call member same).2 filled
  · intro whole call member same
    refine ⟨fun isWhole empty => ?_, fun filled => whole filled call member same⟩
    rw [blank call (same ▸ empty)] at isWhole
    cases isWhole

end Pairs

/-- A request that is converted keeps its calls and their outputs together exactly when all
of its outputs are matched. -/
theorem keeps_pairs_iff {codec : Codec} {req : GeneralOpenAIRequest} {converted : OpenAIResponsesRequest}
    (done : chatCompletionsRequestToResponsesRequest codec (some req) = .ok converted) :
    KeepsPairs codec req.messages converted.input ↔ Matched req.messages := by
  have input : converted.input = req.messages.flatMap (convertMessage codec) := by
    unfold chatCompletionsRequestToResponsesRequest at done
    dsimp only at done
    split at done
    next => cases done
    next =>
      split at done
      next => cases done
      next =>
        obtain rfl := Except.ok.inj done
        rfl
  rw [input]
  constructor
  · rintro ⟨paired, together⟩ earlier msg later here output filled
    exact ⟨(together_iff codec _).1 together earlier msg later here output filled,
      (paired_iff codec _).1 paired earlier msg later here output filled⟩
  · intro matched
    refine ⟨(paired_iff codec _).2 fun earlier msg later here output filled => ?_,
      (together_iff codec _).2 fun earlier msg later here output filled => ?_⟩
    · exact (matched earlier msg later here output filled).2
    · exact (matched earlier msg later here output filled).1

/-! ## A call and its output -/

def plainCodec : Codec :=
  ⟨fun _ => none, fun _ => "", fun text => text, fun _ => none, fun _ => []⟩

def announced (id name : String) : Message :=
  ⟨"assistant", none, [⟨id, "function", ⟨"", name, .null, ""⟩, ""⟩], ""⟩

def answered (id name : String) : List Message :=
  [announced id name, ⟨"tool", some (.string "sunny"), [], id⟩]

def asking (messages : List Message) : GeneralOpenAIRequest where
  model := "gpt-4o"
  messages := messages
  n := none
  stream := none
  temperature := none
  topP := none
  maxTokens := none
  maxCompletionTokens := none
  reasoningEffort := ""
  responseFormat := none
  tools := none
  toolChoice := none
  parallelTooCalls := none
  user := ""
  store := ""
  metadata := ""

theorem answered_output {id name : String} (split_ : answered id name = earlier ++ msg :: later)
    (output : msg.isOutput = true) :
    earlier = [announced id name] ∧ msg = ⟨"tool", some (.string "sunny"), [], id⟩ := by
  have assistant : trimSpace "assistant" = "assistant" := by decide
  cases earlier with
  | nil =>
    obtain ⟨rfl, -⟩ := List.cons.inj split_
    rw [Message.isOutput, announced, assistant] at output
    exact absurd output (by decide)
  | cons first earlier =>
    obtain ⟨rfl, rest⟩ := List.cons.inj split_
    cases earlier with
    | nil =>
      obtain ⟨rfl, -⟩ := List.cons.inj rest
      exact ⟨rfl, rfl⟩
    | cons second earlier =>
      obtain ⟨-, none_⟩ := List.cons.inj rest
      exact absurd none_ (List.append_ne_nil_of_right_ne_nil _ (List.cons_ne_nil _ _)).symm

theorem answered_answers (id name : String) : Answers (answered id name) := by
  have assistant : trimSpace "assistant" = "assistant" := by decide
  intro earlier msg later split_ output
  obtain ⟨rfl, rfl⟩ := answered_output split_ output
  exact ⟨_, List.mem_flatMap.2 ⟨_, List.mem_filter.2 ⟨.head _, decide_eq_true assistant⟩, .head _⟩, rfl⟩

theorem plain_pair : ∃ converted,
    chatCompletionsRequestToResponsesRequest plainCodec (some (asking (answered "call_1" "weather"))) =
      .ok converted ∧
    converted.input.length = 3 ∧ KeepsPairs plainCodec (answered "call_1" "weather") converted.input := by
  refine ⟨_, rfl, by decide,
    (@keeps_pairs_iff plainCodec (asking (answered "call_1" "weather")) _ rfl).mpr ?_⟩
  intro earlier msg later split_ output _
  obtain ⟨rfl, rfl⟩ := answered_output split_ output
  decide

/-- With a blank behind the id the output is for no call, and without a name of the call it
is kept alone. -/
theorem output_without_call :
    (Answers (answered "call_1 " "weather") ∧ ∃ converted,
      chatCompletionsRequestToResponsesRequest plainCodec
        (some (asking (answered "call_1 " "weather"))) = .ok converted ∧
      ¬ KeepsPairs plainCodec (answered "call_1 " "weather") converted.input) ∧
    (Answers (answered "call_1" "") ∧ ∃ converted,
      chatCompletionsRequestToResponsesRequest plainCodec (some (asking (answered "call_1" ""))) =
        .ok converted ∧
      ¬ KeepsPairs plainCodec (answered "call_1" "") converted.input) := by
  refine ⟨⟨answered_answers _ _, _, rfl, fun keeps => ?_⟩, answered_answers _ _, _, rfl, fun keeps => ?_⟩
  · have count := keeps.paired [.message "assistant" (.string ""),
      .functionCall "call_1 " "weather" ""] "call_1" "sunny" [] (by rfl)
    exact absurd count (by decide)
  · have count := keeps.paired [.message "assistant" (.string "")] "call_1" "sunny" [] (by rfl)
    exact absurd count (by decide)

end NewApi.ChatToResponses
