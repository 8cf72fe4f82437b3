import Mathlib.Data.Rat.Floor
import NewApi.ClassedLists
import NewApi.JsonTree

/-! A Gemini request as a request for an OpenAI channel. Gemini refers to a call by where
it is, OpenAI by an id, and the ids are counted anew in every content. The model follows
the two loops over the contents and their parts; what becomes of the references is told by
the places of the calls and of the responses in the request. -/
namespace NewApi.GeminiToOpenAI
open NewApi.ClassedLists
open NewApi.JsonTree

/-! ## The model -/

structure Slice where
  items : List String
  spare : List String

/-- `s[:count]`; it panics where the capacity is less. -/
def Slice.upTo (slice : Slice) (count : Nat) : Option (List String) :=
  if count ≤ slice.items.length + slice.spare.length
  then some ((slice.items ++ slice.spare).take count) else none

/-- `dto/gemini.go::GeminiInlineData`. -/
structure GeminiInlineData where
  mimeType : String
  data : String

/-- `dto/gemini.go::GeminiFileData`. -/
structure GeminiFileData where
  mimeType : String
  fileUri : String

/-- `dto/gemini.go::FunctionCall`; nil is the value null. -/
structure FunctionCall where
  functionName : String
  arguments : Json

/-- `dto/gemini.go::GeminiFunctionResponse`, what the conversion reads of it. -/
structure GeminiFunctionResponse where
  response : Json

/-- `dto/gemini.go::GeminiPart`, the fields that the conversion reads. -/
structure GeminiPart where
  text : String
  inlineData : Option GeminiInlineData
  fileData : Option GeminiFileData
  functionCall : Option FunctionCall
  functionResponse : Option GeminiFunctionResponse

/-- `dto/gemini.go::GeminiChatContent`. -/
structure GeminiChatContent where
  role : String
  parts : List GeminiPart

/-- `dto/gemini.go::GeminiChatGenerationConfig`, the fields that the conversion reads. -/
structure GeminiChatGenerationConfig where
  temperature : Option Rat
  topP : Option Rat
  topK : Option Rat
  maxOutputTokens : Option Nat
  candidateCount : Option Int
  stopSequences : Slice

/-- `dto/gemini.go::GeminiChatTool`, the field that the conversion reads. -/
structure GeminiChatTool where
  functionDeclarations : Option Json

/-- `dto/gemini.go::GeminiChatRequest`, the fields that the conversion reads. -/
structure GeminiChatRequest where
  contents : List GeminiChatContent
  generationConfig : GeminiChatGenerationConfig
  tools : String
  systemInstructions : Option GeminiChatContent

/-- `relay/common/relay_info.go::RelayInfo`, the fields that the conversion reads. -/
structure RelayInfo where
  upstreamModelName : String
  isStream : Bool

/-- `dto/openai_request.go::MessageImageUrl`. -/
structure MessageImageUrl where
  url : String
  detail : String
  mimeType : String

/-- `dto/openai_request.go::MediaContent`. -/
structure MediaContent where
  type : String
  text : String
  imageUrl : Option MessageImageUrl

/-- `dto/openai_request.go::FunctionRequest`. -/
structure FunctionRequest where
  name : String
  description : String
  parameters : Option Json
  arguments : String

/-- `dto/openai_request.go::ToolCallRequest`. -/
structure ToolCallRequest where
  id : String
  type : String
  function : FunctionRequest

inductive MessageContent where
  | string (text : String)
  | media (parts : List MediaContent)

/-- `dto/openai_request.go::Message`, the fields that the conversion sets. -/
structure Message where
  role : String
  content : Option MessageContent
  toolCalls : List ToolCallRequest
  toolCallId : String

/-- `len(m.ParseContent()) > 0`. -/
def Message.hasContent (message : Message) : Bool :=
  match message.content with
  | none => false
  | some (.string _) => true
  | some (.media parts) => !parts.isEmpty

/-- `dto/openai_request.go::GeneralOpenAIRequest`, the fields that the conversion sets. -/
structure GeneralOpenAIRequest where
  model : String
  stream : Option Bool
  messages : List Message
  temperature : Option Rat
  topP : Option Rat
  topK : Option Int
  maxTokens : Option Nat
  stop : Option (List String)
  n : Option Int
  tools : List ToolCallRequest

/-- The JSON library: how a value is written, and what is read of the tools of a request
and of the declarations of a tool. -/
structure Codec where
  marshal : Json → Option String
  unmarshalTools : String → Option (List GeminiChatTool)
  unmarshalTool : String → Option GeminiChatTool
  any2Functions : Json → Option (List FunctionRequest)

/-- What the branches over a part tell apart. -/
inductive Piece where
  | text (text : String)
  | inlineData (data : GeminiInlineData)
  | fileData (data : GeminiFileData)
  | functionCall (call : FunctionCall)
  | functionResponse (response : GeminiFunctionResponse)

def GeminiPart.piece (part : GeminiPart) : Option Piece :=
  if part.text ≠ "" then some (.text part.text)
  else match part.inlineData, part.fileData, part.functionCall, part.functionResponse with
    | some data, _, _, _ => some (.inlineData data)
    | none, some data, _, _ => some (.fileData data)
    | none, none, some call, _ => some (.functionCall call)
    | none, none, none, some response => some (.functionResponse response)
    | none, none, none, none => none

section Conversion
variable (codec : Codec)

/-- `service/convert.go::toJSONString`. -/
def toJSONString (value : Json) : String := (codec.marshal value).getD "{}"

/-- `service/convert.go::convertGeminiRoleToOpenAI`. -/
def convertGeminiRoleToOpenAI (geminiRole : String) : String :=
  if geminiRole = "user" then "user"
  else if geminiRole = "model" then "assistant"
  else if geminiRole = "function" then "function"
  else "user"

/-- `service/convert.go::extractTextFromGeminiParts`. -/
def extractTextFromGeminiParts (parts : List GeminiPart) : String :=
  "\n".intercalate ((parts.map (·.text)).filter (· ≠ ""))

/-- `fmt.Sprintf("call_%d", count)`. -/
def callId (count : Nat) : String := "call_" ++ toString count

def textPart (text : String) : MediaContent := ⟨"text", text, none⟩

def inlinePart (data : GeminiInlineData) : MediaContent :=
  ⟨"image_url", "", some ⟨"data:" ++ data.mimeType ++ ";base64," ++ data.data, "auto", data.mimeType⟩⟩

def filePart (data : GeminiFileData) : MediaContent :=
  ⟨"image_url", "", some ⟨data.fileUri, "auto", data.mimeType⟩⟩

def toolCall (count : Nat) (call : FunctionCall) : ToolCallRequest :=
  ⟨callId count, "function", ⟨call.functionName, "", none, toJSONString codec call.arguments⟩⟩

def toolMessage (count : Nat) (response : GeminiFunctionResponse) : Message :=
  ⟨"tool", some (.string (toJSONString codec response.response)), [], callId count⟩

structure Parts where
  messages : List Message
  mediaContents : List MediaContent
  toolCalls : List ToolCallRequest

def convertPart (carried : Parts) (part : GeminiPart) : Parts :=
  match part.piece with
  | some (.text text) => { carried with mediaContents := carried.mediaContents ++ [textPart text] }
  | some (.inlineData data) =>
    { carried with mediaContents := carried.mediaContents ++ [inlinePart data] }
  | some (.fileData data) =>
    { carried with mediaContents := carried.mediaContents ++ [filePart data] }
  | some (.functionCall call) => { carried with
      toolCalls := carried.toolCalls ++ [toolCall codec (carried.toolCalls.length + 1) call] }
  | some (.functionResponse response) => { carried with
      messages := carried.messages ++ [toolMessage codec carried.toolCalls.length response] }
  | none => carried

def ownContent (carried : Parts) : Option MessageContent :=
  match carried.mediaContents with
  | [] => if carried.toolCalls = [] then none else some (.string "")
  | [media] => some (if media.type = "text" then .string media.text else .media [media])
  | several => some (.media several)

def ownMessage (role : String) (carried : Parts) : Message :=
  ⟨convertGeminiRoleToOpenAI role, ownContent carried, carried.toolCalls, ""⟩

def convertContent (messages : List Message) (content : GeminiChatContent) : List Message :=
  let carried := content.parts.foldl (convertPart codec) ⟨messages, [], []⟩
  let message := ownMessage content.role carried
  if message.hasContent || !message.toolCalls.isEmpty then carried.messages ++ [message]
  else carried.messages

/-- `dto/gemini.go::GeminiChatRequest.GetTools`. -/
def GeminiChatRequest.getTools (request : GeminiChatRequest) : List GeminiChatTool :=
  if request.tools.startsWith "[" then (codec.unmarshalTools request.tools).getD []
  else if request.tools.startsWith "\x7b" then (codec.unmarshalTool request.tools).toList
  else []

def convertTool (tool : GeminiChatTool) : List ToolCallRequest :=
  ((tool.functionDeclarations.bind codec.any2Functions).getD []).map fun function =>
    ⟨"", "function", ⟨function.name, function.description, function.parameters, ""⟩⟩

def convertStop (stopSequences : Slice) : Option (Option (List String)) :=
  if stopSequences.items = [] then some none else (stopSequences.upTo 4).map some

def systemMessages (request : GeminiChatRequest) : List Message :=
  match request.systemInstructions with
  | none => []
  | some content => [⟨"system", some (.string (extractTextFromGeminiParts content.parts)), [], ""⟩]

/-- `service/convert.go::GeminiToOpenAIRequest`; nothing where it panics. -/
def geminiToOpenAIRequest (request : GeminiChatRequest) (info : RelayInfo) : Option GeneralOpenAIRequest :=
  let config := request.generationConfig
  (convertStop config.stopSequences).map fun stop => {
    model := info.upstreamModelName
    stream := some info.isStream
    messages := systemMessages request ++ request.contents.foldl (convertContent codec) []
    temperature := config.temperature
    topP := config.topP.filter (0 < ·)
    topK := (config.topK.filter (0 < ·)).map Int.floor
    maxTokens := config.maxOutputTokens.filter (0 < ·)
    stop
    n := config.candidateCount.filter (0 < ·)
    tools := (request.getTools codec).flatMap (convertTool codec) }

end Conversion

/-! ## Places -/

abbrev Place := Nat × Nat

structure Placed where
  place : Place
  content : GeminiChatContent
  part : GeminiPart

def placedParts (index : Nat) (content : GeminiChatContent) : List Placed :=
  content.parts.mapIdx fun position part => ⟨(index, position), content, part⟩

def placed (contents : List GeminiChatContent) : List Placed :=
  (contents.mapIdx placedParts).flatten

def GeminiPart.isCall (part : GeminiPart) : Bool :=
  match part.piece with
  | some (.functionCall _) => true
  | _ => false

def GeminiPart.isResponse (part : GeminiPart) : Bool :=
  match part.piece with
  | some (.functionResponse _) => true
  | _ => false

def calls (contents : List GeminiChatContent) : List Placed :=
  (placed contents).filter (·.part.isCall)

def responses (contents : List GeminiChatContent) : List Placed :=
  (placed contents).filter (·.part.functionResponse.isSome)

def callsBefore (parts : List GeminiPart) (position : Nat) : Nat :=
  (parts.take position).countP GeminiPart.isCall

def Placed.count (item : Placed) : Nat := callsBefore item.content.parts item.place.2

def toolCallIds (messages : List Message) : List String :=
  messages.flatMap fun message => message.toolCalls.map (·.id)

def toolMessages (messages : List Message) : List Message :=
  messages.filter (·.role = "tool")

def given (contents : List GeminiChatContent) (converted : GeneralOpenAIRequest) : List (Place × String) :=
  ((calls contents).map (·.place)).zip (toolCallIds converted.messages)

section Statement
variable (codec : Codec) (request : GeminiChatRequest) (answers : Place → Place)

def Refers (converted : GeneralOpenAIRequest) (response : Placed) (message : Message) : Prop :=
  message.content = (response.part.functionResponse.map fun result =>
      .string (toJSONString codec result.response)) ∧
    (answers response.place, message.toolCallId) ∈ given request.contents converted

/-- The ids are distinct, every response refers to the call it answers, and at most four
stop sequences are passed on. -/
structure KeepsReferences (converted : GeneralOpenAIRequest) : Prop where
  distinct : (toolCallIds converted.messages).Nodup
  refer : List.Forall₂ (Refers codec request answers converted) (responses request.contents)
    (toolMessages converted.messages)
  stop : converted.stop.getD [] = request.generationConfig.stopSequences.items.take 4

def Converts (info : RelayInfo) : Prop :=
  ∃ converted, geminiToOpenAIRequest codec request info = some converted ∧
    KeepsReferences codec request answers converted

end Statement

structure LastBefore (contents : List GeminiChatContent) (call response : Placed) : Prop where
  together : call.place.1 = response.place.1
  before : call.place.2 < response.place.2
  last : ∀ other ∈ calls contents, other.place.1 = response.place.1 →
    other.place.2 < response.place.2 → other.place.2 ≤ call.place.2

/-- At most one content has calls, every response is alone in its part and answers the last
call before it in the same content, and there are no stop sequences or at least four. -/
structure Plain (request : GeminiChatRequest) (answers : Place → Place) : Prop where
  oneTurn : ∀ first ∈ calls request.contents, ∀ second ∈ calls request.contents,
    first.place.1 = second.place.1
  answered : ∀ response ∈ responses request.contents, response.part.isResponse = true ∧
    ∃ call ∈ calls request.contents, call.place = answers response.place ∧
      LastBefore request.contents call response
  stops : request.generationConfig.stopSequences.items = [] ∨
    4 ≤ request.generationConfig.stopSequences.items.length

/-! ## The loops -/

def counted (count : Nat) : List GeminiPart → List (Nat × GeminiPart)
  | [] => []
  | part :: rest => (count, part) :: counted (if part.isCall then count + 1 else count) rest

section Loops
variable (codec : Codec)

def called (item : Nat × GeminiPart) : Option ToolCallRequest :=
  match item.2.piece with
  | some (.functionCall call) => some (toolCall codec (item.1 + 1) call)
  | _ => none

def answer (item : Nat × GeminiPart) : Option Message :=
  match item.2.piece with
  | some (.functionResponse response) => some (toolMessage codec item.1 response)
  | _ => none

theorem convert_parts (parts : List GeminiPart) (carried : Parts) :
    (parts.foldl (convertPart codec) carried).messages =
        carried.messages ++ (counted carried.toolCalls.length parts).filterMap (answer codec) ∧
      (parts.foldl (convertPart codec) carried).toolCalls =
        carried.toolCalls ++ (counted carried.toolCalls.length parts).filterMap (called codec) := by
  induction parts generalizing carried with
  | nil => simp [counted]
  | cons part rest ih =>
    obtain ⟨messages, toolCalls⟩ := ih (convertPart codec carried part)
    rw [List.foldl_cons, messages, toolCalls, counted, List.filterMap_cons, List.filterMap_cons]
    cases branch : part.piece with
    | none => simp [convertPart, called, answer, GeminiPart.isCall, branch]
    | some piece =>
      cases piece <;> simp [convertPart, called, answer, GeminiPart.isCall, branch]

@[simp] theorem tool_call_ids_append (first second : List Message) :
    toolCallIds (first ++ second) = toolCallIds first ++ toolCallIds second :=
  List.flatMap_append

@[simp] theorem tool_messages_append (first second : List Message) :
    toolMessages (first ++ second) = toolMessages first ++ toolMessages second :=
  List.filter_append ..

theorem answer_tells
    (answered : answer codec item = some message) :
    message.role = "tool" ∧ message.toolCalls = [] := by
  unfold answer at answered
  split at answered
  · obtain rfl := Option.some.inj answered
    exact ⟨rfl, rfl⟩
  · cases answered

theorem answers_only (items : List (Nat × GeminiPart)) :
    toolMessages (items.filterMap (answer codec)) = items.filterMap (answer codec) ∧
      toolCallIds (items.filterMap (answer codec)) = [] := by
  have each : ∀ message ∈ items.filterMap (answer codec),
      message.role = "tool" ∧ message.toolCalls = [] := by
    intro message member
    obtain ⟨item, -, answered⟩ := List.mem_filterMap.1 member
    exact answer_tells codec answered
  refine ⟨List.filter_eq_self.2 fun message member => decide_eq_true (each message member).1, ?_⟩
  refine List.flatMap_eq_nil_iff.2 fun message member => ?_
  rw [(each message member).2, List.map_nil]

theorem converted_role (role : String) : convertGeminiRoleToOpenAI role ≠ "tool" := by
  unfold convertGeminiRoleToOpenAI
  split_ifs <;> decide

theorem convert_content (messages : List Message) (content : GeminiChatContent) :
    toolMessages (convertContent codec messages content) =
        toolMessages messages ++ (counted 0 content.parts).filterMap (answer codec) ∧
      toolCallIds (convertContent codec messages content) =
        toolCallIds messages ++ ((counted 0 content.parts).filterMap (called codec)).map (·.id) := by
  obtain ⟨ended, toolCalls⟩ := convert_parts codec content.parts ⟨messages, [], []⟩
  obtain ⟨kept, none_⟩ := answers_only codec (counted 0 content.parts)
  rw [convertContent]
  generalize content.parts.foldl (convertPart codec) ⟨messages, [], []⟩ = carried at ended toolCalls
  rw [List.length_nil] at ended toolCalls
  rw [List.nil_append] at toolCalls
  have other : toolMessages [ownMessage content.role carried] = [] :=
    List.filter_eq_nil_iff.2 (by simp [ownMessage, converted_role])
  have own : toolCallIds [ownMessage content.role carried] = carried.toolCalls.map (·.id) :=
    List.append_nil _
  split
  next =>
    rw [tool_messages_append, tool_call_ids_append, other, own, ended, tool_messages_append,
      tool_call_ids_append, kept, none_, toolCalls]
    simp
  next empty =>
    have uncalled : carried.toolCalls = [] := by
      simp only [ownMessage, Bool.or_eq_true, not_or] at empty
      simpa using empty.2
    rw [ended, tool_messages_append, tool_call_ids_append, kept, none_, ← toolCalls, uncalled]
    simp

theorem convert_contents (contents : List GeminiChatContent) (messages : List Message) :
    toolMessages (contents.foldl (convertContent codec) messages) = toolMessages messages ++
        contents.flatMap (fun content => (counted 0 content.parts).filterMap (answer codec)) ∧
      toolCallIds (contents.foldl (convertContent codec) messages) = toolCallIds messages ++
        contents.flatMap fun content =>
          ((counted 0 content.parts).filterMap (called codec)).map (·.id) := by
  induction contents generalizing messages with
  | nil => simp
  | cons content rest ih =>
    obtain ⟨here, ids⟩ := convert_content codec messages content
    obtain ⟨later, others⟩ := ih (convertContent codec messages content)
    rw [List.foldl_cons, later, others, here, ids, List.flatMap_cons, List.flatMap_cons,
      List.append_assoc, List.append_assoc]
    exact ⟨rfl, rfl⟩

end Loops

/-! ## Places and counts -/

@[simp] theorem calls_before_zero (parts : List GeminiPart) : callsBefore parts 0 = 0 := rfl

theorem calls_before_cons (part : GeminiPart) (rest : List GeminiPart) (position : Nat) :
    callsBefore (part :: rest) (position + 1) =
      (if part.isCall then 1 else 0) + callsBefore rest position := by
  rw [callsBefore, List.take_succ_cons, List.countP_cons, Nat.add_comm]
  rfl

theorem counted_eq (count : Nat) (parts : List GeminiPart) :
    counted count parts = parts.mapIdx fun position part => (count + callsBefore parts position, part) := by
  induction parts generalizing count with
  | nil => rfl
  | cons part rest ih =>
    rw [counted, List.mapIdx_cons, ih, calls_before_zero, Nat.add_zero]
    congr 2
    funext position other
    rw [calls_before_cons]
    split <;> simp only [Nat.add_assoc, Nat.zero_add]

theorem placed_counted (contents : List GeminiChatContent) :
    (placed contents).map (fun item => (item.count, item.part)) =
      contents.flatMap fun content => counted 0 content.parts := by
  have each : ∀ index (content : GeminiChatContent),
      (placedParts index content).map (fun item => (item.count, item.part)) = counted 0 content.parts := by
    intro index content
    refine List.ext_getElem? fun position => ?_
    simp [counted_eq, placedParts, Placed.count, Function.comp_def]
  rw [placed, List.map_flatten, List.flatMap_def]
  congr 1
  refine List.ext_getElem? fun index => ?_
  simp [each, Function.comp_def]

theorem mem_placed :
    item ∈ placed contents ↔ contents[item.place.1]? = some item.content ∧
      item.content.parts[item.place.2]? = some item.part := by
  rw [placed, List.mem_flatten]
  constructor
  · rintro ⟨list, listed, member⟩
    obtain ⟨index, inside, rfl⟩ := List.mem_mapIdx.1 listed
    obtain ⟨position, within, rfl⟩ := List.mem_mapIdx.1 member
    exact ⟨List.getElem?_eq_getElem inside, List.getElem?_eq_getElem within⟩
  · rintro ⟨held, part⟩
    obtain ⟨inside, content⟩ := List.getElem?_eq_some_iff.1 held
    obtain ⟨within, same⟩ := List.getElem?_eq_some_iff.1 part
    refine ⟨_, List.mem_mapIdx.2 ⟨_, inside, rfl⟩, List.mem_mapIdx.2 ⟨item.place.2, ?_, ?_⟩⟩
    · rw [content]
      exact within
    · simp only [content, same]

theorem calls_before_add (parts : List GeminiPart) (position more : Nat) :
    callsBefore parts (position + more) =
      callsBefore parts position + ((parts.drop position).take more).countP GeminiPart.isCall := by
  rw [callsBefore, List.take_add, List.countP_append]
  rfl

theorem calls_before_mono (parts : List GeminiPart)
    (order : position ≤ later) : callsBefore parts position ≤ callsBefore parts later := by
  obtain ⟨more, rfl⟩ := Nat.exists_eq_add_of_le order
  rw [calls_before_add]
  exact Nat.le_add_right _ _

theorem calls_before_call
    (held : parts[position]? = some part) (call : part.isCall = true) :
    callsBefore parts (position + 1) = callsBefore parts position + 1 := by
  rw [calls_before_add, List.take_one, List.head?_drop, held]
  simp [call]

theorem mem_calls :
    item ∈ calls contents ↔ item ∈ placed contents ∧ item.part.isCall = true :=
  List.mem_filter

theorem last_before_iff
    (called : call ∈ calls contents) (held : response ∈ placed contents)
    (together : call.place.1 = response.place.1) :
    response.count = call.count + 1 ↔ LastBefore contents call response := by
  obtain ⟨callHeld, isCall⟩ := mem_calls.1 called
  obtain ⟨content, here⟩ := mem_placed.1 callHeld
  have same : call.content = response.content := by
    have other := (mem_placed.1 held).1
    rw [← together, content] at other
    exact Option.some.inj other
  have next := calls_before_call here isCall
  rw [Placed.count, Placed.count, ← same]
  constructor
  · intro count
    refine ⟨together, ?_, fun other otherCalled there earlier => ?_⟩
    · by_contra late
      have bound := calls_before_mono call.content.parts (Nat.le_of_not_lt late)
      omega
    · obtain ⟨otherHeld, otherCall⟩ := mem_calls.1 otherCalled
      obtain ⟨otherContent, otherHere⟩ := mem_placed.1 otherHeld
      rw [there, ← together, content] at otherContent
      rw [← Option.some.inj otherContent] at otherHere
      by_contra between
      have low := calls_before_mono call.content.parts (Nat.lt_of_not_le between)
      have high := calls_before_mono call.content.parts earlier
      have step := calls_before_call otherHere otherCall
      simp only [Nat.succ_eq_add_one] at low high
      omega
  · rintro ⟨-, before, last⟩
    obtain ⟨more, distance⟩ := Nat.exists_eq_add_of_le before
    rw [distance, Nat.succ_eq_add_one, calls_before_add, next]
    have none_ : ((call.content.parts.drop (call.place.2 + 1)).take more).countP
        GeminiPart.isCall = 0 := by
      refine List.countP_eq_zero.2 fun part member otherCall => ?_
      obtain ⟨offset, inside⟩ := List.mem_iff_getElem?.1 member
      rw [List.getElem?_take, List.getElem?_drop] at inside
      split at inside
      next within =>
        have found : (⟨(call.place.1, call.place.2 + 1 + offset), call.content, part⟩ : Placed) ∈
            calls contents := mem_calls.2 ⟨mem_placed.2 ⟨content, inside⟩, otherCall⟩
        have bound := last _ found together (by dsimp only; omega)
        dsimp only at bound
        omega
      next => cases inside
    rw [none_]

/-! ## Ids -/

theorem call_id_injective (same : callId first = callId second) : first = second := by
  have digits := congrArg String.toList same
  simp only [callId, String.toList_append, List.append_cancel_left_eq] at digits
  change (Nat.repr first).toList = (Nat.repr second).toList at digits
  rw [Nat.toList_repr, Nat.toList_repr] at digits
  rw [← Nat.ofDigitChars_ten_toDigits (n := first), digits, Nat.ofDigitChars_ten_toDigits]

theorem called_ids (codec : Codec) (count : Nat) (parts : List GeminiPart) :
    ((counted count parts).filterMap (called codec)).map (·.id) =
      (List.range' (count + 1) (parts.countP GeminiPart.isCall)).map callId := by
  induction parts generalizing count with
  | nil => rfl
  | cons part rest ih =>
    rw [counted, List.filterMap_cons, List.countP_cons]
    cases branch : part.piece with
    | none => simpa [called, GeminiPart.isCall, branch] using ih count
    | some piece =>
      cases piece with
      | functionCall call =>
        simp only [called, GeminiPart.isCall, branch, ↓reduceIte, List.map_cons, ih, List.range'_succ]
        rfl
      | text | inlineData | fileData | functionResponse =>
        simpa [called, GeminiPart.isCall, branch] using ih count

theorem content_ids_nodup (parts : List GeminiPart) :
    ((List.range' 1 (parts.countP GeminiPart.isCall)).map callId).Nodup :=
  List.Nodup.map (fun _ _ => call_id_injective) List.nodup_range'

theorem contents_disjoint_iff (first second : List GeminiPart) :
    ((List.range' 1 (first.countP GeminiPart.isCall)).map callId).Disjoint
        ((List.range' 1 (second.countP GeminiPart.isCall)).map callId) ↔
      first.countP GeminiPart.isCall = 0 ∨ second.countP GeminiPart.isCall = 0 := by
  constructor
  · intro disjoint
    by_contra both
    rw [not_or] at both
    have one : ∀ {count : Nat}, count ≠ 0 → callId 1 ∈ (List.range' 1 count).map callId := by
      intro count filled
      exact List.mem_map.2 ⟨1, List.mem_range'_1.2 (by omega), rfl⟩
    exact disjoint (one both.1) (one both.2)
  · rintro (none_ | none_)
    · rw [none_]
      exact List.disjoint_nil_left _
    · rw [none_]
      exact List.disjoint_nil_right _

theorem distinct_iff_one_turn (contents : List GeminiChatContent) :
    (contents.flatMap fun content =>
        (List.range' 1 (content.parts.countP GeminiPart.isCall)).map callId).Nodup ↔
      ∀ first ∈ calls contents, ∀ second ∈ calls contents, first.place.1 = second.place.1 := by
  have whole : ∀ content ∈ contents,
      ((List.range' 1 (content.parts.countP GeminiPart.isCall)).map callId).Nodup :=
    fun content _ => content_ids_nodup content.parts
  rw [List.nodup_flatMap, and_iff_right whole, List.pairwise_iff_getElem]
  simp only [Function.onFun, contents_disjoint_iff]
  have has_call : ∀ {item : Placed}, item ∈ calls contents →
      item.content.parts.countP GeminiPart.isCall ≠ 0 := by
    intro item member none_
    obtain ⟨held, call⟩ := mem_calls.1 member
    exact List.countP_eq_zero.1 none_ _ (List.mem_of_getElem? (mem_placed.1 held).2) call
  constructor
  · intro apart
    have ordered : ∀ first ∈ calls contents, ∀ second ∈ calls contents,
        ¬ first.place.1 < second.place.1 := by
      intro first member second other order
      obtain ⟨inside, here⟩ := List.getElem?_eq_some_iff.1 (mem_placed.1 (mem_calls.1 member).1).1
      obtain ⟨within, there⟩ := List.getElem?_eq_some_iff.1 (mem_placed.1 (mem_calls.1 other).1).1
      have none_ := apart _ _ inside within order
      rw [here, there] at none_
      exact none_.elim (has_call member) (has_call other)
    intro first member second other
    exact Nat.le_antisymm (Nat.le_of_not_lt (ordered _ other _ member))
      (Nat.le_of_not_lt (ordered _ member _ other))
  · intro same first second inside within order
    by_contra both
    rw [not_or] at both
    have some_ : ∀ index (held : index < contents.length),
        contents[index].parts.countP GeminiPart.isCall ≠ 0 →
        ∃ call ∈ calls contents, call.place.1 = index := by
      intro index held filled
      obtain ⟨part, member, call⟩ := List.countP_pos_iff.1 (Nat.pos_of_ne_zero filled)
      obtain ⟨position, there⟩ := List.mem_iff_getElem?.1 member
      exact ⟨⟨(index, position), contents[index], part⟩,
        mem_calls.2 ⟨mem_placed.2 ⟨List.getElem?_eq_getElem held, there⟩, call⟩, rfl⟩
    obtain ⟨call, called, here⟩ := some_ first inside both.1
    obtain ⟨other, otherCalled, there⟩ := some_ second within both.2
    have equal := same call called other otherCalled
    omega

/-! ## References -/

section References
variable (codec : Codec)

def Placed.answer (item : Placed) : Option Message :=
  GeminiToOpenAI.answer codec (item.count, item.part)

theorem converted_messages (done : geminiToOpenAIRequest codec request info = some converted) :
    toolMessages converted.messages = (placed request.contents).filterMap (Placed.answer codec) ∧
      toolCallIds converted.messages = request.contents.flatMap fun content =>
        (List.range' 1 (content.parts.countP GeminiPart.isCall)).map callId := by
  obtain ⟨stop, -, rfl⟩ := Option.map_eq_some_iff.1 done
  obtain ⟨messages, ids⟩ := convert_contents codec request.contents []
  have system : toolMessages (systemMessages request) = [] ∧
      toolCallIds (systemMessages request) = [] := by
    rw [systemMessages]
    cases request.systemInstructions with
    | none | some => exact ⟨rfl, rfl⟩
  dsimp only
  rw [tool_messages_append, tool_call_ids_append, system.1, system.2, messages, ids]
  constructor
  · rw [← List.filterMap_flatMap, ← placed_counted, List.filterMap_map]
    rfl
  · simp only [called_ids]
    rfl

theorem ids_of_calls (codec : Codec) (contents : List GeminiChatContent) :
    (contents.flatMap fun content =>
        (List.range' 1 (content.parts.countP GeminiPart.isCall)).map callId) =
      (calls contents).map fun call => callId (call.count + 1) := by
  have each : ∀ content : GeminiChatContent,
      (List.range' 1 (content.parts.countP GeminiPart.isCall)).map callId =
        ((counted 0 content.parts).filterMap (called codec)).map (·.id) :=
    fun content => (called_ids codec 0 content.parts).symm
  have id : ∀ item : Nat × GeminiPart, (called codec item).map (·.id) =
      if item.2.isCall then some (callId (item.1 + 1)) else none := by
    intro item
    rw [called, GeminiPart.isCall]
    split <;> simp_all [toolCall]
  simp only [each]
  rw [← List.map_flatMap, ← List.filterMap_flatMap, ← placed_counted, List.map_filterMap,
    List.filterMap_map, calls, ← List.filterMap_eq_map, List.filterMap_filter]
  simp only [Function.comp_def, id]

theorem mem_given (done : geminiToOpenAIRequest codec request info = some converted)
    {id : String} :
    (place, id) ∈ given request.contents converted ↔
      ∃ call ∈ calls request.contents, call.place = place ∧ id = callId (call.count + 1) := by
  rw [given, (converted_messages codec done).2, ids_of_calls codec, List.zip_map', List.mem_map]
  simp only [Prod.mk.injEq, eq_comm (a := id)]

theorem answer_iff {response : Placed} {message : Message} :
    response.answer codec = some message ↔ response.part.isResponse = true ∧
      ∃ result, response.part.functionResponse = some result ∧
        message = toolMessage codec response.count result := by
  rw [Placed.answer, answer, GeminiPart.isResponse]
  cases branch : response.part.piece with
  | none => simp
  | some piece =>
    cases piece with
    | functionResponse result =>
      have held : response.part.functionResponse = some result := by
        unfold GeminiPart.piece at branch
        split at branch
        · cases branch
        · split at branch <;> cases branch
          assumption
      simp [held, eq_comm]
    | text | inlineData | fileData | functionCall => simp

theorem response_held {part : GeminiPart} (response : part.isResponse = true) :
    part.functionResponse.isSome = true := by
  unfold GeminiPart.isResponse GeminiPart.piece at response
  split at response
  next branch =>
    split at branch
    · cases branch
    · split at branch <;> simp_all
  next => cases response

theorem call_together
    (held : item ∈ placed contents) (follows : item.count ≠ 0) :
    ∃ call ∈ calls contents, call.place.1 = item.place.1 := by
  obtain ⟨part, member, call⟩ := List.countP_pos_iff.1 (Nat.pos_of_ne_zero follows)
  obtain ⟨position, there⟩ := List.mem_iff_getElem?.1 (List.mem_of_mem_take member)
  exact ⟨⟨(item.place.1, position), item.content, part⟩,
    mem_calls.2 ⟨mem_placed.2 ⟨(mem_placed.1 held).1, there⟩, call⟩, rfl⟩

theorem refers_iff (done : geminiToOpenAIRequest codec request info = some converted)
    (oneTurn : ∀ first ∈ calls request.contents, ∀ second ∈ calls request.contents,
      first.place.1 = second.place.1) (answers : Place → Place)
    (held : response ∈ placed request.contents)
    (answered : response.answer codec = some message) :
    Refers codec request answers converted response message ↔
      ∃ call ∈ calls request.contents, call.place = answers response.place ∧
        LastBefore request.contents call response := by
  obtain ⟨-, result, isHeld, rfl⟩ := (answer_iff codec).1 answered
  rw [Refers, and_iff_right (by rw [isHeld]; rfl), mem_given codec done]
  refine exists_congr fun call => and_congr_right fun isCalled => and_congr_right fun _ => ?_
  constructor
  · intro same
    have count := call_id_injective same
    obtain ⟨other, otherCalled, there⟩ := call_together held (by omega)
    exact (last_before_iff isCalled held ((oneTurn call isCalled other otherCalled).trans there)).1 count
  · intro last
    rw [(last_before_iff isCalled held last.together).2 last]
    rfl

theorem stop_iff (stopSequences : Slice) :
    (∃ stop, convertStop stopSequences = some stop ∧
        stop.getD [] = stopSequences.items.take 4) ↔
      stopSequences.items = [] ∨ 4 ≤ stopSequences.items.length := by
  unfold convertStop
  by_cases empty : stopSequences.items = []
  · simp [empty]
  · rw [if_neg empty, or_iff_right empty]
    unfold Slice.upTo
    constructor
    · rintro ⟨stop, sliced, first⟩
      split at sliced
      next within =>
        obtain rfl := Option.some.inj sliced
        have length := congrArg List.length first
        simp only [Option.getD_some, List.length_take, List.length_append] at length
        omega
      next => cases sliced
    · intro four
      rw [if_pos (Nat.le_add_right_of_le four), List.take_append_of_le_length four]
      exact ⟨_, rfl, rfl⟩

theorem all_refer_iff (done : geminiToOpenAIRequest codec request info = some converted)
    (oneTurn : ∀ first ∈ calls request.contents, ∀ second ∈ calls request.contents,
      first.place.1 = second.place.1) (answers : Place → Place) :
    List.Forall₂ (Refers codec request answers converted) (responses request.contents)
        (toolMessages converted.messages) ↔
      ∀ response ∈ responses request.contents, response.part.isResponse = true ∧
        ∃ call ∈ calls request.contents, call.place = answers response.place ∧
          LastBefore request.contents call response := by
  have only : ∀ item : Placed, (item.answer codec).isSome →
      item.part.functionResponse.isSome = true := by
    intro item some_
    obtain ⟨message, answered⟩ := Option.isSome_iff_exists.1 some_
    exact response_held ((answer_iff codec).1 answered).1
  rw [(converted_messages codec done).1, responses, forall_counterparts_iff only]
  simp only [List.mem_filter, and_imp]
  refine forall₃_congr fun response held isSome => ?_
  constructor
  · rintro ⟨message, answered, refers⟩
    exact ⟨((answer_iff codec).1 answered).1,
      (refers_iff codec done oneTurn answers held answered).1 refers⟩
  · rintro ⟨isResponse, last⟩
    obtain ⟨result, isHeld⟩ := Option.isSome_iff_exists.1 isSome
    have answered := (answer_iff codec).2 ⟨isResponse, result, isHeld, rfl⟩
    exact ⟨_, answered, (refers_iff codec done oneTurn answers held answered).2 last⟩

end References

theorem plain_of_converts {answers : Place → Place}
    (converts : Converts codec request answers info) :
    Plain request answers := by
  obtain ⟨converted, done, kept⟩ := converts
  obtain ⟨stop, passed, shape⟩ := Option.map_eq_some_iff.1 done
  have oneTurn := (distinct_iff_one_turn request.contents).1
    ((converted_messages codec done).2 ▸ kept.distinct)
  refine ⟨oneTurn, (all_refer_iff codec done oneTurn answers).1 kept.refer, ?_⟩
  refine (stop_iff _).1 ⟨stop, passed, ?_⟩
  rw [← kept.stop, ← shape]

theorem converts_of_plain (codec : Codec) {answers : Place → Place}
    (info : RelayInfo) (plain : Plain request answers) : Converts codec request answers info := by
  obtain ⟨stop, passed, first⟩ := (stop_iff _).2 plain.stops
  obtain ⟨converted, done⟩ : ∃ converted,
      geminiToOpenAIRequest codec request info = some converted := by
    rw [geminiToOpenAIRequest, passed]
    exact ⟨_, rfl⟩
  refine ⟨converted, done, ?_, (all_refer_iff codec done plain.oneTurn answers).2 plain.answered, ?_⟩
  · rw [(converted_messages codec done).2]
    exact (distinct_iff_one_turn request.contents).2 plain.oneTurn
  · rw [geminiToOpenAIRequest, passed] at done
    obtain rfl := Option.some.inj done
    exact first

/-- A request is converted with its references kept exactly when all its calls are in one
content, every response stands behind the call it answers in that content, with no call
between, and there are no stop sequences or at least four. -/
theorem converts_iff (codec : Codec) (request : GeminiChatRequest) (answers : Place → Place)
    (info : RelayInfo) : Converts codec request answers info ↔ Plain request answers :=
  ⟨plain_of_converts, converts_of_plain codec info⟩

/-! ## A call and its response -/

def callPart (name : String) : GeminiPart := ⟨"", none, none, some ⟨name, .null⟩, none⟩

def responsePart : GeminiPart := ⟨"", none, none, none, some ⟨.null⟩⟩

def twoCalls : GeminiChatRequest where
  contents := [⟨"model", [callPart "weather", callPart "weather"]⟩, ⟨"user", [responsePart, responsePart]⟩]
  generationConfig := ⟨none, none, none, none, none, ⟨[], []⟩⟩
  tools := ""
  systemInstructions := none

def inOrder (place : Place) : Place := (0, place.2)

def plainCodec : Codec := ⟨fun _ => some "null", fun _ => none, fun _ => none, fun _ => none⟩

/-- Both responses refer to a call that is not there, and a single stop sequence ends in a
panic where there is no room for four. -/
theorem responses_refer_to_nothing :
    (geminiToOpenAIRequest plainCodec twoCalls ⟨"gpt-4o", false⟩).map
        (fun converted => (toolCallIds converted.messages,
          (toolMessages converted.messages).map (·.toolCallId))) =
        some (["call_1", "call_2"], ["call_0", "call_0"]) ∧
      ¬ Converts plainCodec twoCalls inOrder ⟨"gpt-4o", false⟩ ∧
      convertStop ⟨["END"], []⟩ = none := by
  refine ⟨by decide, fun converts => ?_, rfl⟩
  have response : (⟨(1, 0), ⟨"user", [responsePart, responsePart]⟩, responsePart⟩ : Placed) ∈
      responses twoCalls.contents := List.mem_filter.2 ⟨mem_placed.2 ⟨rfl, rfl⟩, rfl⟩
  obtain ⟨-, call, -, place, last⟩ := (plain_of_converts converts).answered _ response
  have together := last.together
  rw [place] at together
  cases together

end NewApi.GeminiToOpenAI
