import NewApi.JsonTree
import NewApi.GoText
import NewApi.ClassedLists

/-! A Claude request as a request for an OpenAI channel. One Claude message comes to
a message of its own and to one message more for every tool result in it. What a
message says is read off both requests as pieces: texts, images, tool calls and tool
results. A string that is the JSON text of a value is kept as the value. -/
namespace NewApi.ClaudeToOpenAI
open NewApi.JsonTree
open NewApi.GoText
open NewApi.ClassedLists

/-! ## The model -/

/-- What is not of the repository: how `%s` writes a value that is no string, and what
comes of a value that is decoded to content blocks and encoded again. -/
structure Codec where
  printed : Json → String
  reencode : Json → Json

/-- `dto/claude.go::ClaudeMessageSource`. -/
structure ClaudeMessageSource where
  type : String
  mediaType : String
  data : Option Json
  url : String

/-- `dto/claude.go::ClaudeMediaMessage`, the fields of a block of a request. -/
structure ClaudeMediaMessage where
  type : String
  text : Option String
  source : Option ClaudeMessageSource
  cacheControl : Option Json
  id : String
  name : String
  input : Option Json
  content : Option Json
  toolUseId : String

/-- `dto/claude.go::ClaudeMediaMessage.GetText`. -/
def ClaudeMediaMessage.getText (block : ClaudeMediaMessage) : String := block.text.getD ""

/-- `dto/claude.go::ClaudeMediaMessage.IsStringContent`. -/
def ClaudeMediaMessage.isStringContent (block : ClaudeMediaMessage) : Bool :=
  match block.content with
  | some (.string _) => true
  | _ => false

def itemText : Json → Option String
  | .object members =>
    match members.lookup "type", members.lookup "text" with
    | some (.string type), some (.string text) => if type = "text" then some text else none
    | _, _ => none
  | _ => none

/-- `dto/claude.go::ClaudeMediaMessage.GetStringContent`. -/
def ClaudeMediaMessage.getStringContent (block : ClaudeMediaMessage) : String :=
  match block.content with
  | some (.string text) => text
  | some (.array items) => String.join (items.filterMap itemText)
  | _ => ""

/-- Content of the type `any` that is a string or else is parsed as blocks. -/
inductive ClaudeContent where
  | string (text : String)
  | blocks (parsed : List ClaudeMediaMessage)
  | unreadable (reason : String)

def ClaudeContent.parsed : ClaudeContent → List ClaudeMediaMessage
  | .blocks parsed => parsed
  | _ => []

/-- `dto/claude.go::ClaudeMessage`. -/
structure ClaudeMessage where
  role : String
  content : ClaudeContent

/-- `dto/claude.go::Tool`. -/
structure Tool where
  name : String
  description : String
  inputSchema : Option Json

/-- `dto/claude.go::Thinking`. -/
structure Thinking where
  type : String
  budgetTokens : Option Int

/-- `dto/claude.go::ClaudeRequest`, the fields that the conversion reads. `tools` is what
the parser makes of the tools, `efforts` what `GetEfforts` reads. -/
structure ClaudeRequest where
  model : String
  system : Option ClaudeContent
  messages : List ClaudeMessage
  maxTokens : Option Nat
  stopSequences : List String
  temperature : Option Rat
  topP : Option Rat
  topK : Option Int
  stream : Option Bool
  tools : List Tool
  thinking : Option Thinking
  efforts : String

/-- `relay/common/relay_info.go::RelayInfo`, the fields that the conversion reads. -/
structure RelayInfo where
  isOpenRouter : Bool
  originModelName : String
  upstreamModelName : String

/-- `dto/openai_request.go::MediaContent`; of an image its address. -/
structure MediaContent where
  type : String
  text : String
  imageUrl : Option String
  cacheControl : Option Json

/-- `dto/openai_request.go::FunctionRequest`; the arguments are a JSON text. -/
structure FunctionRequest where
  name : String
  description : String
  parameters : Option Json
  arguments : Option Json

/-- `dto/openai_request.go::ToolCallRequest`. -/
structure ToolCallRequest where
  id : String
  type : String
  function : FunctionRequest

/-- What `SetStringContent` and `SetMediaContent` set. -/
inductive MessageContent where
  | string (text : String)
  | encoded (value : Json)
  | media (parts : List MediaContent)

/-- `dto/openai_request.go::Message`. -/
structure Message where
  role : String
  content : Option MessageContent
  name : Option String
  toolCalls : List ToolCallRequest
  toolCallId : String

def Message.ofRole (role : String) : Message := ⟨role, none, none, [], ""⟩

/-- `len(m.ParseContent()) > 0`. -/
def Message.hasContent (message : Message) : Bool :=
  match message.content with
  | none => false
  | some (.media parts) => !parts.isEmpty
  | some _ => true

/-- `relay/channel/openrouter/dto.go::RequestReasoning`. -/
structure RequestReasoning where
  enabled : Bool
  maxTokens : Int

inductive Stop where
  | single (sequence : String)
  | several (sequences : List String)

/-- `dto/openai_request.go::GeneralOpenAIRequest`, the fields that the conversion sets. -/
structure GeneralOpenAIRequest where
  model : String
  messages : List Message
  stream : Option Bool
  maxTokens : Option Nat
  temperature : Option Rat
  topP : Option Rat
  topK : Option Int
  stop : Option Stop
  tools : List ToolCallRequest
  verbosity : Option Json
  reasoning : Option RequestReasoning

/-- How a conversion ends without a request: with an error, or in a panic where a block
of the type `image` has no source. -/
inductive Failure where
  | error (reason : String)
  | nilSource

/-- The kinds of blocks that `service/convert.go::ClaudeToOpenAIRequest` tells apart. -/
inductive Kind where
  | text | image | toolUse | toolResult
  deriving DecidableEq

def ClaudeMediaMessage.kind (block : ClaudeMediaMessage) : Option Kind :=
  if block.type = "text" ∨ block.type = "input_text" then some .text
  else if block.type = "image" then some .image
  else if block.type = "tool_use" then some .toolUse
  else if block.type = "tool_result" then some .toolResult
  else none

section Conversion
variable (codec : Codec) (request : ClaudeRequest) (info : RelayInfo)

/-- `dto/claude.go::ClaudeRequest.SearchToolNameByToolCallId`. -/
def searchToolNameByToolCallId (toolCallId : String) : String :=
  match (request.messages.flatMap (·.content.parsed)).find? (·.id = toolCallId) with
  | some block => block.name
  | none => ""

/-- `fmt.Sprintf("%s", data)`. -/
def sprintData : Option Json → String
  | none => "%!s(<nil>)"
  | some (.string text) => text
  | some other => codec.printed other

def ClaudeMessageSource.imageData (source : ClaudeMessageSource) : String :=
  "data:" ++ source.mediaType ++ ";base64," ++ sprintData codec source.data

def textPart (block : ClaudeMediaMessage) : MediaContent :=
  ⟨"text", block.getText, none, block.cacheControl⟩

def imagePart (source : ClaudeMessageSource) : MediaContent :=
  ⟨"image_url", "", some (source.imageData codec), none⟩

def toolCall (block : ClaudeMediaMessage) : ToolCallRequest :=
  ⟨block.id, "function", ⟨block.name, "", none, some (block.input.getD .null)⟩⟩

def toolResultContent (block : ClaudeMediaMessage) : MessageContent :=
  if block.isStringContent then .string block.getStringContent
  else .encoded (codec.reencode (block.content.getD .null))

def toolMessage (block : ClaudeMediaMessage) : Message where
  role := "tool"
  content := some (toolResultContent codec block)
  name := some (if block.name = "" then searchToolNameByToolCallId request block.toolUseId else block.name)
  toolCalls := []
  toolCallId := block.toolUseId

structure Parts where
  openAIMessages : List Message
  toolCalls : List ToolCallRequest
  mediaMessages : List MediaContent

def convertBlock (parts : Parts) (block : ClaudeMediaMessage) : Except Failure Parts :=
  match block.kind with
  | some .text => .ok { parts with mediaMessages := parts.mediaMessages ++ [textPart block] }
  | some .image =>
    match block.source with
    | none => .error .nilSource
    | some source =>
      .ok { parts with mediaMessages := parts.mediaMessages ++ [imagePart codec source] }
  | some .toolUse => .ok { parts with toolCalls := parts.toolCalls ++ [toolCall block] }
  | some .toolResult => .ok { parts with
      openAIMessages := parts.openAIMessages ++ [toolMessage codec request block] }
  | none => .ok parts

def ownMessage (role : String) (parts : Parts) : Message :=
  { Message.ofRole role with
    toolCalls := parts.toolCalls
    content := if parts.mediaMessages ≠ [] ∧ parts.toolCalls = []
      then some (.media parts.mediaMessages) else none }

def appendFilled (messages : List Message) (message : Message) : List Message :=
  if message.hasContent || !message.toolCalls.isEmpty then messages ++ [message] else messages

def convertMessage (openAIMessages : List Message) (message : ClaudeMessage) :
    Except Failure (List Message) :=
  match message.content with
  | .string text =>
    .ok (appendFilled openAIMessages { Message.ofRole message.role with content := some (.string text) })
  | .unreadable reason => .error (.error reason)
  | .blocks blocks =>
    match blocks.foldlM (convertBlock codec request) ⟨openAIMessages, [], []⟩ with
    | .error failure => .error failure
    | .ok parts => .ok (appendFilled parts.openAIMessages (ownMessage message.role parts))

/-- The part of `ClaudeToOpenAIRequest` that adds the system message. -/
def systemMessages : List Message :=
  match request.system with
  | none => []
  | some (.string text) =>
    if text = "" then [] else [{ Message.ofRole "system" with content := some (.string text) }]
  | some other =>
    if other.parsed = [] then []
    else if info.isOpenRouter && hasPrefix info.upstreamModelName "anthropic/claude" then
      [{ Message.ofRole "system" with content := some (.media (other.parsed.map textPart)) }]
    else [{ Message.ofRole "system" with
      content := some (.string (String.join (other.parsed.filterMap (·.text)))) }]

def convertedModel : String :=
  if !info.isOpenRouter && hasSuffix info.originModelName "-thinking" &&
      !hasSuffix request.model "-thinking"
  then request.model ++ "-thinking" else request.model

def convertedStop : Option Stop :=
  match request.stopSequences with
  | [] => none
  | [sequence] => some (.single sequence)
  | sequences => some (.several sequences)

def convertedTool (tool : Tool) : ToolCallRequest :=
  ⟨"", "function", ⟨tool.name, tool.description, tool.inputSchema, none⟩⟩

def convertedReasoning (thinking : Thinking) : RequestReasoning :=
  if thinking.type = "enabled" then ⟨true, thinking.budgetTokens.getD 0⟩
  else if thinking.type = "adaptive" then ⟨true, 0⟩
  else ⟨false, 0⟩

/-- `service/convert.go::ClaudeToOpenAIRequest`. -/
def claudeToOpenAIRequest : Except Failure GeneralOpenAIRequest :=
  match request.messages.foldlM (convertMessage codec request) (systemMessages request info) with
  | .error failure => .error failure
  | .ok messages => .ok {
    model := convertedModel request info
    messages
    stream := request.stream
    maxTokens := request.maxTokens
    temperature := request.temperature
    topP := request.topP
    topK := request.topK
    stop := convertedStop request
    tools := request.tools.map convertedTool
    verbosity := if info.isOpenRouter && request.efforts ≠ "" then some (.string request.efforts) else none
    reasoning := if info.isOpenRouter then request.thinking.map convertedReasoning else none }

end Conversion

/-! ## What the messages say -/

inductive Written where
  | text (text : String)
  | value (value : Json)

inductive Piece where
  | text (text : String)
  | image (address : Option String)
  | call (id name : String) (arguments : Json)
  | result (toolUseId : String) (content : Written)

def Piece.kind : Piece → Kind
  | .text _ => .text
  | .image _ => .image
  | .call .. => .toolUse
  | .result .. => .toolResult

def ClaudeMessageSource.address (source : ClaudeMessageSource) : Option String :=
  if source.url ≠ "" then some source.url
  else match source.data with
    | some (.string data) => some ("data:" ++ source.mediaType ++ ";base64," ++ data)
    | _ => none

def ClaudeMediaMessage.written (block : ClaudeMediaMessage) : Written :=
  match block.content with
  | some (.string text) => .text text
  | content => .value (content.getD .null)

def ClaudeMediaMessage.piece (block : ClaudeMediaMessage) : Option Piece :=
  block.kind.map fun
    | .text => .text block.getText
    | .image => .image (block.source.bind (·.address))
    | .toolUse => .call block.id block.name (block.input.getD .null)
    | .toolResult => .result block.toolUseId block.written

def ClaudeMessage.pieces (message : ClaudeMessage) : List Piece :=
  match message.content with
  | .string text => [.text text]
  | content => content.parsed.filterMap (·.piece)

def MediaContent.piece (part : MediaContent) : Piece :=
  if part.type = "image_url" then .image part.imageUrl else .text part.text

def ToolCallRequest.piece (call : ToolCallRequest) : Piece :=
  .call call.id call.function.name (call.function.arguments.getD .null)

def Message.pieces (message : Message) : List Piece :=
  match message.name, message.content with
  | some _, some (.string text) => [.result message.toolCallId (.text text)]
  | some _, some (.encoded value) => [.result message.toolCallId (.value value)]
  | none, some (.string text) => .text text :: message.toolCalls.map (·.piece)
  | none, some (.media parts) => parts.map (·.piece) ++ message.toolCalls.map (·.piece)
  | _, _ => message.toolCalls.map (·.piece)

def LosesNothing (codec : Codec) (request : ClaudeRequest) (info : RelayInfo) : Prop :=
  ∃ made, claudeToOpenAIRequest codec request info = .ok made ∧
    made.messages.flatMap Message.pieces =
      (systemMessages request info).flatMap Message.pieces ++ request.messages.flatMap ClaudeMessage.pieces

/-! ## What is carried -/

def ClaudeMessageSource.Inline (codec : Codec) (source : ClaudeMessageSource) : Prop :=
  if source.url = "" then ∃ data, source.data = some (.string data)
  else source.url = source.imageData codec

def ClaudeMediaMessage.Kept (codec : Codec) (block : ClaudeMediaMessage) : Prop :=
  match block.kind with
  | some .image => ∃ source, block.source = some source ∧ source.Inline codec
  | some .toolResult => block.isStringContent = false →
      codec.reencode (block.content.getD .null) = block.content.getD .null
  | _ => True

def kindsOf (blocks : List ClaudeMediaMessage) : List Kind := blocks.filterMap (·.kind)

def Kind.isMedia : Kind → Bool
  | .text | .image => true
  | _ => false

structure Carried (codec : Codec) (blocks : List ClaudeMediaMessage) : Prop where
  kept : ∀ block ∈ blocks, block.Kept codec
  apart : .toolUse ∈ kindsOf blocks → ∀ kind ∈ kindsOf blocks, kind.isMedia = false
  resultsFirst : (kindsOf blocks).Pairwise fun earlier later =>
    later = .toolResult → earlier = .toolResult

/-! ## A message of blocks -/

def ClaudeMediaMessage.emitted (codec : Codec) (block : ClaudeMediaMessage) : Option Piece :=
  block.kind.map fun
    | .text => .text block.getText
    | .image => .image (block.source.map (·.imageData codec))
    | .toolUse => .call block.id block.name (block.input.getD .null)
    | .toolResult => .result block.toolUseId
        (if block.isStringContent then .text block.getStringContent
          else .value (codec.reencode (block.content.getD .null)))

def ClaudeMediaMessage.Sourced (block : ClaudeMediaMessage) : Prop :=
  block.kind = some .image → block.source ≠ none

variable {codec : Codec} {request : ClaudeRequest} {info : RelayInfo}
  {block : ClaudeMediaMessage} {blocks : List ClaudeMediaMessage} {parts next : Parts}
  {before done pieces : List Piece} {messages later : List Message}

theorem address_is_data_iff (source : ClaudeMessageSource) :
    source.address = some (source.imageData codec) ↔ source.Inline codec := by
  unfold ClaudeMessageSource.address ClaudeMessageSource.Inline
  by_cases bare : source.url = ""
  · rw [if_neg (by simpa using bare), if_pos bare, ClaudeMessageSource.imageData]
    split
    next data found =>
      rw [found]
      exact ⟨fun _ => ⟨data, rfl⟩, fun _ => rfl⟩
    next other =>
      refine ⟨fun same => (by cases same), fun ⟨data, found⟩ => ?_⟩
      exact absurd found (other data)
  · rw [if_pos bare, if_neg bare, Option.some.injEq]

theorem written_string (isText : block.isStringContent = true) :
    block.written = .text block.getStringContent := by
  unfold ClaudeMediaMessage.isStringContent at isText
  split at isText
  next text found =>
    unfold ClaudeMediaMessage.written ClaudeMediaMessage.getStringContent
    rw [found]
  next => cases isText

theorem written_value (isText : block.isStringContent = false) :
    block.written = .value (block.content.getD .null) := by
  unfold ClaudeMediaMessage.isStringContent at isText
  split at isText
  next => cases isText
  next other =>
    unfold ClaudeMediaMessage.written
    split
    next text found => exact absurd found (other text)
    next => rfl

theorem kept_iff : block.Kept codec ↔ block.Sourced ∧ block.emitted codec = block.piece := by
  unfold ClaudeMediaMessage.Kept ClaudeMediaMessage.Sourced ClaudeMediaMessage.emitted
    ClaudeMediaMessage.piece
  cases block.kind with
  | none => simp
  | some kind =>
    cases kind with
    | text | toolUse => simp
    | image =>
      cases found : block.source with
      | none => simp
      | some source =>
        simp only [Option.some.injEq, exists_eq_left', Option.map_some, Option.bind_some,
          Piece.image.injEq, ne_eq, reduceCtorEq, not_false_eq_true, forall_const, true_and]
        exact (address_is_data_iff source).symm.trans eq_comm
    | toolResult =>
      cases isText : block.isStringContent with
      | true => simp [written_string isText]
      | false => simp [written_value isText]

theorem emitted_kind : (block.emitted codec).map Piece.kind = block.kind := by
  unfold ClaudeMediaMessage.emitted
  cases block.kind with
  | none => rfl
  | some kind => cases kind <;> rfl

theorem piece_kind : block.piece.map Piece.kind = block.kind := by
  unfold ClaudeMediaMessage.piece
  cases block.kind with
  | none => rfl
  | some kind => cases kind <;> rfl

/-- What the loop carries over from the blocks says `pieces`, class by class, and what
was appended before it says `before`. -/
structure Parts.Tells (parts : Parts) (before pieces : List Piece) : Prop where
  results : parts.openAIMessages.flatMap Message.pieces = before ++ pieces.filter (·.kind = .toolResult)
  calls : parts.toolCalls.map ToolCallRequest.piece = pieces.filter (·.kind = .toolUse)
  media : parts.mediaMessages.map MediaContent.piece = pieces.filter (·.kind.isMedia)

theorem tool_message_pieces : (toolMessage codec request block).pieces =
    [.result block.toolUseId (if block.isStringContent then .text block.getStringContent
      else .value (codec.reencode (block.content.getD .null)))] := by
  unfold toolMessage toolResultContent Message.pieces
  cases block.isStringContent <;> rfl

theorem convert_block_tells (tells : parts.Tells before done)
    (made : convertBlock codec request parts block = .ok next) :
    next.Tells before (done ++ (block.emitted codec).toList) := by
  obtain ⟨results, calls, media⟩ := tells
  unfold convertBlock at made
  unfold ClaudeMediaMessage.emitted
  cases sort : block.kind with
  | none =>
    rw [sort] at made
    obtain rfl := Except.ok.inj made
    simpa using ⟨results, calls, media⟩
  | some kind =>
    rw [sort] at made
    cases kind with
    | text =>
      obtain rfl := Except.ok.inj made
      refine ⟨?_, ?_, ?_⟩
      · simp [results, Piece.kind]
      · simp [calls, Piece.kind]
      · simp [media, Piece.kind, Kind.isMedia, textPart, MediaContent.piece]
    | image =>
      cases found : block.source with
      | none => rw [found] at made; cases made
      | some source =>
        rw [found] at made
        obtain rfl := Except.ok.inj made
        refine ⟨?_, ?_, ?_⟩
        · simp [results, Piece.kind]
        · simp [calls, Piece.kind]
        · simp [media, Piece.kind, Kind.isMedia, imagePart, MediaContent.piece]
    | toolUse =>
      obtain rfl := Except.ok.inj made
      refine ⟨?_, ?_, ?_⟩
      · simp [results, Piece.kind]
      · simp [calls, Piece.kind, toolCall, ToolCallRequest.piece]
      · simp [media, Piece.kind, Kind.isMedia]
    | toolResult =>
      obtain rfl := Except.ok.inj made
      refine ⟨?_, ?_, ?_⟩
      · simp [results, Piece.kind, tool_message_pieces]
      · simp [calls, Piece.kind]
      · simp [media, Piece.kind, Kind.isMedia]

theorem convert_block_ok_iff :
    (∃ next, convertBlock codec request parts block = .ok next) ↔ block.Sourced := by
  unfold convertBlock ClaudeMediaMessage.Sourced
  cases block.kind with
  | none => simp
  | some kind =>
    cases kind with
    | text | toolUse | toolResult => simp
    | image => cases block.source <;> simp

theorem convert_blocks_tells (tells : parts.Tells before done)
    (made : blocks.foldlM (convertBlock codec request) parts = .ok next) :
    next.Tells before (done ++ blocks.filterMap (·.emitted codec)) := by
  rw [List.filterMap_eq_flatMap_toList]
  exact loop_tells (Parts.Tells · before) (fun _ _ _ _ => convert_block_tells) tells made

theorem convert_blocks_ok_iff :
    (∃ next, blocks.foldlM (convertBlock codec request) parts = .ok next) ↔
      ∀ block ∈ blocks, block.Sourced :=
  loop_ends_iff fun _ _ => convert_block_ok_iff

def arranged (pieces : List Piece) : List Piece :=
  pieces.filter (·.kind = .toolResult) ++
    if pieces.any (·.kind = .toolUse) then pieces.filter (·.kind = .toolUse)
    else pieces.filter (·.kind.isMedia)

theorem length_by_kinds (pieces : List Piece) :
    pieces.length = (pieces.filter (·.kind = .toolResult)).length +
      (pieces.filter (·.kind = .toolUse)).length +
      (pieces.filter (·.kind.isMedia)).length := by
  induction pieces with
  | nil => rfl
  | cons piece rest ih =>
    rw [List.length_cons, ih, List.filter_cons, List.filter_cons, List.filter_cons]
    cases piece.kind with
    | text | image => simpa [Kind.isMedia] using Nat.add_assoc _ _ 1
    | toolUse | toolResult => simp [Kind.isMedia]; omega

theorem arranged_length_le (pieces : List Piece) : (arranged pieces).length ≤ pieces.length := by
  rw [length_by_kinds pieces, arranged, List.length_append]
  split <;> omega

theorem apart_of_length (whole : (arranged pieces).length = pieces.length) :
    .toolUse ∈ pieces.map Piece.kind → ∀ kind ∈ pieces.map Piece.kind, kind.isMedia = false := by
  intro called kind listed
  obtain ⟨call, member, isCall⟩ := List.mem_map.1 called
  obtain ⟨piece, present, rfl⟩ := List.mem_map.1 listed
  have some_ : (pieces.any (·.kind = .toolUse)) = true :=
    List.any_eq_true.2 ⟨call, member, by simpa using isCall⟩
  rw [length_by_kinds pieces, arranged, if_pos some_, List.length_append] at whole
  have gone : pieces.filter (·.kind.isMedia) = [] := List.eq_nil_of_length_eq_zero (by omega)
  exact Bool.eq_false_iff.2 (List.filter_eq_nil_iff.1 gone piece present)

theorem arranged_apart (apart : .toolUse ∈ pieces.map Piece.kind →
      ∀ kind ∈ pieces.map Piece.kind, kind.isMedia = false) :
    arranged pieces = pieces.filter (·.kind = .toolResult) ++
      pieces.filter (fun piece => !decide (piece.kind = .toolResult)) := by
  unfold arranged
  congr 1
  split
  next called =>
    obtain ⟨call, member, isCall⟩ := List.any_eq_true.1 called
    have silent := apart (List.mem_map.2 ⟨call, member, by simpa using isCall⟩)
    refine List.filter_congr fun piece present => ?_
    have other := silent _ (List.mem_map_of_mem present)
    cases kind : piece.kind <;> simp_all [Kind.isMedia]
  next called =>
    refine List.filter_congr fun piece present => ?_
    have other : piece.kind ≠ .toolUse := fun same =>
      called (List.any_eq_true.2 ⟨piece, present, by simpa using same⟩)
    cases kind : piece.kind <;> simp_all [Kind.isMedia]

theorem arranged_filter (apart : .toolUse ∈ pieces.map Piece.kind →
      ∀ kind ∈ pieces.map Piece.kind, kind.isMedia = false) (kind : Kind) :
    (arranged pieces).filter (·.kind = kind) = pieces.filter (·.kind = kind) := by
  rw [arranged_apart apart, List.filter_append, List.filter_filter, List.filter_filter]
  by_cases isResult : kind = .toolResult
  · have nothing : pieces.filter (fun piece => decide (piece.kind = kind) &&
        !decide (piece.kind = .toolResult)) = [] := by
      rw [List.filter_eq_nil_iff]
      simp [isResult]
    rw [nothing, List.append_nil]
    simp [isResult]
  · have nothing : pieces.filter (fun piece => decide (piece.kind = kind) &&
        decide (piece.kind = .toolResult)) = [] := by
      rw [List.filter_eq_nil_iff]
      intro piece _ both
      simp only [Bool.and_eq_true, decide_eq_true_eq] at both
      exact isResult (both.1.symm.trans both.2)
    rw [nothing, List.nil_append]
    refine List.filter_congr fun piece _ => ?_
    by_cases here : piece.kind = kind <;> simp [here, isResult]

theorem arranged_eq_iff (kinds : said.map Piece.kind = pieces.map Piece.kind) :
    arranged said = pieces ↔ said = pieces ∧
      (.toolUse ∈ pieces.map Piece.kind → ∀ kind ∈ pieces.map Piece.kind, kind.isMedia = false) ∧
      (pieces.map Piece.kind).Pairwise fun earlier later =>
        later = .toolResult → earlier = .toolResult := by
  have parted := parted_iff (fun piece : Piece => decide (piece.kind = .toolResult)) pieces
  simp only [decide_eq_true_eq] at parted
  rw [List.pairwise_map, ← parted]
  constructor
  · intro same
    have whole : (arranged said).length = said.length := by
      rw [same, ← List.length_map Piece.kind, ← kinds, List.length_map]
    have apart := apart_of_length whole
    obtain rfl : said = pieces := by
      refine same_classes Piece.kind kinds fun kind => ?_
      rw [← arranged_filter apart kind, same]
    exact ⟨rfl, apart, (arranged_apart apart).symm.trans same⟩
  · rintro ⟨rfl, apart, sorted⟩
    exact (arranged_apart apart).trans sorted

/-! ## The conversation -/

def ClaudeMessage.emitted (codec : Codec) (message : ClaudeMessage) : List Piece :=
  match message.content with
  | .string text => [.text text]
  | content => arranged (content.parsed.filterMap (·.emitted codec))

def ClaudeMessage.Readable (message : ClaudeMessage) : Prop :=
  ∀ reason, message.content ≠ .unreadable reason

variable {message : ClaudeMessage}

theorem filled_pieces (own : Message) (plain : own.name = none) :
    (appendFilled messages own).flatMap Message.pieces = messages.flatMap Message.pieces ++ own.pieces := by
  unfold appendFilled
  split
  next => simp
  next empty =>
    have silent : own.pieces = [] := by
      simp only [Bool.or_eq_true, Bool.not_eq_true', not_or, Bool.not_eq_true,
        Bool.not_eq_false, List.isEmpty_iff] at empty
      obtain ⟨nothing, noCalls⟩ := empty
      unfold Message.hasContent at nothing
      unfold Message.pieces
      rw [plain, noCalls]
      split at nothing
      next found => rw [found]; rfl
      next parts found =>
        rw [Bool.not_eq_false', List.isEmpty_iff] at nothing
        rw [found, nothing]
        rfl
      next => cases nothing
    rw [silent, List.append_nil]

theorem own_message_pieces (tells : parts.Tells before pieces) :
    (ownMessage role parts).pieces =
      if pieces.any (·.kind = .toolUse) then pieces.filter (·.kind = .toolUse)
      else pieces.filter (·.kind.isMedia) := by
  have called : pieces.any (·.kind = .toolUse) = true ↔ parts.toolCalls ≠ [] := by
    rw [ne_eq, ← List.map_eq_nil_iff (f := ToolCallRequest.piece), tells.calls,
      List.filter_eq_nil_iff, List.any_eq_true]
    simp
  unfold ownMessage Message.pieces Message.ofRole
  by_cases some_ : parts.toolCalls = []
  · rw [if_neg (fun other => called.1 other some_), ← tells.media]
    by_cases full : parts.mediaMessages = []
    · simp [full, some_]
    · simp [full, some_]
  · rw [if_pos (called.2 some_), ← tells.calls]
    simp [some_]

theorem convert_message_tells (made : convertMessage codec request messages message = .ok later) :
    later.flatMap Message.pieces = messages.flatMap Message.pieces ++ message.emitted codec := by
  unfold convertMessage at made
  unfold ClaudeMessage.emitted
  cases sort : message.content with
  | string text =>
    rw [sort] at made
    obtain rfl := Except.ok.inj made
    exact filled_pieces _ rfl
  | unreadable reason => rw [sort] at made; cases made
  | blocks blocks =>
    rw [sort] at made
    dsimp only at made
    split at made
    next => cases made
    next parts run =>
      obtain rfl := Except.ok.inj made
      have start : Parts.Tells ⟨messages, [], []⟩ (messages.flatMap Message.pieces) [] :=
        ⟨by simp, rfl, rfl⟩
      have tells := convert_blocks_tells start run
      rw [filled_pieces _ rfl, own_message_pieces tells, tells.results, List.append_assoc]
      rfl

theorem convert_message_ok_iff :
    (∃ later, convertMessage codec request messages message = .ok later) ↔
      message.Readable ∧ ∀ block ∈ message.content.parsed, block.Sourced := by
  unfold convertMessage ClaudeMessage.Readable
  cases sort : message.content with
  | string text => simp [ClaudeContent.parsed]
  | unreadable reason => simp
  | blocks blocks =>
    have runs : (∃ next, blocks.foldlM (convertBlock codec request) ⟨messages, [], []⟩ =
        .ok next) ↔ ∀ block ∈ blocks, block.Sourced := convert_blocks_ok_iff
    rw [ClaudeContent.parsed, ← runs]
    dsimp only
    cases blocks.foldlM (convertBlock codec request) ⟨messages, [], []⟩ with
    | error | ok => simp

theorem convert_messages_tell {turns : List ClaudeMessage}
    (made : turns.foldlM (convertMessage codec request) messages = .ok later) :
    later.flatMap Message.pieces = messages.flatMap Message.pieces ++ turns.flatMap (·.emitted codec) := by
  refine loop_tells (fun state told => state.flatMap Message.pieces = told)
    (fun state before turn next told made => ?_) rfl made
  rw [convert_message_tells made, told]

theorem convert_messages_ok_iff {turns : List ClaudeMessage} :
    (∃ later, turns.foldlM (convertMessage codec request) messages = .ok later) ↔
      ∀ turn ∈ turns, turn.Readable ∧ ∀ block ∈ turn.content.parsed, block.Sourced :=
  loop_ends_iff fun _ _ => convert_message_ok_iff

theorem filter_map_kinds {read : ClaudeMediaMessage → Option Piece}
    (kinds : ∀ block, (read block).map Piece.kind = block.kind) :
    (blocks.filterMap read).map Piece.kind = kindsOf blocks := by
  rw [List.map_filterMap, kindsOf]
  exact List.filterMap_congr fun block _ => kinds block

theorem emitted_length_le (message : ClaudeMessage) :
    (message.emitted codec).length ≤ message.pieces.length := by
  unfold ClaudeMessage.emitted ClaudeMessage.pieces
  split
  next => exact Nat.le_refl _
  next =>
    refine (arranged_length_le _).trans (Nat.le_of_eq ?_)
    rw [← List.length_map Piece.kind, filter_map_kinds fun _ => emitted_kind,
      ← filter_map_kinds fun _ => piece_kind, List.length_map]

theorem message_carried_iff :
    ((∀ block ∈ message.content.parsed, block.Sourced) ∧
      message.emitted codec = message.pieces) ↔ Carried codec message.content.parsed := by
  have blockwise (blocks : List ClaudeMediaMessage) :
      ((∀ block ∈ blocks, block.Sourced) ∧
        arranged (blocks.filterMap (·.emitted codec)) = blocks.filterMap (·.piece)) ↔
          Carried codec blocks := by
    have emittedKinds : (blocks.filterMap (·.emitted codec)).map Piece.kind = kindsOf blocks :=
      filter_map_kinds fun _ => emitted_kind
    have pieceKinds : (blocks.filterMap (·.piece)).map Piece.kind = kindsOf blocks :=
      filter_map_kinds fun _ => piece_kind
    have same : ∀ block ∈ blocks, (block.emitted codec).isSome = block.piece.isSome := by
      intro block _
      rw [← Option.isSome_map (f := Piece.kind), emitted_kind, ← piece_kind, Option.isSome_map]
    rw [arranged_eq_iff (emittedKinds.trans pieceKinds.symm), filter_map_same_iff same, pieceKinds]
    constructor
    · rintro ⟨sourced, kept, apart, sorted⟩
      exact ⟨fun block listed => kept_iff.2 ⟨sourced block listed, kept block listed⟩, apart, sorted⟩
    · rintro ⟨kept, apart, sorted⟩
      exact ⟨fun block listed => (kept_iff.1 (kept block listed)).1,
        fun block listed => (kept_iff.1 (kept block listed)).2, apart, sorted⟩
  unfold ClaudeMessage.emitted ClaudeMessage.pieces
  cases message.content with
  | string text =>
    have nothing : Carried codec [] := ⟨by simp, by simp [kindsOf], .nil⟩
    simp [ClaudeContent.parsed, nothing]
  | blocks blocks => exact blockwise blocks
  | unreadable reason => exact blockwise []

/-- A conversion of messages that are texts or lists of blocks loses nothing exactly
when the blocks of every message are carried. -/
theorem loses_nothing_iff (readable : ∀ message ∈ request.messages, message.Readable) :
    LosesNothing codec request info ↔
      ∀ message ∈ request.messages, Carried codec message.content.parsed := by
  unfold LosesNothing claudeToOpenAIRequest
  have runs : (∃ later, request.messages.foldlM (convertMessage codec request)
      (systemMessages request info) = .ok later) ↔ ∀ message ∈ request.messages,
        message.Readable ∧ ∀ block ∈ message.content.parsed, block.Sourced :=
    convert_messages_ok_iff
  cases run : request.messages.foldlM (convertMessage codec request) (systemMessages request info) with
  | error failure =>
    rw [run] at runs
    simp only [reduceCtorEq, exists_false, false_iff] at runs
    simp only [reduceCtorEq, false_and, exists_false, false_iff]
    exact fun carried => runs fun message listed =>
      ⟨readable message listed, (message_carried_iff.2 (carried message listed)).1⟩
  | ok messages =>
    have fine := runs.1 ⟨messages, run⟩
    simp only [Except.ok.injEq, exists_eq_left']
    rw [convert_messages_tell run, List.append_cancel_left_eq,
      flat_map_same_iff fun message _ => emitted_length_le message]
    exact forall₂_congr fun message listed =>
      ⟨fun same => message_carried_iff.1 ⟨(fine message listed).2, same⟩,
        fun carried => (message_carried_iff.2 carried).2⟩

def emptyBlock : ClaudeMediaMessage := ⟨"", none, none, none, "", "", none, none, ""⟩

def emptyRequest : ClaudeRequest :=
  ⟨"claude-sonnet-4", none, [], none, [], none, none, none, none, [], none, ""⟩

def plainChannel : RelayInfo := ⟨false, "claude-sonnet-4", "gpt-4o"⟩

def plainCodec : Codec := ⟨fun _ => "map[]", id⟩

def photoCall : ClaudeMediaMessage :=
  { emptyBlock with
    type := "tool_use", id := "toolu_1", name := "get_photo", input := some (.object []) }

def answeredCall : ClaudeRequest :=
  { emptyRequest with messages := [
    ⟨"assistant", .blocks [photoCall]⟩,
    ⟨"user", .blocks [
      { emptyBlock with
        type := "tool_result", toolUseId := "toolu_1", content := some (.string "attached") },
      { emptyBlock with type := "text", text := some "What is this?" },
      { emptyBlock with
        type := "image"
        source := some ⟨"base64", "image/png", some (.string "iVBORw0KGgo="), ""⟩ }]⟩] }

theorem answered_call_kept : LosesNothing plainCodec answeredCall plainChannel := by
  refine (loses_nothing_iff ?_).2 ?_
  · simp [answeredCall, ClaudeMessage.Readable]
  · intro message listed
    rcases List.mem_cons.1 listed with rfl | listed
    · exact ⟨List.forall_mem_singleton.2 trivial, by decide, List.pairwise_singleton _ _⟩
    · obtain rfl := List.mem_singleton.1 listed
      refine ⟨?_, by decide, by decide⟩
      refine List.forall_mem_cons.2 ⟨fun isText => (by cases isText), ?_⟩
      refine List.forall_mem_cons.2 ⟨trivial, List.forall_mem_singleton.2 ?_⟩
      exact ⟨_, rfl, _, rfl⟩

def announcedCall : ClaudeRequest :=
  { emptyRequest with messages := [
    ⟨"assistant", .blocks [ { emptyBlock with type := "text", text := some "Let me look." }, photoCall]⟩] }

/-- The text is dropped. -/
theorem announced_call_lost : (∀ message ∈ announcedCall.messages, message.Readable) ∧
    ¬ LosesNothing plainCodec announcedCall plainChannel := by
  refine ⟨by simp [announcedCall, ClaudeMessage.Readable], ?_⟩
  rintro ⟨made, run, same⟩
  obtain rfl := Except.ok.inj run
  have counts : 1 = 2 := congrArg List.length same
  cases counts

end NewApi.ClaudeToOpenAI
