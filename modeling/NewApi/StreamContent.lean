import NewApi.ClaudeStream

/-! What an answer says, on both sides of the conversion: its text, its reasoning
and its tool calls. The converter reads one piece of a chunk and leaves the rest:
text beside reasoning, anything beside tool calls, all but the first call of the
first chunk, and the whole of a finish chunk that has no usage. The answer comes
through where nothing is left that says something. -/
namespace NewApi.StreamContent
open NewApi.GuardedRun NewApi.BlockStream NewApi.ClaudeStream

/-! ## What the chunks say -/

def contentOf (chunk : Chunk) : String :=
  String.join (chunk.choices.map fun choice => choice.delta.getContentString)

def reasoningOf (chunk : Chunk) : String :=
  String.join (chunk.choices.map fun choice => choice.delta.getReasoningContent)

def indexedFrom : Nat → List ToolCallResponse → List (Int × ToolCallResponse)
  | _, [] => []
  | place, toolCall :: rest =>
    (callOffset place toolCall, toolCall) :: indexedFrom (place + 1) rest

def indexed (toolCalls : List ToolCallResponse) : List (Int × ToolCallResponse) :=
  indexedFrom 0 toolCalls

def callsOf (chunk : Chunk) : List (Int × ToolCallResponse) :=
  chunk.choices.flatMap fun choice => indexed choice.delta.toolCalls

def partsIn (index : Int) (calls : List (Int × ToolCallResponse)) : List ToolCallResponse :=
  (calls.filter fun call => call.1 = index).map Prod.snd

def partsOf (index : Int) (chunks : List Chunk) : List ToolCallResponse :=
  partsIn index (chunks.flatMap callsOf)

def joinArguments (parts : List ToolCallResponse) : String :=
  String.join (parts.map fun part => part.function.arguments)

def argumentsOf (index : Int) (chunks : List Chunk) : String :=
  joinArguments (partsOf index chunks)

def idOf (index : Int) (chunks : List Chunk) : String :=
  (((partsOf index chunks).map ToolCallResponse.id).find? (· ≠ "")).getD ""

def nameOf (index : Int) (chunks : List Chunk) : String :=
  (((partsOf index chunks).map fun part => part.function.name).find? (· ≠ "")).getD ""

def indices (chunks : List Chunk) : List Int := (chunks.flatMap callsOf).map Prod.fst

/-! ## What the events say -/

def deltas (sent : List ClaudeResponse) : List (Int × BlockDelta) :=
  sent.filterMap fun
    | .contentBlockDelta index delta => some (index, delta)
    | _ => none

def textIn : Int × BlockDelta → Option String
  | (_, .text text) => some text
  | _ => none

def thinkingIn : Int × BlockDelta → Option String
  | (_, .thinking thinking) => some thinking
  | _ => none

def inputJsonIn (block : Int) : Int × BlockDelta → Option String
  | (index, .inputJson json) => if index = block then some json else none
  | _ => none

def textDeltas (sent : List ClaudeResponse) : List String := (deltas sent).filterMap textIn

def thinkingDeltas (sent : List ClaudeResponse) : List String := (deltas sent).filterMap thinkingIn

def inputJsonDeltas (block : Int) (sent : List ClaudeResponse) : List String :=
  (deltas sent).filterMap (inputJsonIn block)

def announced (sent : List ClaudeResponse) : List (Int × String × String) :=
  sent.filterMap fun
    | .contentBlockStart index (.toolUse id name) => some (index, id, name)
    | _ => none

def toolUses (block : Int) (sent : List ClaudeResponse) : List (String × String) :=
  (announced sent).filterMap fun (index, head) => if index = block then some head else none

structure SameProse (chunks : List Chunk) (sent : List ClaudeResponse) : Prop where
  text : String.join (textDeltas sent) = String.join (chunks.map contentOf)
  thinking : String.join (thinkingDeltas sent) = String.join (chunks.map reasoningOf)

def SameCalls (chunks : List Chunk) (sent : List ClaudeResponse) : Prop :=
  ∃ block : Int → Int,
    (∀ first ∈ indices chunks, ∀ second ∈ indices chunks, block first = block second → first = second) ∧
    (∀ index ∈ indices chunks,
      toolUses (block index) sent = [(idOf index chunks, nameOf index chunks)] ∧
      String.join (inputJsonDeltas (block index) sent) = argumentsOf index chunks) ∧
    ∀ other, (∀ index ∈ indices chunks, block index ≠ other) →
      toolUses other sent = [] ∧ String.join (inputJsonDeltas other sent) = ""

/-! ## What is read -/

def ReadsProse (stream : Stream) (chunk : Chunk) (choice : Choice) : Prop :=
  stream.info.claudeConvertInfo.done = false ∧
    (stream.info.sendResponseCount ≠ 0 →
      choice.delta.toolCalls = [] ∧ (choice.finishes → chunk.usage.isSome))

instance (stream : Stream) (chunk : Chunk) (choice : Choice) :
    Decidable (ReadsProse stream chunk choice) :=
  inferInstanceAs (Decidable (_ = false ∧
    (_ ≠ (0 : Int) → choice.delta.toolCalls = [] ∧ (choice.finishes = true → _ = true))))

def CarriesText (stream : Stream) (chunk : Chunk) : List Choice → Prop
  | [] => True
  | choice :: others =>
    (choice.delta.getContentString ≠ "" →
      ReadsProse stream chunk choice ∧ choice.delta.getReasoningContent = "") ∧
    ∀ other ∈ others, other.delta.getContentString = ""

def CarriesThinking (stream : Stream) (chunk : Chunk) : List Choice → Prop
  | [] => True
  | choice :: others =>
    (choice.delta.getReasoningContent ≠ "" → ReadsProse stream chunk choice) ∧
    ∀ other ∈ others, other.delta.getReasoningContent = ""

instance decidableText (stream : Stream) (chunk : Chunk) :
    (choices : List Choice) → Decidable (CarriesText stream chunk choices)
  | [] => isTrue trivial
  | choice :: others => inferInstanceAs (Decidable ((choice.delta.getContentString ≠ "" →
      ReadsProse stream chunk choice ∧ choice.delta.getReasoningContent = "") ∧
        ∀ other ∈ others, other.delta.getContentString = ""))

instance decidableThinking (stream : Stream) (chunk : Chunk) :
    (choices : List Choice) → Decidable (CarriesThinking stream chunk choices)
  | [] => isTrue trivial
  | choice :: others => inferInstanceAs (Decidable ((choice.delta.getReasoningContent ≠ "" →
      ReadsProse stream chunk choice) ∧ ∀ other ∈ others, other.delta.getReasoningContent = ""))

def CarriesProse (stream : Stream) (chunk : Chunk) : Prop :=
  CarriesText stream chunk chunk.choices ∧ CarriesThinking stream chunk chunk.choices

instance (stream : Stream) (chunk : Chunk) : Decidable (CarriesProse stream chunk) :=
  inferInstanceAs (Decidable (CarriesText stream chunk chunk.choices ∧
    CarriesThinking stream chunk chunk.choices))

structure Read where
  index : Int
  block : Int
  opens : Bool
  call : ToolCallResponse
  deriving DecidableEq, Repr

def toolBase (c : ClaudeConvertInfo) : Int :=
  if c.lastMessagesType = .tools then c.toolCallBaseIndex else (advance c).index

def laterRead (base : Int) (call : Int × ToolCallResponse) : Read where
  index := call.1
  block := base + call.1
  opens := call.2.function.name ≠ ""
  call := call.2

def firstRead (call : Int × ToolCallResponse) : Read where
  index := call.1
  block := 0
  opens := true
  call := call.2

def readOf (stream : Stream) (chunk : Chunk) : List Read :=
  if stream.info.claudeConvertInfo.done then []
  else match chunk.choices with
    | [] => []
    | choice :: _ =>
      if stream.info.sendResponseCount = 0 then
        ((indexed choice.delta.toolCalls).take 1).map firstRead
      else if choice.finishes && chunk.usage.isNone then []
      else (indexed choice.delta.toolCalls).map (laterRead (toolBase stream.info.claudeConvertInfo))

def leftOf (stream : Stream) (chunk : Chunk) : List (Int × ToolCallResponse) :=
  if stream.info.claudeConvertInfo.done then callsOf chunk
  else match chunk.choices with
    | [] => []
    | choice :: others =>
      (if stream.info.sendResponseCount = 0 then (indexed choice.delta.toolCalls).drop 1
        else if choice.finishes && chunk.usage.isNone then indexed choice.delta.toolCalls
        else []) ++ others.flatMap fun other => indexed other.delta.toolCalls

def CarriesArguments (stream : Stream) (chunk : Chunk) : Prop :=
  ∀ call ∈ leftOf stream chunk, call.2.function.arguments = ""

instance (stream : Stream) (chunk : Chunk) : Decidable (CarriesArguments stream chunk) :=
  inferInstanceAs (Decidable (∀ call ∈ leftOf stream chunk, call.2.function.arguments = ""))

def reads : Stream → List Chunk → List Read
  | _, [] => []
  | stream, chunk :: rest => readOf stream chunk ++ reads (receive stream chunk) rest

def Read.head (read : Read) : String × String := (read.call.id, read.call.function.name)

def Read.Sends (read : Read) : Prop := read.opens = true ∨ read.call.function.arguments ≠ ""

instance (read : Read) : Decidable read.Sends := inferInstanceAs (Decidable (_ ∨ _))

/-- Where the tool calls come through: the arguments are all read, a call keeps
to one block and shares it with no other, and one of its parts opens the block
under its id and name. -/
structure CallsKept (stream : Stream) (chunks : List Chunk) : Prop where
  carried : Guarded receive CarriesArguments stream chunks
  placed : ∀ first ∈ reads stream chunks, ∀ second ∈ reads stream chunks,
    first.Sends → second.Sends → (first.index = second.index ↔ first.block = second.block)
  announced : ∀ index ∈ indices chunks,
    ((reads stream chunks).filter fun read => read.index = index ∧ read.opens).map Read.head =
      [(idOf index chunks, nameOf index chunks)]

/-! ## What the parts of the converter say -/

structure Says (sent : List ClaudeResponse) (said : List (Int × BlockDelta))
    (heads : List (Int × String × String)) : Prop where
  deltas : StreamContent.deltas sent = said
  announced : StreamContent.announced sent = heads

def proseAt (index : Int) (delta : Delta) : List (Int × BlockDelta) :=
  if delta.getReasoningContent ≠ "" then [(index, .thinking delta.getReasoningContent)]
  else if delta.getContentString ≠ "" then [(index, .text delta.getContentString)]
  else []

def Read.json (read : Read) : List (Int × BlockDelta) :=
  if read.call.function.arguments ≠ "" then
    [(read.block, .inputJson read.call.function.arguments)]
  else []

def Read.announcement (read : Read) : List (Int × String × String) :=
  if read.opens then [(read.block, read.head)] else []

section Parts

theorem say_nil : Says [] [] [] := ⟨rfl, rfl⟩

theorem Says.append (before : Says first said heads) (after : Says second added more) :
    Says (first ++ second) (said ++ added) (heads ++ more) := by
  constructor
  · rw [← before.deltas, ← after.deltas]
    exact List.filterMap_append
  · rw [← before.announced, ← after.announced]
    exact List.filterMap_append

theorem stops_say : Says (stopOpenBlocks c) [] [] := by
  unfold stopOpenBlocks
  cases c.lastMessagesType with
  | none | text | thinking => exact ⟨rfl, rfl⟩
  | tools =>
    constructor
    · simp [deltas, List.filterMap_map]
    · simp [announced, List.filterMap_map]

theorem close_say (usage : Option Usage) (stopReason : String) :
    Says (closeMessage usage stopReason) [] [] := by
  cases usage with
  | none | some => exact ⟨rfl, rfl⟩

theorem finish_say (chunk : Chunk) : Says (finish c chunk).1 [] [] :=
  stops_say.append (close_say _ _)

theorem later_block_say (type : LastMessageType) (delta : BlockDelta)
    (prose : block.kind ≠ .toolUse) :
    Says (laterBlock c type block delta).1 [((laterBlock c type block delta).2.index, delta)] [] := by
  have started : ∀ index, Says [.contentBlockStart index block] [] [] := by
    intro index
    cases block with
    | text | thinking => exact ⟨rfl, rfl⟩
    | toolUse id name => exact absurd rfl prose
  have one : ∀ index, Says [.contentBlockDelta index delta] [(index, delta)] [] :=
    fun _ => ⟨rfl, rfl⟩
  unfold laterBlock
  by_cases same : c.lastMessagesType = type
  · simpa [same] using one c.index
  · simpa [same] using (stops_say.append (started _)).append (one (advance c).index)

theorem later_prose_say (delta : Delta) :
    Says (laterProse c delta).1 (proseAt (laterProse c delta).2.index delta) [] := by
  unfold laterProse proseAt
  by_cases reasoning : delta.getReasoningContent = ""
  · by_cases content : delta.getContentString = ""
    · simpa [reasoning, content] using say_nil
    · simpa [reasoning, content] using later_block_say .text _ (by decide)
  · simpa [reasoning] using later_block_say .thinking _ (by decide)

theorem call_say (read : Read) (names : read.opens = decide (read.call.function.name ≠ "")) :
    Says (callEvents read.block read.call) read.json read.announcement := by
  have named : Says (if read.call.function.name ≠ "" then
      [.contentBlockStart read.block (.toolUse read.call.id read.call.function.name)] else [])
      [] read.announcement := by
    unfold Read.announcement
    rw [names]
    by_cases silent : read.call.function.name = ""
    · simpa [silent] using say_nil
    · simp only [silent, ne_eq, not_false_eq_true, if_true, decide_true]
      exact ⟨rfl, rfl⟩
  have argued : Says (if read.call.function.arguments ≠ "" then
      [.contentBlockDelta read.block (.inputJson read.call.function.arguments)] else [])
      read.json [] := by
    unfold Read.json
    by_cases silent : read.call.function.arguments = ""
    · simpa [silent] using say_nil
    · simp only [silent, ne_eq, not_false_eq_true, if_true]
      exact ⟨rfl, rfl⟩
  simpa [callEvents] using named.append argued

theorem calls_say (base : Int) (place : Nat) (highest : Int) (toolCalls : List ToolCallResponse) :
    let parts := (indexedFrom place toolCalls).map (laterRead base)
    Says (streamToolCalls base place highest toolCalls).1 (parts.flatMap Read.json)
      (parts.flatMap Read.announcement) := by
  induction toolCalls generalizing place highest with
  | nil => exact say_nil
  | cons toolCall rest ih =>
    exact (call_say (laterRead base (callOffset place toolCall, toolCall)) rfl).append (ih _ _)

theorem later_calls_say (toolCalls : List ToolCallResponse) :
    let parts := (indexed toolCalls).map (laterRead (toolBase c))
    Says (laterToolCalls c toolCalls).1 (parts.flatMap Read.json) (parts.flatMap Read.announcement) := by
  unfold laterToolCalls toolBase
  by_cases tools : c.lastMessagesType = .tools
  · simpa [tools, indexed] using calls_say c.toolCallBaseIndex 0 c.toolCallMaxIndexOffset toolCalls
  · simpa [tools, indexed] using stops_say.append (calls_say (advance c).index 0 0 toolCalls)

theorem first_call_say (toolCalls : List ToolCallResponse) :
    let parts := ((indexed toolCalls).take 1).map firstRead
    Says (firstToolCall c toolCalls).1 (parts.flatMap Read.json) (parts.flatMap Read.announcement) := by
  cases toolCalls with
  | nil => exact say_nil
  | cons toolCall rest =>
    unfold firstToolCall
    by_cases silent : toolCall.function.arguments = ""
    · constructor
      · simp [silent, indexed, indexedFrom, firstRead, Read.json, deltas]
      · simp [silent, indexed, indexedFrom, firstRead, Read.announcement, announced, Read.head]
    · constructor
      · simp [silent, indexed, indexedFrom, firstRead, Read.json, deltas]
      · simp [silent, indexed, indexedFrom, firstRead, Read.announcement, announced, Read.head]

theorem first_say (chunk : Chunk) (choice : Choice) (others : List Choice)
    (choices : chunk.choices = choice :: others)
    (idle : info.claudeConvertInfo.lastMessagesType = .none) :
    ∃ index,
      let parts := ((indexed choice.delta.toolCalls).take 1).map firstRead
      Says (firstChunk info chunk).1 (parts.flatMap Read.json ++ proseAt index choice.delta)
        (parts.flatMap Read.announcement) := by
  have type : (firstToolCall info.claudeConvertInfo choice.delta.toolCalls).2.lastMessagesType =
        .none ∨
      (firstToolCall info.claudeConvertInfo choice.delta.toolCalls).2.lastMessagesType =
        .tools := by
    cases choice.delta.toolCalls with
    | nil => exact .inl idle
    | cons toolCall rest => exact .inr rfl
  have both := (@first_call_say info.claudeConvertInfo choice.delta.toolCalls).append
    (later_prose_say (c := (firstToolCall info.claudeConvertInfo choice.delta.toolCalls).2) choice.delta)
  rw [List.append_nil] at both
  have opening : ∀ id model usage, Says [.messageStart id model usage] [] [] :=
    fun _ _ _ => ⟨rfl, rfl⟩
  refine ⟨(laterProse (firstToolCall info.claudeConvertInfo choice.delta.toolCalls).2
    choice.delta).2.index, ?_⟩
  unfold firstChunk
  simp only [choices, first_prose_eq type, List.cons_append]
  by_cases finishes : choice.finishes = true
  · have all := both.append (@finish_say { (laterProse (firstToolCall info.claudeConvertInfo
      choice.delta.toolCalls).2 choice.delta).2 with
        finishReason := choice.finishReason.getD "" } chunk)
    rw [List.append_nil, List.append_nil] at all
    rw [if_pos finishes]
    exact (opening _ _ _).append all
  · rw [if_neg finishes]
    exact (opening _ _ _).append both

theorem toolBase_recorded (usage : Option Usage) (reason : String) :
    toolBase { c with usage := usage, finishReason := reason } = toolBase c := by
  unfold toolBase advance
  cases c.lastMessagesType <;> rfl

theorem later_delta_say (delta : Delta) :
    ∃ index,
      let parts := (indexed delta.toolCalls).map (laterRead (toolBase c))
      Says (laterDelta c delta).1
        (parts.flatMap Read.json ++ if delta.toolCalls = [] then proseAt index delta else [])
        (parts.flatMap Read.announcement) := by
  refine ⟨(laterProse c delta).2.index, ?_⟩
  unfold laterDelta
  by_cases calls : delta.toolCalls = []
  · simpa [calls, indexed, indexedFrom] using later_prose_say delta
  · simpa [calls] using later_calls_say delta.toolCalls

theorem later_say (chunk : Chunk) (choice : Choice) (others : List Choice)
    (choices : chunk.choices = choice :: others) :
    ∃ index,
      let parts := if choice.finishes && chunk.usage.isNone then []
        else (indexed choice.delta.toolCalls).map (laterRead (toolBase c))
      Says (laterChunk c chunk).1
        (parts.flatMap Read.json ++
          if choice.delta.toolCalls = [] ∧ (choice.finishes → chunk.usage.isSome) then
            proseAt index choice.delta
          else [])
        (parts.flatMap Read.announcement) := by
  unfold laterChunk
  rw [choices]
  by_cases finishes : choice.finishes = true
  · cases usage : chunk.usage with
    | none => exact ⟨0, by simpa [finishes] using say_nil⟩
    | some spent =>
      obtain ⟨index, saying⟩ := @later_delta_say
        { c with finishReason := choice.finishReason.getD "" } choice.delta
      refine ⟨index, ?_⟩
      have all := saying.append (@finish_say (laterDelta
        { c with finishReason := choice.finishReason.getD "" } choice.delta).2 chunk)
      rw [toolBase_recorded c.usage (choice.finishReason.getD "")] at all
      simpa [finishes, usage] using all
  · obtain ⟨index, saying⟩ := @later_delta_say c choice.delta
    exact ⟨index, by simpa [finishes] using saying⟩

end Parts

/-! ## A chunk -/

section Chunks
variable {stream : Stream} {chunk : Chunk}

structure Begun (stream : Stream) : Prop where
  counted : 0 ≤ stream.info.sendResponseCount
  idle : stream.info.sendResponseCount = 0 → stream.info.claudeConvertInfo.lastMessagesType = .none

theorem receive_begun (begun : Begun stream) (chunk : Chunk) : Begun (receive stream chunk) := by
  have counted := begun.counted
  have next := @handle_count stream chunk
  refine ⟨?_, fun none_received => ?_⟩
  · simp only [receive]
    omega
  · simp only [receive] at none_received
    omega

def spokenOf (stream : Stream) (chunk : Chunk) (index : Int) : List Choice → List (Int × BlockDelta)
  | [] => []
  | choice :: _ => if ReadsProse stream chunk choice then proseAt index choice.delta else []

theorem handle_say (begun : Begun stream) (chunk : Chunk) :
    ∃ index, Says (handleStreamFormat chunk stream.info).1
      ((readOf stream chunk).flatMap Read.json ++ spokenOf stream chunk index chunk.choices)
      ((readOf stream chunk).flatMap Read.announcement) := by
  cases going : stream.info.claudeConvertInfo.done with
  | true =>
    obtain ⟨silent, -⟩ := handle_done chunk going
    have unspoken : spokenOf stream chunk 0 chunk.choices = [] := by
      cases chunk.choices with
      | nil => rfl
      | cons choice others => simp [spokenOf, ReadsProse, going]
    refine ⟨0, ?_⟩
    rw [silent, unspoken, readOf, going]
    exact say_nil
  | false =>
    by_cases count : stream.info.sendResponseCount = 0
    · obtain ⟨named, info, choices, -, same, sends, -⟩ := handle_first chunk going count
      rw [sends]
      cases listed : chunk.choices with
      | nil =>
        refine ⟨0, ?_⟩
        rw [listed] at choices
        simp [firstChunk, choices, readOf, going, listed, spokenOf]
        exact ⟨rfl, rfl⟩
      | cons choice others =>
        have idle : info.claudeConvertInfo.lastMessagesType = .none := by
          rw [same]
          exact begun.idle count
        obtain ⟨index, saying⟩ := first_say named choice others (choices.trans listed) idle
        refine ⟨index, ?_⟩
        simpa [readOf, going, listed, count, spokenOf, ReadsProse] using saying
    · obtain ⟨named, choices, usage, sends, -⟩ := handle_later chunk going count
      rw [sends]
      cases listed : chunk.choices with
      | nil =>
        refine ⟨0, ?_⟩
        rw [listed] at choices
        simp only [laterChunk, choices, readOf, going, listed, spokenOf]
        split
        · exact say_nil
        · exact stops_say.append (close_say _ _)
      | cons choice others =>
        obtain ⟨index, saying⟩ := @later_say (stream.recorded chunk) named choice others
          (choices.trans listed)
        refine ⟨index, ?_⟩
        rw [usage, show toolBase (stream.recorded chunk) = toolBase stream.info.claudeConvertInfo
          from toolBase_recorded _ _] at saying
        simpa [readOf, going, listed, count, spokenOf, ReadsProse] using saying

end Chunks

/-! ## Prose -/

section Prose

theorem kept_iff {kept : Prop} [Decidable kept] :
    (if kept then first else "") = first ++ String.join rest ↔
      (first ≠ "" → kept) ∧ ∀ other ∈ rest, other = "" := by
  have rest_iff : String.join rest = "" ↔ ∀ other ∈ rest, other = "" := by
    induction rest with
    | nil => simp
    | cons other rest ih => simp [String.join_cons, ih]
  rw [← rest_iff]
  by_cases holds : kept
  · simp only [holds, if_true, implies_true, true_and]
    constructor
    · intro same
      have cut := (String.append_right_inj first).mp ((String.append_empty).trans same)
      exact cut.symm
    · intro empty
      rw [empty, String.append_empty]
  · rw [if_neg holds, @eq_comm String ""]
    simp [holds]

theorem kept_le {kept : Prop} [Decidable kept] :
    (if kept then first else "").length ≤ (first ++ String.join rest).length := by
  rw [String.length_append]
  split
  · omega
  · simp

theorem json_wordless (parts : List Read) :
    (parts.flatMap Read.json).filterMap textIn = [] ∧
      (parts.flatMap Read.json).filterMap thinkingIn = [] := by
  induction parts with
  | nil => exact ⟨rfl, rfl⟩
  | cons read rest ih =>
    have one : read.json.filterMap textIn = [] ∧ read.json.filterMap thinkingIn = [] := by
      unfold Read.json
      split
      · exact ⟨rfl, rfl⟩
      · exact ⟨rfl, rfl⟩
    simp [one, ih]

theorem prose_texts (delta : Delta) :
    String.join ((proseAt index delta).filterMap textIn) =
        (if delta.getReasoningContent = "" then delta.getContentString else "") ∧
      String.join ((proseAt index delta).filterMap thinkingIn) = delta.getReasoningContent := by
  unfold proseAt
  by_cases reasoning : delta.getReasoningContent = ""
  · by_cases content : delta.getContentString = ""
    · simp [reasoning, content]
    · simp only [reasoning, content, ne_eq, not_true_eq_false, not_false_eq_true, if_true, if_false]
      exact ⟨rfl, rfl⟩
  · simp only [reasoning, ne_eq, not_false_eq_true, if_true, if_false]
    exact ⟨rfl, rfl⟩

theorem prose_added (begun : Begun stream) (choice : Choice) (others : List Choice)
    (listed : chunk.choices = choice :: others) :
    String.join (textDeltas (handleStreamFormat chunk stream.info).1) =
        (if ReadsProse stream chunk choice ∧ choice.delta.getReasoningContent = "" then
          choice.delta.getContentString else "") ∧
      String.join (thinkingDeltas (handleStreamFormat chunk stream.info).1) =
        if ReadsProse stream chunk choice then choice.delta.getReasoningContent else "" := by
  obtain ⟨index, saying⟩ := handle_say begun chunk
  obtain ⟨text, thinking⟩ := json_wordless (readOf stream chunk)
  unfold textDeltas thinkingDeltas
  rw [saying.deltas, List.filterMap_append, List.filterMap_append, text, thinking, listed]
  obtain ⟨spoken, thought⟩ := @prose_texts index choice.delta
  by_cases read : ReadsProse stream chunk choice
  · simp [spokenOf, read, spoken, thought]
  · simp [spokenOf, read]

theorem silent_added (begun : Begun stream) (listed : chunk.choices = []) :
    String.join (textDeltas (handleStreamFormat chunk stream.info).1) = "" ∧
      String.join (thinkingDeltas (handleStreamFormat chunk stream.info).1) = "" := by
  obtain ⟨index, saying⟩ := handle_say begun chunk
  obtain ⟨text, thinking⟩ := json_wordless (readOf stream chunk)
  unfold textDeltas thinkingDeltas
  rw [saying.deltas, List.filterMap_append, List.filterMap_append, text, thinking, listed]
  exact ⟨rfl, rfl⟩

theorem text_added (begun : Begun stream) (chunk : Chunk) :
    (String.join (textDeltas (handleStreamFormat chunk stream.info).1)).length ≤
        (contentOf chunk).length ∧
      (String.join (textDeltas (handleStreamFormat chunk stream.info).1) = contentOf chunk ↔
        CarriesText stream chunk chunk.choices) := by
  unfold contentOf
  cases listed : chunk.choices with
  | nil =>
    rw [(silent_added begun listed).1]
    simp [CarriesText]
  | cons choice others =>
    rw [(prose_added begun choice others listed).1, List.map_cons, String.join_cons]
    refine ⟨kept_le, kept_iff.trans ?_⟩
    simp [CarriesText]

theorem thinking_added (begun : Begun stream) (chunk : Chunk) :
    (String.join (thinkingDeltas (handleStreamFormat chunk stream.info).1)).length ≤
        (reasoningOf chunk).length ∧
      (String.join (thinkingDeltas (handleStreamFormat chunk stream.info).1) = reasoningOf chunk ↔
        CarriesThinking stream chunk chunk.choices) := by
  unfold reasoningOf
  cases listed : chunk.choices with
  | nil =>
    rw [(silent_added begun listed).2]
    simp [CarriesThinking]
  | cons choice others =>
    rw [(prose_added begun choice others listed).2, List.map_cons, String.join_cons]
    refine ⟨kept_le, kept_iff.trans ?_⟩
    simp [CarriesThinking]

theorem deltas_received (stream : Stream) (chunk : Chunk) :
    deltas (receive stream chunk).sent =
      deltas stream.sent ++ deltas (handleStreamFormat chunk stream.info).1 :=
  List.filterMap_append

theorem prose_iff (begun : Begun stream) (chunks : List Chunk) :
    String.join (textDeltas (run receive stream chunks).sent) =
          String.join (textDeltas stream.sent) ++ String.join (chunks.map contentOf) ∧
        String.join (thinkingDeltas (run receive stream chunks).sent) =
          String.join (thinkingDeltas stream.sent) ++ String.join (chunks.map reasoningOf) ↔
      Guarded receive CarriesProse stream chunks := by
  let spoken : Stream → String := fun stream => String.join (textDeltas stream.sent)
  let thought : Stream → String := fun stream => String.join (thinkingDeltas stream.sent)
  have writes_text : ∀ stream chunk, spoken (receive stream chunk) =
      spoken stream ++ String.join (textDeltas (handleStreamFormat chunk stream.info).1) := by
    intro stream chunk
    simp only [spoken, textDeltas, deltas_received, List.filterMap_append, String.join_append]
  have writes_thinking : ∀ stream chunk, thought (receive stream chunk) =
      thought stream ++ String.join (thinkingDeltas (handleStreamFormat chunk stream.info).1) := by
    intro stream chunk
    simp only [thought, thinkingDeltas, deltas_received, List.filterMap_append, String.join_append]
  have kept : ∀ stream chunk, Begun stream → Begun (receive stream chunk) :=
    fun _ chunk begun => receive_begun begun chunk
  have text := copied_iff_guarded writes_text kept
    (fun _ chunk begun => (text_added begun chunk).1)
    (fun _ chunk begun => (text_added begun chunk).2) begun chunks
  have thinking := copied_iff_guarded writes_thinking kept
    (fun _ chunk begun => (thinking_added begun chunk).1)
    (fun _ chunk begun => (thinking_added begun chunk).2) begun chunks
  unfold CarriesProse
  rw [guarded_and, ← text, ← thinking]

end Prose

/-! ## Tool calls -/

section Calls
variable {index : Int}

def Read.part (read : Read) : Int × ToolCallResponse := (read.index, read.call)

theorem callsOf_eq (stream : Stream) (chunk : Chunk) :
    callsOf chunk = (readOf stream chunk).map Read.part ++ leftOf stream chunk := by
  have later : ∀ base, ∀ calls : List (Int × ToolCallResponse),
      (calls.map (laterRead base)).map Read.part = calls := by
    intro base calls
    simp [Function.comp_def, laterRead, Read.part]
  have first : ∀ calls : List (Int × ToolCallResponse),
      (calls.map firstRead).map Read.part = calls := by
    intro calls
    simp [Function.comp_def, firstRead, Read.part]
  unfold readOf leftOf
  cases going : stream.info.claudeConvertInfo.done with
  | true => simp
  | false =>
    cases listed : chunk.choices with
    | nil => simp [callsOf, listed]
    | cons choice others =>
      have all : callsOf chunk = indexed choice.delta.toolCalls ++
          others.flatMap fun other => indexed other.delta.toolCalls := by
        simp [callsOf, listed]
      rw [all]
      by_cases count : stream.info.sendResponseCount = 0
      · simp only [count, if_true, Bool.false_eq_true, if_false, first, ← List.append_assoc,
          List.take_append_drop]
      · by_cases left : (choice.finishes && chunk.usage.isNone) = true
        · simp [count, left]
        · simp [count, left, later]

theorem joined_append (first second : List (Int × ToolCallResponse)) :
    joinArguments (partsIn index (first ++ second)) =
      joinArguments (partsIn index first) ++ joinArguments (partsIn index second) := by
  simp [joinArguments, partsIn, String.join_append]

theorem joined_silent
    (silent : ∀ call ∈ calls, call.2.function.arguments = "") :
    joinArguments (partsIn index calls) = "" := by
  induction calls with
  | nil => rfl
  | cons call rest ih =>
    have here := silent call (List.mem_cons_self ..)
    have later := ih fun other member => silent other (List.mem_cons_of_mem _ member)
    by_cases mine : call.1 = index
    · simpa [partsIn, joinArguments, mine, String.join_cons, here] using later
    · simpa [partsIn, joinArguments, mine] using later

theorem arguments_read (carried : Guarded receive CarriesArguments stream chunks) (index : Int) :
    argumentsOf index chunks = joinArguments (partsIn index ((reads stream chunks).map Read.part)) := by
  induction chunks generalizing stream with
  | nil => rfl
  | cons chunk rest ih =>
    have later := ih carried.2
    have unfolded : argumentsOf index (chunk :: rest) =
        joinArguments (partsIn index (callsOf chunk)) ++ argumentsOf index rest := by
      simp [argumentsOf, partsOf, partsIn, joinArguments, String.join_append]
    rw [unfolded, later, reads, List.map_append, joined_append, callsOf_eq stream chunk,
      joined_append, joined_silent carried.1, String.append_empty]

theorem joinArguments_append (first second : List ToolCallResponse) :
    joinArguments (first ++ second) = joinArguments first ++ joinArguments second := by
  simp [joinArguments, String.join_append]

theorem json_said (block : Int) (parts : List Read) :
    String.join ((parts.flatMap Read.json).filterMap (inputJsonIn block)) =
      joinArguments ((parts.filter fun read => read.block = block).map Read.call) := by
  induction parts with
  | nil => rfl
  | cons read rest ih =>
    rw [List.flatMap_cons, List.filterMap_append, String.join_append, ih, List.filter_cons]
    by_cases mine : read.block = block
    · by_cases silent : read.call.function.arguments = ""
      · simp [Read.json, mine, silent, joinArguments, String.join_cons]
      · simp [Read.json, mine, silent, joinArguments, String.join_cons, inputJsonIn]
    · by_cases silent : read.call.function.arguments = ""
      · simp [Read.json, mine, silent]
      · simp [Read.json, mine, silent, inputJsonIn]

theorem announced_said (block : Int) (parts : List Read) :
    ((parts.flatMap Read.announcement).filterMap fun (index, head) =>
        if index = block then some head else none) =
      (parts.filter fun read => read.block = block ∧ read.opens).map Read.head := by
  induction parts with
  | nil => rfl
  | cons read rest ih =>
    rw [List.flatMap_cons, List.filterMap_append, ih, List.filter_cons]
    by_cases mine : read.block = block
    · cases opens : read.opens with
      | true => simp [Read.announcement, mine, opens]
      | false => simp [Read.announcement, opens]
    · cases opens : read.opens with
      | true => simp [Read.announcement, mine, opens]
      | false => simp [Read.announcement, opens]

theorem prose_jsonless (block : Int) (delta : Delta) :
    (proseAt index delta).filterMap (inputJsonIn block) = [] := by
  unfold proseAt
  split
  · rfl
  · split
    · rfl
    · rfl

theorem calls_added (begun : Begun stream) (chunk : Chunk) (block : Int) :
    String.join (inputJsonDeltas block (handleStreamFormat chunk stream.info).1) =
        joinArguments (((readOf stream chunk).filter fun read => read.block = block).map Read.call) ∧
      toolUses block (handleStreamFormat chunk stream.info).1 =
        ((readOf stream chunk).filter fun read => read.block = block ∧ read.opens).map
          Read.head := by
  obtain ⟨index, saying⟩ := handle_say begun chunk
  have spoken : (spokenOf stream chunk index chunk.choices).filterMap (inputJsonIn block) = [] := by
    cases chunk.choices with
    | nil => rfl
    | cons choice others =>
      by_cases read : ReadsProse stream chunk choice
      · simpa [spokenOf, read] using prose_jsonless block choice.delta
      · simp [spokenOf, read]
  constructor
  · unfold inputJsonDeltas
    rw [saying.deltas, List.filterMap_append, spoken, List.append_nil, json_said]
  · unfold toolUses
    rw [saying.announced, announced_said]

theorem run_calls (begun : Begun stream) (chunks : List Chunk) (block : Int) :
    String.join (inputJsonDeltas block (run receive stream chunks).sent) =
        String.join (inputJsonDeltas block stream.sent) ++
          joinArguments (((reads stream chunks).filter fun read => read.block = block).map Read.call) ∧
      toolUses block (run receive stream chunks).sent =
        toolUses block stream.sent ++
          ((reads stream chunks).filter fun read => read.block = block ∧ read.opens).map
            Read.head := by
  induction chunks generalizing stream with
  | nil => simp [reads, joinArguments]
  | cons chunk rest ih =>
    obtain ⟨json, uses⟩ := ih (receive_begun begun chunk)
    obtain ⟨added, announced⟩ := calls_added begun chunk block
    have sent_json : inputJsonDeltas block (receive stream chunk).sent =
        inputJsonDeltas block stream.sent ++
          inputJsonDeltas block (handleStreamFormat chunk stream.info).1 := by
      simp only [inputJsonDeltas, deltas_received, List.filterMap_append]
    have sent_uses : toolUses block (receive stream chunk).sent =
        toolUses block stream.sent ++ toolUses block (handleStreamFormat chunk stream.info).1 := by
      simp only [toolUses, StreamContent.announced, receive, List.filterMap_append]
    rw [run_cons, json, uses, sent_json, sent_uses, String.join_append, added, announced]
    simp only [reads, List.filter_append, List.map_append, joinArguments_append]
    exact ⟨String.append_assoc, List.append_assoc ..⟩

theorem part_index (read : Read) (member : read ∈ reads stream chunks) : read.index ∈ indices chunks := by
  induction chunks generalizing stream with
  | nil => cases member
  | cons chunk rest ih =>
    unfold indices
    rw [List.flatMap_cons, List.map_append, List.mem_append]
    rcases List.mem_append.mp member with here | later
    · left
      rw [callsOf_eq stream chunk, List.map_append, List.mem_append]
      left
      exact List.mem_map.mpr ⟨read.part, List.mem_map_of_mem here, rfl⟩
    · exact .inr (ih later)

theorem parts_read (index : Int) (parts : List Read) :
    partsIn index (parts.map Read.part) = (parts.filter fun read => read.index = index).map Read.call := by
  simp only [partsIn, List.filter_map, List.map_map]
  rfl

theorem joined_congr {parts : List Read} {first second : Read → Prop} [DecidablePred first]
    [DecidablePred second]
    (agree : ∀ read ∈ parts, read.Sends → (first read ↔ second read)) :
    joinArguments ((parts.filter fun read => first read).map Read.call) =
      joinArguments ((parts.filter fun read => second read).map Read.call) := by
  induction parts with
  | nil => rfl
  | cons read rest ih =>
    have later := ih fun other member => agree other (List.mem_cons_of_mem _ member)
    by_cases silent : read.call.function.arguments = ""
    · have skip : ∀ chosen : Read → Prop, ∀ [DecidablePred chosen],
          joinArguments (((read :: rest).filter fun read => chosen read).map Read.call) =
            joinArguments ((rest.filter fun read => chosen read).map Read.call) := by
        intro chosen _
        by_cases mine : chosen read
        · simp [mine, joinArguments, String.join_cons, silent]
        · simp [mine]
      rw [skip first, skip second, later]
    · have same := agree read (List.mem_cons_self ..) (.inr silent)
      by_cases mine : second read
      · simpa [same.mpr mine, mine, joinArguments, String.join_cons] using later
      · simpa [mt same.mp mine, mine] using later

def blockOf (parts : List Read) (index : Int) : Int :=
  ((parts.find? fun read => read.index = index ∧ read.opens).map Read.block).getD 0

theorem opener (kept : CallsKept stream chunks) (listed : index ∈ indices chunks) :
    ∃ read ∈ reads stream chunks, read.index = index ∧ read.opens = true ∧
      blockOf (reads stream chunks) index = read.block := by
  have once := kept.announced index listed
  have found : ((reads stream chunks).find? fun read => read.index = index ∧ read.opens) ≠ none := by
    intro missing
    rw [List.find?_eq_none] at missing
    rw [List.filter_eq_nil_iff.mpr missing] at once
    cases once
  obtain ⟨read, shape⟩ := Option.ne_none_iff_exists'.mp found
  have chosen := List.find?_some shape
  simp only [decide_eq_true_eq] at chosen
  exact ⟨read, List.mem_of_find?_eq_some shape, chosen.1, chosen.2, by
    rw [blockOf, shape]
    rfl⟩

theorem calls_come_through (begun : Begun stream) (silent : stream.sent = [])
    (kept : CallsKept stream chunks) :
    SameCalls chunks (run receive stream chunks).sent := by
  have quiet : ∀ block, toolUses block (run receive stream chunks).sent =
        ((reads stream chunks).filter fun read => read.block = block ∧ read.opens).map Read.head ∧
      String.join (inputJsonDeltas block (run receive stream chunks).sent) =
        joinArguments (((reads stream chunks).filter fun read => read.block = block).map Read.call) := by
    intro block
    obtain ⟨json, uses⟩ := run_calls begun chunks block
    rw [json, uses, silent]
    exact ⟨rfl, String.empty_append⟩
  refine ⟨blockOf (reads stream chunks), ?_, ?_, ?_⟩
  · intro first firstListed second secondListed same
    obtain ⟨one, oneRead, rfl, oneOpens, oneBlock⟩ := opener kept firstListed
    obtain ⟨two, twoRead, rfl, twoOpens, twoBlock⟩ := opener kept secondListed
    rw [oneBlock, twoBlock] at same
    exact (kept.placed one oneRead two twoRead (.inl oneOpens) (.inl twoOpens)).mpr same
  · intro index listed
    obtain ⟨head, headRead, rfl, headOpens, headBlock⟩ := opener kept listed
    have agree : ∀ read ∈ reads stream chunks, read.Sends →
        (read.block = blockOf (reads stream chunks) head.index ↔ read.index = head.index) := by
      intro read member sends
      rw [headBlock]
      exact (kept.placed read member head headRead sends (.inl headOpens)).symm
    obtain ⟨uses, json⟩ := quiet (blockOf (reads stream chunks) head.index)
    constructor
    · rw [uses, ← kept.announced head.index listed]
      congr 1
      apply List.filter_congr
      intro read member
      cases opens : read.opens with
      | true => simp [agree read member (.inl opens)]
      | false => simp
    · rw [json, joined_congr agree, arguments_read kept.carried, parts_read]
  · intro other apart
    have nobody : ∀ read ∈ reads stream chunks, read.Sends → read.block ≠ other := by
      rintro read member sends rfl
      obtain ⟨head, headRead, same, headOpens, headBlock⟩ := opener kept (part_index read member)
      refine apart read.index (part_index read member) ?_
      rw [headBlock]
      exact (kept.placed head headRead read member (.inl headOpens) sends).mp same
    obtain ⟨uses, json⟩ := quiet other
    constructor
    · rw [uses, List.filter_eq_nil_iff.mpr, List.map_nil]
      intro read member chosen
      simp only [decide_eq_true_eq] at chosen
      exact nobody read member (.inl chosen.2) chosen.1
    · rw [json]
      have none_said := @joined_congr (reads stream chunks) (fun read => read.block = other)
        (fun _ => False) _ _ fun read member sends =>
          iff_of_false (nobody read member sends) id
      rw [none_said]
      simp [joinArguments]

end Calls

/-! ## A whole response -/

structure Lossless (chunks : List Chunk) (sent : List ClaudeResponse) : Prop where
  prose : SameProse chunks sent
  calls : SameCalls chunks sent

structure Carried (stream : Stream) (chunks : List Chunk) : Prop where
  prose : Guarded receive CarriesProse stream chunks
  calls : CallsKept stream chunks

def Ends (chunks : List Chunk) : Prop :=
  ∃ body, ∃ finish : Chunk, finish.choices.head?.any Choice.finishes ∧
    (chunks = body ++ [finish] ∧ finish.usage.isSome ∨
      ∃ usage : Chunk, chunks = body ++ [finish, usage] ∧ usage.usage.isSome)

/-- The answer comes through where every piece of every chunk is read or empty
and each call keeps to a block of its own; its prose comes through exactly when
every piece of prose is read or empty. -/
theorem claude_stream_is_lossless_when (originModelName : String) (alignedToRequest : Bool)
    (estimatePromptTokens : Int) (chunks : List Chunk) :
    let start := fresh originModelName alignedToRequest estimatePromptTokens
    (Carried start chunks → Lossless chunks (run receive start chunks).sent) ∧
      (SameProse chunks (run receive start chunks).sent ↔ Guarded receive CarriesProse start chunks) := by
  intro start
  have begun : Begun start := ⟨Int.le_refl 0, fun _ => rfl⟩
  have prose : SameProse chunks (run receive start chunks).sent ↔
      Guarded receive CarriesProse start chunks := by
    rw [← prose_iff begun chunks]
    have none_said : String.join (textDeltas start.sent) = "" ∧
        String.join (thinkingDeltas start.sent) = "" := ⟨rfl, rfl⟩
    rw [none_said.1, none_said.2, String.empty_append, String.empty_append]
    exact ⟨fun same => ⟨same.text, same.thinking⟩, fun same => ⟨same.1, same.2⟩⟩
  refine ⟨fun carried => ⟨prose.mpr carried.prose, ?_⟩, prose⟩
  exact calls_come_through begun rfl carried.calls

def proseChunk (content : String) (finishReason : Option String) (usage : Option Usage) : Chunk where
  id := "answer"
  model := "model"
  choices :=
    [{ delta :=
        { content := some content, reasoningContent := none, reasoning := none, toolCalls := [] }
       finishReason := finishReason }]
  usage := usage

def spent : Usage where
  promptTokens := 3
  completionTokens := 2
  promptTokensDetails := { cachedTokens := 0, cachedCreationTokens := 0 }
  claudeCacheCreation5mTokens := 0
  claudeCacheCreation1hTokens := 0

/-- Text, a call in two parts, and a finish chunk with its usage. -/
theorem lossless_call :
    Lossless [proseChunk "Let me see." none none, toolChunk [toolCall 0 "look" "\x7b"],
        toolChunk [toolCall 0 "" "\x7d"], proseChunk "" (some "tool_calls") (some spent)]
      (run receive (fresh "" true 0)
        [proseChunk "Let me see." none none, toolChunk [toolCall 0 "look" "\x7b"],
          toolChunk [toolCall 0 "" "\x7d"],
          proseChunk "" (some "tool_calls") (some spent)]).sent :=
  (claude_stream_is_lossless_when "" true 0 _).1
    ⟨by decide +kernel, ⟨by decide +kernel, by decide +kernel, by decide +kernel⟩⟩

/-- The last words come with the finish reason and before the usage: they are lost. -/
theorem last_words_are_lost :
    ¬ ∀ chunks, Ends chunks → Lossless chunks (run receive (fresh "" true 0) chunks).sent := by
  intro always
  have lossless := always
    [proseChunk "Hel" none none, proseChunk "lo" (some "stop") none,
      { id := "answer", model := "model", choices := [], usage := some spent }]
    ⟨[proseChunk "Hel" none none], proseChunk "lo" (some "stop") none, by decide +kernel,
      .inr ⟨_, rfl, rfl⟩⟩
  exact absurd lossless.prose.text (by decide +kernel)

end NewApi.StreamContent
