import NewApi.GoText
import NewApi.RealtimeBilling
import Mathlib.Algebra.Order.Field.Rat
import Mathlib.Tactic.Linarith
import Mathlib.Tactic.Ring

/-! The charge of a text request. The usage that the upstream reports is taken
apart into what is priced on its own, the rest of the prompt is charged at the
plain ratio, and the tools that were called are added. The sum is an exact
decimal, and what is stored of it is an integer. -/
namespace NewApi.TextQuota
open NewApi.GoText (hasPrefix hasSuffix)
open NewApi.RealtimeBilling (maxQuota roundHalfAway)

/-! ## Usage -/

/-- A result of Go's `int`, which wraps at 64 bits. -/
def int64 (value : Int) : Int := value.bmod (2 ^ 64)

/-- `dto/openai_response.go::InputTokenDetails`. -/
structure InputTokenDetails where
  cachedTokens : Int := 0
  cachedCreationTokens : Int := 0
  imageTokens : Int := 0
  audioTokens : Int := 0
  deriving DecidableEq, Repr

/-- `dto/openai_response.go::OutputTokenDetails`. -/
structure OutputTokenDetails where
  imageTokens : Int := 0
  audioTokens : Int := 0
  deriving DecidableEq, Repr

/-- `dto/openai_response.go::Usage`. -/
structure Usage where
  promptTokens : Int := 0
  completionTokens : Int := 0
  totalTokens : Int := 0
  usageSemantic : String := ""
  usageSource : String := ""
  promptTokensDetails : InputTokenDetails := {}
  completionTokenDetails : OutputTokenDetails := {}
  inputTokens : Int := 0
  outputTokens : Int := 0
  inputTokensDetails : Option InputTokenDetails := none
  claudeCacheCreation5mTokens : Int := 0
  claudeCacheCreation1hTokens : Int := 0
  cost : Option Rat := none
  deriving DecidableEq, Repr

/-- The values of `types/relay_format.go` that billing tells apart. -/
inductive RelayFormat where
  | openAI
  | claude
  | openAIImage
  | other
  deriving DecidableEq, Repr

inductive ChannelType where
  | openRouter
  | other
  deriving DecidableEq, Repr

/-- `relay/common/relay_info.go::BuildInToolInfo`. -/
structure BuildInToolInfo where
  callCount : Int := 0
  searchContextSize : String := "medium"

/-- `types/price_data.go::PriceData`. -/
structure PriceData where
  modelPrice : Rat := 0
  modelRatio : Rat := 0
  completionRatio : Rat := 1
  cacheRatio : Rat := 1
  cacheCreationRatio : Rat := 1
  cacheCreation5mRatio : Rat := 1
  cacheCreation1hRatio : Rat := 1
  imageRatio : Rat := 1
  otherRatios : List Rat := []
  usePrice : Bool := false
  groupRatio : Rat := 1

/-- `relay/common/relay_info.go::RelayInfo`, as far as text billing reads it. No
channel type says that there is no channel meta. -/
structure RelayInfo where
  originModelName : String := ""
  finalRequestRelayFormat : Option RelayFormat := none
  requestConversionChain : List RelayFormat := []
  relayFormat : RelayFormat := .openAI
  estimatePromptTokens : Int := 0
  channelType : Option ChannelType := none
  builtInTools : Option (String → Option BuildInToolInfo) := none
  priceData : PriceData := {}

structure RequestContext where
  chatCompletionWebSearchContextSize : String := ""
  claudeWebSearchRequests : Int := 0
  imageGenerationCall : Bool := false
  imageGenerationCallQuality : String := ""
  imageGenerationCallSize : String := ""
  imageResultURLs : List String := []

/-- The settings that text billing reads, and what
`service/quota.go::CalcOpenRouterCacheCreateTokens` makes of a cost, in floating
point. -/
structure Setting where
  quotaPerUnit : Rat := 500000
  defaultModelRatioMap : String → Option Rat := fun _ => none
  calcOpenRouterCacheCreateTokens : Usage → PriceData → Int := fun _ _ => 0

/-! ## The prices of tools -/

/-- `setting/operation_setting/tools.go::GetWebSearchPricePerThousand`. The size
of the context does not matter any more. -/
def getWebSearchPricePerThousand (modelName _contextSize : String) : Rat :=
  if hasPrefix modelName "o3" || hasPrefix modelName "o4" || hasPrefix modelName "gpt-5" then 10
  else 25

def getClaudeWebSearchPricePerThousand : Rat := 10

def getFileSearchPricePerThousand : Rat := 5 / 2

/-- `setting/operation_setting/tools.go::GetGeminiInputAudioPricePerMillionTokens`. -/
def getGeminiInputAudioPricePerMillionTokens (modelName : String) : Rat :=
  if hasPrefix modelName "gemini-2.5-flash-preview-native-audio" then 3
  else if hasPrefix modelName "gemini-2.5-flash-preview-lite" then 1 / 2
  else if hasPrefix modelName "gemini-2.5-flash-preview" then 1
  else if hasPrefix modelName "gemini-2.5-flash" then 1
  else if hasPrefix modelName "gemini-2.0-flash" then 7 / 10
  else if hasPrefix modelName "gemini-robotics-er-1.5" then 1
  else 0

/-- `setting/operation_setting/tools.go::GetGPTImage1PriceOnceCall`. -/
def getGPTImage1PriceOnceCall (quality size : String) : Rat :=
  match quality, size with
  | "low", "1024x1024" => 11 / 1000
  | "low", "1024x1536" => 16 / 1000
  | "low", "1536x1024" => 16 / 1000
  | "medium", "1024x1024" => 42 / 1000
  | "medium", "1024x1536" => 63 / 1000
  | "medium", "1536x1024" => 63 / 1000
  | "high", "1024x1536" => 1 / 4
  | "high", "1536x1024" => 1 / 4
  | _, _ => 167 / 1000

/-! ## The usage that is billed -/

/-- `relay/common/relay_info.go::GetFinalRequestRelayFormat`. -/
def RelayInfo.getFinalRequestRelayFormat (info : RelayInfo) : RelayFormat :=
  info.finalRequestRelayFormat.getD (info.requestConversionChain.getLast?.getD info.relayFormat)

/-- `service/text_quota.go::usageSemanticFromUsage`. -/
def usageSemanticFromUsage (info : RelayInfo) (usage : Option Usage) : String :=
  match usage.map Usage.usageSemantic with
  | none | some "" => if info.getFinalRequestRelayFormat = .claude then "anthropic" else "openai"
  | some semantic => semantic

def InputTokenDetails.signals (details : InputTokenDetails) : Bool :=
  details.cachedTokens > 0 || details.cachedCreationTokens > 0 || details.imageTokens > 0 ||
    details.audioTokens > 0

/-- `service/text_quota.go::usageHasInputBillingSignals`. -/
def usageHasInputBillingSignals (usage : Usage) : Bool :=
  usage.promptTokens > 0 || usage.inputTokens > 0 || usage.promptTokensDetails.signals ||
    usage.claudeCacheCreation5mTokens > 0 || usage.claudeCacheCreation1hTokens > 0 ||
    (usage.inputTokensDetails.map InputTokenDetails.signals).getD false

/-- `service/text_quota.go::ApplyEstimatedPromptTokensFallback`. -/
def applyEstimatedPromptTokensFallback (info : RelayInfo) (usage : Usage) : Usage :=
  if !usageHasInputBillingSignals usage && usage.completionTokens > 0 &&
      info.estimatePromptTokens > 0 then
    { usage with
      promptTokens := info.estimatePromptTokens
      totalTokens := int64 (info.estimatePromptTokens + usage.completionTokens) }
  else usage

/-- `service/text_quota.go::applyImageResultUsageFallback`. -/
def applyImageResultUsageFallback (ctx : RequestContext) (info : RelayInfo) (usage : Option Usage) :
    Usage :=
  let usage := usage.getD {}
  if info.getFinalRequestRelayFormat ≠ .openAIImage then usage
  else if usage.totalTokens > 0 || usage.promptTokens > 0 || usage.completionTokens > 0 ||
      usage.inputTokens > 0 || usage.outputTokens > 0 || usageHasInputBillingSignals usage then usage
  else if ctx.imageResultURLs = [] then usage
  else { usage with
    promptTokens := ctx.imageResultURLs.length
    totalTokens := ctx.imageResultURLs.length }

def billedUsage (ctx : RequestContext) (info : RelayInfo) (usage : Option Usage) : Usage :=
  applyEstimatedPromptTokensFallback info (applyImageResultUsageFallback ctx info usage)

/-- `service/text_quota.go::isLegacyClaudeDerivedOpenAIUsage`. -/
def isLegacyClaudeDerivedOpenAIUsage (info : RelayInfo) (usage : Usage) : Bool :=
  info.getFinalRequestRelayFormat ≠ .claude && usage.usageSource = "" && usage.usageSemantic = "" &&
    (usage.claudeCacheCreation5mTokens > 0 || usage.claudeCacheCreation1hTokens > 0)

structure TokenCounts where
  promptTokens : Int
  completionTokens : Int
  totalTokens : Int
  cacheTokens : Int
  cacheCreationTokens : Int
  cacheCreationTokens5m : Int
  cacheCreationTokens1h : Int
  imageTokens : Int
  audioTokens : Int
  deriving DecidableEq, Repr

def Usage.counts (usage : Usage) : TokenCounts where
  promptTokens := usage.promptTokens
  completionTokens := usage.completionTokens
  totalTokens := int64 (usage.promptTokens + usage.completionTokens)
  cacheTokens := usage.promptTokensDetails.cachedTokens
  cacheCreationTokens := usage.promptTokensDetails.cachedCreationTokens
  cacheCreationTokens5m := usage.claudeCacheCreation5mTokens
  cacheCreationTokens1h := usage.claudeCacheCreation1hTokens
  imageTokens := usage.promptTokensDetails.imageTokens
  audioTokens := usage.promptTokensDetails.audioTokens

/-- `service/quota.go::hasCustomModelRatio`. -/
def hasCustomModelRatio (setting : Setting) (modelName : String) (currentRatio : Rat) : Bool :=
  match setting.defaultModelRatioMap modelName with
  | none => true
  | some defaultRatio => currentRatio ≠ defaultRatio

/-- The cache creation of an OpenRouter usage: what it reports, or what its cost
comes from. `usage.Cost != 0` compares with the integer 0 and holds of every
cost, of the float 0 and of a missing one too. -/
def openRouterCacheCreation (setting : Setting) (info : RelayInfo) (usage : Usage) : Int :=
  let price := info.priceData
  let reported := usage.promptTokensDetails.cachedCreationTokens
  let maybeCacheCreationTokens := setting.calcOpenRouterCacheCreateTokens usage price
  if reported = 0 && price.cacheCreationRatio ≠ 1 &&
      !(price.usePrice || hasCustomModelRatio setting info.originModelName price.modelRatio) &&
      maybeCacheCreationTokens ≥ 0 &&
      int64 (usage.promptTokens - usage.promptTokensDetails.cachedTokens) ≥ maybeCacheCreationTokens
  then maybeCacheCreationTokens
  else reported

def summaryCounts (setting : Setting) (info : RelayInfo) (usage : Usage) : TokenCounts :=
  let counts := usage.counts
  if info.channelType = some .openRouter then
    let creation := openRouterCacheCreation setting info usage
    { counts with
      promptTokens := int64 (int64 (counts.promptTokens - counts.cacheTokens) - creation)
      cacheCreationTokens := creation }
  else counts

/-- `service/text_quota.go::cacheWriteTokensTotal`. -/
def cacheWriteTokensTotal (counts : TokenCounts) : Int :=
  if counts.cacheCreationTokens5m > 0 || counts.cacheCreationTokens1h > 0 then
    let splitCacheWriteTokens := int64 (counts.cacheCreationTokens5m + counts.cacheCreationTokens1h)
    if counts.cacheCreationTokens > splitCacheWriteTokens then counts.cacheCreationTokens
    else splitCacheWriteTokens
  else counts.cacheCreationTokens

/-! ## The summary -/

structure ToolCall where
  callCount : Int := 0
  quota : Rat := 0

def webSearchCall (setting : Setting) (ctx : RequestContext) (info : RelayInfo) : ToolCall :=
  let groupRatio := info.priceData.groupRatio
  match info.builtInTools with
  | some builtInTools =>
    match builtInTools "web_search_preview" with
    | some webSearchTool =>
      if webSearchTool.callCount > 0 then
        { callCount := webSearchTool.callCount
          quota := getWebSearchPricePerThousand info.originModelName
            webSearchTool.searchContextSize * webSearchTool.callCount / 1000 * groupRatio *
            setting.quotaPerUnit }
      else {}
    | none => {}
  | none =>
    if hasSuffix info.originModelName "search-preview" then
      let searchContextSize :=
        if ctx.chatCompletionWebSearchContextSize = "" then "medium"
        else ctx.chatCompletionWebSearchContextSize
      { callCount := 1
        quota := getWebSearchPricePerThousand info.originModelName searchContextSize / 1000 *
          groupRatio * setting.quotaPerUnit }
    else {}

def claudeWebSearchCall (setting : Setting) (ctx : RequestContext) (info : RelayInfo) : ToolCall :=
  let calls := ctx.claudeWebSearchRequests
  if calls > 0 then
    { callCount := calls
      quota := getClaudeWebSearchPricePerThousand / 1000 * info.priceData.groupRatio *
        setting.quotaPerUnit * calls }
  else { callCount := calls }

def fileSearchCall (setting : Setting) (info : RelayInfo) : ToolCall :=
  match info.builtInTools.bind (· "file_search") with
  | some fileSearchTool =>
    if fileSearchTool.callCount > 0 then
      { callCount := fileSearchTool.callCount
        quota := getFileSearchPricePerThousand * fileSearchTool.callCount / 1000 *
          info.priceData.groupRatio * setting.quotaPerUnit }
    else {}
  | none => {}

def imageGenerationCallPrice (ctx : RequestContext) : Rat :=
  if ctx.imageGenerationCall then
    getGPTImage1PriceOnceCall ctx.imageGenerationCallQuality ctx.imageGenerationCallSize
  else 0

def imageGenerationCallQuota (setting : Setting) (ctx : RequestContext) (info : RelayInfo) : Rat :=
  imageGenerationCallPrice ctx * info.priceData.groupRatio * setting.quotaPerUnit

/-- What the prompt comes to: the tokens at the plain ratio, the others with
their own ratios, and the audio that is priced by itself. -/
structure PromptQuota where
  baseTokens : Int
  cachedTokensWithRatio : Rat
  cachedCreationTokensWithRatio : Rat
  imageTokensWithRatio : Rat
  audioInputQuota : Rat

/-- The part of `service/text_quota.go::calculateTextQuotaSummary` that takes the
prompt apart. `claudeLike` says that the prompt is reported without what is
cached: Claude semantics, or a legacy usage that comes from Claude. -/
def promptQuota (setting : Setting) (info : RelayInfo) (claudeLike : Bool) (counts : TokenCounts) :
    PromptQuota :=
  let price := info.priceData
  let baseTokens := counts.promptTokens
  let (baseTokens, cachedTokensWithRatio) :=
    if counts.cacheTokens ≠ 0 then
      (if claudeLike then baseTokens else baseTokens - counts.cacheTokens,
        (counts.cacheTokens : Rat) * price.cacheRatio)
    else (baseTokens, 0)
  let hasSplitCacheCreationTokens :=
    counts.cacheCreationTokens5m > 0 || counts.cacheCreationTokens1h > 0
  let (baseTokens, cachedCreationTokensWithRatio) :=
    if counts.cacheCreationTokens ≠ 0 || hasSplitCacheCreationTokens then
      if !claudeLike then
        (baseTokens - counts.cacheCreationTokens,
          (counts.cacheCreationTokens : Rat) * price.cacheCreationRatio)
      else
        let remaining := int64 (int64 (counts.cacheCreationTokens - counts.cacheCreationTokens5m) -
          counts.cacheCreationTokens1h)
        let remaining := if remaining < 0 then 0 else remaining
        (baseTokens, (remaining : Rat) * price.cacheCreationRatio +
          (counts.cacheCreationTokens5m : Rat) * price.cacheCreation5mRatio +
          (counts.cacheCreationTokens1h : Rat) * price.cacheCreation1hRatio)
    else (baseTokens, 0)
  let (baseTokens, imageTokensWithRatio) :=
    if counts.imageTokens ≠ 0 then
      (baseTokens - counts.imageTokens, (counts.imageTokens : Rat) * price.imageRatio)
    else (baseTokens, 0)
  let audioInputPrice := getGeminiInputAudioPricePerMillionTokens info.originModelName
  let (baseTokens, audioInputQuota) :=
    if counts.audioTokens ≠ 0 && audioInputPrice > 0 then
      (baseTokens - counts.audioTokens, audioInputPrice / 1000000 * (counts.audioTokens : Rat) *
        price.groupRatio * setting.quotaPerUnit)
    else (baseTokens, 0)
  { baseTokens, cachedTokensWithRatio, cachedCreationTokensWithRatio, imageTokensWithRatio,
    audioInputQuota }

/-- `service/text_quota.go::textQuotaSummary`, with the calls of each tool. -/
structure TextQuotaSummary where
  counts : TokenCounts
  usageSemantic : String
  webSearch : ToolCall
  claudeWebSearch : ToolCall
  fileSearch : ToolCall
  imageGenerationCallPrice : Rat
  quota : Int
  toolCallSurchargeQuota : Rat

/-- `service/text_quota.go::textQuotaSummaryHasBillableUsage`. -/
def textQuotaSummaryHasBillableUsage (summary : TextQuotaSummary) : Bool :=
  summary.counts.totalTokens > 0 || summary.counts.cacheTokens > 0 ||
    cacheWriteTokensTotal summary.counts > 0 || summary.counts.imageTokens > 0 ||
    summary.counts.audioTokens > 0 || summary.webSearch.callCount > 0 ||
    summary.claudeWebSearch.callCount > 0 || summary.fileSearch.callCount > 0 ||
    summary.imageGenerationCallPrice > 0

def claudeLikeUsage (info : RelayInfo) (reported : Option Usage) (usage : Usage) : Bool :=
  usageSemanticFromUsage info reported = "anthropic" || isLegacyClaudeDerivedOpenAIUsage info usage

/-- `int(d.Round(0).IntPart())`: the low 64 bits of the rounded decimal. -/
def intPart (value : Rat) : Int := int64 (roundHalfAway value)

def quotaCalculateDecimal (setting : Setting) (ctx : RequestContext) (info : RelayInfo)
    (claudeLike : Bool) (counts : TokenCounts) : Rat :=
  let price := info.priceData
  let prompt := promptQuota setting info claudeLike counts
  let ratio := price.modelRatio * price.groupRatio
  let tokens :=
    if price.usePrice then price.modelPrice * setting.quotaPerUnit * price.groupRatio
    else
      let promptQuota := prompt.baseTokens + prompt.cachedTokensWithRatio +
        prompt.imageTokensWithRatio + prompt.cachedCreationTokensWithRatio
      let completionQuota := counts.completionTokens * price.completionRatio
      (promptQuota + completionQuota) * ratio
  let withTools := tokens + (webSearchCall setting ctx info).quota +
    (claudeWebSearchCall setting ctx info).quota + (fileSearchCall setting info).quota +
    (if price.usePrice then 0 else prompt.audioInputQuota) +
    imageGenerationCallQuota setting ctx info
  price.otherRatios.foldl (· * ·) withTools

def raisedCharge (price : PriceData) (charge : Rat) : Rat :=
  if !price.usePrice && price.modelRatio * price.groupRatio ≠ 0 && charge ≤ 0 then 1 else charge

def pricedSummary (setting : Setting) (ctx : RequestContext) (info : RelayInfo)
    (reported : Option Usage) : TextQuotaSummary :=
  let usage := billedUsage ctx info reported
  let counts := summaryCounts setting info usage
  let claudeLike := claudeLikeUsage info reported usage
  let prompt := promptQuota setting info claudeLike counts
  let webSearch := webSearchCall setting ctx info
  let claudeWebSearch := claudeWebSearchCall setting ctx info
  let fileSearch := fileSearchCall setting info
  { counts
    usageSemantic := usageSemanticFromUsage info reported
    webSearch
    claudeWebSearch
    fileSearch
    imageGenerationCallPrice := imageGenerationCallPrice ctx
    quota := intPart (raisedCharge info.priceData
      (quotaCalculateDecimal setting ctx info claudeLike counts))
    toolCallSurchargeQuota := webSearch.quota + claudeWebSearch.quota + fileSearch.quota +
      (if info.priceData.usePrice then 0 else prompt.audioInputQuota) +
      imageGenerationCallQuota setting ctx info }

/-- `service/text_quota.go::calculateTextQuotaSummary`. -/
def calculateTextQuotaSummary (setting : Setting) (ctx : RequestContext) (info : RelayInfo)
    (reported : Option Usage) : TextQuotaSummary :=
  let summary := pricedSummary setting ctx info reported
  let ratio := info.priceData.modelRatio * info.priceData.groupRatio
  if !textQuotaSummaryHasBillableUsage summary then { summary with quota := 0 }
  else if ratio ≠ 0 && summary.quota = 0 then { summary with quota := 1 }
  else summary

/-! ## The exact charge -/

def toolCharge (setting : Setting) (ctx : RequestContext) (info : RelayInfo) : Rat :=
  (webSearchCall setting ctx info).quota + (claudeWebSearchCall setting ctx info).quota +
    (fileSearchCall setting info).quota + imageGenerationCallQuota setting ctx info

def pricedAudioTokens (info : RelayInfo) (counts : TokenCounts) : Int :=
  if getGeminiInputAudioPricePerMillionTokens info.originModelName > 0 then counts.audioTokens
  else 0

def cacheCreationLines (price : PriceData) (claudeLike : Bool) (counts : TokenCounts) : List (Int × Rat) :=
  if !claudeLike then [(counts.cacheCreationTokens, price.cacheCreationRatio)]
  else if counts.cacheCreationTokens ≠ 0 ∨ counts.cacheCreationTokens5m > 0 ∨
      counts.cacheCreationTokens1h > 0 then
    [(max 0 (int64 (int64 (counts.cacheCreationTokens - counts.cacheCreationTokens5m) -
        counts.cacheCreationTokens1h)), price.cacheCreationRatio),
      (counts.cacheCreationTokens5m, price.cacheCreation5mRatio),
      (counts.cacheCreationTokens1h, price.cacheCreation1hRatio)]
  else []

def separateLines (price : PriceData) (claudeLike : Bool) (counts : TokenCounts) : List (Int × Rat) :=
  (counts.cacheTokens, price.cacheRatio) :: (counts.imageTokens, price.imageRatio) ::
    cacheCreationLines price claudeLike counts

def tokensOf (lines : List (Int × Rat)) : Int := (lines.map Prod.fst).sum

def chargeOf (lines : List (Int × Rat)) : Rat := (lines.map fun line => (line.1 : Rat) * line.2).sum

def plainTokens (info : RelayInfo) (claudeLike : Bool) (counts : TokenCounts) : Int :=
  counts.promptTokens - (if claudeLike then 0 else counts.cacheTokens + counts.cacheCreationTokens) -
    counts.imageTokens - pricedAudioTokens info counts

def audioCharge (setting : Setting) (info : RelayInfo) (counts : TokenCounts) : Rat :=
  getGeminiInputAudioPricePerMillionTokens info.originModelName / 1000000 *
    (pricedAudioTokens info counts : Rat) * info.priceData.groupRatio * setting.quotaPerUnit

def ratioCharge (setting : Setting) (ctx : RequestContext) (info : RelayInfo) (claudeLike : Bool)
    (counts : TokenCounts) (plain : Int) : Rat :=
  let price := info.priceData
  ((chargeOf ((plain, 1) :: (counts.completionTokens, price.completionRatio) ::
      separateLines price claudeLike counts) * (price.modelRatio * price.groupRatio)) +
    audioCharge setting info counts + toolCharge setting ctx info) * price.otherRatios.prod

def exactCharge (setting : Setting) (ctx : RequestContext) (info : RelayInfo)
    (reported : Option Usage) : Rat :=
  let price := info.priceData
  let usage := billedUsage ctx info reported
  let counts := summaryCounts setting info usage
  let claudeLike := claudeLikeUsage info reported usage
  if price.usePrice then
    (price.modelPrice * setting.quotaPerUnit * price.groupRatio + toolCharge setting ctx info) *
      price.otherRatios.prod
  else ratioCharge setting ctx info claudeLike counts (plainTokens info claudeLike counts)

theorem int64_small (low : -(2 ^ 63) ≤ value) (high : value < 2 ^ 63) :
    int64 value = value := by
  unfold int64
  rw [Int.bmod_eq_of_le (by omega) (by omega)]

theorem multiplied_out (ratios : List Rat) (value : Rat) :
    ratios.foldl (· * ·) value = value * ratios.prod := by
  induction ratios generalizing value with
  | nil => simp
  | cons ratio ratios ih => rw [List.foldl_cons, ih, List.prod_cons, mul_assoc]

theorem taken_off {present : Prop} [Decidable present] (base : Int)
    (absent : ¬ present → tokens = 0) :
    (if present then base - tokens else base) = base - tokens := by
  by_cases some_ : present
  · rw [if_pos some_]
  · rw [if_neg some_, absent some_, Int.sub_zero]

theorem base_tokens_eq (setting : Setting) (info : RelayInfo) (claudeLike : Bool) (counts : TokenCounts) :
    (promptQuota setting info claudeLike counts).baseTokens = plainTokens info claudeLike counts := by
  have cached (base : Int) := taken_off base (not_not.mp : ¬ counts.cacheTokens ≠ 0 → _)
  have image (base : Int) := taken_off base (not_not.mp : ¬ counts.imageTokens ≠ 0 → _)
  have written (base : Int) : (if (decide (counts.cacheCreationTokens ≠ 0) ||
      (decide (counts.cacheCreationTokens5m > 0) || decide (counts.cacheCreationTokens1h > 0))) = true
      then base - counts.cacheCreationTokens else base) = base - counts.cacheCreationTokens :=
    taken_off base fun absent => by
      simp at absent
      exact absent.1
  have audio (base : Int) : (if (decide (counts.audioTokens ≠ 0) &&
      decide (getGeminiInputAudioPricePerMillionTokens info.originModelName > 0)) = true
      then base - counts.audioTokens else base) = base - pricedAudioTokens info counts := by
    unfold pricedAudioTokens
    by_cases priced : getGeminiInputAudioPricePerMillionTokens info.originModelName > 0
    · rw [if_pos priced]
      exact taken_off base fun absent => by simpa [priced] using absent
    · rw [if_neg priced, if_neg (by simp [priced]), Int.sub_zero]
  unfold promptQuota plainTokens
  dsimp only
  simp only [apply_ite Prod.fst, image, audio]
  cases claudeLike with
  | true => simp only [if_true, ite_self, Bool.not_true, Bool.false_eq_true, if_false, Int.sub_zero]
  | false =>
    simp only [if_true, Bool.not_false, Bool.false_eq_true, if_false, cached, written]
    omega

theorem cached_with_ratio_eq (setting : Setting) (info : RelayInfo) (claudeLike : Bool)
    (counts : TokenCounts) :
    (promptQuota setting info claudeLike counts).cachedTokensWithRatio =
      counts.cacheTokens * info.priceData.cacheRatio := by
  unfold promptQuota
  by_cases none_ : counts.cacheTokens = 0 <;> simp [none_]

theorem image_with_ratio_eq (setting : Setting) (info : RelayInfo) (claudeLike : Bool)
    (counts : TokenCounts) :
    (promptQuota setting info claudeLike counts).imageTokensWithRatio =
      counts.imageTokens * info.priceData.imageRatio := by
  unfold promptQuota
  by_cases none_ : counts.imageTokens = 0 <;> simp [none_]

theorem creation_with_ratio_eq (setting : Setting) (info : RelayInfo) (claudeLike : Bool)
    (counts : TokenCounts) :
    (promptQuota setting info claudeLike counts).cachedCreationTokensWithRatio =
      chargeOf (cacheCreationLines info.priceData claudeLike counts) := by
  unfold promptQuota cacheCreationLines chargeOf
  cases claudeLike
  · by_cases none_ : counts.cacheCreationTokens = 0 <;> simp [none_]
  · have raised : ∀ remaining : Int, (if remaining < 0 then 0 else remaining) = max 0 remaining := by
      intro remaining
      split <;> omega
    simp only [raised]
    split_ifs <;> simp_all [add_assoc]

theorem audio_input_quota_eq (setting : Setting) (info : RelayInfo) (claudeLike : Bool)
    (counts : TokenCounts) :
    (promptQuota setting info claudeLike counts).audioInputQuota = audioCharge setting info counts := by
  unfold promptQuota audioCharge pricedAudioTokens
  by_cases none_ : counts.audioTokens = 0
  · simp [none_]
  · by_cases priced : getGeminiInputAudioPricePerMillionTokens info.originModelName > 0 <;>
      simp [none_, priced]

theorem quota_decimal_eq (setting : Setting) (ctx : RequestContext) (info : RelayInfo)
    (reported : Option Usage) :
    quotaCalculateDecimal setting ctx info
        (claudeLikeUsage info reported (billedUsage ctx info reported))
        (summaryCounts setting info (billedUsage ctx info reported)) =
      exactCharge setting ctx info reported := by
  unfold exactCharge
  dsimp only
  generalize summaryCounts setting info (billedUsage ctx info reported) = counts
  generalize claudeLikeUsage info reported (billedUsage ctx info reported) = claudeLike
  simp only [quotaCalculateDecimal, multiplied_out]
  split
  · simp only [toolCharge, add_zero, add_assoc]
  · rw [base_tokens_eq, cached_with_ratio_eq, image_with_ratio_eq, creation_with_ratio_eq,
      audio_input_quota_eq]
    simp only [ratioCharge, separateLines, chargeOf, toolCharge, List.map_cons, List.sum_cons]
    ring

/-! ## The conversion to the stored integer -/

theorem round_half_away_nonneg_iff (value : Rat) : 0 ≤ roundHalfAway value ↔ -1 / 2 < value := by
  unfold roundHalfAway
  split
  · rename_i nonneg
    have rounded : 0 ≤ (value + 1 / 2).floor := by
      rw [Rat.le_floor_iff]
      linarith
    exact ⟨fun _ => by linarith, fun _ => rounded⟩
  · have small : (-value + 1 / 2).floor ≤ 0 ↔ (-value + 1 / 2).floor < 1 := by omega
    rw [Int.neg_nonneg, small, Rat.floor_lt_iff]
    constructor <;> intro bound <;> linarith

theorem round_half_away_le_iff (nonneg : 0 ≤ most) :
    roundHalfAway value ≤ most ↔ value < most + 1 / 2 := by
  have cast : (0 : Rat) ≤ most := by exact_mod_cast nonneg
  unfold roundHalfAway
  split
  · have small : (value + 1 / 2).floor ≤ most ↔ (value + 1 / 2).floor < most + 1 := by omega
    rw [small, Rat.floor_lt_iff]
    push_cast
    constructor <;> intro bound <;> linarith
  · rename_i negative
    have rounded : 0 ≤ (-value + 1 / 2).floor := by
      rw [Rat.le_floor_iff]
      push_cast
      linarith
    exact ⟨fun _ => by linarith, fun _ => by omega⟩

def Storable (quota : Int) : Prop := 0 ≤ quota ∧ quota ≤ maxQuota

instance (quota : Int) : Decidable (Storable quota) := inferInstanceAs (Decidable (_ ∧ _))

theorem storable_rounding_iff (value : Rat) :
    Storable (roundHalfAway value) ↔ -1 / 2 < value ∧ value < maxQuota + 1 / 2 := by
  unfold Storable
  rw [round_half_away_nonneg_iff, round_half_away_le_iff (by decide)]

theorem storable_int_part (storable : Storable (roundHalfAway value)) :
    intPart value = roundHalfAway value := by
  obtain ⟨low, high⟩ := storable
  rw [maxQuota] at high
  exact int64_small (by omega) (by omega)

def HasBillableUsage (setting : Setting) (ctx : RequestContext) (info : RelayInfo)
    (reported : Option Usage) : Prop :=
  let counts := summaryCounts setting info (billedUsage ctx info reported)
  0 < counts.totalTokens ∨ 0 < counts.cacheTokens ∨ 0 < cacheWriteTokensTotal counts ∨
    0 < counts.imageTokens ∨ 0 < counts.audioTokens ∨
    0 < (webSearchCall setting ctx info).callCount ∨ 0 < ctx.claudeWebSearchRequests ∨
    0 < (fileSearchCall setting info).callCount ∨ 0 < imageGenerationCallPrice ctx

instance (setting : Setting) (ctx : RequestContext) (info : RelayInfo) (reported : Option Usage) :
    Decidable (HasBillableUsage setting ctx info reported) :=
  inferInstanceAs (Decidable (_ ∨ _))

theorem claude_call_count (setting : Setting) (ctx : RequestContext) (info : RelayInfo) :
    (claudeWebSearchCall setting ctx info).callCount = ctx.claudeWebSearchRequests := by
  simp only [claudeWebSearchCall]
  split <;> rfl

theorem billable_usage_iff (setting : Setting) (ctx : RequestContext) (info : RelayInfo)
    (reported : Option Usage) :
    textQuotaSummaryHasBillableUsage (pricedSummary setting ctx info reported) = true ↔
      HasBillableUsage setting ctx info reported := by
  simp only [textQuotaSummaryHasBillableUsage, pricedSummary, HasBillableUsage, claude_call_count,
    Bool.or_eq_true, decide_eq_true_eq, gt_iff_lt, or_assoc]

def settledQuota (setting : Setting) (ctx : RequestContext) (info : RelayInfo)
    (reported : Option Usage) (quota : Int) : Int :=
  if ¬ HasBillableUsage setting ctx info reported then 0
  else if info.priceData.modelRatio * info.priceData.groupRatio ≠ 0 ∧ quota = 0 then 1
  else quota

def ConvertsExactly (setting : Setting) (ctx : RequestContext) (info : RelayInfo)
    (reported : Option Usage) : Prop :=
  let quota := (calculateTextQuotaSummary setting ctx info reported).quota
  Storable quota ∧ quota = settledQuota setting ctx info reported
    (roundHalfAway (raisedCharge info.priceData (exactCharge setting ctx info reported)))

theorem summary_quota (setting : Setting) (ctx : RequestContext) (info : RelayInfo)
    (reported : Option Usage) :
    (calculateTextQuotaSummary setting ctx info reported).quota =
      settledQuota setting ctx info reported
        (intPart (raisedCharge info.priceData (exactCharge setting ctx info reported))) := by
  have priced : (pricedSummary setting ctx info reported).quota =
      intPart (raisedCharge info.priceData (exactCharge setting ctx info reported)) := by
    rw [← quota_decimal_eq]
    rfl
  simp only [settledQuota, ← billable_usage_iff, ← priced, calculateTextQuotaSummary]
  split_ifs <;> simp_all

theorem raised_storable_iff (price : PriceData) (charge : Rat) :
    Storable (roundHalfAway (raisedCharge price charge)) ↔
      charge < maxQuota + 1 / 2 ∧
        (-1 / 2 < charge ∨ price.usePrice = false ∧ price.modelRatio * price.groupRatio ≠ 0) := by
  rw [storable_rounding_iff]
  unfold raisedCharge
  by_cases priced : price.usePrice = false ∧ price.modelRatio * price.groupRatio ≠ 0
  · by_cases negative : charge ≤ 0
    · have below : charge < maxQuota + 1 / 2 := by
        rw [maxQuota]
        push_cast
        linarith
      simp only [priced, negative, below, Bool.not_false, Bool.true_and, decide_true, ne_eq,
        not_false_eq_true, if_true, or_true, and_self]
      norm_num [maxQuota]
    · have above : -1 / 2 < charge := by linarith
      simp [priced, negative, above]
  · have unraised : ¬ ((!price.usePrice && decide (price.modelRatio * price.groupRatio ≠ 0) &&
        decide (charge ≤ 0)) = true) := by
      simp only [Bool.and_eq_true, Bool.not_eq_true', decide_eq_true_eq]
      exact fun raised => priced raised.1
    rw [if_neg unraised]
    simp only [priced, or_false]
    exact and_comm

theorem converts_exactly_iff (setting : Setting) (ctx : RequestContext) (info : RelayInfo)
    (reported : Option Usage) :
    ConvertsExactly setting ctx info reported ↔
      (HasBillableUsage setting ctx info reported →
        exactCharge setting ctx info reported < maxQuota + 1 / 2 ∧
          (-1 / 2 < exactCharge setting ctx info reported ∨ info.priceData.usePrice = false ∧
            info.priceData.modelRatio * info.priceData.groupRatio ≠ 0)) := by
  unfold ConvertsExactly
  simp only [summary_quota, settledQuota, ← raised_storable_iff]
  generalize raisedCharge info.priceData (exactCharge setting ctx info reported) = charge
  by_cases billable : HasBillableUsage setting ctx info reported
  · simp only [billable, not_true_eq_false, if_false, true_implies]
    constructor
    · rintro ⟨stored, same⟩
      rw [same] at stored
      by_cases raised : info.priceData.modelRatio * info.priceData.groupRatio ≠ 0 ∧ roundHalfAway charge = 0
      · rw [raised.2]
        decide
      · rwa [if_neg raised] at stored
    · intro storable
      rw [storable_int_part storable]
      refine ⟨?_, rfl⟩
      split
      · decide
      · exact storable
  · simp only [billable, not_false_eq_true, if_true, false_implies, and_true, iff_true]
    decide

/-- A thousand million prompt tokens at a ratio of 37.5 are stored beyond the
columns, and 2^62 tokens at a ratio of 2 are stored as a credit. -/
theorem large_charges_are_not_stored :
    (calculateTextQuotaSummary {} {} { priceData := { modelRatio := 75 / 2 } }
        (some { promptTokens := 10 ^ 9 })).quota = 37500000000 ∧
      (calculateTextQuotaSummary {} {} { priceData := { modelRatio := 2 } }
        (some { promptTokens := 2 ^ 62 })).quota = -(2 ^ 63) ∧
      ¬ ∀ setting ctx info reported,
        Storable (calculateTextQuotaSummary setting ctx info reported).quota := by
  have beyond : (calculateTextQuotaSummary {} {} { priceData := { modelRatio := 75 / 2 } }
      (some { promptTokens := 10 ^ 9 })).quota = 37500000000 := by decide +kernel
  refine ⟨beyond, by decide +kernel, fun always => ?_⟩
  have stored := always {} {} { priceData := { modelRatio := 75 / 2 } } (some { promptTokens := 10 ^ 9 })
  rw [beyond] at stored
  exact absurd stored (by decide)

/-! ## Every prompt token once -/

/-- A usage whose parts are parts of its prompt, in Go's `int`. -/
structure Usage.Consistent (usage : Usage) : Prop where
  cached : 0 ≤ usage.promptTokensDetails.cachedTokens
  creation : 0 ≤ usage.promptTokensDetails.cachedCreationTokens
  creation5m : 0 ≤ usage.claudeCacheCreation5mTokens
  creation1h : 0 ≤ usage.claudeCacheCreation1hTokens
  image : 0 ≤ usage.promptTokensDetails.imageTokens
  audio : 0 ≤ usage.promptTokensDetails.audioTokens
  parts : usage.promptTokensDetails.cachedTokens +
    max usage.promptTokensDetails.cachedCreationTokens
      (usage.claudeCacheCreation5mTokens + usage.claudeCacheCreation1hTokens) +
    usage.promptTokensDetails.imageTokens + usage.promptTokensDetails.audioTokens ≤ usage.promptTokens
  machine : usage.promptTokens < 2 ^ 63

/-- What is left of the prompt for the plain price. -/
def plainRest (info : RelayInfo) (claudeLike : Bool) (usage : Usage) (counts : TokenCounts) : Int :=
  usage.promptTokens - tokensOf (separateLines info.priceData claudeLike counts) -
    pricedAudioTokens info counts

/-- The sum over the categories, as a whole quota. -/
def wholeSum (setting : Setting) (ctx : RequestContext) (info : RelayInfo)
    (reported : Option Usage) : Int :=
  let usage := billedUsage ctx info reported
  let claudeLike := claudeLikeUsage info reported usage
  let counts := summaryCounts setting info usage
  roundHalfAway (raisedCharge info.priceData
    (ratioCharge setting ctx info claudeLike counts (plainRest info claudeLike usage counts)))

def ChargedOnce (setting : Setting) (ctx : RequestContext) (info : RelayInfo)
    (reported : Option Usage) : Prop :=
  let usage := billedUsage ctx info reported
  let claudeLike := claudeLikeUsage info reported usage
  let counts := summaryCounts setting info usage
  let plain := plainRest info claudeLike usage counts
  (promptQuota setting info claudeLike counts).baseTokens = plain ∧ 0 ≤ plain ∧
    (calculateTextQuotaSummary setting ctx info reported).quota =
      settledQuota setting ctx info reported (wholeSum setting ctx info reported)

def SumFits (setting : Setting) (ctx : RequestContext) (info : RelayInfo)
    (reported : Option Usage) : Prop :=
  HasBillableUsage setting ctx info reported →
    -(2 ^ 63) ≤ wholeSum setting ctx info reported ∧ wholeSum setting ctx info reported < 2 ^ 63

instance (setting : Setting) (ctx : RequestContext) (info : RelayInfo) (reported : Option Usage) :
    Decidable (SumFits setting ctx info reported) :=
  inferInstanceAs (Decidable (_ → _))

instance (setting : Setting) (ctx : RequestContext) (info : RelayInfo) (reported : Option Usage) :
    Decidable (ChargedOnce setting ctx info reported) :=
  inferInstanceAs (Decidable (_ ∧ _ ∧ _))

theorem consistent_estimated (consistent : usage.Consistent)
    (machine : info.estimatePromptTokens < 2 ^ 63) :
    (applyEstimatedPromptTokensFallback info usage).Consistent := by
  unfold applyEstimatedPromptTokensFallback
  split
  · rename_i fallback
    obtain ⟨cached, creation, creation5m, creation1h, image, audio, -, -⟩ := consistent
    simp only [Bool.and_eq_true, Bool.not_eq_true', usageHasInputBillingSignals,
      InputTokenDetails.signals, Bool.or_eq_false_iff, decide_eq_true_eq, decide_eq_false_iff_not,
      gt_iff_lt] at fallback
    exact ⟨cached, creation, creation5m, creation1h, image, audio, by dsimp only; omega, machine⟩
  · exact consistent

theorem consistent_image_result
    (consistent : usage.Consistent) (machine : (ctx.imageResultURLs.length : Int) < 2 ^ 63) :
    (applyImageResultUsageFallback ctx info (some usage)).Consistent := by
  simp only [applyImageResultUsageFallback, Option.getD_some]
  split
  · exact consistent
  split
  · exact consistent
  rename_i fallback
  split
  · exact consistent
  · obtain ⟨cached, creation, creation5m, creation1h, image, audio, -, -⟩ := consistent
    simp only [Bool.or_eq_true, usageHasInputBillingSignals, InputTokenDetails.signals,
      decide_eq_true_eq, gt_iff_lt, not_or] at fallback
    exact ⟨cached, creation, creation5m, creation1h, image, audio, by dsimp only; omega, machine⟩

theorem consistent_billed
    (consistent : usage.Consistent) (estimate : info.estimatePromptTokens < 2 ^ 63)
    (images : (ctx.imageResultURLs.length : Int) < 2 ^ 63) :
    (billedUsage ctx info (some usage)).Consistent :=
  consistent_estimated (consistent_image_result consistent images) estimate

theorem open_router_creation_bounds
    (consistent : usage.Consistent) :
    0 ≤ openRouterCacheCreation setting info usage ∧
      usage.promptTokensDetails.cachedTokens + openRouterCacheCreation setting info usage ≤
        usage.promptTokens := by
  obtain ⟨cached, creation, creation5m, creation1h, image, audio, parts, machine⟩ := consistent
  have exact_ : int64 (usage.promptTokens - usage.promptTokensDetails.cachedTokens) =
      usage.promptTokens - usage.promptTokensDetails.cachedTokens :=
    int64_small (by omega) (by omega)
  simp only [openRouterCacheCreation, exact_]
  split
  · rename_i estimated
    simp only [Bool.and_eq_true, decide_eq_true_eq] at estimated
    omega
  · omega

theorem claude_lines_tokens
    (creation : 0 ≤ counts.cacheCreationTokens) (creation5m : 0 ≤ counts.cacheCreationTokens5m)
    (creation1h : 0 ≤ counts.cacheCreationTokens1h) (machine : counts.cacheCreationTokens < 2 ^ 63)
    (split_ : counts.cacheCreationTokens5m + counts.cacheCreationTokens1h < 2 ^ 63) :
    tokensOf (cacheCreationLines price true counts) =
      max counts.cacheCreationTokens (counts.cacheCreationTokens5m + counts.cacheCreationTokens1h) := by
  have first : int64 (counts.cacheCreationTokens - counts.cacheCreationTokens5m) =
      counts.cacheCreationTokens - counts.cacheCreationTokens5m :=
    int64_small (by omega) (by omega)
  have second : int64 (counts.cacheCreationTokens - counts.cacheCreationTokens5m -
      counts.cacheCreationTokens1h) = counts.cacheCreationTokens - counts.cacheCreationTokens5m -
        counts.cacheCreationTokens1h :=
    int64_small (by omega) (by omega)
  simp only [cacheCreationLines, first, second]
  split_ifs
  · contradiction
  · simp only [tokensOf, List.map_cons, List.map_nil, List.sum_cons, List.sum_nil]
    omega
  · simp only [tokensOf, List.map_nil, List.sum_nil]
    omega

theorem settled_wrapped_iff (sum : Int) :
    settledQuota setting ctx info reported (int64 sum) = settledQuota setting ctx info reported sum ↔
      (HasBillableUsage setting ctx info reported → -(2 ^ 63) ≤ sum ∧ sum < 2 ^ 63) := by
  unfold settledQuota
  by_cases billable : HasBillableUsage setting ctx info reported
  · simp only [billable, not_true_eq_false, if_false, true_implies]
    constructor
    · intro same
      have low : -(2 ^ 63) ≤ int64 sum := Int.le_bmod (by decide)
      have high : int64 sum < 2 ^ 63 := Int.bmod_lt (by decide)
      have zero : int64 0 = 0 := rfl
      have one : int64 1 = 1 := rfl
      -- a charge of 0 that is raised to 1 is that of the sum only where the sum is 0
      split at same <;> split at same
      · omega
      · rw [← same] at *
        omega
      · rename_i raised
        rw [raised.2] at *
        omega
      · omega
    · rintro ⟨low, high⟩
      rw [int64_small low high]
  · simp only [billable, not_false_eq_true, if_true, false_implies]

theorem charged_once_base
    {reported : Option Usage} (ratioPriced : info.priceData.usePrice = false) :
    ChargedOnce setting ctx info reported ↔
      (let usage := billedUsage ctx info reported
        let claudeLike := claudeLikeUsage info reported usage
        let counts := summaryCounts setting info usage
        let plain := plainRest info claudeLike usage counts
        plainTokens info claudeLike counts = plain ∧ 0 ≤ plain) ∧
      SumFits setting ctx info reported := by
  unfold ChargedOnce
  rw [SumFits, ← settled_wrapped_iff]
  simp only [base_tokens_eq, summary_quota, exactCharge, ratioPriced, Bool.false_eq_true, if_false,
    wholeSum, intPart, and_assoc]
  refine and_congr_right fun base => ?_
  rw [base]

def TakenOffOnce (setting : Setting) (info : RelayInfo) (claudeLike : Bool) (usage : Usage) : Prop :=
  let cached := usage.promptTokensDetails.cachedTokens
  let creation := openRouterCacheCreation setting info usage
  if claudeLike then
    usage.claudeCacheCreation5mTokens + usage.claudeCacheCreation1hTokens ≤ creation ∧
      cached + creation + usage.promptTokensDetails.imageTokens +
        pricedAudioTokens info usage.counts ≤ usage.promptTokens
  else cached = 0 ∧ creation = 0

instance (setting : Setting) (info : RelayInfo) (claudeLike : Bool) (usage : Usage) :
    Decidable (TakenOffOnce setting info claudeLike usage) :=
  match claudeLike with
  | true => inferInstanceAs (Decidable (_ ∧ _))
  | false => inferInstanceAs (Decidable (_ ∧ _))

theorem open_router_counts
    (routed : info.channelType = some .openRouter) (consistent : usage.Consistent) :
    summaryCounts setting info usage =
      { usage.counts with
        promptTokens := usage.promptTokens - usage.promptTokensDetails.cachedTokens -
          openRouterCacheCreation setting info usage
        cacheCreationTokens := openRouterCacheCreation setting info usage } := by
  obtain ⟨low, high⟩ := @open_router_creation_bounds setting info usage consistent
  obtain ⟨cached, -, -, -, -, -, -, machine⟩ := consistent
  have first : int64 (usage.promptTokens - usage.promptTokensDetails.cachedTokens) =
      usage.promptTokens - usage.promptTokensDetails.cachedTokens :=
    int64_small (by omega) (by omega)
  have second : int64 (usage.promptTokens - usage.promptTokensDetails.cachedTokens -
      openRouterCacheCreation setting info usage) = usage.promptTokens -
        usage.promptTokensDetails.cachedTokens - openRouterCacheCreation setting info usage :=
    int64_small (by omega) (by omega)
  simp only [summaryCounts, routed, if_true, Usage.counts, first, second]

theorem priced_audio_bounds (audio : 0 ≤ counts.audioTokens) :
    0 ≤ pricedAudioTokens info counts ∧ pricedAudioTokens info counts ≤ counts.audioTokens := by
  unfold pricedAudioTokens
  split <;> omega

theorem separate_tokens (price : PriceData) (claudeLike : Bool) (counts : TokenCounts) :
    tokensOf (separateLines price claudeLike counts) = counts.cacheTokens + counts.imageTokens +
      tokensOf (cacheCreationLines price claudeLike counts) := by
  simp only [tokensOf, separateLines, List.map_cons, List.sum_cons]
  omega

theorem open_lines_tokens (price : PriceData) (counts : TokenCounts) :
    tokensOf (cacheCreationLines price false counts) = counts.cacheCreationTokens := by
  simp [tokensOf, cacheCreationLines]

theorem open_router_charged_once_iff
    (claudeLike : Bool) (routed : info.channelType = some .openRouter)
    (consistent : usage.Consistent) :
    let counts := summaryCounts setting info usage
    let plain := plainRest info claudeLike usage counts
    (plainTokens info claudeLike counts = plain ∧ 0 ≤ plain) ↔
      TakenOffOnce setting info claudeLike usage := by
  have bounds := @open_router_creation_bounds setting info usage consistent
  rw [open_router_counts routed consistent]
  obtain ⟨cached, creation, creation5m, creation1h, image, audio, parts, machine⟩ := consistent
  have pricedAudio := @priced_audio_bounds info usage.counts audio
  simp only [plainRest, separate_tokens, plainTokens, TakenOffOnce]
  cases claudeLike
  · simp only [open_lines_tokens, Bool.false_eq_true, if_false]
    simp only [pricedAudioTokens, Usage.counts] at pricedAudio ⊢
    omega
  · rw [claude_lines_tokens bounds.1 creation5m creation1h (by dsimp only; omega)
      (by simp only [Usage.counts]; omega)]
    simp only [pricedAudioTokens, Usage.counts, if_true] at pricedAudio ⊢
    omega

theorem charged_once_iff {setting : Setting} {ctx : RequestContext} {info : RelayInfo}
    {usage : Usage} (ratioPriced : info.priceData.usePrice = false) (consistent : usage.Consistent)
    (estimate : info.estimatePromptTokens < 2 ^ 63)
    (images : (ctx.imageResultURLs.length : Int) < 2 ^ 63)
    (inclusive : claudeLikeUsage info (some usage) (billedUsage ctx info (some usage)) = false ∨
      info.channelType = some .openRouter) :
    ChargedOnce setting ctx info (some usage) ↔
      (info.channelType = some .openRouter →
        TakenOffOnce setting info
          (claudeLikeUsage info (some usage) (billedUsage ctx info (some usage)))
          (billedUsage ctx info (some usage))) ∧
      SumFits setting ctx info (some usage) := by
  rw [charged_once_base ratioPriced]
  refine and_congr_left fun _ => ?_
  have billed := consistent_billed consistent estimate images
  by_cases routed : info.channelType = some .openRouter
  · simp only [routed, true_implies]
    exact open_router_charged_once_iff _ routed billed
  · rcases inclusive with open_ | direct
    · have counts : summaryCounts setting info (billedUsage ctx info (some usage)) =
          (billedUsage ctx info (some usage)).counts := if_neg routed
      have pricedAudio := @priced_audio_bounds info (billedUsage ctx info (some usage)).counts billed.audio
      obtain ⟨cached, creation, creation5m, creation1h, image, audio, parts, machine⟩ := billed
      simp only [open_, counts, plainRest, separate_tokens, open_lines_tokens, plainTokens, routed,
        false_implies, iff_true, Bool.false_eq_true, if_false]
      simp only [pricedAudioTokens, Usage.counts] at pricedAudio ⊢
      omega
    · exact absurd direct routed

/-- A prompt of a thousand tokens whose cache was written, read through
OpenRouter. -/
theorem written_prompt_charged_once :
    let usage : Usage :=
      { promptTokens := 1000
        usageSemantic := "anthropic"
        promptTokensDetails := { cachedTokens := 800, cachedCreationTokens := 100 } }
    ChargedOnce {} {} { channelType := some .openRouter } (some usage) :=
  (charged_once_iff rfl
    ⟨by decide, by decide, by decide, by decide, by decide, by decide, by decide, by decide⟩
    (by decide) (by decide) (.inr rfl)).mpr ⟨fun _ => by decide +kernel, by decide +kernel⟩

/-- Of a thousand tokens with 800 from the cache, 200 are plain. OpenRouter's are
charged as if -600 were. -/
theorem cache_is_taken_off_twice :
    let usage : Usage :=
      { promptTokens := 1000
        promptTokensDetails := { cachedTokens := 800 } }
    let info : RelayInfo := { channelType := some .openRouter }
    (promptQuota {} info false (summaryCounts {} info usage)).baseTokens = -600 ∧
      ¬ ∀ setting ctx info usage, info.priceData.usePrice = false → usage.Consistent →
        info.estimatePromptTokens < 2 ^ 63 → (ctx.imageResultURLs.length : Int) < 2 ^ 63 →
        (claudeLikeUsage info (some usage) (billedUsage ctx info (some usage)) = false ∨
          info.channelType = some .openRouter) →
        ChargedOnce setting ctx info (some usage) := by
  refine ⟨by decide +kernel, fun always => ?_⟩
  have charged := always {} {} { channelType := some .openRouter }
    { promptTokens := 1000, promptTokensDetails := { cachedTokens := 800 } } rfl
    ⟨by decide, by decide, by decide, by decide, by decide, by decide, by decide, by decide⟩
    (by decide) (by decide) (.inr rfl)
  exact absurd charged (by decide +kernel)

end NewApi.TextQuota
