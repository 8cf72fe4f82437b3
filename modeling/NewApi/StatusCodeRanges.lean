import NewApi.GoText
import NewApi.IntRanges
import NewApi.Strconv

/-! The rules that say at which status codes a channel is disabled and a request is tried
again. An administrator writes codes and ranges of codes; they are kept as ranges that are
sorted and merged, and the options show them in the notation that they were written in. -/
namespace NewApi.StatusCodeRanges
open NewApi.GoText NewApi.IntRanges

/-! ## Reading rules -/

/-- `setting/operation_setting/status_code_ranges.go::StatusCodeRange`. -/
abbrev StatusCodeRange := IntRange

/-- `strconv.Atoi`. -/
def atoi (text : String) : Option Int := (Strconv.parseInt text).toOption.map Int64.toInt

/-- `parseHTTPStatusCodeToken`, of a text without spaces. -/
def parseTight (token : String) : Except String StatusCodeRange :=
  if token = "" then .error "empty token"
  else if '-' ∈ token.toList then
    match split '-' token with
    | [first, second] =>
      if first = "" ∨ second = "" then .error ("invalid range token: " ++ token)
      else match atoi first, atoi second with
        | none, _ => .error ("invalid range start: " ++ token)
        | some _, none => .error ("invalid range end: " ++ token)
        | some start, some stop =>
          if start > stop then .error ("range start > end: " ++ token)
          else if start < 100 ∨ stop > 599 then .error ("range out of bounds: " ++ token)
          else .ok ⟨start, stop⟩
    | _ => .error ("invalid range token: " ++ token)
  else match atoi token with
    | none => .error ("invalid status code: " ++ token)
    | some code =>
      if code < 100 ∨ code > 599 then .error ("status code out of bounds: " ++ token)
      else .ok ⟨code, code⟩

/-- `parseHTTPStatusCodeToken`. -/
def parseHTTPStatusCodeToken (token : String) : Except String StatusCodeRange :=
  parseTight (String.ofList ((trimSpace token).toList.filter (· ≠ ' ')))

/-- The rules in a text: commas of either width part them, and blank ones are left out. -/
def segments (input : String) : List String :=
  let input := String.ofList (input.toList.map fun char => if char = '，' then ',' else char)
  ((split ',' input).map trimSpace).filter (· ≠ "")

/-- `ParseHTTPStatusCodeRanges`. -/
def parseHTTPStatusCodeRanges (input : String) : Except String (List StatusCodeRange) :=
  let input := trimSpace input
  if input = "" then .ok []
  else
    let invalid := (segments input).filter fun seg => !(parseHTTPStatusCodeToken seg).isOk
    if invalid ≠ [] then .error ("invalid http status code rules: " ++ ", ".intercalate invalid)
    else
      let ranges := (segments input).filterMap fun seg => (parseHTTPStatusCodeToken seg).toOption
      .ok (merge (ranges.mergeSort before))

/-! ## Writing rules -/

def itoa (number : Int) : String := Strconv.formatInt (Int64.ofInt number)

def rangeToString (range : StatusCodeRange) : String :=
  if range.start = range.stop then itoa range.start else itoa range.start ++ "-" ++ itoa range.stop

/-- `statusCodeRangesToString`. -/
def statusCodeRangesToString (ranges : List StatusCodeRange) : String :=
  if ranges = [] then "" else join ',' (ranges.map rangeToString)

/-! ## Asking rules -/

/-- `shouldMatchStatusCodeRanges`. -/
def shouldMatchStatusCodeRanges (ranges : List StatusCodeRange) (code : Int) : Bool :=
  if code < 100 ∨ code > 599 then false else scan code ranges

/-- The ranges in force. -/
structure Rules where
  automaticDisableStatusCodeRanges : List StatusCodeRange := [⟨401, 401⟩]
  automaticRetryStatusCodeRanges : List StatusCodeRange :=
    [⟨100, 199⟩, ⟨300, 399⟩, ⟨401, 407⟩, ⟨409, 499⟩, ⟨500, 503⟩, ⟨505, 523⟩, ⟨525, 599⟩]
  deriving DecidableEq, Repr

/-- `IsAlwaysSkipRetryStatusCode`. -/
def isAlwaysSkipRetryStatusCode (code : Int) : Bool := code ∈ [504, 524]

/-- `ShouldDisableByStatusCode`. -/
def Rules.shouldDisable (rules : Rules) (code : Int) : Bool :=
  shouldMatchStatusCodeRanges rules.automaticDisableStatusCodeRanges code

/-- `ShouldRetryByStatusCode`. -/
def Rules.shouldRetry (rules : Rules) (code : Int) : Bool :=
  if isAlwaysSkipRetryStatusCode code then false
  else shouldMatchStatusCodeRanges rules.automaticRetryStatusCodeRanges code

/-- An option that is set. -/
inductive Load where
  | disable (text : String)
  | retry (text : String)

/-- `AutomaticDisableStatusCodesFromString` and `AutomaticRetryStatusCodesFromString`: a
text that is refused leaves the rules as they are. -/
def Rules.load (rules : Rules) : Load → Rules
  | .disable text =>
    match parseHTTPStatusCodeRanges text with
    | .error _ => rules
    | .ok ranges => { rules with automaticDisableStatusCodeRanges := ranges }
  | .retry text =>
    match parseHTTPStatusCodeRanges text with
    | .error _ => rules
    | .ok ranges => { rules with automaticRetryStatusCodeRanges := ranges }

example : (parseHTTPStatusCodeToken "4 01-4 03").toOption = some ⟨401, 403⟩ := by
  decide

/-! ## What is accepted -/

/-- A range of codes of HTTP, with a code in it. -/
structure Codes (range : StatusCodeRange) : Prop where
  above : 100 ≤ range.start
  filled : range.start ≤ range.stop
  below : range.stop ≤ 599

/-- Ranges that a walk may end early in. -/
structure Ordered (ranges : List StatusCodeRange) : Prop where
  ordered : ranges.Pairwise fun left right => left.stop < right.start
  codes : ∀ range ∈ ranges, Codes range

theorem token_codes (parsed : parseHTTPStatusCodeToken seg = .ok range) : Codes range := by
  unfold parseHTTPStatusCodeToken parseTight at parsed
  -- all but the two branches that name codes are errors
  repeat' split at parsed
  all_goals cases parsed
  · rename_i inOrder inside
    obtain ⟨above, below⟩ := not_or.mp inside
    exact ⟨not_lt.mp above, not_lt.mp inOrder, not_lt.mp below⟩
  · rename_i inside
    obtain ⟨above, below⟩ := not_or.mp inside
    exact ⟨not_lt.mp above, le_rfl, not_lt.mp below⟩

/-- The ranges of the rules that can be read. -/
def readable (input : String) : List StatusCodeRange :=
  (segments (trimSpace input)).filterMap fun seg => (parseHTTPStatusCodeToken seg).toOption

theorem to_option_iff {result : Except String StatusCodeRange} :
    result.toOption = some range ↔ result = .ok range := by
  cases result <;> simp [Except.toOption]

theorem mem_readable : range ∈ readable input ↔
    ∃ seg ∈ segments (trimSpace input), parseHTTPStatusCodeToken seg = .ok range := by
  simp only [readable, List.mem_filterMap, to_option_iff]

theorem accepted (parsed : parseHTTPStatusCodeRanges input = .ok ranges) :
    ranges = merge ((readable input).mergeSort before) := by
  unfold parseHTTPStatusCodeRanges at parsed
  dsimp only at parsed
  split at parsed
  · rename_i blank
    cases parsed
    have none_ : segments "" = [] := by decide
    rw [readable, blank, none_, List.filterMap_nil, List.mergeSort_nil, merge]
  · split at parsed
    · cases parsed
    · exact (Except.ok.inj parsed).symm

theorem matches_iff (kept : Ordered ranges) :
    shouldMatchStatusCodeRanges ranges code = true ↔ ∃ range ∈ ranges, range.Holds code := by
  have found := scan_iff code kept.ordered fun range member => (kept.codes range member).filled
  rw [shouldMatchStatusCodeRanges]
  split
  · rename_i outside
    refine iff_of_false Bool.false_ne_true ?_
    rintro ⟨range, member, from_, upTo⟩
    have codes := kept.codes range member
    have := codes.above
    have := codes.below
    omega
  · exact found

theorem merged_codes {ranges : List StatusCodeRange} (codes : ∀ range ∈ ranges, Codes range) :
    (merge (ranges.mergeSort before)).Pairwise Apart ∧ Ordered (merge (ranges.mergeSort before)) := by
  obtain ⟨apart, proper⟩ := merge_sorted_apart fun range member => (codes range member).filled
  refine ⟨apart, apart.imp fun {left right} gap => ?_, fun range member => ?_⟩
  · unfold Apart at gap
    omega
  · have filled := proper range member
    obtain ⟨first, isFirst, from_, -⟩ := merge_sorted_holds.mp ⟨range, member, le_rfl, filled⟩
    obtain ⟨last, isLast, -, upTo⟩ := merge_sorted_holds.mp ⟨range, member, filled, le_rfl⟩
    exact ⟨(codes first isFirst).above.trans from_, filled, upTo.trans (codes last isLast).below⟩

theorem readable_codes (input : String) : ∀ range ∈ readable input, Codes range := fun range member => by
  obtain ⟨seg, -, read⟩ := mem_readable.mp member
  exact token_codes read

/-! ## What is written -/

/-- The characters of written rules. -/
def Written (text : String) : Prop := text ≠ "" ∧ ∀ char ∈ text.toList, char.isDigit = true ∨ char = '-'

theorem digits_of_itoa (code : Int) (within : 0 ≤ code ∧ code ≤ 599) :
    atoi (itoa code) = some code ∧ itoa code ≠ "" ∧ ∀ char ∈ (itoa code).toList, char.isDigit = true := by
  obtain ⟨number, rfl⟩ := Int.eq_ofNat_of_zero_le within.1
  have whole : (Int64.ofInt number).toInt = number :=
    Int64.toInt_ofInt_of_le (by omega) (by omega)
  have shape : itoa number = number.repr := by
    rw [itoa, Strconv.formatInt, whole]
  refine ⟨?_, ?_, ?_⟩
  · rw [atoi, itoa, Strconv.parse_format_int]
    exact congrArg some whole
  · rw [shape]
    exact Nat.repr_ne_empty
  · rw [shape, Nat.toList_repr]
    exact Strconv.digits_plain number

theorem range_written (codes : Codes range) : Written (rangeToString range) := by
  obtain ⟨above, proper, below⟩ := codes
  obtain ⟨-, filled, digits⟩ := digits_of_itoa range.start (by omega)
  obtain ⟨-, -, more⟩ := digits_of_itoa range.stop (by omega)
  unfold rangeToString
  split
  · exact ⟨filled, fun char member => .inl (digits char member)⟩
  · refine ⟨fun empty => filled ?_, fun char member => ?_⟩
    · have none_ := congrArg String.toList empty
      simp only [String.toList_append, String.toList_empty, List.append_eq_nil_iff] at none_
      exact String.toList_inj.mp none_.1.1
    · simp only [String.toList_append, List.mem_append] at member
      rcases member with (inside | dash) | inside
      · exact .inl (digits char inside)
      · exact .inr (List.mem_singleton.mp dash)
      · exact .inl (more char inside)

theorem parse_range_to_string (codes : Codes range) : parseTight (rangeToString range) = .ok range := by
  have filled := (range_written codes).1
  obtain ⟨above, proper, below⟩ := codes
  obtain ⟨first, -, digits⟩ := digits_of_itoa range.start (by omega)
  obtain ⟨last, -, more⟩ := digits_of_itoa range.stop (by omega)
  obtain ⟨someFirst, someLast⟩ : itoa range.start ≠ "" ∧ itoa range.stop ≠ "" :=
    ⟨(digits_of_itoa range.start (by omega)).2.1,
      (digits_of_itoa range.stop (by omega)).2.1⟩
  have undashed : ∀ {text : String}, (∀ char ∈ text.toList, char.isDigit = true) → '-' ∉ text.toList :=
    fun plain dash => absurd (plain '-' dash) (by decide)
  rw [parseTight, if_neg filled]
  unfold rangeToString
  split
  · rename_i single
    rw [if_neg (undashed digits), first]
    dsimp only
    rw [if_neg (by omega)]
    exact congrArg Except.ok (congrArg (IntRange.mk range.start) single)
  · have shape : itoa range.start ++ "-" ++ itoa range.stop = join '-' [itoa range.start, itoa range.stop] := by
      simp [← String.toList_inj, chars_of_join]
    have parts : split '-' (join '-' [itoa range.start, itoa range.stop]) =
        [itoa range.start, itoa range.stop] :=
      split_join (by simp) (by simpa using ⟨undashed digits, undashed more⟩)
    rw [if_pos (by simp), shape, parts]
    simp only [someFirst, someLast, or_self, if_false, first, last]
    rw [if_neg (by omega), if_neg (by omega)]

theorem plain_char (written : char.isDigit = true ∨ char = '-') :
    isSpace char = false ∧ char ≠ '，' ∧ char ≠ ' ' ∧ char ≠ ',' := by
  rcases written with digit | rfl
  · have low : 48 ≤ char.toNat ∧ char.toNat ≤ 57 := Char.isDigit_iff_toNat.mp digit
    refine ⟨?_, ?_, ?_, ?_⟩
    · simp [isSpace]
      omega
    all_goals
      rintro rfl
      revert digit
      decide
  · decide

theorem token_written (written : Written text) :
    parseHTTPStatusCodeToken text = parseTight text := by
  have tight : text.toList.filter (· ≠ ' ') = text.toList :=
    List.filter_eq_self.mpr fun char inside => decide_eq_true (plain_char (written.2 char inside)).2.2.1
  rw [parseHTTPStatusCodeToken, trim_space_plain fun char inside => (plain_char (written.2 char inside)).1,
    tight, String.ofList_toList]

/-- Rules that are joined by commas are the rules in the text. -/
theorem segments_joined (some_ : parts ≠ []) (written : ∀ part ∈ parts, Written part) :
    join ',' parts ≠ "" ∧ trimSpace (join ',' parts) = join ',' parts ∧ segments (join ',' parts) = parts := by
  have plain : ∀ char ∈ (join ',' parts).toList, isSpace char = false ∧ char ≠ '，' := by
    intro char inside
    rcases mem_join inside with rfl | ⟨part, member, inside⟩
    · decide
    · exact (plain_char ((written part member).2 char inside)).imp_right And.left
  have pieces : split ',' (join ',' parts) = parts := split_join some_ fun part member comma =>
    (plain_char ((written part member).2 ',' comma)).2.2.2 rfl
  refine ⟨fun empty => ?_, trim_space_plain fun char inside => (plain char inside).1, ?_⟩
  · rw [empty] at pieces
    have none_ : "" ∈ parts := pieces ▸ List.mem_singleton_self ""
    exact (written "" none_).1 rfl
  · have narrow : (join ',' parts).toList.map (fun char => if char = '，' then ',' else char) =
        (join ',' parts).toList :=
      (List.map_congr_left fun char inside => if_neg (plain char inside).2).trans (List.map_id _)
    have trimmed : parts.map trimSpace = parts :=
      (List.map_congr_left fun part member => trim_space_plain fun char inside =>
        (plain_char ((written part member).2 char inside)).1).trans (List.map_id _)
    rw [segments, narrow, String.ofList_toList, pieces, trimmed]
    exact List.filter_eq_self.mpr fun part member => decide_eq_true (written part member).1

/-- What is written for ranges is read as the same ranges, sorted and merged. -/
theorem parse_to_string (codes : ∀ range ∈ ranges, Codes range) :
    parseHTTPStatusCodeRanges (statusCodeRangesToString ranges) = .ok (merge (ranges.mergeSort before)) := by
  by_cases none_ : ranges = []
  · subst none_
    rw [List.mergeSort_nil]
    decide
  have written : ∀ part ∈ ranges.map rangeToString, Written part :=
    List.forall_mem_map.mpr fun range member => range_written (codes range member)
  have some_ : ranges.map rangeToString ≠ [] := by simpa using none_
  have tokens : ∀ range ∈ ranges, parseHTTPStatusCodeToken (rangeToString range) = .ok range :=
    fun range member => (token_written (range_written (codes range member))).trans
      (parse_range_to_string (codes range member))
  have valid : (ranges.map rangeToString).filter (fun seg => !(parseHTTPStatusCodeToken seg).isOk) = [] := by
    refine List.filter_eq_nil_iff.mpr (List.forall_mem_map.mpr fun range member => ?_)
    rw [tokens range member]
    exact Bool.false_ne_true
  have read : (ranges.map rangeToString).filterMap (fun seg => (parseHTTPStatusCodeToken seg).toOption) =
      ranges := by
    rw [List.filterMap_map, List.filterMap_congr (g := some), List.filterMap_some]
    intro range member
    rw [Function.comp_apply, tokens range member]
    rfl
  rw [statusCodeRangesToString, if_neg none_, parseHTTPStatusCodeRanges]
  generalize ranges.map rangeToString = parts at written some_ valid read
  obtain ⟨filled, trimmed, same⟩ := segments_joined some_ written
  rw [trimmed]
  dsimp only
  rw [if_neg filled, same, valid, read]
  rfl

/-- A text of rules is refused, or read as ranges that lie apart and match a code exactly
if one of the rules in the text names it; and what is shown for them is read as the same. -/
theorem accepted_rules (parsed : parseHTTPStatusCodeRanges input = .ok ranges) :
    ranges.Pairwise Apart ∧ (∀ range ∈ ranges, Codes range) ∧
      (∀ code, shouldMatchStatusCodeRanges ranges code = true ↔
        ∃ seg ∈ segments (trimSpace input), ∃ range, parseHTTPStatusCodeToken seg = .ok range ∧
          range.Holds code) ∧
      parseHTTPStatusCodeRanges (statusCodeRangesToString ranges) = .ok ranges := by
  obtain rfl := accepted parsed
  obtain ⟨apart, kept⟩ := merged_codes (readable_codes input)
  refine ⟨apart, kept.codes, fun code => ?_, ?_⟩
  · rw [matches_iff kept, merge_sorted_holds]
    constructor
    · rintro ⟨range, member, inside⟩
      obtain ⟨seg, listed, read⟩ := mem_readable.mp member
      exact ⟨seg, listed, range, read, inside⟩
    · rintro ⟨seg, listed, range, read, inside⟩
      exact ⟨range, mem_readable.mpr ⟨seg, listed, read⟩, inside⟩
  · rw [parse_to_string kept.codes,
      merge_sorted_fixed apart fun range member => (kept.codes range member).filled]

/-- Of two rules that overlap one range is kept, and it holds what either names. -/
theorem overlapping_rules_accepted :
    parseHTTPStatusCodeRanges " 401 - 403，402" = .ok [⟨401, 403⟩] ∧
      (∀ code, shouldMatchStatusCodeRanges [⟨401, 403⟩] code = true ↔
        ∃ seg ∈ segments (trimSpace " 401 - 403，402"), ∃ range,
          parseHTTPStatusCodeToken seg = .ok range ∧ range.Holds code) := by
  have sorted : List.mergeSort [⟨401, 403⟩, ⟨402, 402⟩] before = [(⟨401, 403⟩ : StatusCodeRange), ⟨402, 402⟩] :=
    List.mergeSort_of_pairwise (by decide)
  have parsed : parseHTTPStatusCodeRanges " 401 - 403，402" = .ok [⟨401, 403⟩] :=
    congrArg (fun ranges => Except.ok (merge ranges)) sorted
  exact ⟨parsed, (accepted_rules parsed).2.2.1⟩

/-! ## Every run -/

structure Rules.Kept (rules : Rules) : Prop where
  disable : Ordered rules.automaticDisableStatusCodeRanges
  retry : Ordered rules.automaticRetryStatusCodeRanges

theorem defaults_kept : ({} : Rules).Kept where
  disable := ⟨by decide, by simpa using ⟨by decide, by decide, by decide⟩⟩
  retry := ⟨by decide, fun range member => by
    have bounds : 100 ≤ range.start ∧ range.start ≤ range.stop ∧ range.stop ≤ 599 := by
      revert range
      decide
    exact ⟨bounds.1, bounds.2.1, bounds.2.2⟩⟩

theorem load_kept {rules : Rules} (kept : rules.Kept) (load : Load) : (rules.load load).Kept := by
  cases load with
  | disable text =>
    simp only [Rules.load]
    cases parsed : parseHTTPStatusCodeRanges text with
    | error message => exact kept
    | ok ranges => exact ⟨accepted parsed ▸ (merged_codes (readable_codes text)).2, kept.retry⟩
  | retry text =>
    simp only [Rules.load]
    cases parsed : parseHTTPStatusCodeRanges text with
    | error message => exact kept
    | ok ranges => exact ⟨kept.disable, accepted parsed ▸ (merged_codes (readable_codes text)).2⟩

/-- The texts that are shown for the rules in force, as options that are set. -/
def Rules.shown (rules : Rules) : List Load :=
  [.disable (statusCodeRangesToString rules.automaticDisableStatusCodeRanges),
    .retry (statusCodeRangesToString rules.automaticRetryStatusCodeRanges)]

theorem shown_matches (kept : Ordered ranges) : ∃ again,
    parseHTTPStatusCodeRanges (statusCodeRangesToString ranges) = .ok again ∧
      ∀ code, shouldMatchStatusCodeRanges again code = shouldMatchStatusCodeRanges ranges code := by
  refine ⟨_, parse_to_string kept.codes, fun code => ?_⟩
  rw [Bool.eq_iff_iff, matches_iff (merged_codes kept.codes).2, matches_iff kept, merge_sorted_holds]

/-- Whatever options have been set, accepted or refused, a server that starts with the
texts that are shown for the rules disables and tries again at the same codes; and it tries
again exactly at the codes that the rules name, but never at 504 and 524. -/
theorem shown_rules_decide_alike (loads : List Load) (code : Int) : let rules := loads.foldl Rules.load {}
    let again := rules.shown.foldl Rules.load {}
    again.shouldDisable code = rules.shouldDisable code ∧
      again.shouldRetry code = rules.shouldRetry code ∧
      (rules.shouldRetry code = true ↔ (code ≠ 504 ∧ code ≠ 524) ∧
        ∃ range ∈ rules.automaticRetryStatusCodeRanges, range.Holds code) := by
  intro rules again
  have kept : rules.Kept := List.foldlRecOn loads Rules.load defaults_kept
    fun rules kept load _ => load_kept kept load
  obtain ⟨disable, readDisable, sameDisable⟩ := shown_matches kept.disable
  obtain ⟨retry, readRetry, sameRetry⟩ := shown_matches kept.retry
  have loaded : again = ⟨disable, retry⟩ := by
    simp only [again, Rules.shown, List.foldl_cons, List.foldl_nil, Rules.load, readDisable, readRetry]
  refine ⟨?_, ?_, ?_⟩
  · rw [loaded]
    exact sameDisable code
  · rw [loaded, Rules.shouldRetry, Rules.shouldRetry, sameRetry]
  · have skipped : isAlwaysSkipRetryStatusCode code = true ↔ ¬(code ≠ 504 ∧ code ≠ 524) := by
      simp [isAlwaysSkipRetryStatusCode, or_iff_not_imp_left]
    rw [Rules.shouldRetry, ← matches_iff kept.retry]
    split
    · rename_i skips
      exact iff_of_false Bool.false_ne_true fun asked => skipped.mp skips asked.1
    · rename_i asks
      exact (and_iff_right (not_not.mp (mt skipped.mpr asks))).symm

end NewApi.StatusCodeRanges
