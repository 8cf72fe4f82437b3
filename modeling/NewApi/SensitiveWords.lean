import Mathlib.Data.List.Sort
import NewApi.GoRunes
import NewApi.Regions
import NewApi.Regrouping

/-! Sensitive words are replaced by a marker. They are searched in the runes of a lower-cased
copy of the text, by a machine that is kept under a hash of the words. The places of the
matches are counted in runes and their ends by the bytes of the lower-cased words, and both
are taken for bytes of the text. -/
namespace NewApi.SensitiveWords
open NewApi.GoRunes NewApi.Regions

/-! ## The search -/

abbrev Word := List Nat

/-- `Term` of the search: where a word occurs. -/
structure Term where
  pos : Nat
  word : Word
  deriving DecidableEq, Repr

def Term.stop (term : Term) : Nat := term.pos + term.word.length

/-- Behind the word as the code has it: `pos + len(string(word))`. -/
def Term.cut (term : Term) : Nat := term.pos + (encodeRunes term.word).length

def occurrences (words : List Word) (content : List Nat) : List Term :=
  (List.range content.length).flatMap fun pos =>
    (words.eraseDups.filter fun word => word ≠ [] ∧ word <+: content.drop pos).map (⟨pos, ·⟩)

/-- The Aho-Corasick search that a machine is used for: it returns all occurrences of its
words, ordered by their ends. -/
structure Search where
  find : List Word → List Nat → Bool → List Term
  found : ∀ words content, (find words content false).Perm (occurrences words content)
  ordered : ∀ words content, (find words content false).Pairwise (·.stop ≤ ·.stop)

/-! ## The model -/

section Model
variable (lower : Nat → Nat)

/-- `[]rune(strings.ToLower(text))`, where `lower` is `unicode.ToLower`. -/
def lowered (text : Bytes) : List Nat := (runes text).map fun rune => lower rune.value

def isSpaceValue (value : Nat) : Bool := GoText.isSpace (Char.ofNat value)

/-- `service/str.go::readRunes`. -/
def readRunes (dict : List Bytes) : List Word :=
  dict.map fun word => ((lowered lower word).dropWhile isSpaceValue).rdropWhile isSpaceValue

/-- `hash/fnv` with 64 bits, variant a. -/
def fnv64a (bytes : Bytes) : UInt64 :=
  bytes.foldl (fun hash byte => (hash ^^^ byte.toUInt64) * 1099511628211) 14695981039346656037

/-- `service/str.go::acKey`; nothing is the empty key. -/
def acKey (dict : List Bytes) : Option UInt64 :=
  let normalized := (dict.map fun word => encodeRunes (lowered lower (trimSpaceBytes word))).filter
    (· ≠ [])
  if normalized = [] then none
  else some (fnv64a ((normalized.mergeSort fun first second => decide (first ≤ second)).flatMap
    (0 :: ·)))

/-- `acCache`: a machine under a key, by the words that it was built of. -/
abbrev Cache := List (UInt64 × List Word)

/-- `service/str.go::getOrBuildAC`, and the cache behind it. -/
def getOrBuildAC (cache : Cache) (dict : List Bytes) : Option (List Word) × Cache :=
  match acKey lower dict with
  | none => (none, cache)
  | some key =>
    match cache.lookup key with
    | some words => (some words, cache)
    | none => (some (readRunes lower dict), (key, readRunes lower dict) :: cache)

/-- `m.MultiPatternSearch`; the nil machine panics at the first rune. -/
def multiPatternSearch (search : Search) (machine : Option (List Word)) (content : List Nat)
    (returnImmediately : Bool) : Option (List Term) :=
  match machine with
  | some words => some (search.find words content returnImmediately)
  | none => if content = [] then some [] else none

/-- `text[first:last]`, by its places; it panics outside of the text. -/
def slice (text : Bytes) (first last : Nat) : Option (List Symbol) :=
  if first ≤ last ∧ last ≤ text.length then some (keep first last) else none

def write (text : Bytes) : Nat → List Term → Option (List Symbol)
  | lastPos, [] => slice text lastPos text.length
  | lastPos, hit :: rest =>
    (slice text lastPos hit.pos).bind fun kept =>
      (write text hit.cut rest).map fun later => kept ++ .marker :: later

/-- What `SensitiveWordReplace` returns; the text is told by the places of its bytes. -/
structure Outcome where
  hit : Bool
  words : List Word
  written : List Symbol

def Outcome.text (outcome : Outcome) (text : Bytes) : Bytes :=
  outcome.written.flatMap fun symbol =>
    match symbol with
    | .byte index => text[index]?.toList
    | .marker => ascii "**###**"

/-- `service/sensitive.go::SensitiveWordReplace`, and the cache behind it; nothing where it
panics. -/
def sensitiveWordReplace (search : Search) (cache : Cache) (sensitiveWords : List Bytes)
    (text : Bytes) (returnImmediately : Bool) : Option Outcome × Cache :=
  if sensitiveWords = [] then (some ⟨false, [], keep 0 text.length⟩, cache)
  else
    let (machine, cache) := getOrBuildAC lower cache sensitiveWords
    match multiPatternSearch search machine (lowered lower text) returnImmediately with
    | none => (none, cache)
    | some [] => (some ⟨false, [], keep 0 text.length⟩, cache)
    | some hits => ((write text 0 hits).map fun written => ⟨true, hits.map (·.word), written⟩, cache)

end Model

/-! ## What should be returned -/

section Statement
variable (lower : Nat → Nat) (sensitiveWords : List Bytes) (text : Bytes)

def hits : List Term := occurrences (readRunes lower sensitiveWords) (lowered lower text)

def offset (rune : Nat) : Nat := (joinRunes ((runes text).take rune)).length

/-- The text is kept outside of the regions, which are replaced, and a hit is reported where
a word occurs. -/
structure Replaces (outcome : Outcome) : Prop where
  written : outcome.written =
    told Term.pos Term.stop (hits lower sensitiveWords text) (offset text) 0 (runes text).length
  hit : outcome.hit = true ↔ hits lower sensitiveWords text ≠ []

def Reports (outcome : Outcome) : Prop :=
  ∀ word, word ∈ outcome.words ↔ ∃ pos, ⟨pos, word⟩ ∈ hits lower sensitiveWords text

def ReplacesWords (search : Search) (cache : Cache) : Prop :=
  ∃ outcome, (sensitiveWordReplace lower search cache sensitiveWords text false).1 = some outcome ∧
    Replaces lower sensitiveWords text outcome

/-- The machine that is searched finds in the text what the words of the list are found as. -/
def Own (cache : Cache) : Prop :=
  sensitiveWords ≠ [] → ∀ words, (getOrBuildAC lower cache sensitiveWords).1 = some words →
    ∀ term, term ∈ occurrences words (lowered lower text) ↔ term ∈ hits lower sensitiveWords text

def cuts (terms : List Term) : List (Nat × Nat) := gaps Term.pos Term.cut id text.length 0 terms

def spaces (terms : List Term) : List (Nat × Nat) :=
  gaps Term.pos Term.stop (offset text) (runes text).length 0 terms

def Placed (cut space : Nat × Nat) : Prop :=
  (cut.1 ≤ cut.2 ∧ cut.2 ≤ text.length) ∧ SameGap cut space

/-- There is a machine, which finds what the words of the list are found as, no two matches
overlap, and the runes and the bytes of the lower-cased words count the bytes of the text. -/
structure InPlace (cache : Cache) : Prop where
  machine : sensitiveWords ≠ [] → text ≠ [] → acKey lower sensitiveWords ≠ none
  own : Own lower sensitiveWords text cache
  apart : Apart Term.pos Term.stop (hits lower sensitiveWords text)
  places : List.Forall₂ (Placed text) (cuts text (hits lower sensitiveWords text))
    (spaces text (hits lower sensitiveWords text))

end Statement

/-! ## Matches -/

section Matches
variable {words : List Word} {content : List Nat} {term : Term}

theorem mem_occurrences : term ∈ occurrences words content ↔
    term.word ∈ words ∧ term.word ≠ [] ∧ term.word <+: content.drop term.pos := by
  simp only [occurrences, List.mem_flatMap, List.mem_range, List.mem_map, List.mem_filter,
    List.mem_eraseDups, decide_eq_true_eq]
  constructor
  · rintro ⟨pos, -, word, ⟨listed, found⟩, rfl⟩
    exact ⟨listed, found⟩
  · rintro ⟨listed, filled, found⟩
    refine ⟨term.pos, ?_, term.word, ⟨listed, filled, found⟩, rfl⟩
    have length := found.length_le
    have some_ := List.length_pos_iff.2 filled
    rw [List.length_drop] at length
    omega

theorem occurrence_inside (member : term ∈ occurrences words content) :
    term.pos < term.stop ∧ term.stop ≤ content.length := by
  obtain ⟨-, filled, found⟩ := mem_occurrences.1 member
  have length := found.length_le
  have some_ := List.length_pos_iff.2 filled
  rw [List.length_drop] at length
  unfold Term.stop
  omega

theorem occurrences_sorted (words : List Word) (content : List Nat) :
    (occurrences words content).Pairwise fun first second => first.pos ≤ second.pos := by
  rw [occurrences, List.pairwise_flatMap]
  constructor
  · intro pos _
    exact List.pairwise_map.2 (List.pairwise_of_forall fun _ _ => Nat.le_refl _)
  · refine List.pairwise_lt_range.imp fun {first second} order term member other listed => ?_
    obtain ⟨word, -, rfl⟩ := List.mem_map.1 member
    obtain ⟨more, -, rfl⟩ := List.mem_map.1 listed
    exact order.le

theorem occurrences_nodup (words : List Word) (content : List Nat) : (occurrences words content).Nodup := by
  refine List.nodup_flatMap.2 ⟨fun pos _ => ?_, ?_⟩
  · refine List.Nodup.map (fun first second same => (Term.mk.inj same).2) (List.Nodup.filter _ ?_)
    exact Regrouping.nodup_erase_dups words
  · refine List.pairwise_lt_range.imp fun {first second} order term member listed => ?_
    obtain ⟨word, -, rfl⟩ := List.mem_map.1 member
    obtain ⟨more, -, same⟩ := List.mem_map.1 listed
    exact absurd (Term.mk.inj same).1 (by omega)

theorem sorted_of_apart (apart : Apart Term.pos Term.stop (occurrences words content)) :
    (occurrences words content).Pairwise fun first second => first.stop ≤ second.pos := by
  have both := (occurrences_sorted words content).and (occurrences_nodup words content)
  refine both.imp_of_mem fun {first second} member other ⟨order, differ⟩ => ?_
  have inside := occurrence_inside other
  rcases apart first member second other with same | before | behind
  · exact absurd same differ
  · exact before
  · omega

theorem found_in_order (same : found.Perm (occurrences words content))
    (ordered : found.Pairwise (·.stop ≤ ·.stop))
    (apart : Apart Term.pos Term.stop (occurrences words content)) :
    found = occurrences words content := by
  refine @List.Perm.eq_of_pairwise _ (fun first second : Term => first.stop ≤ second.stop) _ _
    (fun first second member other before behind => ?_) ordered ?_ same
  · have listed := same.mem_iff.1 member
    have one := occurrence_inside listed
    have two := occurrence_inside other
    rcases apart first listed second other with equal | ends | ends
    · exact equal
    · omega
    · omega
  · refine (sorted_of_apart apart).imp_of_mem fun {first second} _ other before => ?_
    have inside := occurrence_inside other
    omega

end Matches

/-! ## Places -/

section Places
variable (text : Bytes)

theorem offset_rising : Monotone (offset text) := by
  refine monotone_nat_of_le_succ fun rune => ?_
  unfold offset joinRunes
  rw [List.take_add_one, List.flatMap_append, List.length_append]
  exact Nat.le_add_right _ _

theorem write_eq_iff (lastPos : Nat) (terms : List Term) (written : List Symbol) :
    write text lastPos terms = some written ↔
      (∀ cut ∈ gaps Term.pos Term.cut id text.length lastPos terms, cut.1 ≤ cut.2 ∧ cut.2 ≤ text.length) ∧
      written = joined (gaps Term.pos Term.cut id text.length lastPos terms) := by
  induction terms generalizing lastPos written with
  | nil =>
    rw [write, slice, gaps, List.forall_mem_singleton]
    split
    next inside => simp [inside, joined, eq_comm]
    next outside => exact iff_of_false (fun none_ => by cases none_) fun both => outside both.1
  | cons hit rest ih =>
    have filled : gaps Term.pos Term.cut id text.length hit.cut rest ≠ [] := by
      cases rest <;> exact List.cons_ne_nil _ _
    rw [write, slice, gaps, List.forall_mem_cons]
    simp only [id_eq]
    rw [joined_no_gaps _ filled]
    split
    next inside =>
      rw [Option.bind_some, Option.map_eq_some_iff, and_iff_right inside]
      constructor
      · rintro ⟨later, done, rfl⟩
        obtain ⟨all, rfl⟩ := (ih _ _).1 done
        exact ⟨all, rfl⟩
      · rintro ⟨all, rfl⟩
        exact ⟨_, (ih _ _).2 ⟨all, rfl⟩, rfl⟩
    next outside => exact iff_of_false (fun none_ => by cases none_) fun both => outside both.1.1

theorem cuts_filled (terms : List Term) : cuts text terms ≠ [] := by
  cases terms <;> exact List.cons_ne_nil _ _

theorem spaces_filled (terms : List Term) : spaces text terms ≠ [] := by
  cases terms <;> exact List.cons_ne_nil _ _

theorem gaps_length {α : Type*} (start stop : α → Nat) (offset : Nat → Nat) (size last : Nat)
    (items : List α) : (gaps start stop offset size last items).length = items.length + 1 := by
  induction items generalizing last with
  | nil => rfl
  | cons item rest ih => rw [gaps, List.length_cons, ih, List.length_cons]

variable {words : List Word} {content : List Nat}

theorem told_spaces (whole : content.length = (runes text).length)
    (apart : Apart Term.pos Term.stop (occurrences words content)) :
    told Term.pos Term.stop (occurrences words content) (offset text) 0 (runes text).length =
      joined (spaces text (occurrences words content)) := by
  have sorted := @told_sorted _ Term.pos Term.stop _ 0 (offset_rising text) _ [] _
    (fun term member => (occurrence_inside (List.nil_append _ ▸ member)).1)
    (fun term member => whole ▸ (occurrence_inside member).2) (sorted_of_apart apart)
    (fun term none_ => by cases none_) (fun term _ => Nat.zero_le _) (Nat.zero_le _)
  exact sorted

end Places

/-! ## The replacement -/

section Replacement
variable {lower : Nat → Nat} {sensitiveWords : List Bytes} {text : Bytes} {search : Search}
  {cache : Cache}

theorem lowered_length : (lowered lower text).length = (runes text).length := List.length_map _

theorem lowered_empty_iff : lowered lower text = [] ↔ text = [] := by
  rw [lowered, List.map_eq_nil_iff]
  constructor
  · intro none_
    rw [← join_runes text, none_]
    rfl
  · rintro rfl
    rfl

def searched (lower : Nat → Nat) (search : Search) (cache : Cache) (sensitiveWords : List Bytes)
    (text : Bytes) : Option (List Term) :=
  if sensitiveWords = [] then some []
  else multiPatternSearch search (getOrBuildAC lower cache sensitiveWords).1 (lowered lower text) false

theorem outcome_eq : (sensitiveWordReplace lower search cache sensitiveWords text false).1 =
    (searched lower search cache sensitiveWords text).bind fun found =>
      (write text 0 found).map fun written => ⟨!found.isEmpty, found.map (·.word), written⟩ := by
  have plain : write text 0 [] = some (keep 0 text.length) := by
    rw [write, slice, if_pos ⟨Nat.zero_le _, Nat.le_refl _⟩]
  unfold sensitiveWordReplace searched
  split
  next => rw [Option.bind_some, plain]; rfl
  next =>
    dsimp only
    cases multiPatternSearch search (getOrBuildAC lower cache sensitiveWords).1 (lowered lower text)
      false with
    | none => rfl
    | some found =>
      cases found with
      | nil => rw [Option.bind_some, plain]; rfl
      | cons hit rest => rfl

theorem written_iff (same : found.Perm (hits lower sensitiveWords text))
    (ordered : found.Pairwise (·.stop ≤ ·.stop)) :
    write text 0 found = some (told Term.pos Term.stop (hits lower sensitiveWords text)
        (offset text) 0 (runes text).length) ↔
      Apart Term.pos Term.stop (hits lower sensitiveWords text) ∧
        List.Forall₂ (Placed text) (cuts text (hits lower sensitiveWords text))
          (spaces text (hits lower sensitiveWords text)) := by
  rw [write_eq_iff]
  have in_order : Apart Term.pos Term.stop (hits lower sensitiveWords text) →
      found = hits lower sensitiveWords text := found_in_order same ordered
  constructor
  · rintro ⟨inside, written⟩
    have apart : Apart Term.pos Term.stop (hits lower sensitiveWords text) := by
      refine @apart_of_count _ _ _ _ (runes text).length ?_
      have markers := congrArg (List.count .marker) written
      obtain ⟨cut, rest, shape⟩ := List.exists_cons_of_ne_nil (cuts_filled text found)
      have length := gaps_length Term.pos Term.cut id text.length 0 found
      rw [show gaps Term.pos Term.cut id text.length 0 found = cut :: rest from shape] at markers length
      rw [told_markers, joined_markers] at markers
      rw [List.length_cons] at length
      rw [markers, ← same.length_eq]
      omega
    obtain rfl := in_order apart
    refine ⟨apart, (List.forall₂_and_left _ _).2 ⟨inside, ?_⟩⟩
    refine (joined_same_iff (cuts_filled text _) (spaces_filled text _)).1 ?_
    exact written.symm.trans (told_spaces text lowered_length apart)
  · rintro ⟨apart, places⟩
    obtain rfl := in_order apart
    obtain ⟨inside, equal⟩ := (List.forall₂_and_left _ _).1 places
    refine ⟨inside, (told_spaces text lowered_length apart).trans ?_⟩
    exact ((joined_same_iff (cuts_filled text _) (spaces_filled text _)).2 equal).symm

theorem searched_of_own (machine : sensitiveWords ≠ [] → text ≠ [] → acKey lower sensitiveWords ≠ none)
    (own : Own lower sensitiveWords text cache) :
    ∃ found, searched lower search cache sensitiveWords text = some found ∧
      found.Perm (hits lower sensitiveWords text) ∧ found.Pairwise (·.stop ≤ ·.stop) := by
  unfold searched
  by_cases empty : sensitiveWords = []
  · subst empty
    have none_ : hits lower [] text = [] := by
      refine List.eq_nil_iff_forall_not_mem.2 fun term member => ?_
      cases (mem_occurrences.1 member).1
    exact ⟨[], if_pos rfl, by rw [none_], .nil⟩
  · rw [if_neg empty]
    cases built : (getOrBuildAC lower cache sensitiveWords).1 with
    | some words =>
      refine ⟨_, rfl, (search.found _ _).trans ?_, search.ordered _ _⟩
      exact (List.perm_ext_iff_of_nodup (occurrences_nodup _ _) (occurrences_nodup _ _)).2
        (own empty words built)
    | none =>
      have key : acKey lower sensitiveWords = none := by
        unfold getOrBuildAC at built
        cases hashed : acKey lower sensitiveWords with
        | none => rfl
        | some key =>
          rw [hashed] at built
          dsimp only at built
          split at built <;> cases built
      have blank : text = [] := by
        by_contra filled
        exact machine empty filled key
      subst blank
      exact ⟨[], rfl, .refl _, .nil⟩

theorem own_of_words {words : List Word} {content : List Nat} {found : List Term}
    {list : List Word} (same : found.Perm (occurrences words content))
    (reported : ∀ word, word ∈ found.map (·.word) ↔ ∃ pos, ⟨pos, word⟩ ∈ occurrences list content)
    (term : Term) : term ∈ occurrences words content ↔ term ∈ occurrences list content := by
  have known : ∀ word, (∃ pos, ⟨pos, word⟩ ∈ occurrences words content) ↔
      ∃ pos, ⟨pos, word⟩ ∈ occurrences list content := by
    intro word
    rw [← reported, List.mem_map]
    constructor
    · rintro ⟨pos, member⟩
      exact ⟨⟨pos, word⟩, same.mem_iff.2 member, rfl⟩
    · rintro ⟨term, member, rfl⟩
      exact ⟨term.pos, same.mem_iff.1 member⟩
  rw [mem_occurrences, mem_occurrences]
  constructor
  · rintro ⟨listed, filled, found⟩
    obtain ⟨pos, there⟩ := (known term.word).1 ⟨term.pos, mem_occurrences.2 ⟨listed, filled, found⟩⟩
    exact ⟨(mem_occurrences.1 there).1, filled, found⟩
  · rintro ⟨listed, filled, found⟩
    obtain ⟨pos, there⟩ := (known term.word).2 ⟨term.pos, mem_occurrences.2 ⟨listed, filled, found⟩⟩
    exact ⟨(mem_occurrences.1 there).1, filled, found⟩

theorem machine_of_searched (asked : searched lower search cache sensitiveWords text = some found)
    (some_ : sensitiveWords ≠ []) (filled : text ≠ []) : acKey lower sensitiveWords ≠ none := by
  intro key
  rw [searched, if_neg some_, getOrBuildAC, key] at asked
  dsimp only [multiPatternSearch] at asked
  rw [if_neg (fun none_ => filled (lowered_empty_iff.1 none_))] at asked
  cases asked

theorem in_place_of_own (own : Own lower sensitiveWords text cache)
    (replaces : ReplacesWords lower sensitiveWords text search cache) :
    InPlace lower sensitiveWords text cache := by
  obtain ⟨outcome, done, replaced⟩ := replaces
  rw [outcome_eq] at done
  obtain ⟨found, asked, writes⟩ := Option.bind_eq_some_iff.1 done
  obtain ⟨written, wrote, rfl⟩ := Option.map_eq_some_iff.1 writes
  obtain ⟨other, again, same, ordered⟩ : ∃ other,
      searched lower search cache sensitiveWords text = some other ∧ _ ∧ _ :=
    searched_of_own (machine_of_searched asked) own
  obtain rfl := Option.some.inj (asked.symm.trans again)
  obtain ⟨apart, places⟩ := (written_iff same ordered).1 (wrote.trans (congrArg _ replaced.written))
  exact ⟨machine_of_searched asked, own, apart, places⟩

theorem own_of_reports
    (done : (sensitiveWordReplace lower search cache sensitiveWords text false).1 = some outcome)
    (reports : Reports lower sensitiveWords text outcome) : Own lower sensitiveWords text cache := by
  rw [outcome_eq] at done
  obtain ⟨found, asked, writes⟩ := Option.bind_eq_some_iff.1 done
  obtain ⟨written, -, rfl⟩ := Option.map_eq_some_iff.1 writes
  intro some_ words built
  rw [searched, if_neg some_, built] at asked
  obtain rfl := Option.some.inj asked
  exact own_of_words (search.found _ _) reports

theorem InPlace.replaced (inPlace : InPlace lower sensitiveWords text cache) :
    ∃ outcome, (sensitiveWordReplace lower search cache sensitiveWords text false).1 = some outcome ∧
      Replaces lower sensitiveWords text outcome ∧ Reports lower sensitiveWords text outcome := by
  obtain ⟨found, asked, same, ordered⟩ : ∃ found,
      searched lower search cache sensitiveWords text = some found ∧ _ ∧ _ :=
    searched_of_own inPlace.machine inPlace.own
  have wrote := (written_iff same ordered).2 ⟨inPlace.apart, inPlace.places⟩
  refine ⟨⟨!found.isEmpty, found.map (·.word), _⟩, ?_, ⟨rfl, ?_⟩, fun word => ?_⟩
  · rw [outcome_eq, asked, Option.bind_some, wrote]
    rfl
  · rw [Bool.not_eq_true', List.isEmpty_eq_false_iff, ne_eq, ne_eq, not_iff_not]
    exact ⟨fun none_ => List.perm_nil.1 (none_ ▸ same.symm), fun none_ =>
      List.perm_nil.1 (none_ ▸ same)⟩
  · simp only [List.mem_map]
    constructor
    · rintro ⟨term, member, rfl⟩
      exact ⟨term.pos, same.mem_iff.1 member⟩
    · rintro ⟨pos, member⟩
      exact ⟨⟨pos, word⟩, same.mem_iff.2 member, rfl⟩

end Replacement

/-- The words are replaced, and exactly those that occur are reported, if and only if there
is a machine that finds what they are found as, no two matches overlap, and every gap between
them is cut where it is. With such a machine the same is so for the text and the hit alone. -/
theorem replaces_words_iff (lower : Nat → Nat) (sensitiveWords : List Bytes) (text : Bytes)
    (search : Search) (cache : Cache) :
    ((∃ outcome, (sensitiveWordReplace lower search cache sensitiveWords text false).1 = some outcome ∧
        Replaces lower sensitiveWords text outcome ∧ Reports lower sensitiveWords text outcome) ↔
      InPlace lower sensitiveWords text cache) ∧
    (Own lower sensitiveWords text cache ∧ ReplacesWords lower sensitiveWords text search cache ↔
      InPlace lower sensitiveWords text cache) := by
  refine ⟨⟨fun ⟨outcome, done, replaces, reports⟩ => ?_, InPlace.replaced⟩,
    ⟨fun both => in_place_of_own both.1 both.2, fun inPlace => ⟨inPlace.own, ?_⟩⟩⟩
  · exact in_place_of_own (own_of_reports done reports) ⟨outcome, done, replaces⟩
  · obtain ⟨outcome, done, replaces, -⟩ := inPlace.replaced
    exact ⟨outcome, done, replaces⟩

section Ascii
variable {lower : Nat → Nat} {sensitiveWords : List Bytes} {text : Bytes}

theorem ascii_runes (narrow : ∀ byte ∈ text, byte.toNat < 0x80) :
    runes text = text.map fun byte => ⟨byte.toNat, [byte]⟩ := by
  induction text with
  | nil => rfl
  | cons lead rest ih =>
    obtain ⟨first, others⟩ := List.forall_mem_cons.1 narrow
    rw [runes_ascii first, ih others, List.map_cons]

theorem ascii_offset (narrow : ∀ byte ∈ text, byte.toNat < 0x80) (within : rune ≤ text.length) :
    offset text rune = rune := by
  rw [offset, joinRunes, ascii_runes narrow, ← List.map_take, List.flatMap_map]
  simpa using within

theorem ascii_encoded {word : Word} (narrow : ∀ value ∈ word, value < 0x80) :
    (encodeRunes word).length = word.length := by
  induction word with
  | nil => rfl
  | cons first rest ih =>
    obtain ⟨small, others⟩ := List.forall_mem_cons.1 narrow
    rw [encodeRunes, List.flatMap_cons, List.length_append, ← encodeRunes, ih others, encodeRune,
      if_pos small, List.length_singleton, List.length_cons, Nat.add_comm]

theorem ascii_gaps (narrow : ∀ byte ∈ text, byte.toNat < 0x80) {terms : List Term}
    (ends : ∀ term ∈ terms, term.cut = term.stop ∧ term.pos ≤ term.stop ∧ term.stop ≤ text.length)
    (ahead : ∀ term ∈ terms, last ≤ term.pos) (within : last ≤ text.length)
    (sorted : terms.Pairwise fun first second => first.stop ≤ second.pos) :
    List.Forall₂ (Placed text) (gaps Term.pos Term.cut id text.length last terms)
      (gaps Term.pos Term.stop (offset text) (runes text).length last terms) := by
  have whole : (runes text).length = text.length := by rw [ascii_runes narrow, List.length_map]
  induction terms generalizing last with
  | nil =>
    rw [gaps, gaps, whole, ascii_offset narrow le_rfl]
    exact .cons ⟨⟨within, le_rfl⟩, .inl rfl⟩ .nil
  | cons term rest ih =>
    obtain ⟨⟨cut, proper, inside⟩, later⟩ := List.forall_mem_cons.1 ends
    obtain ⟨next, behind⟩ := List.pairwise_cons.1 sorted
    rw [gaps, gaps, cut, ascii_offset narrow inside, ascii_offset narrow (proper.trans inside)]
    exact .cons ⟨⟨ahead term List.mem_cons_self, proper.trans inside⟩, .inl rfl⟩
      (ih later next inside behind)

/-- In a text of ASCII the runes count the bytes. -/
theorem ascii_places (narrow : ∀ byte ∈ text, byte.toNat < 0x80)
    (lowers : ∀ value < 0x80, lower value < 0x80)
    (apart : Apart Term.pos Term.stop (hits lower sensitiveWords text)) :
    List.Forall₂ (Placed text) (cuts text (hits lower sensitiveWords text))
      (spaces text (hits lower sensitiveWords text)) := by
  have small : ∀ value ∈ lowered lower text, value < 0x80 := by
    intro value member
    rw [lowered, ascii_runes narrow, List.map_map] at member
    obtain ⟨byte, inText, rfl⟩ := List.mem_map.1 member
    exact lowers _ (narrow byte inText)
  refine ascii_gaps narrow (fun term member => ?_) (fun _ _ => Nat.zero_le _) (Nat.zero_le _)
    (sorted_of_apart apart)
  obtain ⟨-, -, found⟩ := mem_occurrences.1 member
  obtain ⟨proper, inside⟩ := occurrence_inside member
  rw [lowered_length, ascii_runes narrow, List.length_map] at inside
  have encoded := @ascii_encoded term.word fun value listed =>
    small value (List.mem_of_mem_drop (found.subset listed))
  exact ⟨by rw [Term.cut, encoded, Term.stop], proper.le, inside⟩

end Ascii

/-! ## Overlaps and wide characters -/

def plainSearch : Search where
  find words content _ := (occurrences words content).insertionSort (·.stop ≤ ·.stop)
  found _ _ := List.perm_insertionSort _ _
  ordered _ _ := List.pairwise_insertionSort _ _

/-- `unicode.ToLower`, of ASCII. -/
def lowerAscii (value : Nat) : Nat := if 65 ≤ value ∧ value ≤ 90 then value + 32 else value

/-- Two words that overlap end in a panic, and behind a character of two bytes the wrong
ones are cut out. -/
theorem overlap_panics :
    (sensitiveWordReplace lowerAscii plainSearch [] [ascii "ab", ascii "bc"] (ascii "abc")
        false).1 = none ∧
      ¬ ReplacesWords lowerAscii [ascii "ab", ascii "bc"] (ascii "abc") plainSearch [] ∧
      ((sensitiveWordReplace lowerAscii plainSearch [] [ascii "ab"] (0xC3 :: 0xA9 :: ascii " ab")
        false).1.map fun outcome => outcome.text (0xC3 :: 0xA9 :: ascii " ab")) =
        some (0xC3 :: 0xA9 :: ascii "**###**b") := by
  have panics : (sensitiveWordReplace lowerAscii plainSearch [] [ascii "ab", ascii "bc"]
      (ascii "abc") false).1 = none := by rfl
  refine ⟨panics, fun replaces => ?_, by rfl⟩
  obtain ⟨outcome, done, -⟩ := replaces
  rw [panics] at done
  cases done

end NewApi.SensitiveWords
