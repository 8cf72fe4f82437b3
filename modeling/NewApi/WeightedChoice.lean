import NewApi.ChannelRouting
import NewApi.WeightedDraw

/-! The weighted choice among the channels of one priority. From memory a
channel is drawn for as many numbers as its smoothed weight. From the database
the walk over the weights stops one number late: the first ability takes a
number of every following one, and the last goes without. -/
namespace NewApi.WeightedChoice
open NewApi.Channels NewApi.ChannelCache NewApi.ChannelRouting NewApi.WeightedDraw

variable {channels : List Channel} {abilities : List Ability}

/-! ## From memory -/

def sumWeight (channels : List Channel) : Nat := total Channel.getWeight channels

def smoothingFactor (channels : List Channel) : Nat :=
  if sumWeight channels ≠ 0 ∧ sumWeight channels / channels.length < 10 then 100 else 1

def smoothingAdjustment (channels : List Channel) : Nat :=
  if sumWeight channels = 0 then 100 else 0

def effectiveWeight (channels : List Channel) (channel : Channel) : Nat :=
  channel.getWeight * smoothingFactor channels + smoothingAdjustment channels

/-- The bound of `rand.Intn` in `GetRandomSatisfiedChannel`. -/
def totalWeight (channels : List Channel) : Nat :=
  (if sumWeight channels = 0 then channels.length * 100 else sumWeight channels) * smoothingFactor channels

theorem sum_weight_cast (channels : List Channel) :
    (channels.map fun channel => (channel.getWeight : Int)).sum = (sumWeight channels : Nat) := by
  induction channels with
  | nil => rfl
  | cons first rest ih => simp [sumWeight, total_cons, ih]

theorem effective_weights_sum (channels : List Channel) :
    total (effectiveWeight channels) channels = totalWeight channels := by
  refine (total_affine Channel.getWeight _ _ channels).trans ?_
  change sumWeight channels * _ + _ = _
  by_cases weightless : sumWeight channels = 0
  · simp [totalWeight, smoothingFactor, smoothingAdjustment, weightless]
  · simp [totalWeight, smoothingAdjustment, weightless]

theorem pick_by_weight_eq (factor adjustment draw : Nat) (channels : List Channel) :
    pickByWeight factor adjustment channels draw =
      choose (fun channel => channel.getWeight * factor + adjustment) channels draw := by
  induction channels generalizing draw with
  | nil => rfl
  | cons first rest ih =>
    have weighs : ((first.getWeight * factor + adjustment : Nat) : Int) =
        (first.getWeight : Int) * factor + adjustment := by
      push_cast
      rfl
    rw [pickByWeight, choose, ← weighs]
    by_cases here : draw < first.getWeight * factor + adjustment
    · rw [if_pos here]
      exact if_pos (by omega)
    · rw [if_neg here, ← ih]
      have left_ : (draw : Int) - (first.getWeight * factor + adjustment : Nat) =
          (draw - (first.getWeight * factor + adjustment) : Nat) := by omega
      rw [left_]
      exact if_neg (by omega)

theorem draw_channel_eq (channels : List Channel) (random : Nat) :
    drawChannel channels random =
      choose (effectiveWeight channels) channels (random % totalWeight channels) := by
  have walked : ∀ sum factor adjustment : Nat,
      pickByWeight factor adjustment channels
          (random % ((sum : Int) * factor).toNat : Nat) =
        choose (fun channel => channel.getWeight * factor + adjustment) channels
          (random % (sum * factor)) := by
    intro sum factor adjustment
    have bound : ((sum : Int) * factor).toNat = sum * factor := by
      exact_mod_cast Int.toNat_natCast (sum * factor)
    rw [bound, pick_by_weight_eq]
  unfold drawChannel effectiveWeight totalWeight smoothingFactor smoothingAdjustment
  rw [sum_weight_cast]
  by_cases weightless : sumWeight channels = 0
  · simpa [weightless] using walked (channels.length * 100) 1 100
  · by_cases light : sumWeight channels / channels.length < 10
    · have light' : ((sumWeight channels : Nat) : Int) / channels.length < 10 := by
        exact_mod_cast light
      simpa [weightless, light, light'] using walked (sumWeight channels) 100 0
    · have heavy : ¬ ((sumWeight channels : Nat) : Int) / channels.length < 10 := by
        exact_mod_cast light
      simpa [weightless, light, heavy] using walked (sumWeight channels) 1 0

theorem memory_exact (channels : List Channel) :
    Exact Channel.id (effectiveWeight channels) channels (totalWeight channels) (drawChannel channels) := by
  have drawn : ∀ random < totalWeight channels,
      drawChannel channels random = choose (effectiveWeight channels) channels random := by
    intro random below
    rw [draw_channel_eq, Nat.mod_eq_of_lt below]
  have exact_ := choose_exact Channel.id (effectiveWeight channels) channels
  rw [effective_weights_sum] at exact_
  exact exact_.congr drawn

/-! ## From the database -/

def abilityWeight (ability : Ability) : Nat := ability.weight + 10

theorem walk_abilities_eq (draw : Nat) (abilities : List Ability) :
    walkAbilities abilities draw = chooseLate abilityWeight abilities draw := by
  unfold chooseLate
  induction abilities generalizing draw with
  | nil => rfl
  | cons first rest ih =>
    rw [walkAbilities, choose, abilityWeight]
    by_cases here : draw ≤ first.weight + 10
    · rw [if_pos (show draw - 1 < first.weight + 10 by omega)]
      exact if_pos (show (draw : Int) - (first.weight + 10) ≤ 0 by omega)
    · have left_ : (draw : Int) - (first.weight + 10) = (draw - (first.weight + 10) : Nat) := by
        omega
      have late : draw - 1 - (first.weight + 10) = draw - (first.weight + 10) - 1 := by omega
      rw [if_neg (show ¬ draw - 1 < first.weight + 10 by omega), late, ← ih, left_]
      exact if_neg (show ¬ ((draw - (first.weight + 10) : Nat) : Int) ≤ 0 by omega)

theorem draw_ability_eq (below : random < total abilityWeight abilities) :
    drawAbility abilities random = chooseLate abilityWeight abilities random := by
  have walked : (walkAbilities abilities random).or abilities.getLast? =
      walkAbilities abilities random := by
    obtain ⟨ability, _, found⟩ :=
      choose_found (show random - 1 < total abilityWeight abilities by omega)
    rw [walk_abilities_eq, chooseLate, found, Option.some_or]
  have drawn : drawAbility abilities random =
      (walkAbilities abilities (random % total abilityWeight abilities : Nat)).or abilities.getLast? := rfl
  rw [drawn, Nat.mod_eq_of_lt below, walked, walk_abilities_eq]

theorem database_exact_iff (nonempty : abilities ≠ []) :
    Exact Ability.channelId abilityWeight abilities (total abilityWeight abilities)
        (drawAbility abilities) ↔
      (abilities.head nonempty).channelId = (abilities.getLast nonempty).channelId := by
  rw [← late_exact_iff Ability.channelId nonempty fun ability _ =>
    Nat.lt_of_lt_of_le (by decide) (Nat.le_add_left 10 ability.weight)]
  exact ⟨fun exact_ => exact_.congr fun draw below => (draw_ability_eq below).symm,
    fun exact_ => exact_.congr fun draw below => draw_ability_eq below⟩

/-! ## Both -/

/-- Over the numbers that can be drawn, the choice from memory takes every
channel as often as it weighs; the choice from the database does so when the
first and the last eligible ability are of one channel. -/
theorem draws_follow_weights_iff (channels : List Channel) (nonempty : abilities ≠ []) :
    Exact Channel.id (effectiveWeight channels) channels (totalWeight channels)
        (drawChannel channels) ∧
      (Exact Ability.channelId abilityWeight abilities (total abilityWeight abilities)
          (drawAbility abilities) ↔
        (abilities.head nonempty).channelId = (abilities.getLast nonempty).channelId) :=
  ⟨memory_exact channels, database_exact_iff nonempty⟩

def lightAbilities : List Ability :=
  [{ group := "default", model := "gpt-4o", channelId := 1, enabled := true },
    { group := "default", model := "gpt-4o", channelId := 2, enabled := true }]

theorem light_abilities_any : lightAbilities ≠ [] := by decide

theorem light_abilities_draws :
    Exact Channel.id (effectiveWeight [{ id := 1 }, { id := 2 }]) [{ id := 1 }, { id := 2 }]
        (totalWeight [{ id := 1 }, { id := 2 }]) (drawChannel [{ id := 1 }, { id := 2 }]) ∧
      (Exact Ability.channelId abilityWeight lightAbilities (total abilityWeight lightAbilities)
          (drawAbility lightAbilities) ↔ (1 : Int) = 2) :=
  draws_follow_weights_iff [{ id := 1 }, { id := 2 }] light_abilities_any

/-- Of the numbers 0 to 19, both weighing 10, eleven draw the first. -/
theorem first_ability_drawn_more :
    lightAbilities ≠ [] ∧
      drawsOf Ability.channelId (drawAbility lightAbilities) (total abilityWeight lightAbilities) 1 = 11 ∧
      ¬ Exact Ability.channelId abilityWeight lightAbilities
          (total abilityWeight lightAbilities) (drawAbility lightAbilities) := by
  have more : drawsOf Ability.channelId (drawAbility lightAbilities)
      (total abilityWeight lightAbilities) 1 = 11 := by decide
  have weighs : shareOf Ability.channelId abilityWeight lightAbilities 1 = 10 := by decide
  refine ⟨light_abilities_any, more, fun exact_ => ?_⟩
  have shared := exact_.shares 1
  omega

end NewApi.WeightedChoice
