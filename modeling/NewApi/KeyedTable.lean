import Mathlib.Algebra.Ring.Int.Defs
import Mathlib.Data.List.Sort

/-! Tables of rows addressed by a unique key: the lookup by key, the write that
replaces the row with the written row's key, and the update of one row in
place. The lemmas say what a lookup returns after a write and how a property
of all rows survives one, and what the first row of an ordered query is.
Nothing here depends on what the rows are. -/
namespace NewApi.KeyedTable

variable {Row : Type*} {Key : Type*} [DecidableEq Key] (key : Row → Key)

/-- `SELECT ... WHERE key = ?`, first row. -/
def lookup (rows : List Row) (wanted : Key) : Option Row :=
  rows.find? fun row => key row = wanted

/-- `UPDATE ... WHERE key = ?` with a whole row. -/
def save (rows : List Row) (row : Row) : List Row :=
  rows.map fun old => if key old = key row then row else old

/-- `UPDATE ... WHERE key = ?` of some columns. -/
def update (rows : List Row) (wanted : Key) (change : Row → Row) : List Row :=
  rows.map fun old => if key old = wanted then change old else old

variable {key} {rows : List Row}

theorem lookup_key (found : lookup key rows wanted = some row) : key row = wanted := by
  simpa using List.find?_some found

theorem lookup_mem (found : lookup key rows wanted = some row) : row ∈ rows :=
  List.mem_of_find?_eq_some found

theorem lookup_save (rows : List Row) (row : Row) (wanted : Key) :
    lookup key (save key rows row) wanted =
      if wanted = key row then (lookup key rows wanted).map fun _ => row
      else lookup key rows wanted := by
  induction rows with
  | nil => simp [lookup, save]
  | cons old rest ih =>
    simp only [lookup, save, List.map_cons, List.find?_cons] at ih ⊢
    by_cases replaced : key old = key row
    · by_cases here : wanted = key row
      · simp [replaced, here]
      · simp only [replaced, if_true, if_neg here, Ne.symm here] at ih ⊢
        simpa [Ne.symm here, here] using ih
    · by_cases hit : key old = wanted
      · have other : wanted ≠ key row := fun same => replaced (hit.trans same)
        simp [hit, other]
      · simpa [replaced, hit] using ih

@[simp] theorem lookup_save_self (present : lookup key rows (key row) = some old) :
    lookup key (save key rows row) (key row) = some row := by
  simp [lookup_save, present]

theorem mem_save (present : lookup key rows wanted = some old) (same : key row = wanted) :
    row ∈ save key rows row := by
  subst same
  exact lookup_mem (lookup_save_self present)

theorem lookup_save_ne (other : wanted ≠ key row) :
    lookup key (save key rows row) wanted = lookup key rows wanted := by
  simp [lookup_save, other]

theorem lookup_update (rows : List Row) (target wanted : Key) (change : Row → Row)
    (keeps : ∀ row, key (change row) = key row) :
    lookup key (update key rows target change) wanted =
      if wanted = target then (lookup key rows wanted).map change
      else lookup key rows wanted := by
  induction rows with
  | nil => simp [lookup, update]
  | cons old rest ih =>
    simp only [lookup, update, List.map_cons, List.find?_cons] at ih ⊢
    by_cases changed : key old = target
    · by_cases here : wanted = target
      · simp [changed, here, keeps]
      · simpa [changed, here, keeps, Ne.symm here] using ih
    · by_cases hit : key old = wanted
      · have other : wanted ≠ target := fun same => changed (hit.trans same)
        simp [hit, other]
      · simpa [changed, hit] using ih

theorem lookup_map {change : Row → Row} (same : ∀ row, key (change row) = key row)
    (rows : List Row) (wanted : Key) :
    lookup key (rows.map change) wanted = (lookup key rows wanted).map change := by
  have test : (fun row => decide (key row = wanted)) ∘ change =
      fun row => decide (key row = wanted) := by
    funext row
    simp only [Function.comp_apply, same]
  rw [lookup, List.find?_map, test, lookup]

theorem lookup_append_one (rows : List Row) (row : Row) (wanted : Key) :
    lookup key (rows ++ [row]) wanted =
      (lookup key rows wanted).or (if key row = wanted then some row else none) := by
  simp only [lookup, List.find?_append, List.find?_singleton, decide_eq_true_eq]

theorem forall_save {property : Row → Prop} (all : ∀ old ∈ rows, property old)
    (written : property row) : ∀ new ∈ save key rows row, property new := by
  intro new member
  obtain ⟨old, held, rfl⟩ := List.mem_map.mp member
  split
  · exact written
  · exact all old held

theorem forall_update {property : Row → Prop} {change : Row → Row} (all : ∀ old ∈ rows, property old)
    (kept : ∀ old ∈ rows, key old = wanted → property old → property (change old)) :
    ∀ new ∈ update key rows wanted change, property new := by
  intro new member
  obtain ⟨old, held, rfl⟩ := List.mem_map.mp member
  split
  · exact kept old held ‹_› (all old held)
  · exact all old held

/-- A write of a whole row keeps the keys of the table. -/
@[simp] theorem map_key_save (rows : List Row) (row : Row) :
    (save key rows row).map key = rows.map key := by
  rw [save, List.map_map]
  refine List.map_congr_left fun old _ => ?_
  by_cases replaced : key old = key row <;> simp [replaced]

theorem map_key_update (rows : List Row) (wanted : Key) {change : Row → Row}
    (keeps : ∀ row, key (change row) = key row) :
    (update key rows wanted change).map key = rows.map key := by
  rw [update, List.map_map]
  refine List.map_congr_left fun old _ => ?_
  by_cases changed : key old = wanted <;> simp [changed, keeps]

theorem lookup_of_mem (unique : (rows.map key).Nodup) (member : row ∈ rows) :
    lookup key rows (key row) = some row := by
  induction rows with
  | nil => cases member
  | cons first rest ih =>
    obtain ⟨absent, later⟩ := List.nodup_cons.mp unique
    rcases List.mem_cons.mp member with rfl | inside
    · simp [lookup]
    · have other : key first ≠ key row := by
        intro same
        apply absent
        rw [same]
        exact List.mem_map_of_mem inside
      simpa [lookup, other] using ih later inside

theorem update_absent {change : Row → Row} (absent : ∀ row ∈ rows, key row ≠ wanted) :
    update key rows wanted change = rows := by
  rw [update]
  refine (List.map_congr_left fun row member => ?_).trans (List.map_id rows)
  rw [if_neg (absent row member), id]

theorem update_in_place (unique : (rows.map key).Nodup) (found : lookup key rows wanted = some row)
    (change : Row → Row) :
    ∃ before after, rows = before ++ row :: after ∧
      update key rows wanted change = before ++ change row :: after := by
  induction rows with
  | nil => cases found
  | cons first rest ih =>
    obtain ⟨absent, later⟩ := List.nodup_cons.mp unique
    by_cases here : key first = wanted
    · have same : first = row := by simpa [lookup, here] using found
      have others : ∀ old ∈ rest, key old ≠ wanted := by
        intro old member again
        apply absent
        rw [here, ← again]
        exact List.mem_map_of_mem member
      have kept : update key rest wanted change = rest := update_absent others
      rw [update] at kept
      subst same
      refine ⟨[], rest, rfl, ?_⟩
      simp only [update, List.map_cons, here, if_true, kept, List.nil_append]
    · have inside : lookup key rest wanted = some row := by simpa [lookup, here] using found
      obtain ⟨before, after, split_, changed⟩ := ih later inside
      rw [update] at changed
      refine ⟨first :: before, after, by rw [split_]; rfl, ?_⟩
      simp only [update, List.map_cons, here, if_false, changed, List.cons_append]

theorem sum_map_update (unique : (rows.map key).Nodup) (found : lookup key rows wanted = some row)
    (measure : Row → Int) (change : Row → Row) :
    ((update key rows wanted change).map measure).sum =
      (rows.map measure).sum - measure row + measure (change row) := by
  obtain ⟨before, after, split_, changed⟩ := update_in_place unique found change
  rw [changed, split_]
  simp only [List.map_append, List.map_cons, List.sum_append, List.sum_cons]
  omega

theorem count_update (unique : (rows.map key).Nodup) (found : lookup key rows wanted = some row)
    (counts : Row → Bool) (change : Row → Row) :
    (update key rows wanted change).countP counts + (if counts row then 1 else 0) =
      rows.countP counts + if counts (change row) then 1 else 0 := by
  obtain ⟨before, after, split_, changed⟩ := update_in_place unique found change
  rw [changed, split_]
  simp only [List.countP_append, List.countP_cons]
  omega

theorem lookup_save_by {Other : Type*} [DecidableEq Other] {by_ : Row → Other} {sought : Other}
    (found : lookup by_ rows sought = some old) (same : key old = key row)
    (keeps : by_ row = sought) : lookup by_ (save key rows row) sought = some row := by
  induction rows with
  | nil => cases found
  | cons first rest ih =>
    simp only [lookup, save, List.map_cons, List.find?_cons] at found ih ⊢
    by_cases replaced : key first = key row
    · simp [replaced, keeps]
    · by_cases hit : by_ first = sought
      · simp only [hit, decide_true, Option.some.injEq] at found
        exact absurd (found ▸ same) replaced
      · simp only [hit, decide_false] at found
        simpa [replaced, hit] using ih found

theorem save_append_one (fresh : ∀ old ∈ rows, key old ≠ key row)
    (same : key last = key row) : save key (rows ++ [last]) row = rows ++ [row] := by
  have kept : save key rows row = rows := by
    refine (List.map_congr_left fun old member => ?_).trans (List.map_id rows)
    simp [fresh old member]
  rw [save, List.map_append]
  exact congrArg₂ _ kept (by simp [same])

theorem map_save {Other : Type*} {otherKey : Other → Key} {columns : Row → Other}
    (same : ∀ row, otherKey (columns row) = key row) (rows : List Row) (row : Row) :
    (save key rows row).map columns = save otherKey (rows.map columns) (columns row) := by
  unfold save
  rw [List.map_map, List.map_map]
  apply List.map_congr_left
  intro old _
  simp only [Function.comp_apply, same]
  split <;> rfl

theorem save_present (unique : (rows.map key).Nodup) (member : row ∈ rows) : save key rows row = rows := by
  refine (List.map_congr_left fun old held => ?_).trans (List.map_id rows)
  split
  · rename_i same
    exact (List.inj_on_of_nodup_map unique held member same).symm
  · rfl

/-! ## Ordered queries -/

section Ordered
variable (before : Row → Row → Prop) [DecidableRel before]

/-- `ORDER BY ... LIMIT 1`. -/
def first (rows : List Row) : Option Row := (rows.insertionSort before).head?

variable {before}

theorem first_mem (found : first before rows = some row) : row ∈ rows :=
  List.mem_insertionSort before |>.mp (List.mem_of_mem_head? found)

theorem first_before [Std.Total before] [IsTrans Row before] (found : first before rows = some row)
    (member : other ∈ rows) : before row other := by
  have sorted := List.pairwise_insertionSort before rows
  have inside := (List.mem_insertionSort before).mpr member
  unfold first at found
  cases order : rows.insertionSort before with
  | nil => simp [order] at found
  | cons head rest =>
    rw [order] at sorted inside
    simp only [order, List.head?_cons, Option.some.injEq] at found
    subst found
    rcases List.mem_cons.mp inside with rfl | later
    · exact (Std.Total.total (r := before) other other).elim id id
    · exact (List.pairwise_cons.mp sorted).1 other later

theorem first_of_mem (member : row ∈ rows) : ∃ head, first before rows = some head := by
  have inside := (List.mem_insertionSort before).mpr member
  unfold first
  cases order : rows.insertionSort before with
  | nil => simp [order] at inside
  | cons head rest => exact ⟨head, rfl⟩

end Ordered

end NewApi.KeyedTable
