/-
**Lists without repetition.**

`firstsFrom` keeps the first occurrence of each value, without those that were seen before.

* `mem_destutter_ne` — removing repetitions next to each other keeps the values.
* **`firstsFrom_filterMap_iff`** — when two readings of a list, one of which reads less, give the
  same values in the same order.
* `orDefault_filterMap_iff` — the same, with a default for a list in which nothing is read.
-/

import Mathlib.Data.List.Destutter

namespace RsTun.Library.Distinct

universe u v

variable {Value : Type u} [DecidableEq Value]

/-! ### Repetitions next to each other -/

theorem mem_destutter'_ne {value first : Value} {values : List Value} :
    value ∈ List.destutter' (· ≠ ·) first values ↔ value = first ∨ value ∈ values := by
  induction values generalizing first with
  | nil => simp
  | cons next rest ih =>
      by_cases different : first ≠ next
      · rw [List.destutter'_cons_pos _ different, List.mem_cons, ih, List.mem_cons]
      · rw [List.destutter'_cons_neg _ different, ih, List.mem_cons]
        rw [not_not] at different
        rw [different, ← or_assoc, or_self]

/-- Removing repetitions keeps the values. -/
theorem mem_destutter_ne {value : Value} {values : List Value} :
    value ∈ values.destutter (· ≠ ·) ↔ value ∈ values := by
  cases values with
  | nil => exact Iff.rfl
  | cons first rest => rw [List.destutter, mem_destutter'_ne, List.mem_cons]

/-! ### First occurrences -/

/-- The values that are not in `seen`, each at its first occurrence. -/
def firstsFrom (seen : List Value) : List Value → List Value
  | [] => []
  | value :: rest =>
    if value ∈ seen then firstsFrom seen rest else value :: firstsFrom (seen ++ [value]) rest

variable {seen seen' values : List Value}

/-- Only which values were seen matters. -/
theorem firstsFrom_congr (same : ∀ value, value ∈ seen ↔ value ∈ seen') :
    firstsFrom seen values = firstsFrom seen' values := by
  induction values generalizing seen seen' with
  | nil => rfl
  | cons value rest ih =>
      rw [firstsFrom, firstsFrom]
      by_cases known : value ∈ seen
      · rw [if_pos known, if_pos ((same value).mp known)]
        exact ih same
      · rw [if_neg known, if_neg (mt (same value).mpr known)]
        congr 1
        apply ih
        intro other
        rw [List.mem_append, List.mem_append, same other]

theorem firstsFrom_eq_nil_iff :
    firstsFrom seen values = [] ↔ ∀ value ∈ values, value ∈ seen := by
  induction values generalizing seen with
  | nil => exact ⟨fun _ _ impossible => absurd impossible List.not_mem_nil, fun _ => rfl⟩
  | cons value rest ih =>
      rw [firstsFrom, List.forall_mem_cons]
      split
      · rename_i known
        rw [ih]
        exact ⟨fun all => ⟨known, all⟩, And.right⟩
      · rename_i new
        exact ⟨nofun, fun all => absurd all.1 new⟩

/-- What comes first is the first value that was not seen. -/
theorem firstsFrom_eq_cons_iff {value : Value} {others : List Value} :
    firstsFrom seen values = value :: others
      ↔ values.find? (· ∉ seen) = some value ∧ firstsFrom (seen ++ [value]) values = others := by
  induction values with
  | nil => exact ⟨nofun, fun found => nomatch found.1⟩
  | cons next rest ih =>
      by_cases known : next ∈ seen
      · rw [firstsFrom, if_pos known, ih, List.find?_cons_of_neg (by simpa using known), firstsFrom,
          if_pos (List.mem_append_left _ known)]
      · rw [firstsFrom, if_neg known, List.find?_cons_of_pos (by simpa using known),
          List.cons.injEq, Option.some.injEq]
        refine and_congr_right fun same => ?_
        rw [same, firstsFrom, if_pos (List.mem_append_right _ (List.mem_singleton.mpr rfl))]

/-- Splitting a list at one of its items. -/
theorem forall_split_cons {Item : Type v} {first : Item} {rest : List Item}
    {holds : List Item → Item → List Item → Prop} :
    (∀ before item after, first :: rest = before ++ item :: after → holds before item after)
      ↔ holds [] first rest
        ∧ ∀ before item after, rest = before ++ item :: after →
          holds (first :: before) item after := by
  constructor
  · intro all
    refine ⟨all [] first rest rfl, fun before item after same => ?_⟩
    exact all (first :: before) item after (congrArg (first :: ·) same)
  · rintro ⟨here, behind⟩ before item after same
    cases before with
    | nil =>
        obtain ⟨rfl, rfl⟩ := List.cons.inj same
        exact here
    | cons other before =>
        obtain ⟨rfl, same'⟩ := List.cons.inj same
        exact behind before item after same'

variable {Item : Type v} {loose strict : Item → Option Value} {items : List Item}

/-- Where the strict reading reads nothing, the next new value that it reads later is the one that
the loose reading has here. -/
def MadeUpLater (loose strict : Item → Option Value) (seen : List Value)
    (items : List Item) : Prop :=
  ∀ before item after, items = before ++ item :: after → strict item = none →
    ∀ value, loose item = some value → value ∉ seen ++ before.filterMap loose →
      (after.filterMap strict).find? (· ∉ seen ++ before.filterMap loose) = some value

theorem madeUpLater_cons {first : Item} {rest : List Item} :
    MadeUpLater loose strict seen (first :: rest)
      ↔ (strict first = none → ∀ value, loose first = some value → value ∉ seen →
          (rest.filterMap strict).find? (· ∉ seen) = some value)
        ∧ MadeUpLater loose strict (seen ++ (loose first).toList) rest := by
  have read : ∀ before : List Item, seen ++ (first :: before).filterMap loose
      = seen ++ (loose first).toList ++ before.filterMap loose := by
    intro before
    cases found : loose first with
    | none => rw [List.filterMap_cons_none found, Option.toList_none, List.append_nil]
    | some value =>
        rw [List.filterMap_cons_some found, Option.toList_some, List.append_assoc,
          List.singleton_append]
  rw [MadeUpLater, forall_split_cons]
  refine and_congr ?_ ?_
  · rw [List.filterMap_nil, List.append_nil]
  · simp only [MadeUpLater, read]

/-- **Two readings give the same values in the same order** exactly when what the strict one leaves
out is made up later. -/
theorem firstsFrom_filterMap_iff
    (agree : ∀ item value, strict item = some value → loose item = some value) :
    firstsFrom seen (items.filterMap loose) = firstsFrom seen (items.filterMap strict)
      ↔ MadeUpLater loose strict seen items := by
  induction items generalizing seen with
  | nil =>
      refine ⟨fun _ before item after same => ?_, fun _ => rfl⟩
      exact absurd same.symm (List.append_ne_nil_of_right_ne_nil before
        (List.cons_ne_nil item after))
  | cons first rest ih =>
      rw [madeUpLater_cons, ← ih]
      cases read : loose first with
      | none =>
          have none' : strict first = none := by
            refine Option.eq_none_iff_forall_ne_some.mpr fun value found => ?_
            rw [agree first value found] at read
            cases read
          rw [List.filterMap_cons_none read, List.filterMap_cons_none none', Option.toList_none,
            List.append_nil]
          exact ⟨fun same => ⟨fun _ value impossible => (nomatch impossible), same⟩, And.right⟩
      | some value =>
          rw [List.filterMap_cons_some read, Option.toList_some]
          by_cases known : value ∈ seen
          · -- nothing new for either reading
            have seen' : ∀ other, other ∈ seen ↔ other ∈ seen ++ [value] := by
              intro other
              refine ⟨List.mem_append_left _, fun member => ?_⟩
              rcases List.mem_append.mp member with there | there
              · exact there
              · rw [List.mem_singleton.mp there]
                exact known
            have strict' : firstsFrom seen ((first :: rest).filterMap strict)
                = firstsFrom seen (rest.filterMap strict) := by
              cases found : strict first with
              | none => rw [List.filterMap_cons_none found]
              | some other =>
                  have same := agree first other found
                  rw [read] at same
                  cases same
                  rw [List.filterMap_cons_some found, firstsFrom, if_pos known]
            rw [firstsFrom, if_pos known, strict', firstsFrom_congr seen',
              @firstsFrom_congr _ _ _ _ (rest.filterMap strict) seen']
            refine ⟨fun same => ⟨fun _ other found new => ?_, same⟩, And.right⟩
            cases found
            exact absurd known new
          · rw [firstsFrom, if_neg known]
            cases found : strict first with
            | some other =>
                have same := agree first other found
                rw [read] at same
                cases same
                rw [List.filterMap_cons_some found, firstsFrom, if_neg known, List.cons.injEq]
                exact ⟨fun same => ⟨nofun, same.2⟩, fun same => ⟨rfl, same.2⟩⟩
            | none =>
                rw [List.filterMap_cons_none found, eq_comm, firstsFrom_eq_cons_iff]
                refine and_congr ?_ eq_comm
                refine ⟨fun next _ other same _ => ?_, fun all => all rfl value rfl known⟩
                cases same
                exact next

/-- The values, or one value by default. -/
def orDefault (default : Value) (values : List Value) : List Value :=
  if values = [] then [default] else values

theorem firstsFrom_nil_eq_singleton {default : Value} (present : values ≠ [])
    (only : ∀ value ∈ values, value = default) : firstsFrom [] values = [default] := by
  cases values with
  | nil => exact absurd rfl present
  | cons first rest =>
      obtain ⟨rfl, only⟩ := List.forall_mem_cons.mp only
      rw [firstsFrom, if_neg List.not_mem_nil, List.nil_append, List.cons.injEq,
        firstsFrom_eq_nil_iff]
      exact ⟨rfl, fun value member => List.mem_singleton.mpr (only value member)⟩

theorem mem_of_firstsFrom_eq_singleton {default : Value} (same : firstsFrom [] values = [default]) :
    ∀ value ∈ values, value = default := by
  have rest := (firstsFrom_eq_cons_iff.mp same).2
  intro value member
  exact List.mem_singleton.mp (firstsFrom_eq_nil_iff.mp rest value member)

/-- **The same, with a default**: or nothing is read strictly, and the default is all that is
read. -/
theorem orDefault_filterMap_iff {default : Value}
    (agree : ∀ item value, strict item = some value → loose item = some value) :
    orDefault default (firstsFrom [] (items.filterMap loose))
        = orDefault default (firstsFrom [] (items.filterMap strict))
      ↔ MadeUpLater loose strict [] items
        ∨ (items.filterMap strict = [] ∧ ∀ value ∈ items.filterMap loose, value = default) := by
  have nil_iff : ∀ values : List Value, firstsFrom [] values = [] ↔ values = [] := by
    intro values
    rw [firstsFrom_eq_nil_iff]
    exact ⟨fun all => List.eq_nil_iff_forall_not_mem.mpr fun value member =>
      absurd (all value member) List.not_mem_nil, fun none => by rw [none]; nofun⟩
  rw [← firstsFrom_filterMap_iff agree]
  constructor
  · intro same
    by_cases nothing : items.filterMap strict = []
    · right
      refine ⟨nothing, ?_⟩
      rw [orDefault, orDefault, if_pos ((nil_iff _).mpr nothing)] at same
      by_cases nothing' : items.filterMap loose = []
      · rw [nothing']
        nofun
      · rw [if_neg (mt (nil_iff _).mp nothing')] at same
        exact mem_of_firstsFrom_eq_singleton same
    · left
      have something : items.filterMap loose ≠ [] := by
        intro none
        obtain ⟨value, member⟩ := List.exists_mem_of_ne_nil _ nothing
        obtain ⟨item, inside, found⟩ := List.mem_filterMap.mp member
        have member' := List.mem_filterMap.mpr ⟨item, inside, agree item value found⟩
        rw [none] at member'
        cases member'
      rw [orDefault, orDefault, if_neg (mt (nil_iff _).mp nothing),
        if_neg (mt (nil_iff _).mp something)] at same
      exact same
  · rintro (same | ⟨nothing, only⟩)
    · rw [same]
    · rw [nothing, firstsFrom]
      show _ = [default]
      by_cases nothing' : items.filterMap loose = []
      · rw [nothing', firstsFrom]
        rfl
      · rw [orDefault, if_neg (mt (nil_iff _).mp nothing'),
          firstsFrom_nil_eq_singleton nothing' only]

end RsTun.Library.Distinct
