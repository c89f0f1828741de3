import Mathlib.Data.List.Forall2

/-!
# Results of computations that may fail

A computation in several parts succeeds exactly if its parts do: a list is taken through exactly if it is related, item by
item, to the list of the values.
-/

set_option autoImplicit false

namespace TypedId

variable {α β ε ε' : Type}

/-- A mapped result is a value if the result is one that is mapped to it. -/
theorem map_eq_ok_iff {f : α → β} {result : Except ε α} {value : β} :
    result.map f = .ok value ↔ ∃ first, result = .ok first ∧ f first = value := by
  cases result <;> simp [Except.map]

/-- A mapped result is some value if the result is. -/
theorem exists_map_eq_ok_iff {f : α → β} {result : Except ε α} :
    (∃ value, result.map f = .ok value) ↔ ∃ value, result = .ok value := by
  cases result <;> simp [Except.map]

/-- Mapping twice is mapping by both one after the other. -/
theorem map_map {γ : Type} {f : α → β} {g : β → γ} (result : Except ε α) :
    (result.map f).map g = result.map fun value => g (f value) := by
  cases result <;> rfl

/-- A computation that goes on from a result has a value if both steps have one. -/
theorem bind_eq_ok_iff {f : α → Except ε β} {result : Except ε α} {value : β} :
    result.bind f = .ok value ↔ ∃ first, result = .ok first ∧ f first = .ok value := by
  cases result <;> simp [Except.bind]

/-- Mapping the error changes no value. -/
theorem mapError_eq_ok_iff {f : ε → ε'} {result : Except ε α} {value : α} :
    result.mapError f = .ok value ↔ result = .ok value := by
  cases result <;> simp [Except.mapError]

/-- A result that has a value as an option has it. -/
theorem eq_ok_of_toOption {result : Except ε α} {value : α} (h : result.toOption = some value) : result = .ok value := by
  cases result with
  | error error => exact absurd h (by simp [Except.toOption])
  | ok found => exact congrArg Except.ok (Option.some.inj h)

/-- A list is taken through exactly if each of its items is. -/
theorem mapM_eq_ok_iff {f : α → Except ε β} {items : List α} {values : List β} :
    items.mapM f = .ok values ↔ List.Forall₂ (fun item value => f item = .ok value) items values := by
  induction items generalizing values with
  | nil => cases values <;> simp [pure, Except.pure]
  | cons item rest ih =>
    have hmapM : (item :: rest).mapM f = (f item).bind fun value => (rest.mapM f).map (value :: ·) := by
      rw [List.mapM_cons]
      cases f item with
      | error error => rfl
      | ok value => cases rest.mapM f <;> rfl
    rw [hmapM, bind_eq_ok_iff, List.forall₂_cons_left_iff]
    constructor
    · rintro ⟨value, hvalue, hrest⟩
      obtain ⟨others, hothers, rfl⟩ := map_eq_ok_iff.1 hrest
      exact ⟨value, others, hvalue, ih.1 hothers, rfl⟩
    · rintro ⟨value, others, hvalue, hothers, rfl⟩
      exact ⟨value, hvalue, map_eq_ok_iff.2 ⟨others, ih.2 hothers, rfl⟩⟩

/-- A list is taken through if each of its items is, and only then. -/
theorem exists_mapM_eq_ok_iff {f : α → Except ε β} {items : List α} :
    (∃ values, items.mapM f = .ok values) ↔ ∀ item ∈ items, ∃ value, f item = .ok value := by
  simp only [mapM_eq_ok_iff]
  induction items with
  | nil => simp
  | cons item rest ih =>
    rw [List.forall_mem_cons, ← ih]
    constructor
    · rintro ⟨values, hvalues⟩
      obtain ⟨value, others, hvalue, hothers, rfl⟩ := List.forall₂_cons_left_iff.1 hvalues
      exact ⟨⟨value, hvalue⟩, others, hothers⟩
    · rintro ⟨⟨value, hvalue⟩, others, hothers⟩
      exact ⟨value :: others, .cons hvalue hothers⟩

/-- A list of lists may be taken through one list after the other. -/
theorem mapM_flatMap {γ : Type} (f : β → Except ε γ) (itemsOf : α → List β) (lists : List α) :
    (lists.flatMap itemsOf).mapM f = (lists.mapM fun list => (itemsOf list).mapM f).map List.flatten := by
  induction lists with
  | nil => rfl
  | cons list rest ih =>
    rw [List.flatMap_cons, List.mapM_append, ih, List.mapM_cons]
    cases (itemsOf list).mapM f with
    | error error => rfl
    | ok values => cases rest.mapM fun list => (itemsOf list).mapM f <;> rfl

/-- A computation ends with a value or with an error. -/
theorem exists_ok_iff_not_error {result : Except ε α} :
    (∃ value, result = .ok value) ↔ ¬ ∃ error, result = .error error := by
  cases result <;> simp

/-! ## Related lists -/

/-- Of related lists each value on the right is related to an item on the left. -/
theorem exists_of_mem_right {R : α → β → Prop} {items : List α} {values : List β} (h : List.Forall₂ R items values)
    {value : β} (hmem : value ∈ values) : ∃ item ∈ items, R item value := by
  induction h with
  | nil => exact absurd hmem (by simp)
  | @cons item first rest others hfirst _ ih =>
    rcases List.mem_cons.1 hmem with rfl | hmem
    · exact ⟨item, List.mem_cons_self, hfirst⟩
    · obtain ⟨other, hother, hrelated⟩ := ih hmem
      exact ⟨other, List.mem_cons_of_mem _ hother, hrelated⟩

/-- A list that is related to the two parts of another is in two parts. -/
theorem forall₂_append_left {R : α → β → Prop} {first second : List α} {values : List β}
    (h : List.Forall₂ R (first ++ second) values) :
    ∃ front behind, values = front ++ behind ∧ List.Forall₂ R first front ∧ List.Forall₂ R second behind := by
  induction first generalizing values with
  | nil => exact ⟨[], values, rfl, .nil, h⟩
  | cons item first ih =>
    obtain ⟨value, rest, hvalue, hrest, rfl⟩ := List.forall₂_cons_left_iff.1 h
    obtain ⟨front, behind, rfl, hfront, hbehind⟩ := ih hrest
    exact ⟨value :: front, behind, rfl, .cons hvalue hfront, hbehind⟩

/-- Items are related in the same way one by one if each item of the first list is. -/
theorem forall₂_congr_of_mem {R S : α → β → Prop} {items : List α} {values : List β}
    (h : ∀ item ∈ items, ∀ value, R item value ↔ S item value) : List.Forall₂ R items values ↔ List.Forall₂ S items values := by
  induction items generalizing values with
  | nil => rw [List.forall₂_nil_left_iff, List.forall₂_nil_left_iff]
  | cons item rest ih =>
    obtain ⟨hitem, hrest⟩ := List.forall_mem_cons.1 h
    rw [List.forall₂_cons_left_iff, List.forall₂_cons_left_iff]
    simp only [hitem, ih hrest]

/-! ## Errors -/

/-- The error that a computation ends with, if it does. -/
def failure? : Except ε α → Option ε
  | .error error => some error
  | .ok _ => none

/-- A computation ends with an error exactly if it is that error. -/
theorem failure?_eq_some_iff {result : Except ε α} {error : ε} : failure? result = some error ↔ result = .error error := by
  cases result <;> simp [failure?]

/-- A computation ends with no error exactly if it has a value. -/
theorem failure?_eq_none_iff {result : Except ε α} : failure? result = none ↔ ∃ value, result = .ok value := by
  cases result <;> simp [failure?]

/-- Mapping the value changes no error. -/
theorem failure?_map {f : α → β} (result : Except ε α) : failure? (result.map f) = failure? result := by
  cases result <;> rfl

/-- A list fails with the first error of its items. -/
theorem failure?_mapM (f : α → Except ε β) (items : List α) :
    failure? (items.mapM f) = items.findSome? fun item => failure? (f item) := by
  induction items with
  | nil => rfl
  | cons item rest ih =>
    rw [List.mapM_cons, List.findSome?_cons, ← ih]
    cases f item with
    | error error => rfl
    | ok value => cases rest.mapM f <;> rfl

end TypedId
