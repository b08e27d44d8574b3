import Mathlib.Data.List.Forall2

set_option autoImplicit false

/-!
# Checked traversals

A list handled item by item, up to the first item that fails.
-/

namespace Listing.Traversal

variable {α β ε σ : Type}

theorem bind_eq_ok {computation : Except ε α} {next : α → Except ε β} {result : β} :
    computation >>= next = .ok result ↔
      ∃ value, computation = .ok value ∧ next value = .ok result := by
  cases computation with
  | error error => simp [bind, Except.bind]
  | ok value => simp [bind, Except.bind]

theorem bind_eq_error {computation : Except ε α} {next : α → Except ε β} {error : ε} :
    computation >>= next = .error error ↔
      computation = .error error ∨ ∃ value, computation = .ok value ∧ next value = .error error := by
  cases computation with
  | error error => simp [bind, Except.bind]
  | ok value => simp [bind, Except.bind]

/-- A traversal succeeds exactly when each item does, with the results in the order of the items. -/
theorem mapM_eq_ok {step : α → Except ε β} {items : List α} {results : List β} :
    items.mapM step = .ok results ↔
      List.Forall₂ (fun item result => step item = .ok result) items results := by
  induction items generalizing results with
  | nil =>
      cases results with
      | nil => simp [pure, Except.pure]
      | cons result rest => simp [pure, Except.pure]
  | cons item rest ih =>
      rw [List.mapM_cons, bind_eq_ok]
      constructor
      · intro succeeded
        obtain ⟨first, ran, continued⟩ := succeeded
        obtain ⟨others, traversed, same⟩ := bind_eq_ok.1 continued
        cases same
        exact .cons ran (ih.1 traversed)
      · intro pointwise
        cases pointwise with
        | cons ran others =>
            exact ⟨_, ran, bind_eq_ok.2 ⟨_, ih.2 others, rfl⟩⟩

/-- A traversal fails exactly with the error of the first item that fails. -/
theorem mapM_eq_error {step : α → Except ε β} {items : List α} {error : ε} :
    items.mapM step = .error error ↔
      ∃ before item after, items = before ++ item :: after ∧
        (∀ earlier ∈ before, ∃ result, step earlier = .ok result) ∧ step item = .error error := by
  induction items with
  | nil => simp [pure, Except.pure]
  | cons first rest ih =>
      rw [List.mapM_cons, bind_eq_error]
      constructor
      · intro failed
        rcases failed with failed | ⟨result, ran, continued⟩
        · exact ⟨[], first, rest, rfl, by simp, failed⟩
        · rcases bind_eq_error.1 continued with failed | ⟨_, _, absurdity⟩
          · obtain ⟨before, item, after, split, earlier, failing⟩ := ih.1 failed
            refine ⟨first :: before, item, after, by rw [split, List.cons_append], ?_, failing⟩
            intro candidate member
            rcases List.mem_cons.1 member with rfl | member
            · exact ⟨result, ran⟩
            · exact earlier candidate member
          · cases absurdity
      · intro blamed
        obtain ⟨before, item, after, split, earlier, failing⟩ := blamed
        cases before with
        | nil =>
            cases split
            exact .inl failing
        | cons head before =>
            cases split
            obtain ⟨result, ran⟩ := earlier first List.mem_cons_self
            have restFails := ih.2 ⟨before, item, after, rfl,
              fun candidate member => earlier candidate (List.mem_cons_of_mem _ member), failing⟩
            exact .inr ⟨result, ran, bind_eq_error.2 (.inl restFails)⟩

theorem exists_mapM {step : α → Except ε β} {items : List α} :
    (∃ results, items.mapM step = .ok results) ↔
      ∀ item ∈ items, ∃ result, step item = .ok result := by
  constructor
  · intro succeeded
    obtain ⟨results, traversed⟩ := succeeded
    induction mapM_eq_ok.1 traversed with
    | nil => simp
    | @cons first result rest results ran others ih =>
        intro item member
        rcases List.mem_cons.1 member with rfl | member
        · exact ⟨result, ran⟩
        · exact ih (mapM_eq_ok.2 others) item member
  · intro each
    cases traversed : items.mapM step with
    | ok results => exact ⟨results, rfl⟩
    | error error =>
        obtain ⟨before, item, after, rfl, -, failed⟩ := mapM_eq_error.1 traversed
        obtain ⟨result, ran⟩ := each item (by simp)
        rw [failed] at ran
        cases ran

theorem mapM_congr {step other : α → Except ε β} {items : List α}
    (same : ∀ item ∈ items, step item = other item) : items.mapM step = items.mapM other := by
  induction items with
  | nil => rfl
  | cons item rest ih =>
      rw [List.mapM_cons, List.mapM_cons, same item List.mem_cons_self,
        ih fun later member => same later (List.mem_cons_of_mem item member)]

/-- If all items but one succeed, the traversal fails as this one does. -/
theorem mapM_eq_error_of_others {step : α → Except ε β} {before after : List α} {item : α}
    (others : ∀ other ∈ before ++ after, ∃ result, step other = .ok result) {error : ε} :
    (before ++ item :: after).mapM step = .error error ↔ step item = .error error := by
  rw [mapM_eq_error]
  constructor
  · intro failed
    obtain ⟨earlier, blamed, later, split, -, failing⟩ := failed
    have listed : blamed ∈ before ++ item :: after := by simp [split]
    rcases List.mem_append.1 listed with inBefore | inRest
    · obtain ⟨result, ran⟩ := others blamed (List.mem_append_left _ inBefore)
      rw [failing] at ran
      cases ran
    · rcases List.mem_cons.1 inRest with rfl | inAfter
      · exact failing
      · obtain ⟨result, ran⟩ := others blamed (List.mem_append_right _ inAfter)
        rw [failing] at ran
        cases ran
  · intro failing
    exact ⟨before, item, after, rfl,
      fun earlier member => others earlier (List.mem_append_left _ member), failing⟩

/-- What each item either sets or leaves alone is in the end as the last item that sets it has
it. -/
theorem setting_foldl {apply : σ → α → σ} (setting : σ → β) {setting? : α → Option β}
    (step : ∀ state item, setting (apply state item) = (setting? item).getD (setting state))
    (state : σ) (items : List α) :
    setting (items.foldl apply state) =
      (items.filterMap setting?).getLast?.getD (setting state) := by
  induction items generalizing state with
  | nil => rfl
  | cons item rest ih =>
      rw [List.foldl_cons, ih, step]
      cases sets : setting? item with
      | none => rw [List.filterMap_cons_none sets, Option.getD_none]
      | some value =>
          rw [List.filterMap_cons_some sets, List.getLast?_cons, Option.getD_some,
            Option.getD_some]

/-! ## Optional results -/

theorem mapM_eq_some {choose : α → Option β} {items : List α} {results : List β} :
    items.mapM choose = some results ↔
      List.Forall₂ (fun item result => choose item = some result) items results := by
  induction items generalizing results with
  | nil => cases results <;> simp
  | cons item rest ih =>
      simp only [List.mapM_cons, Option.bind_eq_bind, Option.bind_eq_some_iff, Option.pure_def,
        Option.some.injEq]
      constructor
      · intro chosen
        obtain ⟨first, found, others, traversed, rfl⟩ := chosen
        exact .cons found (ih.1 traversed)
      · intro pointwise
        cases pointwise with
        | cons found others => exact ⟨_, found, _, ih.2 others, rfl⟩

theorem mapM_eq_none {choose : α → Option β} {items : List α} :
    items.mapM choose = none ↔ ∃ item ∈ items, choose item = none := by
  induction items with
  | nil => simp
  | cons item rest ih =>
      simp only [List.mapM_cons, Option.bind_eq_bind, Option.bind_eq_none_iff, Option.pure_def,
        reduceCtorEq, imp_false, List.exists_mem_cons_iff, ← ih, ← Option.eq_none_iff_forall_ne_some]
      cases choose item with
      | none => simp
      | some first => simp

theorem exists_of_mem_results {related : α → β → Prop} {items : List α} {results : List β}
    (pointwise : List.Forall₂ related items results) {result : β} (member : result ∈ results) :
    ∃ item ∈ items, related item result := by
  induction pointwise with
  | nil => cases member
  | @cons item first _ _ same _ ih =>
      rcases List.mem_cons.1 member with rfl | member
      · exact ⟨item, List.mem_cons_self, same⟩
      · obtain ⟨other, listed, found⟩ := ih member
        exact ⟨other, List.mem_cons_of_mem _ listed, found⟩

theorem exists_of_foldlM_error {step : σ → α → Except ε σ} {items : List α} {initial : σ}
    {error : ε} (failed : items.foldlM step initial = .error error) :
    ∃ state, ∃ item ∈ items, step state item = .error error := by
  induction items generalizing initial with
  | nil => cases failed
  | cons item rest ih =>
      rw [List.foldlM_cons] at failed
      rcases bind_eq_error.1 failed with first | ⟨after, -, continued⟩
      · exact ⟨initial, item, List.mem_cons_self, first⟩
      · obtain ⟨state, other, member, later⟩ := ih continued
        exact ⟨state, other, List.mem_cons_of_mem _ member, later⟩

end Listing.Traversal
