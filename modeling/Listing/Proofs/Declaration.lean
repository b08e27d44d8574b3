import Listing.CustomFilter
import Listing.Proofs.Traversal

set_option autoImplicit false

/-!
# Declarations in steps

A custom filter can be declared in one of several forms and completed step by step. What is left
after normalizing is its predicate, the last domain and the last description that were given, in
whichever form and order this was done, and however often it was copied or normalized meanwhile.
-/

namespace Listing

namespace Declaration

/-- What can be done to a declaration. -/
inductive Step where
  | allowing (domain : ValueDomain)
  | describedAs (description : String)
  | copy
  | renormalize

namespace Step

def apply (declaration : Declaration) : Step → Declaration
  | .allowing domain => declaration.allowing domain
  | .describedAs description => declaration.describedAs description
  | .copy => declaration.copy
  | .renormalize => .ofFilter declaration.normalize

def domain? : Step → Option ValueDomain
  | .allowing domain => some domain
  | _ => none

def description? : Step → Option String
  | .describedAs description => some description
  | _ => none

end Step

/-- The declaration that is left after some steps. -/
def run (declaration : Declaration) (steps : List Step) : Declaration :=
  steps.foldl Step.apply declaration

/-- The last domain that a step gives, else that of the declaration, else any value. -/
def lastDomain (declaration : Declaration) (steps : List Step) : ValueDomain :=
  (steps.filterMap Step.domain?).getLast?.getD (declaration.domain?.getD .any)

/-- The last description that a step gives, else that of the declaration, else none. -/
def lastDescription (declaration : Declaration) (steps : List Step) : String :=
  (steps.filterMap Step.description?).getLast?.getD (declaration.description?.getD "")

variable {declaration : Declaration}

theorem copy_eq (declaration : Declaration) : declaration.copy = declaration := by
  cases declaration <;> rfl

theorem normalize_ofFilter (filter : CustomFilter) : (ofFilter filter).normalize = filter := rfl

/-! ## One step -/

theorem predicate_apply (declaration : Declaration) (step : Step) :
    (step.apply declaration).normalize.predicate = declaration.normalize.predicate := by
  cases step with
  | allowing | describedAs | renormalize => rfl
  | copy => rw [Step.apply, copy_eq]

/-- A step gives a domain or keeps the one that normalizing yields. An absent domain need not stay
absent, so the same cannot be said of the declared one. -/
theorem domain_apply (declaration : Declaration) (step : Step) :
    (step.apply declaration).normalize.domain =
      step.domain?.getD declaration.normalize.domain := by
  cases step with
  | allowing | describedAs | renormalize => rfl
  | copy => rw [Step.apply, copy_eq]; rfl

theorem description_apply (declaration : Declaration) (step : Step) :
    (step.apply declaration).normalize.description =
      step.description?.getD declaration.normalize.description := by
  cases step with
  | allowing | describedAs | renormalize => rfl
  | copy => rw [Step.apply, copy_eq]; rfl

/-! ## Any number of steps -/

theorem predicate_run (declaration : Declaration) (steps : List Step) :
    (declaration.run steps).normalize.predicate = declaration.predicate := by
  induction steps generalizing declaration with
  | nil => rfl
  | cons step rest ih => exact (ih _).trans (predicate_apply declaration step)

theorem normalize_run (declaration : Declaration) (steps : List Step) :
    (declaration.run steps).normalize =
      ⟨declaration.predicate, declaration.lastDomain steps, declaration.lastDescription steps⟩ := by
  have domain : (declaration.run steps).normalize.domain = declaration.lastDomain steps :=
    Traversal.setting_foldl (fun declaration => declaration.normalize.domain) domain_apply
      declaration steps
  have description :
      (declaration.run steps).normalize.description = declaration.lastDescription steps :=
    Traversal.setting_foldl (fun declaration => declaration.normalize.description)
      description_apply declaration steps
  rw [← predicate_run declaration steps, ← domain, ← description]

/-- Steps that give nothing leave no trace, and neither does the order of a domain and a
description. -/
theorem normalize_run_congr {steps others : List Step}
    (domains : steps.filterMap Step.domain? = others.filterMap Step.domain?)
    (descriptions : steps.filterMap Step.description? = others.filterMap Step.description?) :
    (declaration.run steps).normalize = (declaration.run others).normalize := by
  rw [normalize_run, normalize_run, lastDomain, lastDomain, lastDescription, lastDescription,
    domains, descriptions]

theorem normalize_run_insert {step : Step} (domain : step.domain? = none)
    (description : step.description? = none) (before after : List Step) :
    (declaration.run (before ++ step :: after)).normalize =
      (declaration.run (before ++ after)).normalize := by
  refine normalize_run_congr ?_ ?_
  · rw [List.filterMap_append, List.filterMap_append, List.filterMap_cons_none domain]
  · rw [List.filterMap_append, List.filterMap_append, List.filterMap_cons_none description]

end Declaration

/-! ## Maps of filters -/

theorem ValueDomain.same_self (domain : ValueDomain) : domain.same domain = true := by
  cases domain <;> simp [same]

theorem CustomFilter.same_self (filter : CustomFilter) : filter.same filter = true := by
  simp [same, ValueDomain.same_self]

namespace CustomFilters

theorem same_self (filters : CustomFilters) : filters.same filters = true := by
  rw [same, Bool.and_eq_true]
  refine ⟨beq_self_eq_true _, ?_⟩
  induction filters.entries with
  | nil => rfl
  | cons entry rest ih =>
      rw [List.zip_cons_cons, List.all_cons, ih, Bool.and_true]
      exact CustomFilter.same_self entry.2

theorem normalize_declarations (filters : CustomFilters) :
    normalize filters.declarations = filters := by
  obtain ⟨entries, ascending⟩ := filters
  simp [normalize, declarations, NameMap.mapValues, Function.comp_def,
    Declaration.normalize_ofFilter]

end CustomFilters

/-- A declared filter has its predicate, and of domains and descriptions the last that was given, by
a step or from the start. To copy or normalize it meanwhile changes nothing, nor does it matter
which of a domain and a description comes first. A map of declared filters keeps its names, and a
second time normalizing changes nothing. -/
theorem Declaration.normalize_steps :
    (∀ (declaration : Declaration) steps, (declaration.run steps).normalize =
      ⟨declaration.predicate, declaration.lastDomain steps, declaration.lastDescription steps⟩) ∧
    (∀ (declaration : Declaration) before after,
      (declaration.run (before ++ .copy :: after)).normalize =
          (declaration.run (before ++ after)).normalize ∧
        (declaration.run (before ++ .renormalize :: after)).normalize =
          (declaration.run (before ++ after)).normalize ∧
        ∀ domain description,
          (declaration.run
              (before ++ .allowing domain :: .describedAs description :: after)).normalize =
            (declaration.run
              (before ++ .describedAs description :: .allowing domain :: after)).normalize) ∧
    ∀ declared : NameMap Declaration,
      (CustomFilters.normalize declared).names = declared.names ∧
      (∀ name, (CustomFilters.normalize declared).get? name =
        (declared.get? name).map Declaration.normalize) ∧
      CustomFilters.normalize (CustomFilters.normalize declared).declarations =
        CustomFilters.normalize declared ∧
      CustomFilters.same (CustomFilters.normalize (CustomFilters.normalize declared).declarations)
        (CustomFilters.normalize declared) = true := by
  refine ⟨normalize_run, fun declaration before after => ⟨?_, ?_, ?_⟩, fun declared => ?_⟩
  · exact normalize_run_insert rfl rfl before after
  · exact normalize_run_insert rfl rfl before after
  · intro domain description
    refine normalize_run_congr ?_ ?_
    · simp only [List.filterMap_append, List.filterMap_cons, Step.domain?]
    · simp only [List.filterMap_append, List.filterMap_cons, Step.description?]
  · have again := CustomFilters.normalize_declarations (CustomFilters.normalize declared)
    refine ⟨NameMap.names_mapValues declared normalize,
      NameMap.get?_mapValues declared normalize, again, ?_⟩
    rw [again]
    exact CustomFilters.same_self _

end Listing
