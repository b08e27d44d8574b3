import Listing.Http.Endpoint
import Listing.Proofs.Request
import Listing.Proofs.Sort
import Listing.Proofs.Verdict

set_option autoImplicit false

/-!
# What the index endpoint sends and answers

The parameters are read, the resource is looked up, and the resource checks the request. The first
of these that fails ends the request, with nothing sent. A client is told what is wrong with its
request, and nothing about the server.
-/

namespace Listing

theorem Resource.Refused.isClientError {resource : Resource} {request : Request}
    {error : RequestError} (refused : Resource.Refused resource request error) :
    error.isClientError = true := by
  cases refused with
  | unreadable => rfl
  | unknownField => rfl
  | valueNotAllowed => rfl
  | badSort _ _ _ _ _ unreadable =>
      rcases SortSpec.ofText_eq_error unreadable with ⟨_, rfl⟩ | ⟨_, rfl⟩
      · rfl
      · rfl

namespace Http

open Sql (Select)

/-! ## How a request fares -/

/-- The request is at fault: its parameters cannot be read, or the resource refuses them. -/
inductive Rejected (registry : Registry) (entity : Entity) (pairs : List (String × String)) :
    RequestError → Prop where
  | unreadable {error : RequestError} :
      Request.ofPairs pairs = .error error → Rejected registry entity pairs error
  | refused {request : Request} {resource : Resource} {error : RequestError} :
      Request.ofPairs pairs = .ok request → registry.get? entity = some resource →
      resource.index request (.ofEntity entity) = .error error →
      Rejected registry entity pairs error

/-- The parameters can be read, but there is no resource to ask. -/
inductive Unconfigured (registry : Registry) (entity : Entity) (pairs : List (String × String)) :
    Prop where
  | absent {request : Request} :
      Request.ofPairs pairs = .ok request → registry.get? entity = none →
      Unconfigured registry entity pairs

/-- The resource makes this selection of the bare one. -/
inductive Selects (registry : Registry) (entity : Entity) (pairs : List (String × String)) :
    Select → Prop where
  | answered {request : Request} {resource : Resource} {select : Select} :
      Request.ofPairs pairs = .ok request → registry.get? entity = some resource →
      resource.index request (.ofEntity entity) = .ok select →
      Selects registry entity pairs select

variable {registry : Registry} {entity : Entity} {pairs : List (String × String)}

theorem Rejected.isClientError {error : RequestError}
    (rejected : Rejected registry entity pairs error) : error.isClientError = true := by
  cases rejected with
  | unreadable failed =>
      obtain ⟨_, rfl⟩ := Request.exists_reason_of_ofPairs failed
      rfl
  | refused _ _ failed => exact (Resource.refused_of_index failed).isClientError

theorem selectRows_eq_ok {select : Select} :
    selectRows registry entity pairs = .ok select ↔ Selects registry entity pairs select := by
  rw [selectRows, Traversal.bind_eq_ok]
  constructor
  · intro succeeded
    obtain ⟨request, read, indexed⟩ := succeeded
    cases found : registry.get? entity with
    | none =>
        rw [Registry.index_of_absent found] at indexed
        cases indexed
    | some resource =>
        rw [Registry.index_of_get? found] at indexed
        exact .answered read found indexed
  · intro selects
    cases selects with
    | @answered request _ _ read found indexed =>
        exact ⟨request, read, (Registry.index_of_get? found _ _).trans indexed⟩

theorem selectRows_eq_error {error : RequestError} :
    selectRows registry entity pairs = .error error ↔
      Rejected registry entity pairs error ∨
        Unconfigured registry entity pairs ∧ error = .notConfigured entity.table := by
  rw [selectRows, Traversal.bind_eq_error]
  constructor
  · intro failed
    rcases failed with unread | ⟨request, read, unindexed⟩
    · exact .inl (.unreadable unread)
    · cases found : registry.get? entity with
      | none =>
          rw [Registry.index_of_absent found] at unindexed
          cases unindexed
          exact .inr ⟨.absent read found, rfl⟩
      | some resource =>
          rw [Registry.index_of_get? found] at unindexed
          exact .inl (.refused read found unindexed)
  · intro failed
    rcases failed with rejected | ⟨unconfigured, rfl⟩
    · cases rejected with
      | unreadable unread => exact .inl unread
      | @refused request _ _ read found unindexed =>
          exact .inr ⟨request, read, (Registry.index_of_get? found _ _).trans unindexed⟩
    · cases unconfigured with
      | @absent request read missing =>
          exact .inr ⟨request, read, Registry.index_of_absent missing _ _⟩

theorem rejected_or_unconfigured_or_selects (registry : Registry) (entity : Entity)
    (pairs : List (String × String)) :
    (∃ error, Rejected registry entity pairs error) ∨ Unconfigured registry entity pairs ∨
      ∃ select, Selects registry entity pairs select := by
  cases selected : selectRows registry entity pairs with
  | ok select => exact .inr (.inr ⟨select, selectRows_eq_ok.1 selected⟩)
  | error error =>
      rcases selectRows_eq_error.1 selected with rejected | ⟨unconfigured, -⟩
      · exact .inl ⟨error, rejected⟩
      · exact .inr (.inl unconfigured)

/-! ## What the endpoint does -/

/-- A response that tells the client a reason. -/
def Response.reason (status : Nat) (message : String) : Response :=
  .json status (.object [("error", .string message)])

theorem Rejected.indexEndpoint_eq {error : RequestError}
    (rejected : Rejected registry entity pairs error) :
    indexEndpoint registry entity pairs = .answer (.reason 400 error.message) := by
  rw [indexEndpoint, selectRows_eq_error.2 (.inl rejected)]
  simp only [ApiError.ofRequestError, rejected.isClientError, if_true]
  rfl

theorem Unconfigured.indexEndpoint_eq (unconfigured : Unconfigured registry entity pairs) :
    indexEndpoint registry entity pairs =
      .answer (.reason 500 "Resource is not queryable") := by
  rw [indexEndpoint, selectRows_eq_error.2 (.inr ⟨unconfigured, rfl⟩)]
  rfl

theorem Selects.indexEndpoint_eq {select : Select}
    (selects : Selects registry entity pairs select) :
    indexEndpoint registry entity pairs = .query select respondRows := by
  rw [indexEndpoint, selectRows_eq_ok.2 selects]

/-! ## Replies of the database -/

/-- An error other than that a record is missing. -/
def DatabaseError.Internal (error : DatabaseError) : Prop :=
  ∀ text, error ≠ .recordNotFound text

/-- The response to a reply. An internal error leaves no trace in it. -/
inductive Answers : Reply → Response → Prop where
  | rows (rows : List Json) : Answers (.ok rows) (.json 200 (.array rows))
  | missing (text : String) :
      Answers (.error (.recordNotFound text))
        (.reason 404 ((Text.firstWord? text).getD "Resource" ++ " not found"))
  | failed {error : DatabaseError} :
      error.Internal → Answers (.error error) (.reason 500 "A database error occurred")

theorem answers_respondRows (reply : Reply) : Answers reply (respondRows reply) := by
  cases reply with
  | ok rows => exact .rows rows
  | error error =>
      cases error with
      | recordNotFound text => exact .missing text
      | custom | type | json | migration | other => exact .failed (by rintro _ ⟨⟩)

theorem Answers.status_ne {reply : Reply} {response : Response} (answers : Answers reply response) :
    response.status ≠ 400 := by
  cases answers with
  | rows rows => exact (by decide : 200 ≠ 400)
  | missing text => exact (by decide : 404 ≠ 400)
  | failed internal => exact (by decide : 500 ≠ 400)

theorem respondRows_of_internal {error : DatabaseError} (internal : error.Internal) :
    respondRows (.error error) = .reason 500 "A database error occurred" := by
  cases error with
  | recordNotFound text => exact absurd rfl (internal text)
  | custom | type | json | migration | other => rfl

theorem queries_indexEndpoint_eq_singleton {select : Select} :
    (indexEndpoint registry entity pairs).queries = [select] ↔
      Selects registry entity pairs select := by
  rw [← selectRows_eq_ok, indexEndpoint]
  cases selectRows registry entity pairs with
  | error error => simp [Action.queries]
  | ok other => simp [Action.queries]

theorem queries_indexEndpoint_eq_nil :
    (indexEndpoint registry entity pairs).queries = [] ↔
      ∀ select, ¬ Selects registry entity pairs select := by
  simp only [← selectRows_eq_ok, indexEndpoint]
  cases selectRows registry entity pairs with
  | error error => simp [Action.queries]
  | ok other => simp [Action.queries]

theorem status_indexEndpoint_eq_400 {database : Select → Reply} :
    ((indexEndpoint registry entity pairs).response database).status = 400 ↔
      ∃ error, Rejected registry entity pairs error := by
  constructor
  · intro blamed
    rcases rejected_or_unconfigured_or_selects registry entity pairs with
      rejected | unconfigured | ⟨select, selects⟩
    · exact rejected
    · rw [unconfigured.indexEndpoint_eq] at blamed
      cases blamed
    · rw [selects.indexEndpoint_eq] at blamed
      exact absurd blamed (answers_respondRows (database select)).status_ne
  · intro blamed
    obtain ⟨error, rejected⟩ := blamed
    rw [rejected.indexEndpoint_eq]
    rfl

theorem response_eq_of_internal {database other : Select → Reply}
    (failing : ∀ select, Selects registry entity pairs select →
      ∃ first second, database select = .error first ∧ first.Internal ∧
        other select = .error second ∧ second.Internal) :
    (indexEndpoint registry entity pairs).response database =
      (indexEndpoint registry entity pairs).response other := by
  rcases rejected_or_unconfigured_or_selects registry entity pairs with
    ⟨error, rejected⟩ | unconfigured | ⟨select, selects⟩
  · rw [rejected.indexEndpoint_eq]
    rfl
  · rw [unconfigured.indexEndpoint_eq]
    rfl
  · obtain ⟨first, second, failed, internal, otherFailed, otherInternal⟩ := failing select selects
    rw [selects.indexEndpoint_eq, Action.response, Action.response, failed, otherFailed,
      respondRows_of_internal internal, respondRows_of_internal otherInternal]

/-- One statement is sent, the one that the resource makes, or none is. The client is blamed for
its request alone, a missing configuration is told in the same words for every entity, and two
databases that fail internally cannot be told apart. -/
theorem indexEndpoint_outcome (registry : Registry) (entity : Entity)
    (pairs : List (String × String)) (database : Select → Reply) :
    (∀ select, (indexEndpoint registry entity pairs).queries = [select] ↔
        Selects registry entity pairs select) ∧
      ((indexEndpoint registry entity pairs).queries = [] ↔
        ∀ select, ¬ Selects registry entity pairs select) ∧
      (((indexEndpoint registry entity pairs).response database).status = 400 ↔
        ∃ error, Rejected registry entity pairs error) ∧
      (∀ error, Rejected registry entity pairs error →
        (indexEndpoint registry entity pairs).response database = .reason 400 error.message) ∧
      (Unconfigured registry entity pairs →
        (indexEndpoint registry entity pairs).response database =
          .reason 500 "Resource is not queryable") ∧
      (∀ select, Selects registry entity pairs select →
        Answers (database select) ((indexEndpoint registry entity pairs).response database)) ∧
      ((∃ error, Rejected registry entity pairs error) ∨ Unconfigured registry entity pairs ∨
        ∃ select, Selects registry entity pairs select) ∧
      ∀ other : Select → Reply,
        (∀ select, Selects registry entity pairs select →
          ∃ first second, database select = .error first ∧ first.Internal ∧
            other select = .error second ∧ second.Internal) →
        (indexEndpoint registry entity pairs).response database =
          (indexEndpoint registry entity pairs).response other := by
  refine ⟨fun select => queries_indexEndpoint_eq_singleton, queries_indexEndpoint_eq_nil,
    status_indexEndpoint_eq_400, ?reason, ?unconfigured, ?answer,
    rejected_or_unconfigured_or_selects registry entity pairs,
    fun other failing => response_eq_of_internal failing⟩
  case reason =>
    intro error rejected
    rw [rejected.indexEndpoint_eq]
    rfl
  case unconfigured =>
    intro unconfigured
    rw [unconfigured.indexEndpoint_eq]
    rfl
  case answer =>
    intro select selects
    rw [selects.indexEndpoint_eq]
    exact answers_respondRows (database select)

/-- With nothing configured, a parameter that cannot be read is still the client's fault, and one
that can is not. Once the members are configured, a request for them is sent, and the client does
not learn why the database fails. -/
theorem indexEndpoint_outcome_members :
    (indexEndpoint .empty Members.entity [("filter[login", "a")]).response (fun _ => .ok []) =
      .reason 400 "Malformed 'filter' parameter: expected 'filter[field]', got 'filter[login'" ∧
    (indexEndpoint .empty Members.entity [("sort", "-login")]).response (fun _ => .ok []) =
      .reason 500 "Resource is not queryable" ∧
    ∃ registry select, Selects registry Members.entity [("sort", "-login")] select ∧
      (indexEndpoint registry Members.entity [("sort", "-login")]).queries = [select] ∧
      (indexEndpoint registry Members.entity [("sort", "-login")]).response
          (fun _ => .error (.custom "disk full")) =
        (indexEndpoint registry Members.entity [("sort", "-login")]).response
          fun _ => .error (.other "no connection") := by
  have read : Request.ofPairs [("sort", "-login")] = .ok ⟨.absent, some "-login"⟩ := by rfl
  refine ⟨?malformed, ?unconfigured, ?served⟩
  case malformed =>
    have malformed : Rejected .empty Members.entity [("filter[login", "a")]
        (Request.malformedFilter (.badKey "filter[login")) := .unreadable (by rfl)
    have told : (Request.malformedFilter (.badKey "filter[login")).message =
        "Malformed 'filter' parameter: expected 'filter[field]', got 'filter[login'" := by rfl
    obtain ⟨-, -, -, reason, -⟩ := indexEndpoint_outcome .empty Members.entity
      [("filter[login", "a")] fun _ => .ok []
    exact told ▸ reason _ malformed
  case unconfigured =>
    obtain ⟨-, -, -, -, unconfigured, -⟩ := indexEndpoint_outcome .empty Members.entity
      [("sort", "-login")] fun _ => .ok []
    exact unconfigured (.absent read rfl)
  case served =>
    let registry := Registry.empty.add Members.resource (by decide)
    have selects : Selects registry Members.entity [("sort", "-login")]
        ((Select.ofEntity Members.entity).orderBy Members.loginColumn .desc) :=
      .answered read rfl (by rfl)
    obtain ⟨sent, -, -, -, -, -, -, hidden⟩ := indexEndpoint_outcome registry Members.entity
      [("sort", "-login")] fun _ => .error (.custom "disk full")
    refine ⟨registry, _, selects, (sent _).2 selects, hidden _ ?_⟩
    intro select _
    exact ⟨_, _, rfl, by rintro _ ⟨⟩, rfl, by rintro _ ⟨⟩⟩

end Http

end Listing
