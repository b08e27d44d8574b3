import Listing.Json.Error

set_option autoImplicit false

namespace Listing

/-!
# Errors

Why a request is refused, and why a configuration is. Each error names its cause; the wording is
in one function for each layer.
-/

/-- Why a parameter cannot be read at all. -/
inductive Malformation where
  /-- A key begins like `filter[` and is not of the form `filter[field]`. -/
  | badKey (key : String)
  /-- The filter is given in both of its encodings. -/
  | mixedEncodings
  | badJson (error : Json.Error)
  | notAnObject
  /-- The value of a field is neither a scalar nor a non-empty list of scalars. -/
  | unsupportedValue (field : String)
  | unknownDirection (word : String)
  /-- A list that is neither a field nor a field with its direction. -/
  | badSortList
  /-- A reason stated by the caller. -/
  | stated (reason : String)

def Malformation.message : Malformation → String
  | .badKey key => s!"expected 'filter[field]', got '{key}'"
  | .mixedEncodings => "use either filter=<json> or filter[field]=<value>, not both"
  | .badJson error => s!"invalid JSON: {error.message}"
  | .notAnObject => "expected a JSON object"
  | .unsupportedValue field => s!"unsupported value for '{field}'"
  | .unknownDirection word => s!"unknown sort order '{word}'"
  | .badSortList => "expected [\"column\"] or [\"column\", \"ASC|DESC\"]"
  | .stated reason => reason

/-- Why a request is refused. -/
inductive RequestError where
  /-- The filter names a field that is neither a filterable column nor a custom filter. -/
  | unknownFilterField (field : String)
  /-- The ordering names a field that is not sortable. -/
  | unknownSortField (field : String)
  /-- A custom filter is asked for a value outside of its domain. -/
  | valueNotAllowed (field value : String)
  | malformed (parameter : String) (reason : Malformation)
  /-- The resource has no configuration. -/
  | notConfigured (resource : String)

namespace RequestError

def message : RequestError → String
  | .unknownFilterField field => s!"Invalid filter field: '{field}'"
  | .unknownSortField field => s!"Invalid sort field: '{field}'"
  | .valueNotAllowed field value => s!"Invalid value '{value}' for filter '{field}'"
  | .malformed parameter reason => s!"Malformed '{parameter}' parameter: {reason.message}"
  | .notConfigured resource => s!"No query configuration registered for '{resource}'"

/-- Whether the request is to blame rather than the setup of the server. -/
def isClientError : RequestError → Bool
  | .notConfigured _ => false
  | _ => true

end RequestError

/-- Why a configuration is refused. -/
inductive ConfigError where
  | unknownDefaultSortField (resource field : String)
  | unknownField (resource field : String)
  | blankFilterName (resource : String)
  | duplicateFilter (resource name : String)
  | alreadyConfigured (resource : String)
deriving DecidableEq, Repr

def ConfigError.message : ConfigError → String
  | .unknownDefaultSortField resource field =>
    s!"Default sort field '{field}' is not sortable on '{resource}'"
  | .unknownField resource field => s!"Field '{field}' does not exist on '{resource}'"
  | .blankFilterName resource => s!"Custom filter names must not be empty ('{resource}')"
  | .duplicateFilter resource name =>
    s!"Custom filter '{name}' is declared twice on '{resource}'"
  | .alreadyConfigured resource =>
    s!"Query configuration for '{resource}' is already registered"

end Listing
