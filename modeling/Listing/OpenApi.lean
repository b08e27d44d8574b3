import Listing.Json.Basic

set_option autoImplicit false

namespace Listing.OpenApi

/-!
# Interface document

The part of an OpenAPI document that covers the index endpoint: its parameters, and the schemas of
a description and its parts.
-/

/-- A description, if there is one, as a member of an object. -/
def described : Option String → List (String × Json)
  | none => []
  | some text => [("description", .string text)]

inductive MemberType where
  | text
  | texts
  /-- A list of texts that may be left out. -/
  | optionalTexts
  | reference (schema : String)
  | references (schema : String)
deriving DecidableEq, Repr

/-- A reference to a named schema, as the members of a schema object. -/
def referenceMembers (schema : String) : List (String × Json) :=
  [("$ref", .string ("#/components/schemas/" ++ schema))]

def textSchema : Json :=
  .object [("type", .string "string")]

/-- A member type as the members of a schema object. -/
def MemberType.members : MemberType → List (String × Json)
  | .text => [("type", .string "string")]
  | .texts => [("type", .string "array"), ("items", textSchema)]
  | .optionalTexts =>
    [("type", .array [.string "array", .string "null"]), ("items", textSchema)]
  | .reference schema => referenceMembers schema
  | .references schema =>
    [("type", .string "array"), ("items", .object (referenceMembers schema))]

/-- Whether an object has to have a member of the type. -/
def MemberType.isRequired : MemberType → Bool
  | .optionalTexts => false
  | _ => true

structure Member where
  name : String
  type : MemberType
  description : Option String := none
deriving DecidableEq, Repr

def Member.property (member : Member) : String × Json :=
  (member.name, .object (described member.description ++ member.type.members))

def objectSchema (description : Option String) (members : List Member) : Json :=
  let required := (members.filter fun member => member.type.isRequired).map Member.name
  .object
    ([("type", .string "object")] ++ described description
      ++ [ ("required", .array (required.map .string))
         , ("properties", .object (members.map Member.property)) ])

/-- The schema of one word out of several. -/
def wordSchema (description : String) (words : List String) : Json :=
  .object
    [ ("type", .string "string")
    , ("description", .string description)
    , ("enum", .array (words.map .string)) ]

/-- An optional parameter of the query string. -/
def queryParameter (name description : String) : Json :=
  .object
    [ ("name", .string name)
    , ("in", .string "query")
    , ("description", .string description)
    , ("required", .bool false)
    , ("schema", textSchema) ]

def parameters : List Json :=
  [ queryParameter "filter"
      ("JSON object of field to comma-separated values, e.g. `\x7b\"login\":\"andre,fred\"\x7d`.\n"
        ++ "`filter[login]=andre,fred` is accepted too.")
  , queryParameter "sort"
      "Comma-separated fields, `-` prefix for descending, e.g. `-id,login`." ]

/-- The schemas of a description and of its parts, by name. -/
def schemas : List (String × Json) :=
  [ ("QueryDescription",
      objectSchema
        (some "Filter and sort capabilities of a resource, served at `GET <resource>/filters`.")
        [ { name := "resource", type := .text }
        , { name := "filterable", type := .texts }
        , { name := "sortable", type := .texts }
        , { name := "custom_filters", type := .references "CustomFilterDescription" }
        , { name := "default_sort", type := .references "SortDescription" } ])
  , ("CustomFilterDescription",
      objectSchema none
        [ { name := "name", type := .text }
        , { name := "description", type := .text }
        , { name := "allowed_values"
            type := .optionalTexts
            description :=
              some ("Accepted values, when they are a fixed list. Absent when any value is\n"
                ++ "accepted or the list is computed per request.") } ])
  , ("SortDescription",
      objectSchema none
        [ { name := "field", type := .text }
        , { name := "direction", type := .reference "SortDirection" } ])
  , ("SortDirection", wordSchema "Sort direction as shown to clients." ["asc", "desc"]) ]

end Listing.OpenApi
