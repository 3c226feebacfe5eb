import RightsStore.Document

/-!
The external form of contents and licenses: which fields a document may have, of what kind they are,
and which of them must be there or may be null.
-/

namespace RightsStore

namespace Schema

inductive Kind
  | text
  | integer
  | moment
  deriving DecidableEq, Repr

structure Field where
  name : String
  kind : Kind
  required : Bool := false
  nullable : Bool := false
  deriving DecidableEq, Repr

/-- A field, or fields under a common name. A group may be left out but not be null. -/
inductive Entry
  | field (f : Field)
  | group (name : String) (fields : List Field)
  deriving Repr

def Entry.name : Entry → String
  | .field f => f.name
  | .group name _ => name

end Schema

abbrev Schema := List Schema.Entry

namespace Schema

def content : Schema := [
  .field { name := "id", kind := .text, required := true },
  .field { name := "location", kind := .text },
  .field { name := "length", kind := .integer, nullable := true },
  .field { name := "sha256", kind := .text, nullable := true },
  .field { name := "type", kind := .text }]

def user : List Field := [{ name := "id", kind := .text }]

def rights : List Field := [
  { name := "print", kind := .integer, nullable := true },
  { name := "copy", kind := .integer, nullable := true },
  { name := "start", kind := .moment, nullable := true },
  { name := "end", kind := .moment, nullable := true }]

def licenseReport : Schema := [
  .field { name := "id", kind := .text, required := true },
  .field { name := "provider", kind := .text },
  .field { name := "issued", kind := .moment },
  .field { name := "updated", kind := .moment, nullable := true },
  .group "user" user,
  .group "rights" rights,
  .field { name := "content_id", kind := .text },
  .field { name := "lsd_status", kind := .integer }]

end Schema

end RightsStore
