import RightsStore.Calendar.Iso.Reader
import RightsStore.Record

namespace RightsStore

open Text

inductive DescriptionFault
  | noId (kind : String)
  | unknownField (kind name : String)
  | notFields (kind found : String)
  | notHex (position : Nat)
  | badMoment (text : List Char) (f : MomentFault)
  | momentNotText
  deriving DecidableEq, Repr

def DescriptionFault.message : DescriptionFault → String
  | .noId kind => s!"{kind}.__init__() missing 1 required positional argument: 'id'"
  | .unknownField kind name =>
    s!"{kind}.__init__() got an unexpected keyword argument '{name}'"
  | .notFields kind found =>
    s!"lcpstore.domain.models.{kind}() argument after ** must be a mapping, not {found}"
  | .notHex position => s!"non-hexadecimal number found in fromhex() arg at position {position}"
  | .badMoment text f => f.message text
  | .momentNotText => "fromisoformat: argument must be str"

abbrev Described (α : Type) := Except DescriptionFault α

namespace Description

def field (d : Document) (name : String) (f : Document → Described α) (default : α) : Described α :=
  match d.field? name with
  | some v => f v
  | none => .ok default

def datum (d : Document) : Described Datum := .ok d.toDatum

def stamp (d : Document) : Described Stamp :=
  match d.field? "raw", d with
  | some v, _ => .ok (.datum v.toDatum)
  | none, .text s =>
    match Moment.ofIso s.toList with
    | .ok t => .ok (.moment t)
    | .error f => .error (.badMoment s.toList f)
  | none, .null => .ok .null
  | none, _ => .error .momentNotText

def bytes (s : String) : Described Datum :=
  match bytesOfHex s.toList with
  | .ok b => .ok (.blob b)
  | .error k => .error (.notHex k)

def key (d : Document) : Described Datum :=
  match d.field? "text", d with
  | some v, _ => .ok v.toDatum
  | none, .text s => bytes s
  | none, d => .ok d.toDatum

def orNull (f : Document → Described α) : Document → Described (Option α)
  | .null => .ok none
  | d => (f d).map some

end Description

open Description

def describedId (kind : String) (d : Document) : Described Datum :=
  match d.field? "id" with
  | some v => .ok v.toDatum
  | none => .error (.noId kind)

def Content.ofDocument (d : Document) : Described Content := do
  let c : Content := { id := .null }
  let key ← field d "key" Description.key c.key
  let location ← field d "location" Description.datum c.location
  let length ← field d "length" Description.datum c.length
  let sha256 ← field d "sha256" Description.datum c.sha256
  let mediaType ← field d "type" Description.datum c.mediaType
  return { id := ← describedId "Content" d, key, location, length, sha256, mediaType }

def User.ofDocument : Document → Described User
  | .object fields =>
    match fields.find? (·.1 != "id") with
    | some f => .error (.unknownField "UserInfo" f.1)
    | none => .ok { id := ((fields.lookup "id").map Document.toDatum).getD (.text "") }
  | d => .error (.notFields "UserInfo" d.kind)

def Rights.ofDocument (d : Document) : Described Rights := do
  let print ← field d "print" Description.datum .null
  let copy ← field d "copy" Description.datum .null
  let start ← field d "start" Description.stamp .null
  let stop ← field d "end" Description.stamp .null
  return { print, copy, start, stop }

def License.ofDocument (kind : String) (d : Document) : Described License := do
  let l : License := { id := .null }
  let user ← field d "user" (orNull User.ofDocument) l.user
  let provider ← field d "provider" Description.datum l.provider
  let issued ← field d "issued" Description.stamp l.issued
  let updated ← field d "updated" Description.stamp l.updated
  let rights ← field d "rights" (orNull Rights.ofDocument) l.rights
  let contentId ← field d "content_id" Description.datum l.contentId
  let status ← field d "lsd_status" Description.datum l.status
  return {
    id := ← describedId kind d, user, provider, issued, updated, rights, contentId, status }

end RightsStore
