import RightsStore.Datum
import RightsStore.Table

namespace RightsStore

structure Content where
  id : Datum
  key : Datum := .blob []
  location : Datum := .text ""
  length : Datum := .null
  sha256 : Datum := .null
  mediaType : Datum := .text defaultMediaType
  deriving DecidableEq

structure User where
  id : Datum := .text ""
  deriving DecidableEq

structure Rights where
  print : Datum := .null
  copy : Datum := .null
  start : Stamp := .null
  stop : Stamp := .null
  deriving DecidableEq

structure License where
  id : Datum
  user : Option User := some {}
  provider : Datum := .text ""
  issued : Stamp := .null
  updated : Stamp := .null
  rights : Option Rights := some {}
  contentId : Datum := .text ""
  status : Datum := .int 0
  deriving DecidableEq

inductive Record
  | content (c : Content)
  | user (u : User)
  | rights (r : Rights)
  | license (l : License)
  | report (l : License)

def License.grants (l : License) : Rights := l.rights.getD {}

def Content.storedType (c : Content) : Datum :=
  if c.mediaType.isEmpty then .text defaultMediaType else c.mediaType

def License.storedStatus (l : License) : Datum := if l.status.isEmpty then .int 0 else l.status

def Content.same (a b : Content) : Bool :=
  a.id.same b.id && a.key.same b.key && a.location.same b.location && a.length.same b.length &&
    a.sha256.same b.sha256 && a.mediaType.same b.mediaType

def User.same (a b : User) : Bool := a.id.same b.id

def Rights.same (a b : Rights) : Bool :=
  a.print.same b.print && a.copy.same b.copy && a.start.same b.start && a.stop.same b.stop

def sameOption (same : α → α → Bool) : Option α → Option α → Bool
  | none, none => true
  | some a, some b => same a b
  | _, _ => false

def License.same (a b : License) : Bool :=
  a.id.same b.id && sameOption User.same a.user b.user && a.provider.same b.provider &&
    a.issued.same b.issued && a.updated.same b.updated &&
    sameOption Rights.same a.rights b.rights && a.contentId.same b.contentId &&
    a.status.same b.status

def Record.same : Record → Record → Bool
  | .content a, .content b => a.same b
  | .user a, .user b => a.same b
  | .rights a, .rights b => a.same b
  | .license a, .license b => a.same b
  | .report a, .report b => a.same b
  | _, _ => false

def Content.object (c : Content) : Document := .object [
  ("id", c.id.document), ("encryption_key", c.key.document), ("location", c.location.document),
  ("length", c.length.document), ("sha256", c.sha256.document), ("type", c.mediaType.document)]

def User.document (u : User) : Document := .object [("id", u.id.document)]

def Rights.document (r : Rights) : Document := .object [
  ("print", r.print.document), ("copy", r.copy.document), ("start", r.start.document),
  ("end", r.stop.document)]

def License.document (l : License) : Document := .object [
  ("id", l.id.document), ("provider", l.provider.document), ("issued", l.issued.document),
  ("updated", l.updated.document), ("user", (l.user.map User.document).getD .null),
  ("rights", (l.rights.map Rights.document).getD .null),
  ("content_id", l.contentId.document), ("lsd_status", l.status.document)]

end RightsStore
