import RightsStore.Double.Shortest
import RightsStore.Record
import RightsStore.Text.Quoted

namespace RightsStore

open Text

def shownInt (n : Int) : List Char := (toString n).toList

def shownByte (quote : Char) (b : UInt8) : List Char :=
  if b.toNat < 0x7f then escaped quote (Char.ofNat b.toNat)
  else '\\' :: 'x' :: hexDigits 2 b.toNat

def shownBytes (b : Bytes) : List Char :=
  let quote := quoteFor (b.map fun x => Char.ofNat x.toNat)
  'b' :: quote :: b.flatMap (shownByte quote) ++ [quote]

def shownCall (name : String) (arguments : List (List Char)) : List Char :=
  name.toList ++ '(' :: [',', ' '].intercalate arguments ++ [')']

def shownFields (name : String) (fields : List (String × List Char)) : List Char :=
  shownCall name (fields.map fun f => f.1.toList ++ '=' :: f.2)

section

open Calendar

def Offset.shown (o : Offset) : List Char :=
  let parts := [("days", o.micros / dayLength), ("seconds", o.micros % dayLength / second),
    ("microseconds", o.micros % second)]
  let shown := fun (p : String × Int) => (p.1, shownInt p.2)
  if o.micros = 0 then "datetime.timezone.utc".toList
  else
    shownCall "datetime.timezone"
      [shownFields "datetime.timedelta" ((parts.filter (·.2 ≠ 0)).map shown)]

def Moment.shownTime (t : Moment) : List Nat :=
  let n := t.sinceMidnight
  let fraction := if n % second = 0 then [] else [n % second]
  let seconds := if n % (60 * second) = 0 then [] else n / second % 60 :: fraction
  n / hour :: n / (60 * second) % 60 :: seconds

def Moment.shown (t : Moment) : List Char :=
  let parts := [t.date.year, t.date.month, t.date.day] ++ t.shownTime
  let offset := (t.offset.map fun o => "tzinfo=".toList ++ o.shown).toList
  shownCall "datetime.datetime" (parts.map (fun k => shownInt (Int.ofNat k)) ++ offset)

end

def Irregular.shown : Irregular → List Char
  | .negativeZero => "-0.0".toList
  | .notNumber => "nan".toList

def Leaf.shown : Leaf → List Char
  | .cell .null => "None".toList
  | .cell (.int n) => shownInt n
  | .cell (.real x) => x.shown
  | .cell (.text s) => quoted s.toList
  | .cell (.blob b) => shownBytes b
  | .irregular x => x.shown
  | .flag b => (if b then "True" else "False").toList
  | .moment t => t.shown

namespace Document

mutual

def shown : Document → List Char
  | .leaf a => a.shown
  | .list ds => '[' :: shownItems ds ++ [']']
  | .object fs => '\x7b' :: shownEntries fs ++ ['\x7d']

def shownItems : List Document → List Char
  | [] => []
  | [d] => shown d
  | d :: ds => shown d ++ ',' :: ' ' :: shownItems ds

def shownEntries : List (String × Document) → List Char
  | [] => []
  | [(n, d)] => quoted n.toList ++ ':' :: ' ' :: shown d
  | (n, d) :: fs => quoted n.toList ++ ':' :: ' ' :: shown d ++ ',' :: ' ' :: shownEntries fs

end

def plain : Document → String
  | .text s => s
  | d => .ofList d.shown

end Document

def Datum.shown (d : Datum) : List Char := d.document.shown

def Datum.plain (d : Datum) : String := d.document.plain

def Stamp.shown (s : Stamp) : List Char := s.document.shown

def shownOption (shown : α → List Char) : Option α → List Char
  | none => "None".toList
  | some a => shown a

def Content.shown (c : Content) : List Char :=
  shownFields "Content" [("id", c.id.shown), ("location", c.location.shown),
    ("length", c.length.shown), ("sha256", c.sha256.shown), ("type", c.mediaType.shown)]

def User.shown (u : User) : List Char := shownFields "UserInfo" [("id", u.id.shown)]

def Rights.shown (r : Rights) : List Char :=
  shownFields "UserRights" [("print", r.print.shown), ("copy", r.copy.shown),
    ("start", r.start.shown), ("end", r.stop.shown)]

def License.shown (kind : String) (l : License) : List Char :=
  shownFields kind [("id", l.id.shown), ("user", shownOption User.shown l.user),
    ("provider", l.provider.shown), ("issued", l.issued.shown), ("updated", l.updated.shown),
    ("rights", shownOption Rights.shown l.rights), ("content_id", l.contentId.shown),
    ("lsd_status", l.status.shown)]

def Record.shown : Record → List Char
  | .content c => c.shown
  | .user u => u.shown
  | .rights r => r.shown
  | .license l => l.shown "License"
  | .report l => l.shown "LicenseReport"

end RightsStore
