import RightsStore.Calendar.Moment
import RightsStore.Cell

namespace RightsStore

inductive Leaf
  | cell (c : Cell)
  | irregular (x : Irregular)
  | flag (b : Bool)
  | moment (t : Moment)
  deriving DecidableEq

inductive Document
  | leaf (a : Leaf)
  | list (items : List Document)
  | object (fields : List (String × Document))

namespace Leaf

def kind : Leaf → String
  | .cell .null => "NoneType"
  | .cell (.int _) => "int"
  | .cell (.real _) => "float"
  | .cell (.text _) => "str"
  | .cell (.blob _) => "bytes"
  | .irregular _ => "float"
  | .flag _ => "bool"
  | .moment _ => "datetime"

def isEmpty : Leaf → Bool
  | .cell .null => true
  | .cell (.int n) => n = 0
  | .cell (.real x) => x = .finite 0
  | .cell (.text s) => s.isEmpty
  | .cell (.blob b) => b.isEmpty
  | .irregular x => x = .negativeZero
  | .flag b => !b
  | .moment _ => false

def number? : Leaf → Option Double
  | .cell (.int n) => some (.finite n)
  | .cell (.real x) => some x
  | .irregular .negativeZero => some (.finite 0)
  | .flag b => some (.finite (if b then 1 else 0))
  | _ => none

def same (a b : Leaf) : Bool :=
  match a, b with
  | .moment s, .moment t => s.same t
  | _, _ =>
    match a.number?, b.number? with
    | some x, some y => x = y
    | _, _ => a = b

end Leaf

namespace Document

@[match_pattern] abbrev cell (c : Cell) : Document := .leaf (.cell c)
@[match_pattern] abbrev irregular (x : Irregular) : Document := .leaf (.irregular x)
@[match_pattern] abbrev flag (b : Bool) : Document := .leaf (.flag b)
@[match_pattern] abbrev moment (t : Moment) : Document := .leaf (.moment t)
@[match_pattern] abbrev null : Document := .cell .null
@[match_pattern] abbrev int (n : Int) : Document := .cell (.int n)
@[match_pattern] abbrev real (x : Double) : Document := .cell (.real x)
@[match_pattern] abbrev text (s : String) : Document := .cell (.text s)
@[match_pattern] abbrev blob (b : Text.Bytes) : Document := .cell (.blob b)

def field? (name : String) : Document → Option Document
  | .object fields => fields.lookup name
  | _ => none

def kind : Document → String
  | .leaf a => a.kind
  | .list _ => "list"
  | .object _ => "dict"

def isEmpty : Document → Bool
  | .leaf a => a.isEmpty
  | .list ds => ds.isEmpty
  | .object fs => fs.isEmpty

mutual

def same : Document → Document → Bool
  | .leaf a, .leaf b => a.same b
  | .list ds, .list es => sameItems ds es
  | .object fs, .object gs => fs.length = gs.length && sameFields fs gs
  | _, _ => false

def sameItems : List Document → List Document → Bool
  | [], [] => true
  | d :: ds, e :: es => same d e && sameItems ds es
  | _, _ => false

def sameFields : List (String × Document) → List (String × Document) → Bool
  | [], _ => true
  | (name, d) :: fs, gs =>
    (match gs.lookup name with
      | some e => same d e
      | none => false) && sameFields fs gs

end

mutual

def decEq : (d e : Document) → Decidable (d = e)
  | .leaf a, .leaf b =>
    if h : a = b then .isTrue (by rw [h]) else .isFalse (by simp [h])
  | .list ds, .list es =>
    match decEqItems ds es with
    | .isTrue h => .isTrue (by rw [h])
    | .isFalse h => .isFalse (by simp [h])
  | .object fs, .object gs =>
    match decEqFields fs gs with
    | .isTrue h => .isTrue (by rw [h])
    | .isFalse h => .isFalse (by simp [h])
  | .leaf _, .list _ => .isFalse (by simp)
  | .leaf _, .object _ => .isFalse (by simp)
  | .list _, .leaf _ => .isFalse (by simp)
  | .list _, .object _ => .isFalse (by simp)
  | .object _, .leaf _ => .isFalse (by simp)
  | .object _, .list _ => .isFalse (by simp)

def decEqItems : (ds es : List Document) → Decidable (ds = es)
  | [], [] => .isTrue rfl
  | [], _ :: _ => .isFalse (by simp)
  | _ :: _, [] => .isFalse (by simp)
  | d :: ds, e :: es =>
    match decEq d e, decEqItems ds es with
    | .isTrue h, .isTrue hs => .isTrue (by rw [h, hs])
    | .isFalse h, _ => .isFalse (by simp [h])
    | _, .isFalse hs => .isFalse (by simp [hs])

def decEqFields : (fs gs : List (String × Document)) → Decidable (fs = gs)
  | [], [] => .isTrue rfl
  | [], _ :: _ => .isFalse (by simp)
  | _ :: _, [] => .isFalse (by simp)
  | (m, d) :: fs, (n, e) :: gs =>
    if hn : m = n then
      match decEq d e, decEqFields fs gs with
      | .isTrue h, .isTrue hs => .isTrue (by rw [hn, h, hs])
      | .isFalse h, _ => .isFalse (by simp [h])
      | _, .isFalse hs => .isFalse (by simp [hs])
    else .isFalse (by simp [hn])

end

instance : DecidableEq Document := decEq

end Document

end RightsStore
