import RightsStore.Database.Affinity
import RightsStore.Failure

namespace RightsStore

/-- The moment in UTC, a naive one being taken as UTC already. -/
def Stamp.toUtc : Stamp → Except Unbindable Stamp
  | .null => .ok .null
  | .moment t =>
    match t.utc? with
    | some u => .ok (.moment u)
    | none => .error .dateRange
  | .datum d => .error (.notMoment d.kind)

def Stamp.bind (s : Stamp) : Except Failure Cell :=
  match s.toUtc with
  | .ok (.moment t) => .ok (.text (.ofList t.stored))
  | .ok (.datum _) => .ok .null
  | .error u => .error (.unbindable u)

def Datum.bindKey : Datum → Except Failure Cell
  | .null => .ok .null
  | .blob b => .ok (.blob b)
  | d => .error (.unbindable (.notBytes d.kind))

/-- Binds the value at a position of a statement. An integer must fit into 64 bits; a zero loses its
sign, and what is not a number is stored as nothing. -/
def Datum.bind (position : Nat) : Datum → Except Failure Cell
  | .int n => if fitsWord n then .ok (.int n) else .error .integerRange
  | .flag b => .ok (.int (if b then 1 else 0))
  | .irregular .negativeZero => .ok (.real (.finite 0))
  | .irregular .notNumber => .ok .null
  | .composite d => .error (.unsupported position d.kind)
  | .cell c => .ok c

def Cell.readStamp : Cell → Except Failure Stamp
  | .null => .ok .null
  | .text s =>
    match Moment.ofIso s.toList with
    | .error f => .error (.badMoment s.toList f)
    | .ok t =>
      match t.utc? with
      | some u => .ok (.moment u)
      | none => .error .dateRange
  | _ => .error .momentNotText

def longestKey : Int := 0x8000000000000000 - 34

/-- A number stands for so many zero bytes. -/
def Cell.readKey : Cell → Except Failure Datum
  | .null => .ok (.blob [])
  | .blob b => .ok (.blob b)
  | .int n =>
    if n < 0 then .error .negativeKey
    else if longestKey < n then .error .keyTooLong
    else if memoryLimit ≤ n then .error .keyMemory
    else .ok (.blob (.replicate n.toNat 0))
  | .text _ => .error .keyText
  | .real _ => .error .keyFraction

end RightsStore
