import RightsStore.Database.Numeral
import RightsStore.Cell
import RightsStore.Sql.Reader

namespace RightsStore.Sql

open Text

inductive Operand
  | bound
  | literal (c : Cell)
  | column (name : String)
  deriving DecidableEq

/-- Without operands, a row of defaults is inserted; without columns, the operands are for all of
them. -/
structure Insertion where
  schema : Option String := none
  table : String
  called : Option String := none
  columns : Option (List String) := none
  operands : List Operand := []
  deriving DecidableEq

def number? (cs : List Char) : Option Cell :=
  (Numeral.ofText? cs).map fun n =>
    if n.whole && fitsWord n.toInt then .int n.toInt else .real n.toDouble

def bytes? (cs : List Char) : Option Bytes := (bytesOfHex (cs.drop 2).dropLast).toOption

/-- A name in double quotes that is not the name of a column is a text. -/
def Token.operand? (t : Token) : Option Operand :=
  match t.kind with
  | .variable => if t.text = ['?'] then some .bound else none
  | .word => if t.isKeyword "NULL" then some (.literal .null) else t.name?.map .column
  | .name => some (if t.text.head? = some '"' then .literal (.text t.quoted) else .column t.quoted)
  | .string => some (.literal (.text t.quoted))
  | .number => (number? t.text).map .literal
  | .bytes => (bytes? t.text).map fun b => .literal (.blob b)
  | _ => none

def insertionText (table : String) (columns : List String) : String :=
  "INSERT INTO " ++ table ++ " (" ++ ", ".intercalate columns ++ ") VALUES (" ++
    ", ".intercalate (columns.map fun _ => "?") ++ ")"

namespace Insertion

def reader : Reader Insertion := do
  keyword "INSERT"
  keyword "INTO"
  let first ← name
  let second ← after? (·.isSymbol ".") name
  let called ← after? (·.isKeyword "AS") name
  let columns ← after? (·.isSymbol "(") (listed Token.name?)
  let defaults ← after? (·.isKeyword "DEFAULT") (keyword "VALUES")
  let operands ←
    if defaults.isSome then pure []
    else do
      keyword "VALUES"
      symbol "("
      listed Token.operand?
  return {
    schema := second.map fun _ => first
    table := second.getD first
    called, columns, operands }

def ofText (sql : List Char) : Except Misreading (Insertion × Bool) :=
  Prod.fst <$> (do return (← reader, ← ending) : Reader (Insertion × Bool)) (tokens sql)

def qualifiedTable (i : Insertion) : String :=
  match i.schema with
  | some s => s ++ "." ++ i.table
  | none => i.table

def tableName (i : Insertion) : String := i.called.getD i.qualifiedTable

def parameters (i : Insertion) : Nat := i.operands.count .bound

def column? (i : Insertion) : Option String :=
  i.operands.findSome? fun
    | .column name => some name
    | _ => none

def fill : List Operand → List Cell → List Cell
  | [], _ => []
  | .literal c :: os, cs => c :: fill os cs
  | .bound :: os, c :: cs => c :: fill os cs
  | _ :: os, cs => .null :: fill os cs

def cells (i : Insertion) (bound : List Cell) : List Cell := fill i.operands bound

@[simp] theorem length_fill (os : List Operand) (cs : List Cell) :
    (fill os cs).length = os.length := by
  fun_induction fill os cs <;> simp_all

end Insertion

end RightsStore.Sql
