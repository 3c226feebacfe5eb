import RightsStore.Sql.Reader

namespace RightsStore.Sql

def Token.asked? (t : Token) : Option String :=
  if ["ON", "DELETE", "DEFAULT"].any t.isKeyword || t.kind = .number then some (.ofList t.text)
  else t.name?

def Token.digits? (t : Token) : Option String :=
  if t.kind = .number then some (.ofList t.text) else none

def asked : Reader String := do
  match ← after? (·.isSymbol "+") (one Token.digits?) with
  | some n => return n
  | none =>
    match ← after? (·.isSymbol "-") (one Token.digits?) with
    | some n => return "-" ++ n
    | none => one Token.asked?

def inquiryText (table : String) : String := s!"PRAGMA table_info({table})"

def inquiry : Reader String := do
  keyword "PRAGMA"
  keyword "TABLE_INFO"
  symbol "("
  let table ← asked
  symbol ")"
  return table

def inquired (sql : List Char) : Except Misreading (String × Bool) :=
  Prod.fst <$> (do return (← inquiry, ← ending) : Reader (String × Bool)) (tokens sql)

end RightsStore.Sql
