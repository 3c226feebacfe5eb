import RightsStore.Sql.Token

namespace RightsStore.Sql

inductive Misreading
  | illegal (token : List Char)
  | misplaced (token : List Char)
  | incomplete
  deriving DecidableEq, Repr

def Misreading.message : Misreading → String
  | .illegal token => s!"unrecognized token: \"{String.ofList token}\""
  | .misplaced token => s!"near \"{String.ofList token}\": syntax error"
  | .incomplete => "incomplete input"

abbrev Reader (α : Type) := StateT (List Token) (Except Misreading) α

def misreading : List Token → Misreading
  | [] => .incomplete
  | t :: _ => if t.kind = .illegal then .illegal t.text else .misplaced t.text

def one (f : Token → Option α) : Reader α := fun
  | [] => .error .incomplete
  | t :: ts =>
    match f t with
    | some a => .ok (a, ts)
    | none => .error (misreading (t :: ts))

def such (p : Token → Bool) : Reader Unit := one fun t => if p t then some () else none

def symbol (s : String) : Reader Unit := such (·.isSymbol s)

def keyword (s : String) : Reader Unit := such (·.isKeyword s)

def after? (p : Token → Bool) (x : Reader α) : Reader (Option α) := fun
  | [] => .ok (none, [])
  | t :: ts => if p t then (x ts).map fun r => (some r.1, r.2) else .ok (none, t :: ts)

def listed (f : Token → Option α) : Reader (List α)
  | [] => .error .incomplete
  | [t] => .error (if (f t).isSome then .incomplete else misreading [t])
  | t :: u :: ts =>
    match f t with
    | none => .error (misreading (t :: u :: ts))
    | some a =>
      if u.isSymbol ")" then .ok ([a], ts)
      else if u.isSymbol "," then (listed f ts).map fun r => (a :: r.1, r.2)
      else .error (misreading (u :: ts))

def ending : Reader Bool := fun
  | [] => .ok (false, [])
  | t :: ts => if t.isSymbol ";" then .ok (!ts.isEmpty, ts) else .error (misreading (t :: ts))

def reserved : List String := [
  "ADD", "ALL", "ALTER", "AND", "AS", "AUTOINCREMENT", "BETWEEN", "CASE", "CHECK", "COLLATE",
  "COMMIT", "CONSTRAINT", "CREATE", "DEFAULT", "DEFERRABLE", "DELETE", "DISTINCT", "DROP", "ELSE",
  "ESCAPE", "EXCEPT", "EXISTS", "FOREIGN", "FROM", "GROUP", "HAVING", "IN", "INDEX", "INSERT",
  "INTERSECT", "INTO", "IS", "ISNULL", "JOIN", "LIMIT", "NOT", "NOTHING", "NOTNULL", "NULL", "ON",
  "OR", "ORDER", "PRIMARY", "REFERENCES", "RETURNING", "SELECT", "SET", "TABLE", "THEN", "TO",
  "TRANSACTION", "UNION", "UNIQUE", "UPDATE", "USING", "VALUES", "WHEN", "WHERE"]

def Token.name? (t : Token) : Option String :=
  match t.kind with
  | .word => if reserved.any t.isKeyword then none else some (.ofList t.text)
  | .name => some t.quoted
  | .string => some t.quoted
  | _ => none

def name : Reader String := one Token.name?

end RightsStore.Sql
