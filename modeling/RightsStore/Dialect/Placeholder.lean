import RightsStore.Dialect
import RightsStore.Text.Word

namespace RightsStore

open Text

namespace Sql

/-- A bind is a colon and the word after it. -/
inductive Piece
  | char (c : Char)
  | bind (name : List Char)
  deriving DecidableEq, Repr

/-- Cuts a text into pieces. A colon after a colon or a word is `blocked` and begins no bind;
`skip` characters still belong to the last bind. -/
def pieces (blocked : Bool) : (skip : Nat) → List Char → List Piece
  | _, [] => []
  | skip + 1, _ :: r => pieces true skip r
  | 0, c :: r =>
    let word := r.takeWhile isWord
    if c = ':' && !blocked && !word.isEmpty then .bind word :: pieces true word.length r
    else .char c :: pieces (c = ':' || isWord c) 0 r

def ofText (sql : List Char) : List Piece := pieces false 0 sql

def names (ps : List Piece) : List (List Char) :=
  ps.foldl (fun seen p =>
    match p with
    | .char _ => seen
    | .bind n => if seen.contains n then seen else seen ++ [n]) []

end Sql

namespace Dialect

open Sql

def placeholder (d : Dialect) (position : List Char) : List Char :=
  match d with
  | .postgres => '$' :: position
  | _ => ['?']

def renderPiece (d : Dialect) (names : List (List Char)) : Piece → List Char
  | .char c => [c]
  | .bind n => d.placeholder (toString (names.idxOf n + 1)).toList

def render (d : Dialect) (sql : List Char) : List Char :=
  let ps := ofText sql
  ps.flatMap (d.renderPiece (names ps))

def notSqlMessage (kind : String) : String := s!"expected string or bytes-like object, got '{kind}'"

@[simp] theorem placeholder_sqlite (p : List Char) : sqlite.placeholder p = ['?'] := rfl

@[simp] theorem placeholder_mysql (p : List Char) : mysql.placeholder p = ['?'] := rfl

@[simp] theorem renderPiece_char (d : Dialect) (names : List (List Char)) (c : Char) :
    d.renderPiece names (.char c) = [c] := rfl

end Dialect

end RightsStore
