import RightsStore.Text.Digit
import RightsStore.Text.Hex

/-!
Tokens: the words, quotations, numbers, variables and symbols that a statement is written with.
Blanks and comments stand between them.
-/

namespace RightsStore.Sql

open Text

/-- What a token is. An `illegal` one is begun in a way in which no token ends. -/
inductive Kind
  | word
  | name
  | string
  | number
  | bytes
  | variable
  | symbol
  | illegal
  deriving DecidableEq, Repr

structure Token where
  kind : Kind
  text : List Char
  deriving DecidableEq, Repr

/-- A vertical tab is a blank only after another one. -/
def isSpace (c : Char) : Bool := c == ' ' || '\t' ≤ c && c ≤ '\r'

def beginsSpace (c : Char) : Bool := isSpace c && c != '\x0b'

def isByteOrderMark (c : Char) : Bool := c == '\ufeff'

def beginsWord (c : Char) : Bool := c.isAlpha || c == '_' || 0x80 ≤ c.toNat

def continuesWord (c : Char) : Bool := beginsWord c || c.isDigit || c == '$'

def afterComment : List Char → List Char
  | [] => []
  | '*' :: '/' :: r => r
  | _ :: r => afterComment r

def closing? (c : Char) : Option Char :=
  if c == '[' then some ']'
  else if c == '"' || c == '\'' || c == '\x60' then some c
  else none

/-- The content of a quotation and what follows it, if it is closed. A mark that is written twice
stands for itself, where it closes what it opened. -/
def quotation? (doubles : Bool) (q : Char) : List Char → Option (List Char × List Char)
  | [] => none
  | [c] => if c = q then some ([], []) else none
  | c :: d :: r =>
    if c = q then
      if doubles && d = q then (quotation? doubles q r).map fun x => (q :: x.1, x.2)
      else some ([], d :: r)
    else (quotation? doubles q (d :: r)).map fun x => (c :: x.1, x.2)

def scanQuotation (c q : Char) (r : List Char) : Kind × List Char :=
  match quotation? (c = q) q r with
  | some (_, rest) => (if c = '\'' then .string else .name, rest)
  | none => (.illegal, [])

def isHex (c : Char) : Bool := (hexValue? c).isSome

def scanBytes (r : List Char) : Kind × List Char :=
  let rest := r.dropWhile isHex
  if rest.head? == some '\'' && (r.length - rest.length) % 2 = 0 then (.bytes, rest.tail)
  else (.illegal, (rest.dropWhile (· != '\'')).tail)

def beginsDigit (cs : List Char) : Bool := cs.head?.any isAsciiDigit

def afterExponent (cs : List Char) : List Char :=
  match cs with
  | [] => cs
  | e :: r =>
    let unsigned := if r.head? == some '+' || r.head? == some '-' then r.tail else r
    if (e == 'e' || e == 'E') && beginsDigit unsigned then unsigned.dropWhile isAsciiDigit else cs

def scanDecimal (cs : List Char) : Kind × List Char :=
  let r := cs.dropWhile isAsciiDigit
  let r := if r.head? == some '.' then r.tail.dropWhile isAsciiDigit else r
  let r := afterExponent r
  if r.head?.any continuesWord then (.illegal, r.dropWhile continuesWord) else (.number, r)

def scanNumber : List Char → Kind × List Char
  | '0' :: x :: d :: r =>
    if (x == 'x' || x == 'X') && isHex d then (.number, r.dropWhile isHex)
    else scanDecimal ('0' :: x :: d :: r)
  | cs => scanDecimal cs

def scanVariable (named : Bool) : List Char → Kind × List Char
  | ':' :: ':' :: r => scanVariable named r
  | c :: r =>
    if continuesWord c then scanVariable true r
    else if named && c == '(' then
      let rest := r.dropWhile fun c => !isSpace c && c != ')'
      if rest.head? == some ')' then (.variable, rest.tail) else (.illegal, rest)
    else (if named then .variable else .illegal, c :: r)
  | [] => (if named then .variable else .illegal, [])

def symbols : List (List Char) :=
  (["->>", "->", "==", "<=", "<>", "<<", ">=", ">>", "!=", "||"].map String.toList) ++
  "-();+*/%=<>|,&~.".toList.map ([·])

def scanSymbol (cs : List Char) : Kind × List Char :=
  match symbols.find? (·.isPrefixOf cs) with
  | some s => (.symbol, cs.drop s.length)
  | none => (.illegal, cs.tail)

def scan (c : Char) (r : List Char) : Option Kind × List Char :=
  let token := fun (x : Kind × List Char) => (some x.1, x.2)
  if beginsSpace c then (none, r.dropWhile isSpace)
  else if isByteOrderMark c then (none, r)
  else if c == '-' && r.head? == some '-' then (none, r.dropWhile (· != '\n'))
  else if c == '/' && r.head? == some '*' && 1 < r.length then (none, afterComment r.tail)
  else if (c == 'x' || c == 'X') && r.head? == some '\'' then token (scanBytes r.tail)
  else if beginsWord c then (some .word, r.dropWhile continuesWord)
  else if isAsciiDigit c || c == '.' && beginsDigit r then token (scanNumber (c :: r))
  else if c == '?' then (some .variable, r.dropWhile isAsciiDigit)
  else if "$@#:".toList.contains c then token (scanVariable false r)
  else
    match closing? c with
    | some q => token (scanQuotation c q r)
    | none => token (scanSymbol (c :: r))

/-- The tokens of a text; `skip` characters still belong to what stands before. -/
def tokensAfter : (skip : Nat) → List Char → List Token
  | _, [] => []
  | skip + 1, _ :: r => tokensAfter skip r
  | 0, c :: r =>
    let (kind, rest) := scan c r
    let length := r.length - rest.length
    match kind with
    | none => tokensAfter length r
    | some k => ⟨k, c :: r.take length⟩ :: tokensAfter length r

def tokens (sql : List Char) : List Token := tokensAfter 0 sql

namespace Token

def isSymbol (t : Token) (s : String) : Bool := t.kind = .symbol && t.text = s.toList

def isKeyword (t : Token) (s : String) : Bool :=
  t.kind = .word && t.text.map Char.toUpper = s.toList

def quoted (t : Token) : String :=
  match t.text with
  | [] => ""
  | c :: r =>
    let q := (closing? c).getD c
    .ofList (((quotation? (c = q) q r).map (·.1)).getD [])

end Token

@[simp] theorem tokens_nil : tokens [] = [] := rfl

end RightsStore.Sql
