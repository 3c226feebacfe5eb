import RightsStore.Text.Digit

namespace RightsStore

open Text

structure Options where
  databaseUrl : Option String := none
  logLevel : Option String := none
  deriving DecidableEq, Repr

inductive Exit
  | help
  | usage
  deriving DecidableEq, Repr

def Exit.code : Exit → Nat
  | .help => 0
  | .usage => 2

namespace Options

inductive Switch
  | databaseUrl
  | logLevel
  | help
  deriving DecidableEq, Repr

def spellings : List (List Char × Switch) := [
  ("-h".toList, .help), ("--help".toList, .help),
  ("--database-url".toList, .databaseUrl), ("--log-level".toList, .logLevel)]

/-- What an argument is: an option, perhaps with a value attached, an end to the program, an option
that does not exist, the end of all options, or a value. -/
inductive Argument
  | switch (s : Switch) (attached : Option (List Char))
  | stop (e : Exit)
  | unknown
  | separator
  | value (text : List Char)
  deriving DecidableEq, Repr

/-- Letters that follow the letter `h` ask for further options without a hyphen of their own, and
there is only `h`. -/
def afterHelp (letters : List Char) : Exit := if letters.all (· = 'h') then .help else .usage

def argument (name : List Char) : Switch × Option (List Char) → Argument
  | (.help, none) => .stop .help
  | (.help, some []) => .stop .usage
  | (.help, some attached) => .stop (if name = ['-', 'h'] then afterHelp attached else .usage)
  | (s, attached) => .switch s attached

def splitAttached (cs : List Char) : List Char × Option (List Char) :=
  match cs.dropWhile (· != '=') with
  | [] => (cs, none)
  | _ :: r => (cs.takeWhile (· != '='), some r)

def isDigit (c : Char) : Bool := (digitValue? c).isSome

def isNegativeNumber : List Char → Bool
  | '-' :: r =>
    let r := if r.getLast? = some '\n' then r.dropLast else r
    let fraction := r.dropWhile isDigit
    if fraction.isEmpty then !r.isEmpty
    else fraction.head? = some '.' && !fraction.tail.isEmpty && fraction.tail.all isDigit
  | _ => false

def shortened (cs : List Char) : List Argument :=
  match cs with
  | '-' :: '-' :: _ =>
    let (name, attached) := splitAttached cs
    (spellings.filter (name.isPrefixOf ·.1)).map fun p => argument p.1 (p.2, attached)
  | '-' :: 'h' :: r => [.stop (afterHelp r)]
  | _ => []

def exact (cs : List Char) : Option Argument :=
  match spellings.lookup cs, splitAttached cs with
  | some s, _ => some (argument cs (s, none))
  | none, (name, some attached) =>
    (spellings.lookup name).map fun s => argument name (s, some attached)
  | none, (_, none) => none

/-- A text that begins with a hyphen is no value, unless it is a lone hyphen, a negative number or
has a blank in it. -/
def classify (cs : List Char) : Except Exit Argument :=
  if cs.head? != some '-' then .ok (.value cs)
  else
    match exact cs with
    | some a => .ok a
    | none =>
      if cs.length = 1 then .ok (.value cs)
      else
        match shortened cs with
        | [a] => .ok a
        | _ :: _ :: _ => .error .usage
        | [] => .ok (if isNegativeNumber cs || cs.contains ' ' then .value cs else .unknown)

def classifyAll : List (List Char) → Except Exit (List Argument)
  | [] => .ok []
  | cs :: r =>
    if cs = ['-', '-'] then .ok (.separator :: r.map .value)
    else do return (← classify cs) :: (← classifyAll r)

def set (o : Options) (s : Switch) (text : List Char) : Options :=
  match s with
  | .databaseUrl => { o with databaseUrl := some (.ofList text) }
  | .logLevel => { o with logLevel := some (.ofList text) }
  | .help => o

/-- Takes the options in order; the last of a kind counts. What is `left` over is an error once all
options have been taken. -/
def take (o : Options) (left : Bool) : List Argument → Except Exit Options
  | [] => if left then .error .usage else .ok o
  | .stop e :: _ => .error e
  | .switch s (some text) :: r => take (o.set s text) left r
  | .switch s none :: .value text :: r => take (o.set s text) left r
  | .switch _ none :: _ => .error .usage
  | _ :: r => take o true r

def read (args : List (List Char)) : Except Exit Options := do take {} false (← classifyAll args)

end Options

end RightsStore
