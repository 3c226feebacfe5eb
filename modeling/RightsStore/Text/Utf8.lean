import RightsStore.Text.Hex

namespace RightsStore.Text.Utf8

def encode (cs : List Char) : Bytes := cs.flatMap String.utf8EncodeChar

inductive Fault
  | badStart
  | badContinuation
  | cutOff
  deriving DecidableEq, Repr

/-- A piece has a first byte and `more` bytes after it. -/
inductive Piece
  | char (c : Char) (more : Nat)
  | broken (f : Fault) (first : UInt8) (more : Nat)
  deriving DecidableEq, Repr

def Piece.more : Piece → Nat
  | .char _ more => more
  | .broken _ _ more => more

def isContinuation (b : UInt8) : Bool := b.toNat / 64 = 2

/-- How many bytes may follow the first byte of a character, and the least and greatest of the
first of them. -/
def sequence? (b : UInt8) : Option (Nat × Nat × Nat) :=
  let n := b.toNat
  if 0xc2 ≤ n && n ≤ 0xdf then some (1, 0x80, 0xbf)
  else if n = 0xe0 then some (2, 0xa0, 0xbf)
  else if n = 0xed then some (2, 0x80, 0x9f)
  else if 0xe1 ≤ n && n ≤ 0xef then some (2, 0x80, 0xbf)
  else if n = 0xf0 then some (3, 0x90, 0xbf)
  else if 0xf1 ≤ n && n ≤ 0xf3 then some (3, 0x80, 0xbf)
  else if n = 0xf4 then some (3, 0x80, 0x8f)
  else none

def continuations (count lo hi : Nat) (bs : Bytes) : Bytes :=
  match bs with
  | b :: r =>
    if lo ≤ b.toNat && b.toNat ≤ hi then b :: (r.take (count - 1)).takeWhile isContinuation else []
  | [] => []

def piece (b : UInt8) (r : Bytes) : Piece :=
  if b.toNat < 0x80 then .char (Char.ofNat b.toNat) 0
  else
    match sequence? b with
    | none => .broken .badStart b 0
    | some (count, lo, hi) =>
      let rest := continuations count lo hi r
      if rest.length = count then
        let first := b.toNat % Nat.pow 2 (6 - count)
        .char (Char.ofNat (rest.foldl (fun n b => 64 * n + b.toNat % 64) first)) count
      else .broken (if rest.length = r.length then .cutOff else .badContinuation) b rest.length

def pieces : (skip : Nat) → Bytes → List Piece
  | _, [] => []
  | skip + 1, _ :: r => pieces skip r
  | 0, b :: r => piece b r :: pieces (piece b r).more r

def decodeLossy (bs : Bytes) : List Char :=
  (pieces 0 bs).map fun
    | .char c _ => c
    | .broken .. => '\ufffd'

structure Broken where
  fault : Fault
  position : Nat
  first : UInt8
  more : Nat
  deriving DecidableEq, Repr

def characters (position : Nat) : List Piece → Except Broken (List Char)
  | [] => .ok []
  | .char c more :: ps => do return c :: (← characters (position + more + 1) ps)
  | .broken fault first more :: _ => .error { fault, position, first, more }

def decode (bs : Bytes) : Except Broken (List Char) := characters 0 (pieces 0 bs)

def Fault.message : Fault → String
  | .badStart => "invalid start byte"
  | .badContinuation => "invalid continuation byte"
  | .cutOff => "unexpected end of data"

def Broken.message (b : Broken) : String :=
  let bytes :=
    if b.more = 0 then
      "byte 0x" ++ .ofList (hexDigits 2 b.first.toNat) ++ s!" in position {b.position}"
    else s!"bytes in position {b.position}-{b.position + b.more}"
  s!"'utf-8' codec can't decode {bytes}: {b.fault.message}"

@[simp] theorem encode_nil : encode [] = [] := rfl

@[simp] theorem encode_cons (c : Char) (cs : List Char) :
    encode (c :: cs) = String.utf8EncodeChar c ++ encode cs := rfl

@[simp] theorem decode_nil : decode [] = .ok [] := rfl

end RightsStore.Text.Utf8
