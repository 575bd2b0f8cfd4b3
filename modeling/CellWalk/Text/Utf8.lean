import CellWalk.Text.Hex

/-!
# UTF-8

Files hold bytes, programs are text. `Utf8.decode` reads the bytes of well-formed sequences and
otherwise tells where the first ill-formed one lies: a sequence is judged byte by byte against
the ranges that its first byte allows, so the report ends at the first byte that fits none.
`Utf8.encode` writes a text, `Utf8.encodeName` the name of a file.
-/

namespace CellWalk.Utf8
set_option autoImplicit false

/-- What is wrong with a sequence. -/
inductive Reason
  | startByte
  | continuationByte
  | endOfData
deriving DecidableEq, Repr

/-- An ill-formed sequence: its bytes are those from `start` up to, not including, `stop`. -/
structure Defect where
  reason : Reason
  start : Nat
  stop : Nat
  byte : UInt8
deriving DecidableEq, Repr

def Reason.message : Reason → String
  | .startByte => "invalid start byte"
  | .continuationByte => "invalid continuation byte"
  | .endOfData => "unexpected end of data"

def Defect.message (d : Defect) : String :=
  let place :=
    if d.stop = d.start + 1 then
      "byte 0x" ++ String.ofList (Hex.ofNat 2 d.byte.toNat) ++ s!" in position {d.start}"
    else s!"bytes in position {d.start}-{d.stop - 1}"
  "'utf-8' codec can't decode " ++ place ++ ": " ++ d.reason.message

/-- The payload of a first byte and the ranges of the bytes that must follow it. -/
def lead? (b : UInt8) : Option (Nat × List (UInt8 × UInt8)) :=
  let tail : UInt8 × UInt8 := (0x80, 0xBF)
  let n := b.toNat
  if b < 0x80 then some (n, [])
  else if b < 0xC2 then none
  else if b < 0xE0 then some (n - 0xC0, [tail])
  else if b = 0xE0 then some (n - 0xE0, [(0xA0, 0xBF), tail])
  else if b = 0xED then some (n - 0xE0, [(0x80, 0x9F), tail])
  else if b < 0xF0 then some (n - 0xE0, [tail, tail])
  else if b = 0xF0 then some (n - 0xF0, [(0x90, 0xBF), tail, tail])
  else if b < 0xF4 then some (n - 0xF0, [tail, tail, tail])
  else if b = 0xF4 then some (n - 0xF0, [(0x80, 0x8F), tail, tail])
  else none

/-- The rest of one sequence: its number, or how many bytes fitted before the failure. -/
def follow (n : Nat) (read : Nat) :
    List (UInt8 × UInt8) → List UInt8 → Except (Reason × Nat) Nat
  | [], _ => .ok n
  | _ :: _, [] => .error (.endOfData, read)
  | r :: rs, b :: bs =>
    if r.1 ≤ b ∧ b ≤ r.2 then follow (n * 64 + (b.toNat - 0x80)) (read + 1) rs bs
    else .error (.continuationByte, read)

/-- Reads the bytes from offset `start` on. -/
def decodeFrom (start : Nat) (bytes : List UInt8) : Except Defect Text :=
  match bytes with
  | [] => .ok []
  | b :: bs =>
    match lead? b with
    | none => .error ⟨.startByte, start, start + 1, b⟩
    | some (n, ranges) =>
      match follow n 1 ranges bs with
      | .error (reason, read) => .error ⟨reason, start, start + read, b⟩
      | .ok n =>
        match decodeFrom (start + 1 + ranges.length) (bs.drop ranges.length) with
        | .error d => .error d
        | .ok t => .ok (CodePoint.ofNat n :: t)
termination_by bytes.length
decreasing_by simp only [List.length_cons, List.length_drop]; omega

/-- The text that a file's bytes hold. -/
def decode (bytes : List UInt8) : Except Defect Text := decodeFrom 0 bytes

/-- The bytes of one code point. -/
def encodePoint (p : CodePoint) : List UInt8 :=
  let n := p.val
  let tail (shift : Nat) : UInt8 := UInt8.ofNat (0x80 + (n >>> shift) % 64)
  if n < 0x80 then [UInt8.ofNat n]
  else if n < 0x800 then [UInt8.ofNat (0xC0 + n / 64), tail 0]
  else if n < 0x10000 then [UInt8.ofNat (0xE0 + n / 4096), tail 6, tail 0]
  else [UInt8.ofNat (0xF0 + n / 262144), tail 12, tail 6, tail 0]

/-- The bytes that a text is written as. -/
def encode (t : Text) : List UInt8 := t.flatMap encodePoint

/-- Whether a half of a surrogate pair stands for a byte from 0x80 on in the name of a file. -/
def isEscapedByte (p : CodePoint) : Bool := 0xDC80 ≤ p.val && p.val ≤ 0xDCFF

/-- Halves of surrogate pairs in a name, for which there are no bytes: the first one and the offsets
at which they start and stop. -/
structure Unencodable where
  start : Nat
  stop : Nat
  first : CodePoint
deriving DecidableEq

def Unencodable.message (d : Unencodable) : String :=
  let place :=
    if d.stop = d.start + 1 then
      "character '\\u" ++ String.ofList (Hex.ofNat 4 d.first.val) ++ s!"' in position {d.start}"
    else s!"characters in position {d.start}-{d.stop - 1}"
  "'utf-8' codec can't encode " ++ place ++ ": surrogates not allowed"

/-- What is wrong with a name from offset `start` on. -/
def unencodableFrom? (start : Nat) : Text → Option Unencodable
  | [] => none
  | p :: t =>
    if p.isSurrogate && !isEscapedByte p then
      some ⟨start, start + 1 + (t.takeWhile CodePoint.isSurrogate).length, p⟩
    else unencodableFrom? (start + 1) t

/-- The bytes of a file's name, in which halves of surrogate pairs may stand for single bytes. -/
def encodeName (t : Text) : Except Unencodable (List UInt8) :=
  match unencodableFrom? 0 t with
  | some d => .error d
  | none =>
    .ok (t.flatMap fun p =>
      if isEscapedByte p then [UInt8.ofNat (p.val - 0xDC00)] else encodePoint p)

end CellWalk.Utf8
