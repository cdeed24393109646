/-! Reading UTF-8. A well-formed sequence has one to four bytes; overlong forms and surrogates are
refused. What is wrong is told with the place and the reason. A text may be read in blocks; a block
may end within a sequence, and the text may not. -/
namespace TestBench.Text.Utf8

inductive Reason
  | invalidStart
  | invalidContinuation
  | unexpectedEnd
  deriving DecidableEq, Repr

/-- Bytes that cannot be read: the first of them, its place, their number, and why. -/
structure Malformed where
  byte : UInt8
  position : Nat
  count : Nat
  reason : Reason
  deriving DecidableEq, Repr

inductive Head
  | char (c : Char) (length : Nat)
  | unfinished
  | bad (count : Nat) (reason : Reason)

def isContinuation (b : UInt8) : Bool := 0x80 ≤ b && b < 0xC0

/-- The six bits that a continuation byte carries. -/
def payload (b : UInt8) : Nat := b.toNat % 64

/-- Can this byte come second after that first one? It must not make the form overlong, a
surrogate or too great. -/
def isSecond (first second : UInt8) : Bool :=
  isContinuation second &&
    (first != 0xE0 || 0xA0 ≤ second) && (first != 0xED || second < 0xA0) &&
    (first != 0xF0 || 0x90 ≤ second) && (first != 0xF4 || second < 0x90)

/-- Is this the beginning of a surrogate, with its last byte still to come? A block may end so. -/
def isCutSurrogate : List UInt8 → Bool
  | [first, second] => first == 0xED && isContinuation second && 0xA0 ≤ second
  | _ => false

def head (first : UInt8) (rest : List UInt8) : Head :=
  if first < 0x80 then .char (Char.ofNat first.toNat) 1
  else if first < 0xC2 || 0xF5 ≤ first then .bad 1 .invalidStart
  else
    match rest with
    | [] => .unfinished
    | b :: rest =>
      if isCutSurrogate (first :: b :: rest) then .unfinished
      else if !isSecond first b then .bad 1 .invalidContinuation
      else if first < 0xE0 then .char (Char.ofNat (first.toNat % 32 * 64 + payload b)) 2
      else
        match rest with
        | [] => .unfinished
        | c :: rest =>
          if !isContinuation c then .bad 2 .invalidContinuation
          else if first < 0xF0 then
            .char (Char.ofNat ((first.toNat % 16 * 64 + payload b) * 64 + payload c)) 3
          else
            match rest with
            | [] => .unfinished
            | d :: _ =>
              if !isContinuation d then .bad 3 .invalidContinuation
              else .char (Char.ofNat
                (((first.toNat % 8 * 64 + payload b) * 64 + payload c) * 64 + payload d)) 4

/-- Read a block from a place on, of which the first `skipped` bytes are read already. The answer
is the characters and the bytes of an unfinished sequence at the end. -/
def readBlock : Nat → Nat → List UInt8 → Except Malformed (List Char × List UInt8)
  | _, _, [] => .ok ([], [])
  | skipped + 1, position, _ :: bs => readBlock skipped (position + 1) bs
  | 0, position, b :: bs =>
    match head b bs with
    | .char c length => (readBlock (length - 1) (position + 1) bs).map fun r => (c :: r.1, r.2)
    | .unfinished => .ok ([], b :: bs)
    | .bad count reason => .error ⟨b, position, count, reason⟩

/-- The bytes that a text ends with must not be those of an unfinished sequence. -/
def finished : List UInt8 → Except Malformed Unit
  | [] => .ok ()
  | b :: bs =>
    if isCutSurrogate (b :: bs) then .error ⟨b, 0, 1, .invalidContinuation⟩
    else .error ⟨b, 0, bs.length + 1, .unexpectedEnd⟩

def decode (bs : List UInt8) : Except Malformed (List Char) := do
  let (cs, unfinished) ← readBlock 0 0 bs
  finished unfinished
  return cs

def Reason.message : Reason → String
  | .invalidStart => "invalid start byte"
  | .invalidContinuation => "invalid continuation byte"
  | .unexpectedEnd => "unexpected end of data"

def byteText (b : UInt8) : String :=
  String.ofList [Nat.digitChar (b.toNat / 16), Nat.digitChar (b.toNat % 16)]

/-- What is wrong, in words. A single byte is named, and several are told by their places. -/
def Malformed.message (m : Malformed) : String :=
  "'utf-8' codec can't decode " ++
    (if m.count = 1 then "byte 0x" ++ byteText m.byte ++ " in position " ++ toString m.position
      else "bytes in position " ++ toString m.position ++ "-"
        ++ toString (m.position + m.count - 1)) ++ ": " ++ m.reason.message

end TestBench.Text.Utf8
