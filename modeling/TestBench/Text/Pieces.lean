import TestBench.Double.Basic
import TestBench.Text.Utf8

/-! Reading the text of a file piece by piece. Its bytes are decoded in blocks, no sooner than their
characters are asked for, and every line comes to end in a single line feed. A place in a block
counts from the bytes that an unfinished sequence left over from the block before. -/
namespace TestBench.Text

/-- A text in which every line ends in a single line feed. -/
def withLineFeeds : List Char → List Char
  | [] => []
  | '\r' :: '\n' :: cs => '\n' :: withLineFeeds cs
  | '\r' :: cs => '\n' :: withLineFeeds cs
  | c :: cs => c :: withLineFeeds cs

/-- A file that is being read: the bytes to come, those of an unfinished sequence, whether a
carriage return waits for what stands behind it, the characters that are ready, and the numbers of
bytes and of characters in the last block. -/
structure Reading where
  bytes : List UInt8
  unfinished : List UInt8
  holdsReturn : Bool
  ready : List Char
  blockBytes : Nat
  blockChars : Nat

namespace Reading

def start (bytes : List UInt8) : Reading := ⟨bytes, [], false, [], 0, 0⟩

/-- How many bytes a character of the last block took, or one if it took less. -/
def density (r : Reading) : Double :=
  if r.blockChars < r.blockBytes ∧ 0 < r.blockChars then
    Double.ofRatio false r.blockBytes r.blockChars
  else Double.ofInt 1

/-- The number of bytes in a block that is to give some characters. No block is smaller than 8192
bytes. -/
def blockSize (r : Reading) (wanted : Nat) : Nat :=
  max 8192 (r.density.mul (Double.ofInt wanted)).wholePart

/-- The characters of a block with the carriage return before it, without one at its end that must
wait. -/
def joined (r : Reading) (isLast : Bool) (cs : List Char) : List Char × Bool :=
  let waits := r.holdsReturn && !isLast && cs.isEmpty
  let cs := if r.holdsReturn && !waits then '\r' :: cs else cs
  if !isLast && cs.getLast? == some '\r' then (cs.dropLast, true) else (cs, waits)

/-- Decode one block more. At the end of the bytes nothing may be unfinished. -/
def refill (wanted : Nat) (r : Reading) : Except Utf8.Malformed Reading := do
  let size := r.blockSize wanted
  let block := r.bytes.take size
  let (cs, unfinished) ← Utf8.readBlock 0 0 (r.unfinished ++ block)
  if block.isEmpty then Utf8.finished unfinished
  let (cs, holdsReturn) := r.joined block.isEmpty cs
  let ready := withLineFeeds cs
  return ⟨r.bytes.drop size, unfinished, holdsReturn, ready, block.length, ready.length⟩

/-- Take a number of characters, with at most `fuel` blocks more. Fewer come at the end only. -/
def take : Nat → Nat → Reading → Except Utf8.Malformed (List Char × Reading)
  | fuel, wanted, r => do
    let cs := r.ready.take wanted
    let r := { r with ready := r.ready.drop wanted }
    match fuel with
    | 0 => return (cs, r)
    | fuel + 1 =>
      if cs.length = wanted then return (cs, r)
      else
        let next ← r.refill (wanted - cs.length)
        if next.blockBytes = 0 ∧ next.blockChars = 0 then return (cs, next)
        else
          let (more, last) ← take fuel (wanted - cs.length) next
          return (cs ++ more, last)

end Reading

/-- The text of a file in pieces, up to what cannot be decoded if there is such a thing. -/
structure Pieces where
  pieces : List (List Char)
  fault : Option Utf8.Malformed

namespace Pieces

/-- Read at most `fuel` pieces of a size. -/
def read (size : Nat) : Nat → Reading → Pieces
  | 0, _ => ⟨[], none⟩
  | fuel + 1, r =>
    match r.take (r.bytes.length + 2) size with
    | .error m => ⟨[], some m⟩
    | .ok ([], _) => ⟨[], none⟩
    | .ok (piece, r) =>
      let rest := read size fuel r
      ⟨piece :: rest.pieces, rest.fault⟩

/-- The pieces of a size that the bytes of a file give. No piece but the last is smaller. -/
def ofBytes (size : Nat) (bytes : List UInt8) : Pieces :=
  read size (bytes.length + 1) (.start bytes)

end Pieces
end TestBench.Text
