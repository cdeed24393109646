import TestBench.Fault.Basic
import TestBench.Text.Pieces

/-! The text of a YAML file, as far as it can be read. It is read in pieces, each of which must hold
allowed characters only; behind the first that cannot be had stands a fault. A document that ends
before that piece is asked for never meets it. -/
namespace TestBench.Yaml

/-- Why a text is no document, or not one that can be made into a value. The last cause is a fault
of a value that a scalar is taken for. -/
inductive Fault
  | undecodable (m : Text.Utf8.Malformed)
  | character
  | token
  | grammar
  | reference
  | content
  | value (f : TestBench.Fault)

def Fault.kind : Fault → String
  | .undecodable _ => "UnicodeDecodeError"
  | .character => "ReaderError"
  | .token => "ScannerError"
  | .grammar => "ParserError"
  | .reference => "ComposerError"
  | .content => "ConstructorError"
  | .value f => f.kind

def isAllowed (c : Char) : Bool :=
  c == '\t' || c == '\n' || c == '\r' || (' ' ≤ c && c ≤ '~') || c == '\x85' ||
    ('\xa0' ≤ c && c ≤ '\uFFFD') || 0x10000 ≤ c.toNat

/-- A text as far as it can be read, and the fault behind that if it does not end there. -/
structure Source where
  text : List Char
  beyond : Option Fault

namespace Source

/-- A text from its pieces, up to the first with a character that is not allowed. -/
def join (fault : Option Fault) : List (List Char) → Source
  | [] => ⟨[], fault⟩
  | piece :: pieces =>
    if piece.all isAllowed then
      let rest := join fault pieces
      ⟨piece ++ rest.text, rest.beyond⟩
    else ⟨[], some .character⟩

/-- The text of a file that is read in pieces. The first two are read at once. -/
def ofPieces (p : Text.Pieces) : Source :=
  let fault := p.fault.map .undecodable
  match p.pieces with
  | first :: second :: more => join fault ((first ++ second) :: more)
  | pieces => if fault.isSome then ⟨[], fault⟩ else join none pieces

def ofBytes (bytes : List UInt8) : Source := ofPieces (.ofBytes 4096 bytes)

end Source
end TestBench.Yaml
