import FormAutomation.Compression.Envelope
import FormAutomation.Text.Blank
import FormAutomation.Text.Case
import FormAutomation.Text.Split

/-!
# Content codings

The content of a response may be compressed on its way.  A header says how, in
the order in which that was done, so that it is undone in reverse order.  Codings
that are not known are passed over.
-/

namespace FormAutomation.Network

/-- How a content is coded. -/
inductive ContentCoding where
  /-- not at all -/
  | identity
  /-- as a compressed file -/
  | file
  /-- compressed, in the short envelope -/
  | compressed
  deriving DecidableEq

namespace ContentCoding

open Text

/-- The coding of a name. -/
def ofName? (name : String) : Option ContentCoding :=
  match name with
  | "identity" => some .identity
  | "gzip" => some .file
  | "deflate" => some .compressed
  | _ => none

/-- The codings that a header names, in order. -/
def ofHeader (header : String) : List ContentCoding :=
  (splitOn ',' header.toList).filterMap fun name =>
    ofName? (lower (trim (String.ofList name)))

/-- A content without one coding.  Compressed data may come without its
envelope. -/
def undo (coding : ContentCoding) (content : List UInt8) :
    Except Compression.Fault (List UInt8) :=
  match coding with
  | .identity => .ok content
  | .file => Compression.openFile content
  | .compressed =>
    match Compression.openShort content with
    | .ok bytes => .ok bytes
    | .error _ => Compression.inflate content

/-- A content without its codings. -/
def undoAll (codings : List ContentCoding) (content : List UInt8) :
    Except Compression.Fault (List UInt8) :=
  codings.foldrM undo content

end ContentCoding

end FormAutomation.Network
