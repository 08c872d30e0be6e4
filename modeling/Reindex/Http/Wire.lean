import Reindex.Http.Message
import Reindex.Text.Basic

/-!
# Messages as bytes

A request is written in the form of HTTP/1.1 and asks the server to close the connection afterwards,
so the reply is made of all the bytes that come back.
-/

namespace Reindex.Http

/-- A header line. -/
def headerLine (name value : String) : String := name ++ ": " ++ value ++ "\r\n"

/-- The bytes of a request. -/
def Request.wire (r : Request) : Bytes :=
  utf8 (r.method.name ++ " " ++ r.url.target ++ " HTTP/1.1\r\n" ++
    headerLine "host" r.url.authority ++ headerLine "accept" "*/*" ++
    (r.contentType.map (headerLine "content-type")).getD "" ++
    headerLine "content-length" (toString r.body.length) ++
    headerLine "connection" "close" ++ "\r\n") ++ r.body

/-- The lines up to the first empty one, and the bytes after it.  `line` holds the bytes of the line
that is being read, latest first. -/
def headLines? (line : Bytes) : Bytes → Option (List Bytes × Bytes)
  | [] => none
  | b :: rest =>
    if b = 0x0A then
      let whole := (line.dropWhile (· == 0x0D)).reverse
      if whole.isEmpty then some ([], rest)
      else (headLines? [] rest).map fun (lines, body) => (whole :: lines, body)
    else headLines? (b :: line) rest

/-- The text without blanks at either end. -/
def stripped (cs : List Char) : String :=
  String.ofList (Text.dropBlankEnd (cs.dropWhile Text.isBlank))

/-- The name, in lower case, and the value of a header line. -/
def header (line : Bytes) : String × String :=
  let cs := (Utf8.decodeLossy line).toList
  (stripped ((cs.takeWhile (· != ':')).map Char.toLower),
    stripped ((cs.dropWhile (· != ':')).drop 1))

/-- The status of a status line. -/
def status? (line : Bytes) : Option Status :=
  match (Utf8.decodeLossy line).splitOn " " with
  | _ :: code :: _ => (Text.decimal? code.toList).map .mk
  | _ => none

/-- The size of a chunk, before anything else on its line. -/
def chunkSize? (cs : List Char) : Option Nat :=
  match cs.takeWhile fun c => (Text.hexValue? c).isSome with
  | [] => none
  | digits => Text.numeral? 16 digits

/-- The content of a body sent in chunks, and whether its end was reached.  `bound` is at least the
number of chunks. -/
def chunks : (bound : Nat) → Bytes → Bytes × Bool
  | 0, _ => ([], false)
  | bound + 1, bytes =>
    let line := bytes.takeWhile (· != 0x0A)
    match chunkSize? (Utf8.decodeLossy line).toList with
    | none => ([], false)
    | some 0 => ([], true)
    | some size =>
      let content := (bytes.drop (line.length + 1)).take size
      if content.length < size then (content, false)
      else
        let (more, complete) := chunks bound (bytes.drop (line.length + 1 + size + 2))
        (content ++ more, complete)

/-- The body that follows a head with the given headers, and whether it is complete. -/
def body (headers : List (String × String)) (bytes : Bytes) : Bytes × Bool :=
  if headers.lookup "transfer-encoding" = some "chunked" then chunks bytes.length bytes
  else match (headers.lookup "content-length").bind fun n => Text.decimal? n.toList with
    | some n => (bytes.take n, n ≤ bytes.length)
    | none => (bytes, true)

/-- The reply that some bytes are. -/
def Reply.ofBytes (bytes : Bytes) : Reply :=
  match headLines? [] bytes with
  | some (first :: lines, rest) =>
    match status? first with
    | some status =>
      let (content, complete) := body (lines.map header) rest
      .answered status content complete
    | none => .dropped
  | _ => .dropped

end Reindex.Http
