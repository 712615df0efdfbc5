import CloudClient.Request
import CloudClient.Response

/-!
# Transcripts

A client can write down every request it sends and every answer it gets. The text is that of HTTP,
but for the credentials: whatever a request has as its authorization, the transcript has `REDACTED`.

A `Transcript` is what has been written so far. It may have room for so many bytes only; what does
not fit is dropped, and the client does not notice.
-/

namespace CloudClient

/-- What a client has written down. -/
structure Transcript where
  /-- the bytes that were written -/
  written : Bytes
  /-- how many more bytes there is room for; without a number, for any -/
  room : Option Nat
  deriving DecidableEq

namespace Transcript

/-- An empty transcript. -/
def empty (room : Option Nat) : Transcript := ⟨[], room⟩

/-- Writes as many of the bytes as there is room for. -/
def write (bytes : Bytes) (t : Transcript) : Transcript :=
  match t.room with
  | none => { t with written := t.written ++ bytes }
  | some room => ⟨t.written ++ bytes.take room, some (room - bytes.length)⟩

/-! ## Entries -/

/-- The end of a line. -/
def lineEnd : String := "\r\n"

/-- The name of the field that holds the credentials. -/
def credentials : Http.HeaderName := "authorization"

/-- The header fields with the credentials taken out. -/
def redacted (h : Http.Headers) : Http.Headers :=
  if h.contains credentials then h.insert credentials (textBytes "REDACTED") else h

/-- Header fields, one in a line. -/
def headerLines (h : Http.Headers) : String :=
  String.join (h.toList.map fun f => f.1 ++ ": " ++ lossyText f.2 ++ lineEnd)

/-- The text of a request. -/
def requestText (r : Request) : String :=
  r.method ++ " " ++ r.url.target ++ " HTTP/1.1" ++ lineEnd ++
    ((r.url.hostText?.map fun host => "Host: " ++ host ++ lineEnd).getD "") ++
    headerLines (redacted r.headers) ++ lineEnd ++
    ((r.body.map lossyText).getD "")

/-- The text of an answer. -/
def responseText (r : Response) : String :=
  "HTTP/1.1 " ++ r.status.text ++ lineEnd ++ headerLines r.headers ++ lineEnd ++ r.text

/-- An entry with its title. -/
def entry (title text : String) : Bytes := textBytes ("--- " ++ title ++ ":\n" ++ text ++ "\n\n")

/-- The entry of a request. -/
def requestEntry (r : Request) : Bytes := entry "Request" (requestText r)

/-- The entry of an answer. -/
def responseEntry (r : Response) : Bytes := entry "Response" (responseText r)

end Transcript

end CloudClient
