import WebServer.Http.Failure
import WebServer.Http.Headers
import WebServer.Text.Utf8

/-!
# Multipart bodies

A body is a sequence of parts behind delimiters `--boundary`. Behind each delimiter stand CRLF and
a part, behind the last one `--`. A part is a header block, an empty line, and a content that runs
to the next CRLF and delimiter.
-/
namespace WebServer.Http

def crlf : Bytes := [13, 10]

/-- The end of a header block: a line end and an empty line. -/
def crlfcrlf : Bytes := [13, 10, 13, 10]

/-- The parameter `key` of a field value such as `form-data; name="x"`: the text behind its first
`=`, without blanks and quotes around it. -/
def parameter? (value : String) (key : String) : Option String :=
  ((value.toList.splitOn ';').drop 1).findSome? fun item =>
    match Text.cutOnce? '=' item with
    | none => none
    | some (name, text) =>
      if Text.sameIgnoringCase (String.ofList (Text.trim name)) key then
        some (String.ofList (Text.trimBy (· == '"') (Text.trim text)))
      else none

namespace Multipart

/-- One part of a body. -/
structure Part where
  headers : Headers
  content : Bytes
  deriving DecidableEq, Repr

def Part.fileName? (part : Part) : Option String :=
  (part.headers.get? "content-disposition").bind (parameter? · "filename")

/-- The contents of all parts of that name, in their order. -/
def contents (parts : List (String × Part)) (name : String) : List Bytes :=
  (parts.filter (·.1 == name)).map (·.2.content)

/-- The boundary that a content type announces, if it is a multipart type with one. -/
def boundary? (contentType : String) : Option String :=
  let mediaType := Text.trim ((contentType.toList.splitOn ';').headD [])
  if Text.sameIgnoringCase (String.ofList (mediaType.take 10)) "multipart/" then
    (parameter? contentType "boundary").filter (· != "")
  else none

/-- The lines of a text that separates them by CRLF. -/
def lines (text : List Char) : List (List Char) :=
  go [] [] text
where
  go (done : List (List Char)) (line : List Char) : List Char → List (List Char)
    | [] => (line.reverse :: done).reverse
    | '\r' :: '\n' :: rest => go (line.reverse :: done) [] rest
    | c :: rest => go done (c :: line) rest

def readField (line : List Char) : Except MultipartFault (String × String) :=
  match Text.cutOnce? ':' line with
  | none => .error (.badHeader (String.ofList line))
  | some (name, value) =>
    .ok (String.ofList (Text.trim name), String.ofList (Text.trim value))

def readHeaders (block : Bytes) : Except MultipartFault Headers :=
  match Text.decode? block with
  | none => .error .headersNotUtf8
  | some text => (lines text.toList).mapM readField |>.map fun fields => ⟨fields⟩

/-- The parts behind a delimiter, with the names that their dispositions give. `separator` is
CRLF and the delimiter. -/
def readParts (separator : Bytes) (done : List (String × Part)) (rest : Bytes) :
    Except MultipartFault (List (String × Part)) :=
  if [45, 45].isPrefixOf rest then .ok done.reverse
  else match rest with
    | 13 :: 10 :: rest =>
      match _hHead : Bytes.cut? crlfcrlf rest with
      | none => .error .unterminatedHeaders
      | some (block, afterHead) =>
        match readHeaders block with
        | .error fault => .error fault
        | .ok headers =>
          match _hBody : Bytes.cut? separator afterHead with
          | none => .error .unterminatedPart
          | some (content, afterBody) =>
            match (headers.get? "content-disposition").bind (parameter? · "name") with
            | none => .error .unnamedPart
            | some name => readParts separator ((name, ⟨headers, content⟩) :: done) afterBody
    | _ => .error .noLineEnd
termination_by rest.length
decreasing_by
  have h1 := Bytes.cut?_length _hHead
  have h2 := Bytes.cut?_length _hBody
  simp only [List.length_cons]
  omega

/-- Splits a body at its boundary. What stands before the first delimiter and behind the closing
one is ignored. -/
def read (body : Bytes) (boundary : String) : Except MultipartFault (List (String × Part)) :=
  let delimiter := Text.encode ("--" ++ boundary)
  match Bytes.cut? delimiter body with
  | none => .error .noBoundary
  | some (_, rest) => readParts (crlf ++ delimiter) [] rest

end Multipart
end WebServer.Http
