import Blocklist.Log.Json
import Blocklist.Request.Basic
import Blocklist.Text.Utf8
/-!
# Logs — recorded requests

A log has one request to a line, as a JSON object or as an array of its five
fields. Blank lines are passed over, and the first line that holds no record
fails the whole.
-/

namespace Blocklist

/-- A recorded request. -/
structure LogRecord where
  /-- The number of the site. -/
  domainId : UInt64
  /-- The number of the page. -/
  pageId : UInt64
  /-- The address of the frame that asks. -/
  frameUrl : String
  /-- The address that is asked for. -/
  url : String
  /-- The name of the type of the resource. -/
  kind : String
  deriving DecidableEq, Repr

/-- Why a log cannot be read. -/
inductive LogError where
  /-- A line that is no record, by its number from one. -/
  | badRecord (line : Nat)
  /-- A line that is no text. -/
  | notText
  deriving DecidableEq, Repr

namespace LogRecord

/-- The request that was recorded. -/
def request (r : LogRecord) : Request :=
  .ofPage r.url r.frameUrl (.ofList [RequestType.ofName r.kind])

/-- A record from the values of its fields; the two numbers may be absent. -/
def ofFields? (domainId pageId frameUrl url kind : Option JsonValue) : Option LogRecord := do
  let number : Option JsonValue → Option UInt64
    | none => some 0
    | some value => value.natural?
  return {
    domainId := ← number domainId
    pageId := ← number pageId
    frameUrl := ← frameUrl.bind JsonValue.text?
    url := ← url.bind JsonValue.text?
    kind := ← kind.bind JsonValue.text? }

/-- The names of the fields. -/
def fieldNames : List String := ["domainId", "pageId", "frameUrl", "url", "cpt"]

/-- A record from the members of an object. Other names are passed over, but no field may come
twice. -/
def ofMembers? (members : List (String × JsonValue)) : Option LogRecord :=
  let names := members.map Prod.fst
  if fieldNames.any fun name => 1 < names.count name then none
  else
    ofFields? (members.lookup "domainId") (members.lookup "pageId") (members.lookup "frameUrl")
      (members.lookup "url") (members.lookup "cpt")

/-- A record from a value. -/
def ofJson? : JsonValue → Option LogRecord
  | .object members => do
    ofMembers? (← members.mapM fun member => do
      return (← (JsonValue.string member.1).text?, member.2))
  | .array [domainId, pageId, frameUrl, url, kind] =>
    ofFields? (some domainId) (some pageId) (some frameUrl) (some url) (some kind)
  | _ => none

/-- What a line holds: a record, or nothing where it is blank. -/
def ofLine (number : Nat) (line : List UInt8) : Except LogError (Option LogRecord) :=
  match Text.ofUtf8? line with
  | none => .error .notText
  | some text =>
    let text := Text.trim text.toList
    if text.isEmpty then .ok none
    else
      match (JsonValue.ofText? text).bind ofJson? with
      | some record => .ok (some record)
      | none => .error (.badRecord number)

/-- The records of a log, in order. -/
def listOfBytes (log : List UInt8) : Except LogError (List LogRecord) := do
  let lines := (log.splitOn 0x0A).zipIdx 1
  let records ← lines.mapM fun (line, number) => ofLine number line
  return records.filterMap fun record => record

end LogRecord

/-- The wording of an error. -/
def LogError.message : LogError → String
  | badRecord line => "Invalid record on line " ++ toString line
  | notText => "I/O error: stream did not contain valid UTF-8"

end Blocklist
