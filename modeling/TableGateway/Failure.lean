import TableGateway.Check.Issue
import TableGateway.Value.Text

/-!
Everything that can go wrong, by cause, with the message and the details of the failures that the
gateway reports in words of its own. The remaining causes are misuse by the caller; where such a cause
has a message, `message` gives it too.
-/

namespace TableGateway

open TableGateway.Text

inductive Failure where
  /-- A filter key with an empty part or with more than one separator. -/
  | filterKey (key separator : Value)
  /-- An identifier that is no JSON array with one value for each field of a compound key. -/
  | identifier (given : Value) (key : List Value)
  /-- No query can address what was asked for. -/
  | unsupported (resource reason : Value)
  | missingHeader (header : Value)
  | malformedHeader (header value : Value)
  /-- The service answered with a status outside 200 to 299. A void address is not shown. -/
  | http (status body url : Value)
  /-- A failure with no more than its arguments. -/
  | other (arguments : List Value)
  /-- Parameters or settings that do not pass their checks. -/
  | refused (issues : List Check.Issue)
  | noClient
  /-- A value that names no member of a fixed set. -/
  | unknownMember (value : Value) (set : String)
  /-- A primary key without fields. -/
  | emptyKeyOf (resource : Value)
  | emptySeparator
  | integerTooLong
  /-- Collections lie too deep inside each other, in a JSON text or in a value that is to be written. -/
  | tooDeep
  /-- A lone surrogate in a text that is to be sent. -/
  | loneSurrogate
  /-- A sequence read as pairs that holds something of another length. -/
  | notPairs
  | notSerialisable
  /-- A value that cannot be gone through, looked into or taken as a record. -/
  | notCollection
  /-- A list, a set or a map as the name of an entry. -/
  | notName
  /-- A value without fields where fields are looked up. -/
  | notMap
  /-- The first field of a primary key without fields. -/
  | noKeyField
  | unknownResource (resource : String)

namespace Failure

/-- What the transport asks for when there is no client. -/
def clientHint : String :=
  "httpx is required for HttpxClient. Install with: pip install 'postgrest-data-provider[http]'"

/-- The message in the body of an error answer: a non-void field `message` of a map, a view apart. -/
def bodyMessage? (body : Value) : Option Value :=
  match body with
  | .view _ => none
  | body => (body.fields?.bind (·.get? "message")).filter (!·.isVoid)

/-- The message of a failure; empty for misuse that needs none. -/
def message : Failure → String
  | .filterKey key separator =>
    "Invalid filter key " ++ key.literal ++ ": expected 'field' or 'field" ++ separator.display
      ++ "operator' with non-empty parts. Field names must not contain " ++ separator.literal ++ "."
  | .identifier given key =>
    "Identifier " ++ given.literal ++ " is not a JSON array of " ++ toString key.length
      ++ " values for compound key " ++ (Value.list key).literal
  | .unsupported resource reason =>
    "Unsupported query on " ++ resource.literal ++ ": " ++ reason.display
  | .missingHeader header =>
    "The " ++ header.display ++ " header is missing in the HTTP response. "
      ++ "The data provider expects responses for lists of resources to "
      ++ "contain this header with the total number of results to build "
      ++ "the pagination. If you are using CORS, did you declare " ++ header.display
      ++ " in the Access-Control-Expose-Headers header?"
  | .malformedHeader header value =>
    "Cannot read a total from " ++ header.display ++ ": " ++ value.literal
      ++ ". Was the request sent with 'Prefer: count=exact'?"
  | .http status body url =>
    "HTTP " ++ status.display
      ++ (if url.isVoid then "" else " from " ++ url.display)
      ++ (match bodyMessage? body with
          | some m => ": " ++ m.display
          | none => "")
  | .other arguments =>
    match arguments with
    | [] => ""
    | [one] => one.display
    | all => (Value.tuple all).literal
  | .noClient => clientHint
  | .unknownMember value set => value.literal ++ " is not a valid " ++ set
  | .emptyKeyOf resource => "Primary key of " ++ resource.literal ++ " must not be empty"
  | _ => ""

/-- The failures that the gateway reports in words of its own, with what is reported about them. -/
def details? (failure : Failure) : Option (Fields Value) :=
  match failure with
  | .filterKey key separator =>
    some [("error", .text "INVALID_FILTER_KEY"), ("key", key), ("separator", separator)]
  | .identifier given key =>
    some [("error", .text "MALFORMED_IDENTIFIER"), ("identifier", .text given.display),
      ("primary_key", .list key)]
  | .unsupported resource reason =>
    some [("error", .text "UNSUPPORTED_QUERY"), ("resource", resource), ("reason", reason)]
  | .missingHeader header =>
    some [("error", .text "MISSING_HEADER"), ("header", header),
      ("message", .text failure.message)]
  | .malformedHeader header value =>
    some [("error", .text "MALFORMED_HEADER"), ("header", header), ("value", value)]
  | .http status body _ =>
    some [("error", .text "HTTP_ERROR"), ("status", status), ("body", body)]
  | .other _ =>
    some [("error", .text "PostgrestProviderError"), ("message", .text failure.message)]
  | _ => none

def isValueFailure : Failure → Bool
  | .filterKey _ _ => true
  | .identifier _ _ => true
  | .unknownMember _ _ => true
  | .emptyKeyOf _ => true
  | .emptySeparator => true
  | .integerTooLong => true
  | .loneSurrogate => true
  | .notPairs => true
  | _ => false

end Failure

/-- Goes on one level deeper, if there is room for it. -/
def deeper (depth : Nat) (go : Nat → Except Failure Unit) : Except Failure Unit :=
  match depth with
  | 0 => .error .tooDeep
  | depth + 1 => go depth

end TableGateway
