import ForgeSync.Error.Basic
import ForgeSync.Json.Decode

/-!
# Errors as JSON

An error is reported as an object: the constructor's name, the class, the message, the HTTP
status (or `null`) and the data of its constructor (the failing fields, the wrapped error and
attempts of a retry wrapper, the resource and cause of a failed recreate).

The report leaves out text that comes from the environment rather than from the client: the
message of a network failure, and of any wrapper around a network or decoding failure; of a
decoding failure it keeps only the closing part that gives the status and size of the body,
since the rest is the parser's own wording.

An error can also be described by such an object, with missing texts empty and missing
numbers zero, except a `Validation` status text (`Bad Request`), an `Http` status (500) and a
retry wrapper's attempts (1).
-/

namespace ForgeSync

namespace ApiError

/-- The name of an error's constructor in reports. -/
def variantName : ApiError → String
  | .notFound _ => "NotFound"
  | .alreadyExists _ => "AlreadyExists"
  | .validation _ _ => "Validation"
  | .authFailed _ => "AuthFailed"
  | .http _ _ => "Http"
  | .invalidServerData _ => "InvalidServerData"
  | .invalidPermissionLevel _ => "InvalidPermissionLevel"
  | .unsupported _ _ => "NoProviderSupport"
  | .versionConflict _ _ _ => "VersionConflict"
  | .recreateFailed _ _ => "RecreateFailed"
  | .network _ => "Network"
  | .decode _ => "Decode"
  | .invalidRequest _ => "InvalidRequest"
  | .retriesExhausted _ _ => "RetriesExhausted"
  | .tooManyPages _ => "TooManyPages"
  | .cancelled => "Cancelled"
  | .deadlineExceeded => "DeadlineExceeded"

/-- The name of an error class in reports. -/
def kindName : ErrorKind → String
  | .notFound => "NotFound"
  | .alreadyExists => "AlreadyExists"
  | .validation => "Validation"
  | .authFailed => "AuthFailed"
  | .http => "Http"
  | .invalidServerData => "InvalidServerData"
  | .invalidPermissionLevel => "InvalidPermissionLevel"
  | .unsupported => "NoProviderSupport"
  | .versionConflict => "VersionConflict"
  | .recreateFailed => "RecreateFailed"
  | .network => "Network"
  | .decode => "Decode"
  | .invalidRequest => "InvalidRequest"
  | .tooManyPages => "TooManyPages"
  | .cancelled => "Cancelled"
  | .deadlineExceeded => "DeadlineExceeded"

/-- Whether a network or decoding failure lies anywhere down a chain of wrappers. -/
def hasEnvironmentText : ApiError → Bool
  | .network _ => true
  | .decode _ => true
  | .retriesExhausted _ e => e.hasEnvironmentText
  | .recreateFailed _ e => e.hasEnvironmentText
  | _ => false

/-- Whether a text is a decimal number. -/
def isDecimal (cs : List Char) : Bool := !cs.isEmpty && cs.all Char.isDigit

/-- Whether a text has the form `(status S, N bytes)`. -/
def isBodySummary (cs : List Char) : Bool :=
  match cs.splitOn ' ' with
  | [a, s, n, b] =>
    a == "(status".toList && b == "bytes)".toList && isDecimal n &&
      (match s.reverse with
       | ',' :: ds => isDecimal ds.reverse
       | _ => false)
  | _ => false

/-- The closing `(status S, N bytes)` of a decoding failure's message, if it has one. -/
def bodySummary? (m : String) : Option String :=
  let cs := m.toList
  let starts := (List.range cs.length).filter (fun i => cs[i]? == some '(')
  match starts.reverse.find? (fun i => isBodySummary (cs.drop i)) with
  | some i => some (String.ofList (cs.drop i))
  | none => none

/-- The message as reports give it, if they give one. -/
def reportedMessage (e : ApiError) : Option String :=
  match e with
  | .network _ => none
  | .decode m => bodySummary? m
  | .retriesExhausted _ _ => if e.hasEnvironmentText then none else some e.message
  | .recreateFailed _ _ => if e.hasEnvironmentText then none else some e.message
  | _ => some e.message

/-- The report of an error. -/
def toJson (e : ApiError) : Json :=
  let base : List (String × Json) :=
    [("error", .str e.variantName), ("kind", .str (kindName e.kind)),
     ("status", Json.optNat e.status)] ++
    (match e.reportedMessage with
     | some m => [("message", .str m)]
     | none => [])
  .obj (base ++ match e with
    | .invalidServerData fs =>
      [("fields", .arr (fs.map (fun f => .arr [.str f.field, .str f.reason])))]
    | .retriesExhausted n last => [("attempts", .nat n), ("source", last.toJson)]
    | .recreateFailed r cause => [("resource", .str r), ("source", cause.toJson)]
    | _ => [])

/-- A text member of a description, empty when missing. -/
def textOr (j : Json) (key : String) (d : String := "") : Option String :=
  match j.get? key with
  | none => some d
  | some v => v.asStr?

/-- A number member of a description, zero when missing. -/
def natOr (j : Json) (key : String) (d : Nat := 0) : Option Nat :=
  match j.get? key with
  | none => some d
  | some v => v.asNat?

/-- Read a field error written as a pair. -/
def readFieldError (j : Json) : Option FieldError :=
  match j with
  | .arr [.str f, .str r] => some ⟨f, r⟩
  | _ => none

/-- Read an error from its description; at most `fuel` wrappers deep. -/
def ofJsonFuel : Nat → Json → Option ApiError
  | 0, _ => none
  | fuel + 1, j => do
    let v ← (j.get? "error").bind Json.asStr?
    match v with
    | "NotFound" => (textOr j "message").map .notFound
    | "AlreadyExists" => (textOr j "message").map .alreadyExists
    | "Validation" => return .validation (← textOr j "status_text" "Bad Request") (← textOr j "message")
    | "AuthFailed" => (textOr j "message").map .authFailed
    | "Http" =>
      let s ← natOr j "status" 500
      if s < 65536 then return .http s (← textOr j "body") else none
    | "InvalidServerData" =>
      match j.get? "fields" with
      | none => some (.invalidServerData [])
      | some fs => return .invalidServerData (← (← fs.asArr?).mapM readFieldError)
    | "InvalidPermissionLevel" => (textOr j "message").map .invalidPermissionLevel
    | "NoProviderSupport" =>
      let p ← textOr j "provider"
      if p == "stash" || p == "github" || p == "memory" then
        return .unsupported p (← textOr j "capability")
      else none
    | "VersionConflict" =>
      return .versionConflict (← textOr j "resource") (← natOr j "sent") (← textOr j "message")
    | "RecreateFailed" =>
      return .recreateFailed (← textOr j "resource") (← ofJsonFuel fuel (← j.get? "source"))
    | "Network" => (textOr j "message").map .network
    | "Decode" => (textOr j "message").map .decode
    | "InvalidRequest" => (textOr j "message").map .invalidRequest
    | "RetriesExhausted" =>
      return .retriesExhausted (← natOr j "attempts" 1) (← ofJsonFuel fuel (← j.get? "source"))
    | "TooManyPages" => (natOr j "pages").map .tooManyPages
    | "Cancelled" => some .cancelled
    | "DeadlineExceeded" => some .deadlineExceeded
    | _ => none

/-- Read an error from its description. -/
def ofJson? (j : Json) : Option ApiError :=
  ofJsonFuel 64 j

end ApiError

end ForgeSync
