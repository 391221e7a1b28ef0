import ForgeSync.Text.Blank

/-!
# Errors of API calls

Every operation of the client reports failure as an `ApiError`.  Each constructor names a
cause: a response the service sent (not found, conflict, rejected body, refused credentials,
any other status), a decoded object that lacks required fields, a permission that has no
counterpart, a capability a service lacks, a stale version, a recreate that deleted but could
not create, a failure of the connection or of decoding, a request that could not be built,
retries used up, a page budget used up, and the end of the caller's context.

`kind` classifies an error and looks through the retry wrapper, so that a caller asking
whether something was not found gets the same answer however many retries came before.
`status` is the HTTP status behind an error, where there is one.  `message` is the one
place where the wording of every error is written.
-/

namespace ForgeSync

/-- One missing or malformed field of a decoded object, by its path and what was wrong. -/
structure FieldError where
  field : String
  reason : String
  deriving Repr, DecidableEq, Inhabited

/-- Why an API call failed. -/
inductive ApiError where
  /-- The resource does not exist. -/
  | notFound (what : String)
  /-- A create met an existing resource. -/
  | alreadyExists (what : String)
  /-- The service rejected the request body. -/
  | validation (statusText message : String)
  /-- The credentials were refused. -/
  | authFailed (message : String)
  /-- Any other status that is not a success. -/
  | http (status : Nat) (body : String)
  /-- A decoded object failed its required-field checks. -/
  | invalidServerData (fields : List FieldError)
  /-- A permission has no counterpart in the table it was looked up in. -/
  | invalidPermissionLevel (message : String)
  /-- The service does not offer a capability. -/
  | unsupported (service capability : String)
  /-- An update carried a version the service no longer holds. -/
  | versionConflict (resource : String) (sent : Nat) (message : String)
  /-- A delete-then-create update deleted the resource and could not create it again. -/
  | recreateFailed (resource : String) (cause : ApiError)
  /-- The connection failed. -/
  | network (message : String)
  /-- The response body could not be decoded. -/
  | decode (message : String)
  /-- The request could not be built or is not allowed in the current state. -/
  | invalidRequest (message : String)
  /-- Retryable failures lasted past the retry budget; the last one is kept. -/
  | retriesExhausted (attempts : Nat) (last : ApiError)
  /-- The page budget ran out before the last page. -/
  | tooManyPages (pages : Nat)
  /-- The caller cancelled. -/
  | cancelled
  /-- The caller's deadline passed. -/
  | deadlineExceeded
  deriving Repr, Inhabited

/-- The classes of `ApiError`, stable under retry wrapping. -/
inductive ErrorKind where
  | notFound
  | alreadyExists
  | validation
  | authFailed
  | http
  | invalidServerData
  | invalidPermissionLevel
  | unsupported
  | versionConflict
  | recreateFailed
  | network
  | decode
  | invalidRequest
  | tooManyPages
  | cancelled
  | deadlineExceeded
  deriving Repr, DecidableEq, Inhabited

namespace ApiError

/-- The class of an error; a retry wrapper reports the class of the error it wraps. -/
def kind : ApiError → ErrorKind
  | .notFound _ => .notFound
  | .alreadyExists _ => .alreadyExists
  | .validation _ _ => .validation
  | .authFailed _ => .authFailed
  | .http _ _ => .http
  | .invalidServerData _ => .invalidServerData
  | .invalidPermissionLevel _ => .invalidPermissionLevel
  | .unsupported _ _ => .unsupported
  | .versionConflict _ _ _ => .versionConflict
  | .recreateFailed _ _ => .recreateFailed
  | .network _ => .network
  | .decode _ => .decode
  | .invalidRequest _ => .invalidRequest
  | .retriesExhausted _ last => last.kind
  | .tooManyPages _ => .tooManyPages
  | .cancelled => .cancelled
  | .deadlineExceeded => .deadlineExceeded

/-- The HTTP status behind an error: 404, 409 and 400 for the three statuses with a class of
their own, the status of any other refused response, and that of a wrapped error. -/
def status : ApiError → Option Nat
  | .notFound _ => some 404
  | .alreadyExists _ => some 409
  | .validation _ _ => some 400
  | .http s _ => some s
  | .retriesExhausted _ last => last.status
  | _ => none

/-- Whether the error says the resource does not exist. -/
def isNotFound (e : ApiError) : Bool := e.kind == .notFound

/-- Whether the error says the resource exists already. -/
def isAlreadyExists (e : ApiError) : Bool := e.kind == .alreadyExists

/-- Whether the error is the end of the caller's context: cancellation or deadline. -/
def isContextError (e : ApiError) : Bool :=
  e.kind == .cancelled || e.kind == .deadlineExceeded

/-- The text of a field error. -/
def fieldText (f : FieldError) : String := f.field ++ ": " ++ f.reason

/-- The message of an error, as shown to a user. -/
def message : ApiError → String
  | .notFound m => "not found: " ++ m
  | .alreadyExists m => "already exists: " ++ m
  | .validation st m => "validation failed (" ++ st ++ "): " ++ m
  | .authFailed m => "authentication failed: " ++ m
  | .http s b => "HTTP " ++ toString s ++ ": " ++ b
  | .invalidServerData fs => "invalid server data: " ++ "; ".intercalate (fs.map fieldText)
  | .invalidPermissionLevel m => "invalid permission level: " ++ m
  | .unsupported p c => p ++ " does not support " ++ c
  | .versionConflict r s m =>
    "version conflict on " ++ r ++ ": version " ++ toString s ++ " is stale (" ++ m ++ ")"
  | .recreateFailed r cause =>
    r ++ " was deleted but recreating it failed; it is now absent: " ++ cause.message
  | .network m => "network error: " ++ m
  | .decode m => "failed to decode response: " ++ m
  | .invalidRequest m => "invalid request: " ++ m
  | .retriesExhausted n last => "giving up after " ++ toString n ++ " attempts: " ++ last.message
  | .tooManyPages n =>
    "pagination stopped after " ++ toString n ++ " pages without reaching the last page"
  | .cancelled => "operation cancelled"
  | .deadlineExceeded => "deadline exceeded"

/-- The message of an error followed by the messages of the errors it wraps, each after
`: `, as a report of a whole chain of causes reads. -/
def chainMessage : ApiError → String
  | .recreateFailed r cause =>
    (ApiError.recreateFailed r cause).message ++ ": " ++ cause.chainMessage
  | .retriesExhausted n last =>
    (ApiError.retriesExhausted n last).message ++ ": " ++ last.chainMessage
  | e => e.message

end ApiError

/-! ### Required fields

A decoded object is checked field by field; every failing field is kept, in the order of the
checks, and one `invalidServerData` error carries them all. -/

/-- The failure of a text field that must hold a non-blank character. -/
def requireNonEmpty (field value : String) : List FieldError :=
  if Text.isBlankText value then [⟨field, "must not be empty"⟩] else []

/-- The failure of a field that must be present. -/
def requireSome {α : Type} (field : String) (value : Option α) : List FieldError :=
  if value.isNone then [⟨field, "is required"⟩] else []

/-- Succeed when no check failed, else fail with all failures. -/
def checkFields (failures : List FieldError) : Except ApiError Unit :=
  if failures.isEmpty then .ok () else .error (.invalidServerData failures)

end ForgeSync
