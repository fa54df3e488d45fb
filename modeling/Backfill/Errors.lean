import Backfill.Misc.Infix

/-!
# Errors and their classification (`errors.rs`)

An error value of another crate is known to this library only through its two
renderings, so it is the pair of them. What Unicode says about single characters is the
structure `CharTables`; the library's own texts are ASCII, and on ASCII the tables are
fixed.
-/

namespace Backfill

/-- An error value of another crate: what `to_string` and `{:?}` make of it. -/
structure ForeignError where
  display : String
  debug : String
deriving DecidableEq, Repr

/-- `BackfillError` (`errors.rs:7`). -/
inductive BackfillError
  | runtimeError (message : String)
  | dlqJobNotFound (id : Int)
  | graphileWorker (error : ForeignError)
  | graphileBuild (error : ForeignError)
  | workerRuntime (message : String)
  | crontabParse (error : ForeignError)
  | sqlxError (error : ForeignError)
  | jsonError (error : ForeignError)
  | parseInt (error : ForeignError)
deriving DecidableEq, Repr

/-- `WorkerError` (`errors.rs:37`). -/
inductive WorkerError
  | invalidInput (message : String)
  | malformedData (message : String)
  | unauthorized (message : String)
  | forbidden (message : String)
  | resourceNotFound (message : String)
  | validationFailed (message : String)
  | connectionTimeout (message : String)
  | networkError (message : String)
  | serviceUnavailable (message : String)
  | rateLimitExceeded (message : String)
  | temporaryUnavailable (message : String)
  | externalServiceFailure (service error : String)
  | jobFailed (message : String)
  | backfill (error : BackfillError)
deriving DecidableEq, Repr

/-- The per-character tables behind `str::to_lowercase` and `{:?}` of a `str`. A final
sigma, the one letter whose lower case depends on its neighbours, lowers to one of two
non-ASCII letters, which no pattern below can tell apart. -/
structure CharTables where
  toLower : Char → List Char
  escapeDebug : Char → List Char
  toLower_ascii : ∀ c, c.val < 128 → toLower c = [c.toLower]
  escapeDebug_ascii : ∀ c, 32 ≤ c.val → c.val < 127 → c ≠ '"' → c ≠ '\\' → escapeDebug c = [c]

namespace CharTables

/-- `message.to_lowercase()`. -/
def toLowercase (tables : CharTables) (message : String) : List Char :=
  message.toList.flatMap tables.toLower

/-- The characters of a string as its `Debug` rendering escapes them. -/
def escaped (tables : CharTables) (message : String) : String :=
  String.ofList (message.toList.flatMap tables.escapeDebug)

/-- The `Debug` rendering of a string: quoted and escaped. -/
def debugStr (tables : CharTables) (message : String) : String :=
  "\"" ++ tables.escaped message ++ "\""

/-- Tables that know ASCII letters, the quote and the backslash and leave every other character
alone, control characters too. -/
def ascii : CharTables where
  toLower c := [c.toLower]
  escapeDebug c := if c = '"' ∨ c = '\\' then ['\\', c] else [c]
  toLower_ascii _ _ := rfl
  escapeDebug_ascii c _ _ quote backslash := by simp [quote, backslash]

theorem toLowercase_append (tables : CharTables) (a b : String) :
    tables.toLowercase (a ++ b) = tables.toLowercase a ++ tables.toLowercase b := by
  simp [toLowercase]

end CharTables

/-- `msg_lower.contains(pattern)`. -/
def contains (msgLower : List Char) (pattern : String) : Bool :=
  decide (pattern.toList <:+: msgLower)

namespace BackfillError

/-- The `Display` text; `#[error(transparent)]` passes the inner one through. -/
def display : BackfillError → String
  | runtimeError message => "Runtime error: " ++ message
  | dlqJobNotFound id => "DLQ job not found with ID: " ++ toString id
  | graphileWorker error => error.display
  | graphileBuild error => error.display
  | workerRuntime message => "Worker runtime error: " ++ message
  | crontabParse error => error.display
  | sqlxError error => error.display
  | jsonError error => error.display
  | parseInt error => error.display

/-- The derived `Debug` text. -/
def debug (tables : CharTables) : BackfillError → String
  | runtimeError message => "RuntimeError(" ++ tables.debugStr message ++ ")"
  | dlqJobNotFound id => "DlqJobNotFound(" ++ toString id ++ ")"
  | graphileWorker error => "GraphileWorker(" ++ error.debug ++ ")"
  | graphileBuild error => "GraphileBuild(" ++ error.debug ++ ")"
  | workerRuntime message => "WorkerRuntime(" ++ tables.debugStr message ++ ")"
  | crontabParse error => "CrontabParse(" ++ error.debug ++ ")"
  | sqlxError error => "SqlxError(" ++ error.debug ++ ")"
  | jsonError error => "JsonError(" ++ error.debug ++ ")"
  | parseInt error => "ParseInt(" ++ error.debug ++ ")"

end BackfillError

namespace WorkerError

/-- The `Display` text (`errors.rs:36`). -/
def display : WorkerError → String
  | invalidInput message => "Invalid input provided: " ++ message
  | malformedData message => "Malformed data: " ++ message
  | unauthorized message => "Unauthorized access: " ++ message
  | forbidden message => "Forbidden operation: " ++ message
  | resourceNotFound message => "Resource not found: " ++ message
  | validationFailed message => "Validation failed: " ++ message
  | connectionTimeout message => "Connection timeout: " ++ message
  | networkError message => "Network error: " ++ message
  | serviceUnavailable message => "Service unavailable: " ++ message
  | rateLimitExceeded message => "Rate limit exceeded: " ++ message
  | temporaryUnavailable message => "Resource temporarily unavailable: " ++ message
  | externalServiceFailure service error =>
      "External service failure: service='" ++ service ++ "'; " ++ error
  | jobFailed message => "Job failed: " ++ message
  | backfill error => error.display

/-- The derived `Debug` text of a variant with the one field `message`. -/
def debugMessage (tables : CharTables) (variant message : String) : String :=
  variant ++ " \x7b message: " ++ tables.debugStr message ++ " \x7d"

/-- The derived `Debug` text (`errors.rs:36`). -/
def debug (tables : CharTables) : WorkerError → String
  | invalidInput message => debugMessage tables "InvalidInput" message
  | malformedData message => debugMessage tables "MalformedData" message
  | unauthorized message => debugMessage tables "Unauthorized" message
  | forbidden message => debugMessage tables "Forbidden" message
  | resourceNotFound message => debugMessage tables "ResourceNotFound" message
  | validationFailed message => debugMessage tables "ValidationFailed" message
  | connectionTimeout message => debugMessage tables "ConnectionTimeout" message
  | networkError message => debugMessage tables "NetworkError" message
  | serviceUnavailable message => debugMessage tables "ServiceUnavailable" message
  | rateLimitExceeded message => debugMessage tables "RateLimitExceeded" message
  | temporaryUnavailable message => debugMessage tables "TemporaryUnavailable" message
  | externalServiceFailure service error =>
      "ExternalServiceFailure \x7b service: " ++ tables.debugStr service ++ ", error: " ++
        tables.debugStr error ++ " \x7d"
  | jobFailed message => debugMessage tables "JobFailed" message
  | backfill error => "Backfill(" ++ error.debug tables ++ ")"

/-- `WorkerError::is_retryable` (`errors.rs:78`). -/
def isRetryable : WorkerError → Bool
  | invalidInput _ | malformedData _ | unauthorized _ | forbidden _ | resourceNotFound _
  | validationFailed _ => false
  | connectionTimeout _ | networkError _ | serviceUnavailable _ | rateLimitExceeded _
  | temporaryUnavailable _ | jobFailed _ | externalServiceFailure _ _ => true
  | backfill _ => true

/-- `WorkerError::classify_from_message` (`errors.rs:110`). -/
def classifyFromMessage (tables : CharTables) (message : String) : WorkerError :=
  let msgLower := tables.toLowercase message
  if contains msgLower "invalid input" || contains msgLower "invalid parameter" then
    invalidInput message
  else if contains msgLower "malformed" || contains msgLower "parse error"
      || contains msgLower "syntax error" then
    malformedData message
  else if contains msgLower "unauthorized" || contains msgLower "not authorized" then
    unauthorized message
  else if contains msgLower "forbidden" || contains msgLower "permission denied" then
    forbidden message
  else if contains msgLower "not found" || contains msgLower "does not exist" then
    resourceNotFound message
  else if contains msgLower "validation"
      && (contains msgLower "failed" || contains msgLower "error") then
    validationFailed message
  else if contains msgLower "bad request" || contains msgLower "request format" then
    malformedData message
  else if contains msgLower "timeout" || contains msgLower "timed out" then
    connectionTimeout message
  else if contains msgLower "network" || contains msgLower "connection"
      || contains msgLower "dns" then
    networkError message
  else if contains msgLower "unavailable" || contains msgLower "service down" then
    serviceUnavailable message
  else if contains msgLower "rate limit" || contains msgLower "too many requests" then
    rateLimitExceeded message
  else if contains msgLower "busy" || contains msgLower "overloaded"
      || contains msgLower "retry" then
    temporaryUnavailable message
  else
    jobFailed message

end WorkerError

end Backfill
