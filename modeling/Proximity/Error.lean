/-!
# Errors

Every failure of the library is described by one `Error`: its cause, with the token,
account, path or text it concerns. An error has a message, a stable upper-case code, an
HTTP status, and belongs to one family (options, identity, credentials, sync,
configuration, I/O).

A failing operation reports a `Failure`: the error together with the text of the
operation's own, more detailed, description of what went wrong (an unknown medium lists
the mediums it expected, for instance, while the error only names the token).

The HTTP API answers with an `ApiError`, derived from an error by its status: 400, 404,
502 and 503 are kept, every other status becomes an internal error (500).
-/

namespace Proximity

/-- The cause of a failure. -/
inductive Error where
  | invalidStrategy (token : String)
  | invalidMedium (token : String)
  | randomSourceFailed (message : String)
  | invalidEndpointId (id : String)
  | invalidMacAddress (text : String)
  | credentialsNotFound (account : String)
  | invalidAccountName (name : String)
  | invalidCredentialSelector (message : String)
  | credentialStoreUnavailable (message : String)
  | syncTransport (message : String)
  | syncRejected (code : Nat) (text : String)
  | syncDecode (message : String)
  | configNotFound (path : String)
  | configParse (message : String)
  | configValidation (message : String)
  | persistence (message : String)
  | io (message : String)
  deriving DecidableEq, Repr, Inhabited

namespace Error

/-- The message of an error. -/
def message : Error → String
  | invalidStrategy t =>
    "Invalid strategy: '" ++ t ++ "'. Expected P2P_POINT_TO_POINT, P2P_STAR or P2P_CLUSTER."
  | invalidMedium t => "Invalid medium: '" ++ t ++ "'"
  | randomSourceFailed m => "Random source failed: " ++ m
  | invalidEndpointId i => "Invalid endpoint id: '" ++ i ++ "'"
  | invalidMacAddress t => "Invalid MAC address: '" ++ t ++ "'. Expected format XX:XX:XX:XX:XX:XX."
  | credentialsNotFound a => "No credentials stored for account '" ++ a ++ "'"
  | invalidAccountName n => "Invalid account name: '" ++ n ++ "'"
  | invalidCredentialSelector m => "Invalid credential selector: " ++ m
  | credentialStoreUnavailable m => "Credential store unavailable: " ++ m
  | syncTransport m => "Sync transport failed: " ++ m
  | syncRejected code text => s!"Sync service returned {code} " ++ text
  | syncDecode m => "Failed to decode sync response: " ++ m
  | configNotFound p => "Configuration file not found at: " ++ p
  | configParse m => "Failed to parse configuration: " ++ m
  | configValidation m => "Configuration validation failed: " ++ m
  | persistence m => "Persistence error: " ++ m
  | io m => "I/O error: " ++ m

/-- The stable code of an error. -/
def code : Error → String
  | invalidStrategy _ => "INVALID_STRATEGY"
  | invalidMedium _ => "INVALID_MEDIUM"
  | randomSourceFailed _ => "RANDOM_SOURCE_FAILED"
  | invalidEndpointId _ => "INVALID_ENDPOINT_ID"
  | invalidMacAddress _ => "INVALID_MAC_ADDRESS"
  | credentialsNotFound _ => "CREDENTIALS_NOT_FOUND"
  | invalidAccountName _ => "INVALID_ACCOUNT_NAME"
  | invalidCredentialSelector _ => "INVALID_CREDENTIAL_SELECTOR"
  | credentialStoreUnavailable _ => "CREDENTIAL_STORE_UNAVAILABLE"
  | syncTransport _ => "SYNC_TRANSPORT_FAILED"
  | syncRejected _ _ => "SYNC_REJECTED"
  | syncDecode _ => "SYNC_DECODE_FAILED"
  | configNotFound _ => "CONFIG_NOT_FOUND"
  | configParse _ => "CONFIG_PARSE_ERROR"
  | configValidation _ => "CONFIG_VALIDATION_ERROR"
  | persistence _ => "PERSISTENCE_ERROR"
  | io _ => "IO_ERROR"

/-- The HTTP status that answers an error: 400 for malformed input, 404 for something
absent, 422 for a configuration that does not hold, 500 for a fault of this side, 502
when the sync service answered badly and 503 when a dependency cannot be reached. -/
def httpStatus : Error → Nat
  | invalidStrategy _ | invalidMedium _ | invalidEndpointId _ | invalidMacAddress _
  | invalidAccountName _ | invalidCredentialSelector _ => 400
  | credentialsNotFound _ | configNotFound _ => 404
  | configParse _ | configValidation _ => 422
  | randomSourceFailed _ | persistence _ | io _ => 500
  | syncRejected _ _ | syncDecode _ => 502
  | syncTransport _ | credentialStoreUnavailable _ => 503

/-- Whether the error comes from an option token. -/
def isOptionsError : Error → Bool
  | invalidStrategy _ | invalidMedium _ => true
  | _ => false

/-- Whether the error comes from identity generation. -/
def isIdentityError : Error → Bool
  | randomSourceFailed _ | invalidEndpointId _ | invalidMacAddress _ => true
  | _ => false

/-- Whether the error comes from credential storage. -/
def isCredentialError : Error → Bool
  | credentialsNotFound _ | invalidAccountName _ | invalidCredentialSelector _
  | credentialStoreUnavailable _ => true
  | _ => false

/-- Whether the error comes from credential sync. -/
def isSyncError : Error → Bool
  | syncTransport _ | syncRejected _ _ | syncDecode _ => true
  | _ => false

/-- Whether the error comes from configuration. -/
def isConfigError : Error → Bool
  | configNotFound _ | configParse _ | configValidation _ => true
  | _ => false

/-- Whether the error comes from persistence or I/O. -/
def isIoError : Error → Bool
  | persistence _ | io _ => true
  | _ => false

/-- Whether the same request may succeed later: a transport failure, an unreachable
store, or a rejection with a server-side status (500 and up) or 429. -/
def isRecoverable : Error → Bool
  | syncTransport _ | credentialStoreUnavailable _ => true
  | syncRejected code _ => code ≥ 500 || code == 429
  | _ => false

end Error

/-- A failed operation: the error, and the operation's own description of it. -/
structure Failure where
  detail : String
  error : Error
  deriving DecidableEq, Repr, Inhabited

/-- A failure whose own description is the error's message. -/
def Error.toFailure (e : Error) : Failure := ⟨e.message, e⟩

/-- The kinds of answer the HTTP API gives to a failed request. -/
inductive ApiStatus where
  | badRequest
  | notFound
  | failedDependency
  | internalError
  | badGateway
  | serviceUnavailable
  deriving DecidableEq, Repr

namespace ApiStatus

/-- The HTTP status code. -/
def code : ApiStatus → Nat
  | badRequest => 400
  | notFound => 404
  | failedDependency => 424
  | internalError => 500
  | badGateway => 502
  | serviceUnavailable => 503

/-- The words that lead a written API error. -/
def title : ApiStatus → String
  | badRequest => "Bad Request"
  | notFound => "Not Found"
  | failedDependency => "Failed Dependency"
  | internalError => "Internal Error"
  | badGateway => "Bad Gateway"
  | serviceUnavailable => "Service Unavailable"

end ApiStatus

/-- An error as the HTTP API answers it: a status, a lower-case code and a message. -/
structure ApiError where
  status : ApiStatus
  code : String
  message : String
  deriving DecidableEq, Repr

namespace ApiError

/-- A bad request with a code and message. -/
def badRequest (code message : String) : ApiError := ⟨.badRequest, code, message⟩

/-- The API answer to an error: its status when that is 400, 404, 502 or 503, else an
internal error; the code in lower case and the error's message. -/
def ofError (e : Error) : ApiError :=
  let status : ApiStatus :=
    match e.httpStatus with
    | 400 => .badRequest
    | 404 => .notFound
    | 502 => .badGateway
    | 503 => .serviceUnavailable
    | _ => .internalError
  ⟨status, e.code.toLower, e.message⟩

/-- The written form: the status title, a colon and the message. -/
def display (e : ApiError) : String := e.status.title ++ ": " ++ e.message

end ApiError

end Proximity
