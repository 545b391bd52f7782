/-
The ways in which logging in, logging out and their collaborators fail, and the text that reports
each of them.
-/
import WebLogin.Username

namespace WebLogin

/-- The failures of a session store. -/
inductive StoreError where
  /-- A session was to be saved that the store does not hold. -/
  | sessionNotFound
  /-- Anything else, with its own text. -/
  | unexpected (text : String)
  deriving DecidableEq, Repr

namespace StoreError

/-- The text that reports the error. -/
def message : StoreError → String
  | sessionNotFound => "Session not found"
  | unexpected text => "Unexpected error: " ++ text

end StoreError

/-- The ways in which a verifier rejects a credential. -/
inductive VerificationError where
  /-- Nobody has that name. -/
  | unknownIdentity
  /-- The password is wrong. -/
  | badCredential
  /-- The account is closed. -/
  | disabled
  /-- Anything else, with its own text. -/
  | other (text : String)
  deriving DecidableEq, Repr

namespace VerificationError

/-- The text that reports the error. -/
def message : VerificationError → String
  | unknownIdentity => "Unknown identity"
  | badCredential => "Bad credential"
  | disabled => "Account disabled"
  | other text => "Verification failed: " ++ text

end VerificationError

/-- The reasons for which a login fails, as a client may learn them. -/
inductive FailureReason where
  /-- Nobody has that name. -/
  | unknownIdentity
  /-- The password is wrong. -/
  | badCredential
  /-- The account is closed. -/
  | disabled
  /-- Anything else. -/
  | other
  deriving DecidableEq, Repr

namespace FailureReason

/-- The reason in words. -/
def message : FailureReason → String
  | unknownIdentity => "unknown identity"
  | badCredential => "bad credential"
  | disabled => "account disabled"
  | other => "other"

/-- The name of the reason in a document. -/
def text : FailureReason → String
  | unknownIdentity => "unknown_identity"
  | badCredential => "bad_credential"
  | disabled => "disabled"
  | other => "other"

/-- The reason of a name. -/
def ofText? (s : String) : Option FailureReason :=
  [unknownIdentity, badCredential, disabled, other].find? (·.text == s)

end FailureReason

/-- A login that failed: why, and in whose words. -/
structure LoginFailure where
  /-- Why the login failed. -/
  reason : FailureReason
  /-- The text of the error behind the failure. -/
  detail : String
  deriving DecidableEq, Repr

namespace LoginFailure

/-- The text that reports the failure. -/
def message (f : LoginFailure) : String :=
  "Authentication failed (" ++ f.reason.message ++ "): " ++ f.detail

/-- The failure of a login under a text that is no username. -/
def ofUsernameError (e : UsernameError) : LoginFailure := ⟨.unknownIdentity, e.message⟩

/-- The failure of a login that the verifier rejected. -/
def ofVerificationError (e : VerificationError) : LoginFailure :=
  let reason := match e with
    | .unknownIdentity => .unknownIdentity
    | .badCredential => .badCredential
    | .disabled => .disabled
    | .other _ => .other
  ⟨reason, e.message⟩

end LoginFailure

/-- The failures of a session strategy. -/
inductive StrategyError where
  /-- The session store failed. -/
  | store (e : StoreError)
  /-- The strategy does not allow the login. -/
  | rejected (text : String)
  deriving DecidableEq, Repr

namespace StrategyError

/-- The text that reports the error. -/
def message : StrategyError → String
  | store e => "Session store error: " ++ e.message
  | rejected text => "Authentication rejected by session strategy: " ++ text

end StrategyError

/-- The failures of a logout handler. -/
inductive HandlerError where
  /-- The session store failed. -/
  | store (e : StoreError)
  /-- Anything else, with its own text. -/
  | unexpected (text : String)
  deriving DecidableEq, Repr

namespace HandlerError

/-- The text that reports the error. -/
def message : HandlerError → String
  | store e => "Session store error: " ++ e.message
  | unexpected text => "Unexpected error: " ++ text

end HandlerError

/-- The ways in which a login command is set up wrongly. -/
inductive ConfigurationError where
  /-- Sessions are to be kept, but there is no store for them. -/
  | missingSessionStore
  /-- The command is started and so cannot be changed. -/
  | alreadyStarted
  /-- The settings ask for a backend that is not there. -/
  | backendUnavailable (backend : String)
  /-- The settings contradict themselves. -/
  | invalid (text : String)
  deriving DecidableEq, Repr

namespace ConfigurationError

/-- The text that reports the error. -/
def message : ConfigurationError → String
  | missingSessionStore => "Per-session authentication requires a session store"
  | alreadyStarted => "Login command is already started"
  | backendUnavailable backend =>
    "Backend \x60" ++ backend ++ "\x60 is not available in this build"
  | invalid text => "Invalid configuration: " ++ text

end ConfigurationError

/-- The text that reports the use of a command that is not started. -/
def notStartedMessage : String := "Login command is not started"

/-- The ways in which a request gets no scope. -/
inductive ScopeError where
  /-- The command is not started. -/
  | notStarted
  /-- The session store failed. -/
  | store (e : StoreError)
  deriving DecidableEq, Repr

namespace ScopeError

/-- The text that reports the error. -/
def message : ScopeError → String
  | notStarted => notStartedMessage
  | store e => "Session store error: " ++ e.message

end ScopeError

/-- The ways in which a login gives no principal. -/
inductive LoginError where
  /-- The command is not started. -/
  | notStarted
  /-- The login failed. -/
  | failed (f : LoginFailure)
  deriving DecidableEq, Repr

namespace LoginError

/-- The text that reports the error. -/
def message : LoginError → String
  | notStarted => notStartedMessage
  | failed f => f.message

end LoginError

/-- A step of a logout that failed: the name of the handler and its error. -/
structure StepFailure where
  /-- The name of the handler. -/
  handler : String
  /-- What went wrong. -/
  error : HandlerError
  deriving DecidableEq, Repr

/-- The ways in which a logout is not clean. -/
inductive LogoutError where
  /-- The command is not started. -/
  | notStarted
  /-- Some steps failed; the others were still run. -/
  | handlers (failures : List StepFailure)
  deriving DecidableEq, Repr

namespace LogoutError

/-- The text that reports the error. -/
def message : LogoutError → String
  | notStarted => notStartedMessage
  | handlers failures =>
    toString failures.length ++ " logout step(s) failed: " ++
      "; ".intercalate (failures.map fun f => f.handler ++ ": " ++ f.error.message)

end LogoutError

/-- The failures of hashing or checking a password. -/
inductive PasswordError where
  /-- The password is not the one that was hashed. -/
  | mismatch
  /-- The hash cannot be used. -/
  | unexpected (text : String)
  deriving DecidableEq, Repr

namespace PasswordError

/-- The text that reports the error. -/
def message : PasswordError → String
  | mismatch => "Password does not match"
  | unexpected text => "Password hashing failed: " ++ text

end PasswordError

end WebLogin
