/-!
# Error codes

The machine-readable codes of API errors. A code travels as a string. The codes that the client
knows have a constructor each; any other string is kept as it is, so that no answer loses its code.

`text_ofText` and `ofText_text` say that the two tables belong together: reading and writing a code
changes nothing.
-/

namespace CloudClient

/-- A machine-readable error code. -/
inductive ErrorCode where
  | unauthorized
  | forbidden
  | invalidInput
  | jsonError
  | locked
  | notFound
  | rateLimitExceeded
  | resourceLimitExceeded
  | resourceUnavailable
  | serviceError
  | serverError
  | uniquenessError
  | protectedResource
  | maintenance
  | conflict
  | unsupportedError
  | tokenReadonly
  | unavailable
  | timeout
  | deprecatedApiEndpoint
  | unknownError
  | actionFailed
  /-- a code without a constructor of its own -/
  | other (code : String)
  deriving DecidableEq

namespace ErrorCode

/-- The code as it travels. -/
def text : ErrorCode → String
  | unauthorized => "unauthorized"
  | forbidden => "forbidden"
  | invalidInput => "invalid_input"
  | jsonError => "json_error"
  | locked => "locked"
  | notFound => "not_found"
  | rateLimitExceeded => "rate_limit_exceeded"
  | resourceLimitExceeded => "resource_limit_exceeded"
  | resourceUnavailable => "resource_unavailable"
  | serviceError => "service_error"
  | serverError => "server_error"
  | uniquenessError => "uniqueness_error"
  | protectedResource => "protected"
  | maintenance => "maintenance"
  | conflict => "conflict"
  | unsupportedError => "unsupported_error"
  | tokenReadonly => "token_readonly"
  | unavailable => "unavailable"
  | timeout => "timeout"
  | deprecatedApiEndpoint => "deprecated_api_endpoint"
  | unknownError => "unknown_error"
  | actionFailed => "action_failed"
  | other code => code

/-- Has the code a constructor of its own? -/
def isKnown : ErrorCode → Bool
  | other _ => false
  | _ => true

/-- The code that a string is. -/
def ofText : String → ErrorCode
  | "unauthorized" => unauthorized
  | "forbidden" => forbidden
  | "invalid_input" => invalidInput
  | "json_error" => jsonError
  | "locked" => locked
  | "not_found" => notFound
  | "rate_limit_exceeded" => rateLimitExceeded
  | "resource_limit_exceeded" => resourceLimitExceeded
  | "resource_unavailable" => resourceUnavailable
  | "service_error" => serviceError
  | "server_error" => serverError
  | "uniqueness_error" => uniquenessError
  | "protected" => protectedResource
  | "maintenance" => maintenance
  | "conflict" => conflict
  | "unsupported_error" => unsupportedError
  | "token_readonly" => tokenReadonly
  | "unavailable" => unavailable
  | "timeout" => timeout
  | "deprecated_api_endpoint" => deprecatedApiEndpoint
  | "unknown_error" => unknownError
  | "action_failed" => actionFailed
  | code => other code

/-- May a request that failed with this code be sent again? -/
def isTransient : ErrorCode → Bool
  | conflict | rateLimitExceeded | timeout => true
  | _ => false

/-- A code read from a string is written as this string. -/
theorem text_ofText (s : String) : (ofText s).text = s := by
  rw [ofText.eq_def]
  split <;> rfl

/-- A code with a constructor of its own is read back from its text. -/
theorem ofText_text {c : ErrorCode} (h : c.isKnown = true) : ofText c.text = c := by
  cases c with
  | other => cases h
  | _ => rfl

end ErrorCode

end CloudClient
