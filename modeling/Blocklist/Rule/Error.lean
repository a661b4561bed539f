/-!
# Rules — why a line is refused
-/

namespace Blocklist

/-- Why a line is no network filter. -/
inductive NetworkError where
  /-- There is neither a pattern nor an option. -/
  | empty
  /-- An option of an unknown name. -/
  | unrecognisedOption (name : String)
  /-- An option that is known and not provided for. -/
  | unsupportedOption (name : String)
  /-- A `~` before an option that cannot be negated. -/
  | negatedOption (name : String)
  /-- An option that needs a value and has none. -/
  | emptyValue (name : String)
  /-- An option with a value that it cannot have. -/
  | invalidValue (name : String)
  /-- More than one option that says what to do with the request. -/
  | severalModifiers
  /-- The options leave no request type. -/
  | noTypes
  /-- The options leave no party. -/
  | noParty
  /-- A regular expression that does not compile, and why. -/
  | invalidRegex (reason : String)
  /-- A line of a hosts file whose second word is no domain. -/
  | hostsEntry
  /-- A host that has no form in ASCII. -/
  | punycode
  deriving DecidableEq, Repr

/-- The wording of an error. -/
def NetworkError.message : NetworkError → String
  | empty => "empty filter"
  | unrecognisedOption name => "unrecognised option: " ++ name
  | unsupportedOption name => "unsupported option: " ++ name
  | negatedOption name => "negated option: " ++ name
  | emptyValue name => "empty value for option: " ++ name
  | invalidValue name => "invalid value for option: " ++ name
  | severalModifiers => "multiple modifier options"
  | noTypes => "options exclude every request type"
  | noParty => "options exclude every party"
  | invalidRegex reason => "invalid regex: " ++ reason
  | hostsEntry => "hosts entry without a domain"
  | punycode => "hostname cannot be converted to punycode"

/-- Why a line is no cosmetic filter. -/
inductive CosmeticError where
  /-- No marker stands between hosts and selector. -/
  | missingMarker
  /-- A marker of a kind that is not provided for. -/
  | unsupportedMarker
  /-- Nothing follows the marker. -/
  | emptySelector
  /-- The selector ends with a block of styles. -/
  | styleBlock
  /-- The selector holds another marker. -/
  | nestedMarker
  /-- An exception for every page. -/
  | exceptionWithoutHosts
  /-- A script filter whose parenthesis is never closed. -/
  | unclosedScript
  /-- A host that has no form in ASCII. -/
  | punycode
  deriving DecidableEq, Repr

/-- The wording of an error. -/
def CosmeticError.message : CosmeticError → String
  | missingMarker => "no cosmetic marker"
  | unsupportedMarker => "unsupported cosmetic syntax"
  | emptySelector => "empty selector"
  | styleBlock => "selector ends with a style block"
  | nestedMarker => "selector contains a second cosmetic marker"
  | exceptionWithoutHosts => "exception without hostnames"
  | unclosedScript => "script filter without closing parenthesis"
  | punycode => "hostname cannot be converted to punycode"

/-- Why a line of a list is refused. -/
inductive RuleError where
  | network (reason : NetworkError)
  | cosmetic (reason : CosmeticError)
  deriving DecidableEq, Repr

/-- The wording of an error, with the kind of filter in front. -/
def RuleError.message : RuleError → String
  | network reason => "network filter: " ++ reason.message
  | cosmetic reason => "cosmetic filter: " ++ reason.message

end Blocklist
