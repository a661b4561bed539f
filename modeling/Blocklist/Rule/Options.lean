import Blocklist.Filter.Mask
import Blocklist.Host.List
import Blocklist.Host.Normal
import Blocklist.Rule.Error
/-!
# Rules — options of network filters

After a `$` a filter names its options, with commas between. Each is a word,
or a word with a value, and some of them can be negated by `~`.
-/

namespace Blocklist

/-! ## Written options -/

/-- An option as it is written. -/
structure WrittenOption where
  /-- Whether a `~` stands before the name. -/
  negated : Bool
  /-- The name, in lower case. -/
  name : String
  /-- What follows the `=`, where there is one. -/
  value : Option (List Char)
  deriving DecidableEq, Repr

namespace WrittenOption

/-- An option from its text. Blanks around the name and around the value do not count. -/
def ofText (text : List Char) : WrittenOption :=
  let (name, value) := match Text.cut? '=' text with
    | some (name, value) => (Text.lower (Text.trim name), some (Text.trim value))
    | none => (Text.lower text, none)
  match Text.dropOpening? ['~'] name with
  | some name => ⟨true, String.ofList name, value⟩
  | none => ⟨false, String.ofList name, value⟩

/-- The options of a text; pieces that are blank are left out. -/
def listOfText (text : List Char) : List WrittenOption :=
  (((text.splitOn ',').map Text.trim).filter (!·.isEmpty)).map ofText

end WrittenOption

/-! ## What options mean -/

/-- What a filter does with a request other than to block or to allow it. -/
inductive Modifier where
  /-- Adds a content security policy. -/
  | csp
  /-- Blocks and redirects. -/
  | redirect
  /-- Redirects what another filter blocks. -/
  | redirectRule
  deriving DecidableEq, Repr

namespace Modifier

/-- The modifier of this name. -/
def ofName? : String → Option Modifier
  | "csp" => some csp
  | "redirect" => some redirect
  | "redirect-rule" => some redirectRule
  | _ => none

/-- The switch that a modifier turns on. -/
def switch : Modifier → NetworkSwitch
  | csp => .csp
  | redirect => .redirect
  | redirectRule => .redirectRule

end Modifier

/-- What the options of a filter come to. -/
structure RuleOptions where
  /-- The types that are named. -/
  included : TypeSet := TypeSet.empty
  /-- The types that are named and negated. -/
  excluded : TypeSet := TypeSet.empty
  /-- Whether the filter is for requests of the page's own site. -/
  firstParty : Bool := true
  /-- Whether the filter is for requests of other sites. -/
  thirdParty : Bool := true
  /-- Whether letters match in the same case only. -/
  matchCase : Bool := false
  /-- Whether the filter cancels another. -/
  badfilter : Bool := false
  /-- What the filter does, with its value. -/
  modifier : Option (Modifier × String) := none
  /-- The pages that the filter is for. -/
  domains : Option HostList := none
  /-- The hosts that a matching address may not have. -/
  denyallow : Option HostList := none
  deriving DecidableEq, Repr

/-- The request types that an option stands for. -/
def requestTypes? : String → Option (List RequestType)
  | "script" => some [.script]
  | "image" => some [.image]
  | "stylesheet" | "css" => some [.stylesheet]
  | "object" => some [.object]
  | "subdocument" | "frame" => some [.subdocument]
  | "document" | "doc" => some [.mainFrame]
  | "xmlhttprequest" | "xhr" => some [.xmlHttpRequest, .fetch]
  | "media" => some [.media]
  | "font" => some [.font]
  | "ping" | "beacon" => some [.ping, .beacon]
  | "websocket" => some [.webSocket]
  | "other" => some [.other, .cspReport, .speculative]
  | _ => none

namespace RuleOptions

/-- A domain of a list in its stored form, with the `~` of a negated one; none where nothing is left
of it without the dots around it. -/
def storedDomain? (idna : ToAscii) (option : String) (text : List Char) :
    Except NetworkError (Option (List Char)) :=
  let text := Text.trim text
  let (mark, domain) := match Text.dropOpening? ['~'] text with
    | some domain => (['~'], domain)
    | none => ([], text)
  let domain := Text.trimBy (· == '.') domain
  if domain.isEmpty then .ok none
  else
    match Host.normal? idna domain with
    | none => .error .punycode
    | some domain =>
      if domain.contains ',' then .error (.invalidValue option) else .ok (some (mark ++ domain))

/-- The domains of a list with bars between; there has to be one. -/
def domainList (idna : ToAscii) (option : String) (text : List Char) :
    Except NetworkError HostList := do
  let entries ← (text.splitOn '|').mapM (storedDomain? idna option)
  let entries := entries.filterMap fun entry => entry
  if entries.isEmpty then throw (.emptyValue option)
  return ⟨String.ofList ([','].intercalate entries)⟩

/-- Takes in a modifier: at most one, never negated, and with a value unless it is an
exception's. -/
def addModifier (forException : Bool) (o : RuleOptions) (written : WrittenOption)
    (modifier : Modifier) : Except NetworkError RuleOptions :=
  let value := written.value.getD []
  if written.negated then .error (.negatedOption written.name)
  else if o.modifier.isSome then .error .severalModifiers
  else if value.isEmpty && !forException then .error (.emptyValue written.name)
  else .ok { o with modifier := some (modifier, String.ofList value) }

/-- Takes in a list of domains. -/
def addDomains (idna : ToAscii) (o : RuleOptions) (written : WrittenOption) :
    Except NetworkError RuleOptions := do
  if written.negated then throw (.negatedOption written.name)
  let list ← domainList idna written.name (written.value.getD [])
  if written.name == "domain" then return { o with domains := some list }
  if (list.text.toList.splitOn ',').any fun entry => entry.head? == some '~' then
    throw (.invalidValue written.name)
  return { o with denyallow := some list }

/-- Takes in an option that is a word without a value. -/
def addWord (o : RuleOptions) (written : WrittenOption) : Except NetworkError RuleOptions :=
  let plain (o : RuleOptions) : Except NetworkError RuleOptions :=
    if written.negated then .error (.negatedOption written.name) else .ok o
  match written.name with
  | "match-case" => plain { o with matchCase := true }
  | "badfilter" => plain { o with badfilter := true }
  | "third-party" | "3p" =>
    .ok (if written.negated then { o with thirdParty := false } else { o with firstParty := false })
  | "first-party" | "1p" =>
    .ok (if written.negated then { o with firstParty := false } else { o with thirdParty := false })
  | "important" => .error (.unsupportedOption written.name)
  | name =>
    match requestTypes? name with
    | none => .error (.unrecognisedOption name)
    | some types =>
      let types := TypeSet.ofList types
      .ok (if written.negated then { o with excluded := o.excluded.union types }
        else { o with included := o.included.union types })

/-- Takes in one option. -/
def add (idna : ToAscii) (forException : Bool) (o : RuleOptions) (written : WrittenOption) :
    Except NetworkError RuleOptions :=
  match Modifier.ofName? written.name with
  | some modifier => o.addModifier forException written modifier
  | none =>
    if written.name == "domain" || written.name == "denyallow" then o.addDomains idna written
    else if written.value.isSome then .error (.unrecognisedOption written.name)
    else o.addWord written

/-- The request types that the options leave: those that are named, or all where none is, without
those that are negated. -/
def types (o : RuleOptions) : TypeSet :=
  (if o.included.isEmpty then TypeSet.full else o.included).without o.excluded

/-- The options of a text; they have to leave a request type and a party. -/
def ofText (idna : ToAscii) (forException : Bool) (text : List Char) :
    Except NetworkError RuleOptions := do
  let o ← (WrittenOption.listOfText text).foldlM (add idna forException) ({} : RuleOptions)
  if o.types.isEmpty then throw .noTypes
  if !o.firstParty && !o.thirdParty then throw .noParty
  return o

/-- The switches that the options turn on. -/
def switches (o : RuleOptions) : List NetworkSwitch :=
  (if o.firstParty then [.firstParty] else [])
    ++ (if o.thirdParty then [.thirdParty] else [])
    ++ (if o.matchCase then [.matchCase] else [])
    ++ (if o.badfilter then [.badfilter] else [])
    ++ (o.modifier.map (·.1.switch)).toList

/-- The value of the modifier. -/
def value (o : RuleOptions) : Option String := o.modifier.map Prod.snd

end RuleOptions

end Blocklist
