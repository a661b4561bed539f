import Blocklist.Filter.Network
import Blocklist.Host.Address
import Blocklist.Rule.Options
/-!
# Rules — lines of network filters

A line is an entry of a hosts file, or a pattern with its anchors and
perhaps a `$` and options after it. A pattern between slashes is a regular
expression.
-/

namespace Blocklist

namespace NetworkRule

/-! ## Hosts files -/

/-- The domain that an entry of a hosts file blocks, where the line is one. Its first word is a
numeric address, its second a domain with a dot inside. -/
def hostsDomain? (idna : ToAscii) (line : List Char) : Except NetworkError (Option (List Char)) :=
  match Text.words line with
  | first :: second :: _ =>
    if !Host.isAddress first then .ok none
    else
      let host := Text.trimBy (· == '.') second
      if !host.contains '.' || Host.isAddress host then .error .hostsEntry
      else if !Text.isAscii host then
        match idna host with
        | some host => .ok (some host)
        | none => .error .punycode
      else if host.all fun c => Text.isAlphanum c || c == '.' || c == '-' || c == '_' then
        .ok (some (Text.lower host))
      else .error .hostsEntry
  | _ => .ok none

/-- The filter that blocks a domain and all below it. -/
def blockDomain (domain : List Char) : NetworkFilter where
  mask := .make .full [.firstParty, .thirdParty, .hostAnchor]
  pattern := String.ofList (domain ++ ['^'])

/-! ## Patterns -/

/-- What stands between the slashes of a regular expression; there has to be something. -/
def regexSource? (text : List Char) : Option (List Char) := do
  let source ← Text.dropClosing? ['/'] (← Text.dropOpening? ['/'] text)
  if source.isEmpty then none else some source

/-- The pattern and the options of a line: they part at the last `$`, unless the whole is a regular
expression. -/
def cutOptions (text : List Char) : List Char × Option (List Char) :=
  if (regexSource? text).isSome then (text, none)
  else
    match Text.cutLast? '$' text with
    | some (pattern, options) => (pattern, some options)
    | none => (text, none)

/-- A pattern around its anchors. -/
structure Anchored where
  /-- The anchors. -/
  switches : List NetworkSwitch
  /-- The pattern without them. -/
  pattern : List Char
  deriving DecidableEq, Repr

/-- Takes the anchors off a pattern: `||` or `|` at the beginning, `|` at the end. -/
def cutAnchors (text : List Char) : Anchored :=
  let (left, text) := match Text.dropOpening? ['|', '|'] text with
    | some text => ([NetworkSwitch.hostAnchor], text)
    | none =>
      match Text.dropOpening? ['|'] text with
      | some text => ([NetworkSwitch.leftAnchor], text)
      | none => ([], text)
  match Text.dropClosing? ['|'] text with
  | some text => ⟨left ++ [.rightAnchor], text⟩
  | none => ⟨left, text⟩

/-- A character after which a pattern has left its host. -/
def endsHost (c : Char) : Bool :=
  c == '/' || c == '^' || c == '*' || c == '?' || c == '#' || c == ':' || c == '|'

/-- A pattern in lower case, unless case counts. -/
def foldCase (matchCase : Bool) (text : List Char) : List Char :=
  if matchCase then text else Text.lower text

/-- The stored form of a pattern. The host that an anchored pattern begins with is stored as
requests have it, even where case counts. -/
def storedPattern (idna : ToAscii) (hostAnchor matchCase : Bool) (text : List Char) :
    Except NetworkError (List Char) :=
  if hostAnchor then
    match Host.normal? idna (text.takeWhile (!endsHost ·)) with
    | some host => .ok (host ++ foldCase matchCase (text.dropWhile (!endsHost ·)))
    | none => .error .punycode
  else .ok (foldCase matchCase text)

/-- The filter with these options, these further switches and this pattern. -/
def assemble (o : RuleOptions) (switches : List NetworkSwitch) (pattern : List Char) :
    NetworkFilter where
  mask := .make o.types (o.switches ++ switches)
  pattern := String.ofList pattern
  domains := o.domains
  denyallow := o.denyallow
  value := o.value

/-- The filter of a pattern with its options. -/
def readBody (idna : ToAscii) (regex : RegexCheck) (line : List Char) :
    Except NetworkError NetworkFilter := do
  let (exception, rest) := match Text.dropOpening? ['@', '@'] line with
    | some rest => ([NetworkSwitch.exception], rest)
    | none => ([], line)
  let (text, optionText) := cutOptions rest
  let o ← match optionText with
    | some optionText => RuleOptions.ofText idna (!exception.isEmpty) optionText
    | none => pure {}
  match regexSource? text with
  | some source =>
    match regex (String.ofList source) o.matchCase with
    | some reason => throw (.invalidRegex reason)
    | none => return assemble o (exception ++ [.regex]) source
  | none =>
    let anchored := cutAnchors text
    if anchored.pattern.isEmpty && optionText.isNone then throw .empty
    let hostAnchor := anchored.switches.contains .hostAnchor
    let pattern ← storedPattern idna hostAnchor o.matchCase anchored.pattern
    return assemble o (exception ++ anchored.switches) pattern

end NetworkRule

/-- The network filter of a line without blanks around it; the line itself is kept on demand. -/
def NetworkFilter.ofLine (idna : ToAscii) (regex : RegexCheck) (keepLine : Bool) (line : String) :
    Except NetworkError NetworkFilter := do
  if line.isEmpty then throw .empty
  let filter ← match ← NetworkRule.hostsDomain? idna line.toList with
    | some domain => pure (NetworkRule.blockDomain domain)
    | none => NetworkRule.readBody idna regex line.toList
  return { filter with rawLine := if keepLine then some line else none }

end Blocklist
