import Blocklist.Filter.Cosmetic
import Blocklist.Host.Normal
import Blocklist.Rule.Error
/-!
# Rules — lines of cosmetic filters

Hosts, a marker, and a selector: `hosts##selector`, with `#@#` for an
exception. In place of a selector stands `script:inject(…)`, `+js(…)` or
`script:contains(…)`.
-/

namespace Blocklist

namespace CosmeticRule

/-! ## Marker and hosts -/

/-- A line around its marker. -/
structure Marked where
  /-- What stands before the marker. -/
  hosts : List Char
  /-- Whether the marker is that of an exception. -/
  unhide : Bool
  /-- What stands after it. -/
  body : List Char
  deriving DecidableEq, Repr

/-- Cuts a line at its marker, which begins at the first `#`. -/
def cutMarker (line : List Char) : Except CosmeticError Marked :=
  match Text.cut? '#' line with
  | none => .error .missingMarker
  | some (hosts, after) =>
    match after with
    | '#' :: body => .ok ⟨hosts, false, body⟩
    | '@' :: '#' :: body => .ok ⟨hosts, true, body⟩
    | '@' :: _ | '?' :: _ | '$' :: _ | '%' :: _ => .error .unsupportedMarker
    | _ => .error .missingMarker

/-- A host in its stored form, with the `~` of a negated one; none where the host is empty. -/
def storedHost? (idna : ToAscii) (text : List Char) :
    Except CosmeticError (Option (List Char)) :=
  let text := Text.trim text
  let (mark, host) := match Text.dropOpening? ['~'] text with
    | some host => (['~'], host)
    | none => ([], text)
  if host.isEmpty then .ok none
  else
    match Host.normal? idna host with
    | some host => .ok (some (mark ++ host))
    | none => .error .punycode

/-- The hosts before a marker; none where nothing is written there. -/
def hostList? (idna : ToAscii) (text : List Char) : Except CosmeticError (Option HostList) := do
  let entries ← (text.splitOn ',').mapM (storedHost? idna)
  let entries := entries.filterMap fun entry => entry
  return if entries.isEmpty then none else some ⟨String.ofList ([','].intercalate entries)⟩

/-! ## Selector -/

/-- What follows a marker, read. -/
structure Body where
  /-- The switches that its form turns on. -/
  switches : List CosmeticSwitch
  /-- The selector, the scriptlet or the part of a script. -/
  selector : List Char
  deriving DecidableEq, Repr

/-- The text without its closing parenthesis. -/
def unclose (text : List Char) : Except CosmeticError (List Char) :=
  match Text.dropClosing? [')'] text with
  | some text => .ok text
  | none => .error .unclosedScript

/-- The text without a pair of slashes around it. -/
def unslash (text : List Char) : List Char :=
  ((Text.dropOpening? ['/'] text).bind (Text.dropClosing? ['/'])).getD text

/-- Reads what follows a marker. -/
def readBody (text : List Char) : Except CosmeticError Body := do
  match Text.dropOpening? "script:".toList text with
  | some call =>
    let call ← unclose call
    match Text.dropOpening? "inject(".toList call with
    | some inner => return ⟨[.scriptInject], inner⟩
    | none =>
      match Text.dropOpening? "contains(".toList call with
      | some inner => return ⟨[.scriptBlock], unslash inner⟩
      | none => return ⟨[], call⟩
  | none =>
    match Text.dropOpening? "+js(".toList text with
    | some call => return ⟨[.scriptInject], ← unclose call⟩
    | none => return ⟨[], text⟩

/-- Whether a selector holds a marker of its own. -/
def hasMarker (selector : List Char) : Bool :=
  Text.contains ['#', '#'] selector || Text.contains ['#', '@', '#'] selector

end CosmeticRule

open CosmeticRule in
/-- The cosmetic filter of a line without blanks around it; the line itself is kept on demand. -/
def CosmeticFilter.ofLine (idna : ToAscii) (keepLine : Bool) (line : String) :
    Except CosmeticError CosmeticFilter := do
  let marked ← cutMarker line.toList
  let hosts ← hostList? idna marked.hosts
  let body ← readBody marked.body
  if body.selector.isEmpty then throw .emptySelector
  if body.selector.getLast? == some '\x7d' then throw .styleBlock
  if hasMarker body.selector then throw .nestedMarker
  if marked.unhide && hosts.isNone then throw .exceptionWithoutHosts
  return {
    mask := .make ((if marked.unhide then [.unhide] else []) ++ body.switches)
    selector := String.ofList body.selector
    hostnames := hosts
    rawLine := if keepLine then some line else none }

end Blocklist
