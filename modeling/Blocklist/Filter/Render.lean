import Blocklist.Filter.Cosmetic
import Blocklist.Filter.Network
import Blocklist.Text.Hexadecimal
/-!
# Filters — filters as text

Filters are written down close to the syntax that they are read from.
-/

namespace Blocklist

namespace NetworkFilter

/-- The domains of a list with bars between. -/
def barred (list : HostList) : String :=
  list.text.map fun c => if c == ',' then '|' else c

/-- The options that differ from a filter without options, in a fixed order. -/
def renderOptions (f : NetworkFilter) : List String :=
  let value := f.value.getD ""
  (if f.mask.types = TypeSet.full then []
    else ["types=" ++ Text.hexadecimal 4 f.mask.types.word.toNat])
    ++ (if f.mask.has .firstParty then [] else ["third-party"])
    ++ (if f.mask.has .thirdParty then [] else ["first-party"])
    ++ (if f.mask.has .matchCase then ["match-case"] else [])
    ++ (f.domains.map fun list => "domain=" ++ barred list).toList
    ++ (f.denyallow.map fun list => "denyallow=" ++ barred list).toList
    ++ (if f.mask.has .csp then ["csp=" ++ value] else [])
    ++ (if f.mask.has .redirect then ["redirect=" ++ value] else [])
    ++ (if f.mask.has .redirectRule then ["redirect-rule=" ++ value] else [])
    ++ (if f.mask.has .badfilter then ["badfilter"] else [])

/-- A filter as text: its marks and its pattern, and its options after a `$`. -/
def render (f : NetworkFilter) : String :=
  let opening :=
    if f.mask.has .hostAnchor then "||" else if f.mask.has .leftAnchor then "|" else ""
  let body := if f.mask.has .regex then "/" ++ f.pattern ++ "/" else f.pattern
  let options := f.renderOptions
  (if f.mask.has .exception then "@@" else "") ++ opening ++ body
    ++ (if f.mask.has .rightAnchor then "|" else "")
    ++ (if options.isEmpty then "" else "$" ++ String.intercalate "," options)

end NetworkFilter

namespace CosmeticFilter

/-- A filter as text: its hosts, a marker and its selector. -/
def render (f : CosmeticFilter) : String :=
  let body := match f.action with
    | .inject => "script:inject(" ++ f.selector ++ ")"
    | .block => "script:contains(" ++ f.selector ++ ")"
    | .hide => f.selector
  (f.hostnames.map HostList.text).getD "" ++ (if f.mask.has .unhide then "#@#" else "##") ++ body

end CosmeticFilter

end Blocklist
