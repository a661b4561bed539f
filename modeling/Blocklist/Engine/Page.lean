import Blocklist.Engine.Basic
import Blocklist.Host.Domain
/-!
# Engine — what is done to a page

The cosmetic filters for a page's host, and those for every host of which
the page shows a token. An exception takes away every filter with its
selector and its action.
-/

namespace Blocklist

/-- What is done to a page. -/
structure PageActions where
  /-- Selectors of what is hidden. -/
  hide : List String
  /-- Scriptlets that are injected. -/
  inject : List String
  /-- Parts of the inline scripts that are blocked. -/
  block : List String
  deriving DecidableEq, Repr

namespace Engine

/-- What a cosmetic filter amounts to: its action and its selector. -/
def effect (f : CosmeticFilter) : CosmeticAction × String := (f.action, f.selector)

/-- The cosmetic filters that are for a page, in order. -/
def pageFilters (e : Engine) (host : List Char) (domTokens : List String) :
    List CosmeticFilter :=
  let hosts := (Host.suffixes host).map fun host => hashText (String.ofList host)
  let found := e.indexes.byHost.collect hosts
    ++ e.indexes.generic.collect (domTokens.map hashText)
  ((ascending Nat.ble found).filterMap (e.cosmetic[·]?)).filter (·.admits host)

/-- The effects of some filters, each once, without those that an exception takes away. -/
def effects (filters : List CosmeticFilter) : List (CosmeticAction × String) :=
  let undone := (filters.filter (·.mask.has .unhide)).map effect
  let done := (filters.filter (!·.mask.has .unhide)).map effect
  (done.filter (!undone.contains ·)).eraseDups

/-- The selectors of the effects with one action. -/
def selectorsOf (action : CosmeticAction) (effects : List (CosmeticAction × String)) :
    List String :=
  (effects.filter (·.1 == action)).map Prod.snd

/-- What is done to a page of a host that shows these class names, ids and tag names. -/
def page (e : Engine) (host : String) (domTokens : List String) : PageActions :=
  let done := effects (e.pageFilters (Text.lower host.toList) domTokens)
  ⟨selectorsOf .hide done, selectorsOf .inject done, selectorsOf .block done⟩

end Engine

end Blocklist
