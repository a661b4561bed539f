import Blocklist.Engine.Basic
import Blocklist.Rule.List
import Blocklist.Rule.Tidy
/-!
# Engine — from a list to an engine
-/

namespace Blocklist

/-- The engine of a list: read, tidied and filed. -/
def Engine.compile (idna : ToAscii) (regex : RegexCheck) (options : ListOptions) (text : String) :
    Engine :=
  let list := RuleList.ofText idna regex options text
  let tidied := tidy list.network list.cosmetic
  .build tidied.network tidied.cosmetic

end Blocklist
