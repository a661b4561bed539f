import Blocklist.Idna.Label
/-!
# Internationalised names — the ASCII form of a host name

A host name is mapped, normalised and cut at its dots; each label is
checked and encoded. Dots, hyphens and ASCII characters of any kind pass,
and neither labels nor names have a least or a greatest length.
-/

namespace Blocklist

namespace Idna

/-- One way to put names into ASCII: the form of a name, `none` where it has none. -/
def toAscii? (name : List Char) : Option (List Char) := do
  let mapped ← mapChars? name
  let labels ← ((Unicode.normalForm mapped).splitOn '.').mapM readLabel?
  if labels.any hasRightToLeft && !labels.all directionAllowed then none
  else pure (Text.lower (['.'].intercalate (labels.map encodeLabel)))

end Idna

end Blocklist
