/-!
# Text — hexadecimal numbers

Reports write masks and fingerprints with a `0x` in front and zeros up to
a fixed width.
-/

namespace Blocklist

namespace Text

/-- The number in lower-case hexadecimal after `0x`, with at least `width` digits. -/
def hexadecimal (width n : Nat) : String :=
  let digits := Nat.toDigits 16 n
  "0x" ++ String.ofList (List.replicate (width - digits.length) '0' ++ digits)

end Text

end Blocklist
