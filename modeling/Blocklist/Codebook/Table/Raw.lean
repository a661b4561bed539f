/-!
# Codebooks — the table for hosts, values and source lines

Longest entries first, so the first entry that fits is the longest.
-/

namespace Blocklist

namespace Codebook

/-- Frequent parts of hosts, option values and source lines. -/
def lines : List String := [
  ",redirect-rule=noopjs,domain", "googleapis.com/js/sdkloader/", "googlesyndication.com/pagead",
  "*$script,3p,denyallow=", "/wp-content/plugins/", "/wp-content/uploads/", ".com^$third-party",
  "administratormail", ".cloudfront.net^", ".zooplusmail-aws", ",redirect-rule=",
  "$script,domain=", ",redirect=noop", "|downdetector.", "xmlhttprequest", ".actonservice",
  ".net.zooplus.", "/^https?:\\/\\/", "^$third-party", "a-zA-Z0-9]\x7b", "doubleclick",
  "subdocument", "third-party", "cloudflare", "marketing.", "analytics", "/assets/", "metrics.",
  "tracking", ".zoossl", "$script", "captcha", "collect", "domain=", "imasdk.", ".co.uk", "$ghide",
  "cookie", "google", "script", ".com^", ".xyz^", "count", "frame", "image", "media", "track",
  "video", ".com", ".gif", ".net", ".php", "/js/", "$xhr", "html", "stat", "www.", ",1p", ".de",
  ".io", ".jp", ".js", ".ru", "$3p", "aff", "cdn", "new", "pro", "web", ".b", ".c", ".f", ".m",
  ".n", ".p", ".s", ".t", "@@", "*/", "/*", "/b", "/p", "||", "|~", "a-", "ab", "ac", "ad", "af",
  "ag", "ak", "al", "am", "an", "ap", "ar", "as", "at", "au", "av", "aw", "ay", "az", "be", "bo",
  "br", "ce", "ch", "ck", "cl", "de", "di", "do", "dr", "e-", "e^", "eb", "ec", "ed", "el", "em",
  "en", "ep", "er", "es", "et", "ev", "ex", "fa", "fo", "fr", "ge", "go", "gr", "he", "ho", "ib",
  "ic", "id", "ie", "ig", "ik", "il", "im", "in", "io", "ip", "ir", "is", "it", "iv", "ix", "iz",
  "js", "le", "li", "lo", "ly", "ma", "mo", "mp", "my", "no", "ol", "om", "on", "oo", "op", "or",
  "ot", "ow", "pl", "po", "pr", "qu", "re", "ro", "s-", "s/", "sc", "se", "sh", "si", "so", "sp",
  "ss", "st", "t-", "te", "th", "ti", "to", "tr", "ts", "ub", "ud", "ug", "ul", "um", "un", "up",
  "ur", "us", "ut", "ve", "_", "-", ",", "?", ".", "*", "/", "\\", "^", "=", "|", "~", "$", "0",
  "1", "2", "3", "4", "5", "6", "7", "8", "9", "a", "b", "c", "d", "e", "f", "g", "h", "i", "j",
  "k", "l", "m", "n", "o", "p", "q", "r", "s", "t", "u", "v", "w", "x", "y", "z"]

end Codebook

end Blocklist
