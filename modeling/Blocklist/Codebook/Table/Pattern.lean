/-!
# Codebooks — the table for network patterns

Longest entries first, so the first entry that fits is the longest.
-/

namespace Blocklist

namespace Codebook

/-- Frequent parts of network filter patterns. -/
def patterns : List String := [
  ":style(width:1px!important;height:1px!important;min-width:1px!important;min-height:1px!important;margin:0!important;padding:0!important;overflow:hidden!important;opacity:0!important)",
  "\\/[a-d][-\\.\\/_A-Za-z][DHWXm][-\\.\\/_A-Za-z][59FVZ][-\\.\\/_A-Za-z][6swyz][-\\.\\/_A-Za-z][-\\/_0-9a-zA-Z][-\\.\\/_A-Za-z][-\\/_0-9a-zA-Z]\x7b22,162\x7d$/",
  "/homad-global-configs.schneevonmorgen.com/global_config",
  "[\\/][\\/a-zA-Z0-9]\x7b3,\x7d\\/[a-zA-Z0-9]\x7b6,\x7d\\/.*/",
  "\\.com[\\/]\x7b1,\x7d.*[a-zA-Z0-9]\x7b", "/pagead/js/adsbygoogle.js",
  "/^https?:\\/\\/(.+?\\.)?", "/js/sdkloader/ima3.js", "/sites/default/files/",
  "/wp-content/plugins/", "/wp-content/uploads/", "/wp-content/themes/", "/detroitchicago/",
  ".*[a-zA-Z0-9]\x7b", "/cdn-cgi/trace", "\\/[a-zA-Z0-9]\x7b", "/^https?:\\/\\/", "/^https:\\/\\",
  "0-9a-zA-Z]", "impression", "[0-9a-f]\x7b", "[0-9a-z]\x7b", "affiliate", "analytics", "/assets/",
  "/images/", "comscore", "template", "tracking", "300x250", "collect", "consent", "content",
  "counter", "default", "sponsor", "visitor", ".aspx?", "/embed", "728x90", "banner", "beacon",
  "client", "cookie", "google", "metric", "module", "prebid", "rivacy", "script", "source",
  "widget", ".cgi?", ".com/", ".html", "/api/", "/file", "/img/", "/java", "/page", "/stat",
  "/uplo", "0x600", "a-z]\x7b", "block", "click", "clude", "count", "event", "frame", "image",
  "manag", "media", "pixel", "track", "type=", "video", ".gif", ".jpg", ".php", ".png", "/jqu",
  "/js/", "/lib", "/web", "bung", "code", "data", "eoip", "gi-b", "http", "ight", "page", "stat",
  "view", ".js", "/ad", "/js", "^*/", "=*&", "468", "aff", "dpr", "ext", "how", "jax", "lay",
  "log", "lug", "new", "sdk", "tag", "und", "web", "-p", ".m", "*/", "*^", "/_", "/?", "/*", "/d",
  "/f", "/g", "/h", "/m", "/n", "/p", "/r", "/u", "/w", "\\/", "00", "a-", "ac", "ad", "ag", "al",
  "am", "an", "ap", "ar", "as", "at", "bo", "ce", "ch", "de", "e_", "e-", "e/", "ec", "ed", "el",
  "em", "en", "er", "et", "g/", "ic", "id", "ig", "il", "im", "in", "is", "it", "la", "le", "li",
  "lo", "no", "ob", "ol", "om", "on", "op", "or", "ot", "p-", "pt", "re", "ro", "s_", "s-", "s?",
  "s/", "sp", "ss", "st", "t/", "ti", "tm", "tr", "ub", "um", "un", "up", "ur", "us", "ut", "ve",
  "_", "-", ",", ":", "?", ".", "(", "[", "\x7d", "*", "/", "\\", "&", "^", "=", "|", "0", "1",
  "2", "3", "4", "5", "6", "7", "8", "9", "a", "b", "c", "d", "e", "f", "g", "h", "i", "j", "k",
  "l", "m", "n", "o", "p", "q", "r", "s", "t", "u", "v", "w", "x", "y", "z"]

end Codebook

end Blocklist
