/-!
# Codebooks — the table for selectors

Longest entries first, so the first entry that fits is the longest.
-/

namespace Blocklist

namespace Codebook

/-- Frequent parts of selectors and scriptlets. -/
def selectors : List String := [
  ":style(display:none!important)", "[target=\"_blank\"]", ":-abp-contains(", ":matches-css(",
  ":nth-of-type(", "[data-testid=", "advertisement", ":first-child", "[aria-label=", ":nth-child(",
  ":last-child", "advertising", "placeholder", "adsbygoogle", "leaderboard", ":-abp-has(",
  ":has-text(", "skyscraper", ":remove()", "[class^=\"", "[class*=\"", "sponsored", "container",
  "affiliate", "billboard", "rectangle", ":upward(", "[href^=\"", "[href*=\"", "[onclick",
  "outbrain", ":xpath(", "[src*=\"", "[title=", "wrapper", "sidebar", "content", "section",
  "article", "overlay", "consent", "adsense", "taboola", "partner", "desktop", "[id^=\"",
  "[id*=\"", "[data-", "[style", "[role=", "widget", "banner", "header", "footer", "cookie",
  "notice", "google", "teaser", "native", "bottom", "iframe", "script", "mobile", "square",
  "sticky", ":not(", ":has(", "popup", "modal", "promo", "right", "block", "inner", "outer",
  "aside", "frame", "label", "title", "fixed", "float", "left", "wrap", "area", "slot", "unit",
  "span", "ins.", "body", "html", "link", "text", "item", "list", "main", "page", "post", "view",
  "-ad-", "_ad_", "-ads", "_ads", "dfp", "top", "box", "div", "img", "ad-", "ad_", "ads", "#ad",
  ".ad", " > ", " + ", " ~ ", "Ad", "ad", "> ", "\"]", "']", "=\"", "^=", "*=", "$=", "~=", "|=",
  "\"", "'", "[", "]", "(", ")", ",", ".", "#", ":", "-", "_", " ", ">", "+", "~", "*", "=", "a",
  "b", "c", "d", "e", "f", "g", "h", "i", "j", "k", "l", "m", "n", "o", "p", "r", "s", "t", "u",
  "v", "w", "x", "y", "0", "1", "2", "3"]

end Codebook

end Blocklist
