/-!
# Codebooks — the table for content security policies

Longest entries first, so the first entry that fits is the longest.
-/

namespace Blocklist

namespace Codebook

/-- Frequent parts of content security policies. -/
def policies : List String := [
  "sandbox allow-forms allow-same-origin allow-scripts allow-modals allow-orientation-lock allow-pointer-lock allow-presentation allow-top-navigation",
  "script-src 'self' 'unsafe-inline' 'unsafe-eval' data:",
  " *.google.com *.gstatic.com *.googleapis.com", ".com *.google.com *.googletagmanager.com *.",
  "script-src 'self' '*' 'unsafe-inline'", "default-src 'self' 'unsafe-inline'",
  "default-src 'unsafe-inline' 'self'", "script-src 'self' 'unsafe-inline' ",
  "script-src * 'unsafe-inline'", "*.googletagmanager.com *.", ".com *.googleapis.com *.",
  " *.gstatic.com *.google", ".com *.bootstrapcdn.com", ".com *.google-analytics",
  ".com *.gstatic.com *.", "default-src 'self'", "frame-src 'self' *", " *.cloudflare.com",
  "child-src 'none';", "worker-src 'none'", " 'unsafe-inline'", "'unsafe-eval'", "connect-src ",
  "child-src *", "script-src ", "script-src", "style-src ", " *.google", "frame-src", "facebook",
  "https://", ".com *.", ".net *.", "addthis", "captcha", "gstatic", "youtube", " data:", "'self'",
  "disqus", "google", "jquery", " http", "blob:", "media", "ytimg", ".com", ".net", "apis", "n.cc",
  " *.", "age", "cdn", "tag", "tra", "vic", " *", "*.", "an", "ch", "de", "er", "es", "fa", "ic",
  "im", "in", "on", "rc", "re", "wi", "wp", " ", "-", ";", ":", ".", "'", "*", "/", "a", "b", "c",
  "d", "e", "f", "g", "h", "i", "j", "k", "l", "m", "n", "o", "p", "q", "r", "s", "t", "u", "v",
  "w", "x", "y"]

end Codebook

end Blocklist
