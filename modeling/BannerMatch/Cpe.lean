import BannerMatch.Text.Ascii
import BannerMatch.Text.Blank

/-!
# Synthesized CPE names

A name `cpe:/a:*:product:version` made from a product and a version, when a rule gives none. Its
parts are trimmed, lower case for ASCII letters, with underscores for white space and without
colons; a missing version is written `*`.
-/

namespace BannerMatch.Cpe

/-- A part of a name. -/
def normalize (cs : List Char) : List Char :=
  ((Text.trim cs).filter fun c => c != ':').map fun c =>
    if Text.isBlank c then '_' else Text.lowerAscii c

/-- The name for a product and a version; without a product there is no name. -/
def synthesize (product version : List Char) : List Char :=
  let p := normalize product
  let v := normalize version
  if p.isEmpty then []
  else "cpe:/a:*:".toList ++ p ++ ':' :: (if v.isEmpty then ['*'] else v)

end BannerMatch.Cpe
