/-!
# ASCII letters
-/

namespace BannerMatch.Text

/-- Lower case for ASCII letters; other characters stay as they are. -/
def lowerAscii (c : Char) : Char :=
  if 'A' ≤ c ∧ c ≤ 'Z' then Char.ofNat (c.toNat + 32) else c

end BannerMatch.Text
