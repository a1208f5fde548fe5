import BannerMatch.Base64
import BannerMatch.Text.Utf8

/-!
# Response payloads

A banner can come with the response of the service, in Base64. The searchable text is the banner,
followed by a line feed and the decoded response if there is one that can be decoded.
-/

namespace BannerMatch.Payload

/-- ASCII white space around a payload. -/
def isAsciiBlank (b : UInt8) : Bool :=
  b == 0x20 || b == 0x09 || b == 0x0A || b == 0x0C || b == 0x0D

/-- Drops ASCII white space at both ends. -/
def trim (bytes : List UInt8) : List UInt8 :=
  ((bytes.dropWhile isAsciiBlank).reverse.dropWhile isAsciiBlank).reverse

/-- The text of a response: nothing if it is blank or not an encoding. -/
def decode? (response : List UInt8) : Option (List Char) :=
  let body := trim response
  if body.isEmpty then none else (Base64.decode? body).map Text.decode

/-- The text to search in. -/
def searchable (banner : List Char) (response : Option (List UInt8)) : List Char :=
  match response.bind decode? with
  | some body => banner ++ '\n' :: body
  | none => banner

end BannerMatch.Payload
