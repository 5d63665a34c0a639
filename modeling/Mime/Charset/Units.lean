import Mime.Text.Octets

/-! What a decoder makes of its octets: characters, and stretches that mean nothing. Strict
decoding fails at such a stretch, the other manner of decoding puts U+FFFD in its place. -/

namespace Mime.Charset

/-- One entry for each character and, as `none`, for each undecodable stretch. -/
abbrev Units := List (Option CodePoint)

namespace Units

def strict? (u : Units) : Option Text := u.mapM id

def replacing (u : Units) : Text := u.map (·.getD .replacement)

end Units

end Mime.Charset
