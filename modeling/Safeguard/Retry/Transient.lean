import Safeguard.Text.Lowercase

/-!
# Passing errors

An error is worth another attempt if its message contains one of the markers of the policy, upper
and lower case being the same. Message and marker are brought to lower case each on its own.
-/

namespace Safeguard

/-- Whether a message contains one of the markers, whatever their case. -/
def isTransient (markers : List String) (message : String) : Bool :=
  let message := (Text.lowercase message).toList
  markers.any fun marker => Text.occursIn (Text.lowercase marker).toList message

end Safeguard
