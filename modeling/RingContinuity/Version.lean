/-!
# Version

The version of the library.
-/

namespace RingContinuity

def version : String := "0.1.0"

end RingContinuity
