/-!
# Requests for window pictures
-/

namespace TaskSwitcher

/-- The number of a request for the picture of a window. -/
structure ThumbnailRequest where
  number : UInt64
deriving DecidableEq

/-- The spelling of a request in texts. -/
def ThumbnailRequest.text (request : ThumbnailRequest) : String :=
  "thumb-" ++ toString request.number.toNat

end TaskSwitcher
