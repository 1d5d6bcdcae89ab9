import UrlRouter.Http.Headers
import UrlRouter.Http.Status

namespace UrlRouter

structure Response where
  status : Status
  headers : Headers
  deriving DecidableEq

namespace Response

def new : Response := ⟨.ok, .empty⟩

instance : Inhabited Response := ⟨new⟩

def withStatus (r : Response) (s : Status) : Response := { r with status := s }

def withHeaders (r : Response) (h : Headers) : Response := { r with headers := h }

end Response

end UrlRouter
