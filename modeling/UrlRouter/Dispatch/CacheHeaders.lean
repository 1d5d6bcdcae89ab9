import UrlRouter.Dispatch.Cache
import UrlRouter.Http.Date
import UrlRouter.Http.Response

namespace UrlRouter

def Instant.dateTime? (t : Instant) : Option DateTime :=
  DateTime.ofTimestamp? (t.nanos / 1000000000 : Nat)

def Duration.capped (ttl : Duration) : Duration := ⟨min ttl.nanos RouteOptions.maxCache.nanos⟩

def expiresText (now : Instant) (ttl : Duration) : String :=
  let moment (t : Instant) := t.dateTime?.map DateTime.httpText
  ((moment ⟨now.nanos + ttl.nanos⟩).or (moment now)).getD ""

def cacheHeaders (now : Instant) (ttl : Duration) : List (String × String) :=
  let ttl := ttl.capped
  [("cache-control", "public, max-age=" ++ String.ofList (natText ttl.seconds)),
    ("expires", expiresText now ttl),
    ("pragma", "cache"),
    ("vary", "Accept-Encoding")]

def Response.withCacheHeaders (r : Response) (now : Instant) (ttl : Duration) : Response :=
  r.withHeaders ((cacheHeaders now ttl).foldl (fun h f => h.insert f.1 f.2) r.headers)

end UrlRouter
