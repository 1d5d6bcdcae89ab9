namespace UrlRouter.Regex

def isMeta (c : Char) : Bool :=
  "\\.+*?()|[]\x7b\x7d^$#&-~".toList.contains c

def escapeChar (c : Char) : List Char := if isMeta c then ['\\', c] else [c]

def escape (cs : List Char) : List Char := cs.flatMap escapeChar

end UrlRouter.Regex
