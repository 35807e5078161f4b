import ViewerHost.Text.Dictionary

namespace ViewerHost

/-- The path is the part below the place where the handler is mounted. -/
structure Request where
  path : String
  params : Dictionary String
  user : Option String

structure Response where
  status : Nat
  contentType : String
  body : String
deriving DecidableEq, Repr

namespace Request

def ofPath (path : String) : Request := ⟨path, .empty, none⟩

def param? (r : Request) (key : String) : Option String := r.params.get? key

end Request

namespace Response

def htmlText : String := "text/html; charset=utf-8"

def jsonText : String := "application/json"

def plainText : String := "text/plain; charset=utf-8"

def html (body : String) : Response := ⟨200, htmlText, body⟩

def json (body : String) : Response := ⟨200, jsonText, body⟩

def failure (status : Nat) (reason : String) : Response := ⟨status, plainText, reason⟩

def notFound (path : String) : Response := failure 404 ("Not found: " ++ path)

def isSuccess (r : Response) : Bool := 200 ≤ r.status && r.status < 300

end Response

end ViewerHost
