/-
HTTP requests and responses as far as the node looks at them.
-/
import ChainFeed.Node.ApiError
import ChainFeed.Node.RequestTarget
import ChainFeed.Text.Blank

namespace ChainFeed

/-- a request -/
structure HttpRequest where
  method : String := "GET"
  target : RequestTarget
  /-- names and values -/
  headers : List (String × String) := []
  body : String := ""
deriving DecidableEq, Repr

namespace HttpRequest

/-- the path, without the query -/
def path (r : HttpRequest) : String :=
  r.target.path

/-- whether a header value is readable as text -/
def isVisible (value : String) : Bool :=
  value.toList.all fun c => c = '\t' || (32 ≤ c.toNat && c.toNat < 127)

/-- the value of a header, whose name is given in lower case -/
def rawHeader? (r : HttpRequest) (name : String) : Option String :=
  (r.headers.find? fun (n, _) => n.map Char.toLower = name).map Prod.snd

/-- the value of a header, whose name is given in lower case, if it is readable as text -/
def header? (r : HttpRequest) (name : String) : Option String :=
  (r.rawHeader? name).filter isVisible

end HttpRequest

/-- what a response carries -/
inductive HttpBody where
  | empty
  | json (text : String)
  /-- the exposition of metrics, as lines -/
  | metrics (lines : List String)
deriving DecidableEq, Repr

/-- what the response to HEAD carries in place of that to GET: no content, though metrics keep their media
type -/
def HttpBody.withoutContent : HttpBody → HttpBody
  | metrics _ => metrics []
  | _ => empty

/-- a response -/
structure HttpResponse where
  status : Nat
  /-- the methods that the path allows, where another one was used -/
  allow : Option String := none
  body : HttpBody := .empty
  /-- the id that the request brought along; another one is made up if there is none -/
  requestId : Option String := none
deriving DecidableEq, Repr

namespace HttpResponse

def json (status : Nat) (text : String) : HttpResponse :=
  { status, body := .json text }

def ofError (e : ApiError) : HttpResponse :=
  json e.status e.body

end HttpResponse

/-! ## Media types -/

namespace MediaType

/-- the characters of the names in a media type -/
def isTokenChar (c : Char) : Bool :=
  c.isAlphanum || "!#$%&'*+-.^_`|~".toList.contains c

/-- where a reader of parameters stands -/
inductive Place where
  | beforeName
  | inName
  | beforeValue
  | inValue
  /-- right after an opening quote, where another quote is part of the value -/
  | openQuotes
  | inQuotes
  | afterQuotes
deriving DecidableEq, Repr

/-- whether a character can stand between quotes -/
def isQuotable (c : Char) : Bool :=
  31 < c.toNat && c.toNat ≠ 127

/-- the place after a character, `none` if it cannot stand there -/
def Place.next (p : Place) (c : Char) : Option Place :=
  match p with
  | beforeName => if c = ' ' then some beforeName else if isTokenChar c then some inName else none
  | inName => if isTokenChar c then some inName else if c = '=' then some beforeValue else none
  | beforeValue => if c = '"' then some openQuotes else if isTokenChar c then some inValue else none
  | inValue => if isTokenChar c then some inValue else if c = ';' then some beforeName else none
  | openQuotes => if isQuotable c then some inQuotes else none
  | inQuotes => if c = '"' then some afterQuotes else if isQuotable c then some inQuotes else none
  | afterQuotes => if c = ' ' then some afterQuotes else if c = ';' then some beforeName else none

/-- whether parameters can end at a place; there may be none -/
def Place.isEnd : Place → Bool
  | beforeName | beforeValue | inValue | afterQuotes => true
  | _ => false

/-- whether what follows the first semicolon of a media type is a list of parameters -/
def areParameters (cs : List Char) : Bool :=
  (cs.foldlM Place.next .beforeName).any Place.isEnd

/-- whether a subtype is JSON, or has the suffix that tells so -/
def isJsonSubtype (cs : List Char) : Bool :=
  match cs with
  | [] => false
  | first :: rest =>
    let suffix := rest.reverse.takeWhile (· ≠ '+')
    if rest.contains '+' then
      suffix.reverse = "json".toList || first :: (rest.reverse.drop (suffix.length + 1)).reverse = "json".toList
    else cs = "json".toList

/-- whether a media type is well formed and says that the content is JSON -/
def isJson (s : String) : Bool :=
  let cs := s.toList.map Char.toLower
  let (type, rest) := cs.span isTokenChar
  match rest with
  | '/' :: rest =>
    let (subtype, rest) := rest.span isTokenChar
    type = "application".toList && isJsonSubtype subtype &&
      (match rest with
      | [] => true
      | ';' :: parameters => areParameters parameters
      | _ => false)
  | _ => false

end MediaType

end ChainFeed
