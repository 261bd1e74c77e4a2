import SiteTrial.Demo.Page
import SiteTrial.Config.Basic
import SiteTrial.Text.Percent
import SiteTrial.Value.Basic
import SiteTrial.Table
/-!
# The demonstration site

A site with two variants to compare; both serve the same, the candidate sooner.

* `delay?` : how long a variant takes to answer;
* `Resource`, `locate?` : what is served, and where;
* `Query`, `Answer` : what is asked and what is answered;
* `serve` : the answer of the site.
-/

namespace SiteTrial.Demo

/-- How many seconds a variant takes to answer. -/
def delayOf : Side → Float
  | .baseline => 0.12
  | .candidate => 0.04

/-- How many seconds the variant of a name takes to answer, if there is one. -/
def delay? (variant : String) : Option Float :=
  (Side.all.find? fun side => side.key = variant).map delayOf

/-- What every variant serves. -/
inductive Resource where
  | login
  | dashboard
  | items
  | account
  | figures
deriving Repr, DecidableEq

namespace Resource

/-- Everything that is served. -/
def all : List Resource := [.login, .dashboard, .items, .account, .figures]

/-- The names along the path behind the variant. -/
def names : Resource → List String
  | .login => ["login"]
  | .dashboard => ["dashboard"]
  | .items => ["api", "data"]
  | .account => ["api", "user"]
  | .figures => ["api", "dashboard"]

/-- What can be done with a resource. -/
def methods : Resource → List String
  | .login => ["GET", "POST"]
  | _ => ["GET"]

end Resource

/-- The variant and the resource of a path; one line end behind it does not count. -/
def locate? (path : String) : Option (String × Resource) :=
  let path := if path.endsWith "\n" then String.ofList path.toList.dropLast else path
  match path.splitOn "/" with
  | "" :: variant :: names =>
    if variant.isEmpty then none
    else (Resource.all.find? fun r => r.names = names).map fun r => (variant, r)
  | _ => none

/-- What is asked of the site. -/
structure Query where
  method : String
  /-- The path, without escapes. -/
  path : String
  /-- What stands behind the question mark, if there is one. -/
  query : Option String := none
  form : Table String := []

namespace Query

/-- The names along a path without those that mean the same place or the one above. -/
def settle (names : List String) : List String :=
  names.foldl (fun taken name =>
    if name = "." then taken
    else if name = ".." then (if taken = [] ∨ taken = [""] then taken else taken.dropLast)
    else taken ++ [name]) []

/-- The path of an address, which begins with one slash; a name of another site does not count. -/
def pathOf (address : List Char) : List Char :=
  let path := address.takeWhile (· ≠ '?')
  let path := if path.take 2 = ['/', '/'] then (path.drop 2).dropWhile (· ≠ '/') else path
  '/' :: path.dropWhile (· = '/')

def ofAddress (method address : String) (form : Table String) : Query :=
  let target := address.toList.takeWhile (· ≠ '#')
  let path := String.ofList (pathOf target)
  let query := target.dropWhile (· ≠ '?')
  { method := String.ofList (method.toList.map Char.toUpper)
    path := Text.percentDecode ("/".intercalate (settle (path.splitOn "/")))
    query := if query.length ≤ 1 then none else some (String.ofList (query.drop 1))
    form := form }

/-- The path with a slash more at its end, or without those that are there. -/
def otherPath (path : String) : String :=
  if path.endsWith "/" then String.ofList (path.toList.reverse.dropWhile (· = '/')).reverse
  else path ++ "/"

/-- Whether a field of the form is filled in. -/
def hasField (q : Query) (name : String) : Bool := (q.form.get? name).any fun v => !v.isEmpty

end Query

/-- What an answer holds. -/
inductive Body where
  | nothing
  | page (text : String)
  | document (v : Value)

structure Answer where
  status : Nat
  /-- Where to go instead. -/
  location : Option String := none
  body : Body := .nothing
  /-- The seconds that the site waits before it answers. -/
  delays : List Float := []

namespace Answer

def refusal (status : Nat) (detail : String) : Answer :=
  { status := status, body := .document (.record [("detail", .text detail)]) }

def document (fields : List (String × Value)) : Answer :=
  { status := 200, body := .document (.record fields) }

def page (text : String) : Answer := { status := 200, body := .page text }

end Answer

/-- An item of the list that the site serves. -/
def item (n : Int) : Value := .record [("id", .int n), ("value", .int (10 * n))]

/-- The answer to somebody who signs in. -/
def signIn (variant : String) (q : Query) : Answer :=
  if q.hasField "username" && q.hasField "password" then
    { status := 303, location := some ("/" ++ variant ++ "/dashboard") }
  else .refusal 401 "missing credentials"

/-- What a resource of a variant holds. -/
def content (variant : String) (q : Query) : Resource → Answer
  | .login => if q.method = "POST" then signIn variant q else .page (loginPage variant)
  | .dashboard => .page (dashboardPage variant)
  | .items => .document [("items", .list ([1, 2, 3, 4, 5].map item))]
  | .account => .document [("username", .text "testuser@example.com"), ("variant", .text variant)]
  | .figures => .document [("users", .int 42), ("variant", .text variant)]

/-- The answer of a resource of a variant, if there is such a variant. -/
def answerOf (variant : String) (r : Resource) (q : Query) : Answer :=
  if !r.methods.contains q.method then .refusal 405 "Method Not Allowed"
  else match delay? variant with
    | none => .refusal 404 ("unknown variant: " ++ variant)
    | some seconds => { content variant q r with delays := [seconds] }

/-- Characters that stand in an address as they are. -/
def isAddressPart (c : Char) : Bool := c.isAlphanum || "_.-~:/%#?=@[]!$&'()*+,;".toList.contains c

def addressOf (origin path : String) (query : Option String) : String :=
  Text.percentEncode isAddressPart (origin ++ path ++ (query.elim "" ("?" ++ ·)))

/-- The answer where nothing is served: elsewhere, if a slash at the end is all that is wrong. -/
def astray (origin : String) (q : Query) : Answer :=
  let path := Query.otherPath q.path
  if q.path != "/" && (locate? path).isSome then
    { status := 307, location := some (addressOf origin path q.query) }
  else .refusal 404 "Not Found"

/-- The answer of the site, which stands at an origin; a question for the head alone has no body. -/
def serve (origin : String) (q : Query) : Answer :=
  let answer := match locate? q.path with
    | some (variant, r) => answerOf variant r q
    | none => astray origin q
  if q.method = "HEAD" then { answer with body := .nothing } else answer

end SiteTrial.Demo
