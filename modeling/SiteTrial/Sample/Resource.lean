import SiteTrial.Text.Address
import SiteTrial.Text.Casing
import SiteTrial.Text.Path
import SiteTrial.Failure
/-!
# Kinds of resources

* `ResourceKind` : what the ending of an address says about a resource;
* `ResourceKind.ofAddress` : the kind of the resource at an address.
-/

namespace SiteTrial

inductive ResourceKind where
  | script
  | stylesheet
  | image
  | font
  | other
deriving Repr, DecidableEq

namespace ResourceKind

def word : ResourceKind → String
  | .script => "script"
  | .stylesheet => "stylesheet"
  | .image => "image"
  | .font => "font"
  | .other => "other"

def endings : ResourceKind → List String
  | .script => [".js", ".mjs"]
  | .stylesheet => [".css"]
  | .image => [".png", ".jpg", ".jpeg", ".gif", ".webp", ".svg", ".avif", ".ico"]
  | .font => [".woff", ".woff2", ".ttf", ".otf", ".eot"]
  | .other => []

/-- The kind with an ending, which stands in lower case. -/
def ofEnding (ending : String) : ResourceKind :=
  (([.script, .stylesheet, .image, .font] : List ResourceKind).find?
    fun k => k.endings.contains ending).getD .other

def ofAddress (address : String) : Except Fault ResourceKind := do
  let parts ← Address.ofText address
  return ofEnding (Text.lower (Path.extension (String.ofList parts.path)))

end ResourceKind

end SiteTrial
