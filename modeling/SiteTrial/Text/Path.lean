/-!
# Paths

* `parent` : what stands before the last name of a path;
* `extension` : the ending of the last name from its last point on, points in front left out;
* `joined` : a name inside a directory;
* `isAbsolute`, `names` : whether a path begins at the root, and the names along it;
* `stages` : the paths on the way to a path, itself at the end.
-/

namespace SiteTrial.Path

/-- What stands behind the last slash, and what stands up to it, slash included. -/
def splitLast (cs : List Char) : List Char × List Char :=
  let back := cs.reverse
  ((back.dropWhile (· ≠ '/')).reverse, (back.takeWhile (· ≠ '/')).reverse)

def parent (path : String) : String :=
  let head := (splitLast path.toList).1
  let bare := (head.reverse.dropWhile (· = '/')).reverse
  String.ofList (if bare.isEmpty then head else bare)

def extension (path : String) : String :=
  let name := (splitLast path.toList).2
  let back := name.reverse
  let ending := back.takeWhile (· ≠ '.')
  let front := back.dropWhile (· ≠ '.')
  if (front.drop 1).all (· = '.') then ""
  else String.ofList ('.' :: ending.reverse)

def joined (directory name : String) : String :=
  if directory.isEmpty || directory.endsWith "/" then directory ++ name
  else directory ++ "/" ++ name

def isAbsolute (path : String) : Bool := path.toList.head? = some '/'

/-- Whether a path can only mean a directory. -/
def endsOpen (path : String) : Bool := path.toList.getLast? = some '/'

/-- The names along a path of which some characters of a name lie behind, the last one first. -/
def namesFrom (passed : List Char) : List Char → List String
  | [] => if passed.isEmpty then [] else [String.ofList passed.reverse]
  | '/' :: cs =>
    if passed.isEmpty then namesFrom [] cs else String.ofList passed.reverse :: namesFrom [] cs
  | c :: cs => namesFrom (c :: passed) cs

/-- The names along a path, first one first. -/
def names (path : String) : List String := namesFrom [] path.toList

/-- The paths on the way to a path, of which some characters lie behind. -/
def stagesFrom (passed : List Char) : List Char → List String
  | [] => if passed.isEmpty then [] else [String.ofList passed.reverse]
  | '/' :: cs =>
    if passed.isEmpty || passed.head? = some '/' then stagesFrom ('/' :: passed) cs
    else String.ofList passed.reverse :: stagesFrom ('/' :: passed) cs
  | c :: cs => stagesFrom (c :: passed) cs

def stages (path : String) : List String := stagesFrom [] path.toList

end SiteTrial.Path
