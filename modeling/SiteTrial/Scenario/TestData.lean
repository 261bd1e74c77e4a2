import SiteTrial.Value.Parts
/-!
# Test data

* `Credentials` : the account of a user;
* `TestData` : nested data and a pool of users, never empty;
* `TestData.ofValue` : the test data of a scenario file;
* `TestData.lookup` : the value at a dotted path.
-/

namespace SiteTrial

structure Credentials where
  username : String
  password : String
  accountType : String := ""
deriving Repr, DecidableEq

/-- Nested data and a pool of users, the first of them apart so that there is always one. -/
structure TestData where
  data : Fields := []
  firstUser : Credentials := ⟨"testuser@example.com", "testpass", ""⟩
  otherUsers : List Credentials := []

namespace TestData

/-- The pool of users. -/
def users (t : TestData) : List Credentials := t.firstUser :: t.otherUsers

/-- The user that a drawn number picks. -/
def pick (t : TestData) (n : Nat) : Credentials :=
  (t.users[n % t.users.length]?).getD t.firstUser

/-- The account that an entry of the pool describes. -/
def userOf (index : Nat) (v : Value) : Except Failure Credentials :=
  match v.fields? with
  | some fs =>
    Except.mapError .fault do
      let username ← (fs.getD "username" (.text "")).toText?
      return { username := username, password := ← (fs.getD "password" (.text "")).toText? }
  | none => .error (.configuration (.userNotAMapping index))

/-- The accounts that the entries of the pool describe, from an index on. -/
def usersOf (index : Nat) : List Value → Except Failure (List Credentials)
  | [] => .ok []
  | v :: vs => do
    let user ← userOf index v
    return user :: (← usersOf (index + 1) vs)

/-- The test data of a scenario file; without users there is a default one. -/
def ofValue (v : Value) : Except Failure TestData := do
  let v := v.orElse (.mapping [])
  let listed ← (v.member "users").mapError .fault
  let entries ← ((listed.orElse (.list [])).walk).mapError .fault
  let data := v.fields?.getD []
  match ← usersOf 0 entries with
  | [] => return { data := data }
  | first :: rest => return { data := data, firstUser := first, otherUsers := rest }

/-- The value that a path of keys leads to. -/
def descend : List String → Value → Value
  | [], v => v
  | key :: keys, v =>
    match v.fields?.bind fun fs => fs.get? key with
    | some v => descend keys v
    | none => .null

/-- The keys of a dotted path. -/
def keysOf (path : String) : List String := (path.toList.splitOn '.').map String.ofList

/-- The value at a dotted path, absent where the path leads nowhere. -/
def lookup (t : TestData) (path : String) : Value := descend (keysOf path) (.mapping t.data)

end TestData

end SiteTrial
