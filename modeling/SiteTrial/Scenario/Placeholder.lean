import SiteTrial.Scenario.TestData
import SiteTrial.Text.Word
import SiteTrial.Draws
/-!
# Placeholders

A value of a fill step may hold placeholders for test data: a dollar sign and a token of word
characters and points in braces.

* `Piece`, `pieces` : a value as single characters and placeholders, read from the left;
* `Piece.written` : a piece as it stands in the value;
* `fillIn` : the value with test data for placeholders. The two tokens for an account draw a user
  each time; all other tokens are paths, and a path that leads to no text leaves the placeholder.
-/

namespace SiteTrial

/-- A part of a value. -/
inductive Piece where
  | plain (c : Char)
  | placeholder (token : List Char)
deriving Repr, DecidableEq

def Piece.written : Piece → List Char
  | .plain c => [c]
  | .placeholder token => '$' :: '\x7b' :: token ++ ['\x7d']

/-- A character of a token. -/
def isTokenPart (c : Char) : Bool := Text.isWord c || c == '.'

/-- The token of a placeholder that stands in front, and what stands behind it. -/
def placeholder? (cs : List Char) : Option (List Char × List Char) :=
  if cs.take 2 = ['$', '\x7b'] then
    let token := (cs.drop 2).takeWhile isTokenPart
    match (cs.drop 2).dropWhile isTokenPart with
    | '\x7d' :: rest => if token.isEmpty then none else some (token, rest)
    | _ => none
  else none

theorem length_dropWhile_le {α : Type} (p : α → Bool) (l : List α) :
    (l.dropWhile p).length ≤ l.length := by
  induction l with
  | nil => simp
  | cons a l ih =>
    simp only [List.dropWhile_cons]
    split
    · exact Nat.le_succ_of_le ih
    · exact Nat.le_refl _

/-- What stands behind a placeholder is shorter than the whole. -/
theorem length_of_placeholder? {cs token rest : List Char}
    (h : placeholder? cs = some (token, rest)) : rest.length < cs.length := by
  unfold placeholder? at h
  split at h
  · rename_i hopen
    have hlength : 2 ≤ cs.length := by
      have := congrArg List.length hopen
      simp only [List.length_take, List.length_cons, List.length_nil] at this
      omega
    dsimp only at h
    split at h
    · rename_i tail hclose
      split at h
      · exact absurd h (by simp)
      · obtain ⟨-, rfl⟩ := Prod.mk.inj (Option.some.inj h)
        have hle := length_dropWhile_le isTokenPart (cs.drop 2)
        rw [hclose] at hle
        simp only [List.length_cons, List.length_drop] at hle
        omega
    · exact absurd h (by simp)
  · exact absurd h (by simp)

def pieces (cs : List Char) : List Piece :=
  match _h : placeholder? cs with
  | some (token, rest) => .placeholder token :: pieces rest
  | none =>
    match cs with
    | [] => []
    | c :: rest => .plain c :: pieces rest
termination_by cs.length
decreasing_by
  · exact length_of_placeholder? _h
  · simp

/-- A value with test data for its placeholders. -/
structure Filled where
  text : List Char
  /-- The source of random choices afterwards. -/
  draws : Draws
  /-- The placeholders that were left, the first one first. -/
  unresolved : List (List Char)

/-- The user that the next draw picks. -/
def TestData.draw (t : TestData) (d : Draws) : Credentials :=
  t.pick (d.below t.users.length).toNat

/-- The text for one piece. -/
def Piece.fill (t : TestData) (d : Draws) : Piece → Filled
  | .plain c => ⟨[c], d, []⟩
  | .placeholder token =>
    if token = "username".toList then ⟨(t.draw d).username.toList, d.next, []⟩
    else if token = "password".toList then ⟨(t.draw d).password.toList, d.next, []⟩
    else match t.lookup (String.ofList token) with
      | .text s => ⟨s.toList, d, []⟩
      | _ => ⟨(Piece.placeholder token).written, d, [(Piece.placeholder token).written]⟩

/-- The text for pieces one after another. -/
def fillPieces (t : TestData) (d : Draws) : List Piece → Filled
  | [] => ⟨[], d, []⟩
  | p :: ps =>
    let first := p.fill t d
    let rest := fillPieces t first.draws ps
    ⟨first.text ++ rest.text, rest.draws, first.unresolved ++ rest.unresolved⟩

/-- Whether something begins like a placeholder. -/
def hasOpening : List Char → Bool
  | '$' :: '\x7b' :: _ => true
  | _ :: cs => hasOpening cs
  | [] => false

/-- A value in which nothing begins like a placeholder is left alone. -/
def fillIn (t : TestData) (d : Draws) (value : String) : Filled :=
  if hasOpening value.toList then fillPieces t d (pieces value.toList)
  else ⟨value.toList, d, []⟩

end SiteTrial
