/-!
# Texts with halves of pairs of code units

A document can name half of a pair of code units alone, which has a code point and is no character. It
is held as a mark with a character of private use behind it, and a mark that is meant as such is held
twice, so that no two texts are held alike.

* `ofPoint` : the characters that hold a code point;
* `pieces`, `pointOf` : held characters, piece by piece, and the code point of a piece;
* `points` : the code points of a text, `points_flatMap_ofPoint`;
* `held` : how a text of mere characters is held;
* `isWhole`, `whole?` : whether a text is without halves, and then its characters.
-/

namespace SiteTrial.Text

/-- Whether a code unit is the first half of a pair. -/
def isHighHalf (n : Nat) : Bool := 0xD800 ≤ n && n < 0xDC00

/-- Whether a code unit is the second half of a pair. -/
def isLowHalf (n : Nat) : Bool := 0xDC00 ≤ n && n < 0xE000

/-- Whether a code unit is half of a pair. -/
def isHalf (n : Nat) : Bool := isHighHalf n || isLowHalf n

/-- The code point of two halves. -/
def joinHalves (high low : Nat) : Nat := 0x10000 + (high - 0xD800) * 0x400 + (low - 0xDC00)

/-- The character in front of one that is not meant as such. -/
def mark : Char := Char.ofNat 0x10FFFE

/-- How far the character behind the mark lies above the half that it stands for. -/
def shift : Nat := 0x800

def ofPoint (n : Nat) : List Char :=
  if isHalf n then [mark, Char.ofNat (n + shift)]
  else if n = mark.toNat then [mark, mark]
  else [Char.ofNat n]

/-- The characters of a text, those of one code point together. -/
def pieces : List Char → List (List Char)
  | c :: d :: cs => if c = mark then [c, d] :: pieces cs else [c] :: pieces (d :: cs)
  | [c] => [[c]]
  | [] => []

def pointOf : List Char → Nat
  | [_, d] => if d = mark then d.toNat else d.toNat - shift
  | c :: _ => c.toNat
  | [] => 0

def points (cs : List Char) : List Nat := (pieces cs).map pointOf

/-- The halves are the numbers from 0xD800 to 0xDFFF. -/
theorem isHalf_iff (n : Nat) : isHalf n = true ↔ 0xD800 ≤ n ∧ n < 0xE000 := by
  simp only [isHalf, isHighHalf, isLowHalf, Bool.or_eq_true, Bool.and_eq_true, decide_eq_true_eq]
  omega

/-- A code point that is no half is the number of its character. -/
theorem toNat_ofNat {n : Nat} (hpoint : n < 0x110000) (hwhole : ¬ isHalf n = true) :
    (Char.ofNat n).toNat = n := by
  rw [isHalf_iff] at hwhole
  have hvalid : n.isValidChar := by
    simp only [Nat.isValidChar]
    omega
  rw [Char.ofNat, dif_pos hvalid]
  rfl

/-- The character behind the mark is not half of a pair. -/
theorem toNat_ofNat_shift {n : Nat} (h : isHalf n = true) :
    (Char.ofNat (n + shift)).toNat = n + shift := by
  rw [isHalf_iff] at h
  apply toNat_ofNat
  · simp only [shift]; omega
  · rw [isHalf_iff]; simp only [shift]; omega

/-- The characters of a code point are a piece. -/
theorem pieces_ofPoint_append {n : Nat} (h : n < 0x110000) (cs : List Char) :
    pieces (ofPoint n ++ cs) = ofPoint n :: pieces cs := by
  unfold ofPoint
  split
  · simp [pieces]
  · split
    · simp [pieces]
    · rename_i hwhole hmark
      have hne : Char.ofNat n ≠ mark := fun heq =>
        hmark (by rw [← heq, toNat_ofNat h hwhole])
      cases cs with
      | nil => simp [pieces]
      | cons d ds => simp [pieces, hne]

/-- The code point of a piece is the one that it holds. -/
theorem pointOf_ofPoint {n : Nat} (h : n < 0x110000) : pointOf (ofPoint n) = n := by
  unfold ofPoint
  split
  · rename_i hhalf
    have hshift := toNat_ofNat_shift hhalf
    have hne : Char.ofNat (n + shift) ≠ mark := by
      intro heq
      rw [heq] at hshift
      have hmark : mark.toNat = 0x10FFFE := rfl
      rw [isHalf_iff] at hhalf
      simp only [shift] at hshift
      omega
    simp [pointOf, hne, hshift]
  · split
    · rename_i hmark
      simp [pointOf, hmark]
    · rename_i hwhole _
      simpa [pointOf] using toNat_ofNat h hwhole

/-- What is held can be read back. -/
theorem points_flatMap_ofPoint (ns : List Nat) (h : ∀ n ∈ ns, n < 0x110000) :
    points (ns.flatMap ofPoint) = ns := by
  induction ns with
  | nil => rfl
  | cons n ns ih =>
    have hn : n < 0x110000 := h n (by simp)
    have hns : points (ns.flatMap ofPoint) = ns := ih fun m hm => h m (by simp [hm])
    simp only [points] at hns
    simp [points, pieces_ofPoint_append hn, pointOf_ofPoint hn, hns]

def held (s : String) : String := String.ofList (s.toList.flatMap fun c => ofPoint c.toNat)

/-- Whether a text holds no halves. -/
def isWhole (s : String) : Bool := !(points s.toList).any isHalf

def whole? (s : String) : Option String :=
  if isWhole s then some (String.ofList ((points s.toList).map Char.ofNat)) else none

end SiteTrial.Text
